import DeferredLog.Proofs.Json.Recovery

/-!
# Texts that are cut short

A compact text may be cut anywhere: in a name, in an escape, between two marks, or in a number, where
what is left is a number too. A reader that is given a part of what was written says that the text is
cut short, or has nothing left of it (`Exhausts`). The second happens to numbers only, and then
whoever reads on finds the text cut short: so an object that is not whole is always told as such
(`Gathers.record_cut`), before its settings are looked at.

Every case goes by one split: what is left of two texts in a row is a part of the first, or the first
and a part of the second (`Cut.of_append`).
-/

namespace DeferredLog

namespace Json

/-! ### Parts of a text -/

/-- The text is a beginning of the whole and not all of it. -/
def Cut (front whole : List Char) : Prop :=
  ∃ lost, lost ≠ [] ∧ whole = front ++ lost

theorem cut_of_prefix {front whole : List Char} (h : front <+: whole) (hne : front ≠ whole) :
    Cut front whole := by
  obtain ⟨lost, rfl⟩ := h
  exact ⟨lost, fun hnil ↦ hne (by rw [hnil, List.append_nil]), rfl⟩

theorem not_cut_nil {front : List Char} : ¬ Cut front [] := by
  rintro ⟨lost, hlost, h⟩
  exact hlost (List.append_eq_nil_iff.1 h.symm).2

/-- A part of two texts in a row ends in the first or in the second. -/
theorem Cut.of_append {front first second : List Char} (h : Cut front (first ++ second)) :
    Cut front first ∨ ∃ back, front = first ++ back ∧ Cut back second := by
  obtain ⟨lost, hlost, h⟩ := h
  rcases List.append_eq_append_iff.1 h with ⟨back, rfl, rfl⟩ | ⟨more, rfl, rfl⟩
  · exact .inr ⟨back, rfl, lost, hlost, rfl⟩
  · rcases more with _ | ⟨c, more⟩
    · exact .inr ⟨[], by rw [List.append_nil, List.append_nil], _, hlost, rfl⟩
    · exact .inl ⟨c :: more, List.cons_ne_nil c more, rfl⟩

theorem Cut.of_cons {front whole : List Char} {c : Char} (h : Cut front (c :: whole)) :
    front = [] ∨ ∃ back, front = c :: back ∧ Cut back whole := by
  have hsplit : Cut front ([c] ++ whole) := h
  rcases hsplit.of_append with ⟨lost, hlost, h⟩ | hback
  · rcases List.append_eq_singleton_iff.1 h.symm with ⟨hnil, -⟩ | ⟨-, hnil⟩
    · exact .inl hnil
    · exact absurd hnil hlost
  · exact .inr hback

theorem Cut.mem {front whole : List Char} (h : Cut front whole) {c : Char} (hc : c ∈ front) :
    c ∈ whole := by
  obtain ⟨lost, -, rfl⟩ := h
  exact List.mem_append_left lost hc

theorem Cut.length_lt {front whole : List Char} (h : Cut front whole) :
    front.length < whole.length := by
  obtain ⟨lost, hlost, rfl⟩ := h
  rw [List.length_append]
  exact Nat.lt_add_of_pos_right (List.length_pos_iff.2 hlost)

end Json

/-! ### Words and quoted texts -/

/-- A hexadecimal digit is one byte. -/
theorem Text.utf8Size_of_hexDigit? {c : Char} {n : ℕ} (h : hexDigit? c = some n) :
    c.utf8Size = 1 := by
  have bound {m : Char} (hm : m.toNat ≤ 127) (hc : c ≤ m) : c.toNat ≤ 127 := Nat.le_trans hc hm
  have hascii : c.toNat ≤ 127 := by
    unfold hexDigit? at h
    split at h
    · next hc => exact bound (by decide) hc.2
    · split at h
      · next hc => exact bound (by decide) hc.2
      · split at h
        · next hc => exact bound (by decide) hc.2
        · cases h
  exact Char.utf8Size_eq_one_iff.2 hascii

namespace Json

theorem word_cut {letters front : List Char} (h : Cut front letters) :
    word letters front = .error .truncated := by
  induction letters generalizing front with
  | nil => exact absurd h not_cut_nil
  | cons c letters ih =>
    rcases h.of_cons with rfl | ⟨back, rfl, hback⟩
    · rfl
    · rw [word, if_pos rfl]
      exact ih hback

theorem Quad.utf8Size_eq_one (q : Quad) {c : Char} (h : c ∈ q.chars) : c.utf8Size = 1 := by
  have hnumber := q.hexNumber?_eq
  simp only [Text.hexNumber?, List.foldl_cons, List.foldl_nil, Option.bind_eq_some_iff,
    Option.map_eq_some_iff] at hnumber
  obtain ⟨_, ⟨_, ⟨_, ⟨_, -, _, ha, -⟩, _, hb, -⟩, _, hc, -⟩, _, hd, -⟩ := hnumber
  simp only [chars, List.mem_cons, List.not_mem_nil, or_false] at h
  rcases h with rfl | rfl | rfl | rfl
  · exact Text.utf8Size_of_hexDigit? ha
  · exact Text.utf8Size_of_hexDigit? hb
  · exact Text.utf8Size_of_hexDigit? hc
  · exact Text.utf8Size_of_hexDigit? hd

/-- Less than four digits are less than four bytes. -/
theorem hexQuad_cut {q : Quad} {front : List Char} (h : Cut front q.chars) :
    hexQuad front = .error .truncated := by
  have hbytes {cs : List Char} (hcs : ∀ c ∈ cs, c.utf8Size = 1) : byteCount cs = cs.length := by
    induction cs with
    | nil => rfl
    | cons c cs ih =>
      have hrest := ih fun c' hc' ↦ hcs c' (List.mem_cons_of_mem c hc')
      rw [byteCount] at hrest ⊢
      rw [List.foldr_cons, hrest, hcs c List.mem_cons_self, List.length_cons, Nat.add_comm]
  have hshort : front.length < 4 := h.length_lt
  unfold hexQuad
  split
  · simp only [List.length_cons] at hshort
    omega
  · rw [hbytes fun c hc ↦ q.utf8Size_eq_one (h.mem hc), if_pos hshort]

theorem escapedCharOf_unit_cut {q : Quad} {front : List Char} (h : Cut front ('u' :: q.chars)) :
    escapedCharOf front = .error .truncated := by
  rcases h.of_cons with rfl | ⟨digits, rfl, hdigits⟩
  · rfl
  · rw [escapedCharOf, numberedChar, hexQuad_cut hdigits]
    rfl

/-- A pair is cut in its first half, or the second is missing or cut. -/
theorem escapedCharOf_pair_cut {high low : Quad} (hhigh : isHighSurrogate high.value = true)
    {front : List Char} (h : Cut front ('u' :: high.chars ++ '\\' :: 'u' :: low.chars)) :
    escapedCharOf front = .error .truncated := by
  rcases h.of_append with hfirst | ⟨second, rfl, hsecond⟩
  · exact escapedCharOf_unit_cut hfirst
  · have hdrop : (high.chars ++ second).drop 4 = second := rfl
    rw [List.cons_append, escapedCharOf, numberedChar, hexQuad_append]
    dsimp only
    rw [isLowSurrogate_of_isHighSurrogate hhigh, hhigh, hdrop]
    simp only [Bool.false_eq_true, ↓reduceIte]
    rcases hsecond.of_cons with rfl | ⟨mark, rfl, hmark⟩
    · rfl
    · rcases hmark.of_cons with rfl | ⟨more, rfl, hmore⟩
      · rfl
      · simp only [hexQuad_cut hmore]
        rfl

/-- A character that is not written to its end. -/
theorem quotedRest_stroke_cut {s : Stroke} {front : List Char} (h : Cut front s.chars) :
    quotedRest front = .error .truncated := by
  have hescape {behind : List Char} (h : escapedCharOf behind = .error .truncated) :
      quotedRest ('\\' :: behind) = .error .truncated := by
    rw [quotedRest, h]
  cases s with
  | plain c hquote hbackslash hcontrol =>
    rcases Cut.of_cons h with rfl | ⟨behind, -, hbehind⟩
    · rw [quotedRest]
    · exact absurd hbehind not_cut_nil
  | letter l c hletter =>
    rcases Cut.of_cons h with rfl | ⟨behind, rfl, hbehind⟩
    · rw [quotedRest]
    · rcases hbehind.of_cons with rfl | ⟨more, -, hmore⟩
      · exact hescape rfl
      · exact absurd hmore not_cut_nil
  | unit q hhigh hlow =>
    rcases Cut.of_cons h with rfl | ⟨behind, rfl, hbehind⟩
    · rw [quotedRest]
    · exact hescape (escapedCharOf_unit_cut hbehind)
  | pair high low hhigh hlow =>
    rcases Cut.of_cons h with rfl | ⟨behind, rfl, hbehind⟩
    · rw [quotedRest]
    · exact hescape (escapedCharOf_pair_cut hhigh hbehind)

theorem quotedRest_cut {strokes : List Stroke} {front : List Char}
    (h : Cut front (closedChars strokes)) : quotedRest front = .error .truncated := by
  induction strokes generalizing front with
  | nil =>
    rcases Cut.of_cons h with rfl | ⟨back, -, hback⟩
    · rw [quotedRest]
    · exact absurd hback not_cut_nil
  | cons s strokes ih =>
    have hsplit : closedChars (s :: strokes) = s.chars ++ closedChars strokes := by
      rw [← List.append_nil (closedChars strokes), ← closedChars_cons, List.append_nil]
    rw [hsplit] at h
    rcases h.of_append with hstroke | ⟨back, rfl, hback⟩
    · exact quotedRest_stroke_cut hstroke
    · rw [quotedRest_stroke, ih hback]
      rfl

/-! ### Numbers -/

/-- What is left of the digits of a number are those of a smaller one. -/
theorem exists_toDigits_of_cut {n : ℕ} {front : List Char} (h : Cut front (Nat.toDigits 10 n))
    (hne : front ≠ []) : ∃ m ≤ n, front = Nat.toDigits 10 m := by
  induction n using Nat.strongRecOn with
  | ind n ih =>
    rcases Nat.lt_or_ge n 10 with hsmall | hlarge
    · rw [Nat.toDigits_of_lt_base hsmall] at h
      rcases h.of_cons with hnil | ⟨back, -, hback⟩
      · exact absurd hnil hne
      · exact absurd hback not_cut_nil
    · rw [Nat.toDigits_of_base_le (by decide) hlarge] at h
      have hle : n / 10 ≤ n := Nat.div_le_self n 10
      rcases h.of_append with hfront | ⟨back, rfl, hback⟩
      · obtain ⟨m, hm, hdigits⟩ := ih (n / 10) (by omega) hfront
        exact ⟨m, Nat.le_trans hm hle, hdigits⟩
      · rcases hback.of_cons with rfl | ⟨more, -, hmore⟩
        · exact ⟨n / 10, hle, List.append_nil _⟩
        · exact absurd hmore not_cut_nil

/-! ### Values -/

variable {α β σ : Type}

/-- Given a part of what is written for the value, the reader finds it cut short or leaves nothing
of it. -/
def Exhausts (r : Reader α) (j : Json) : Prop :=
  ∀ front, Cut front j.chars → r front = .error .truncated ∨ ∃ a, r front = .ok (a, [])

theorem exhausts_natural {n most : ℕ} (hmost : most ≤ wordMax) (h : n ≤ most) :
    Exhausts (Reader.natural most) (.number n) := by
  intro front hfront
  rw [chars] at hfront
  by_cases hne : front = []
  · subst hne
    exact .inl rfl
  · obtain ⟨m, hm, rfl⟩ := exists_toDigits_of_cut hfront hne
    have hread := recovers_natural hmost (Nat.le_trans hm h) [] ends_nil
    rw [chars, List.append_nil] at hread
    exact .inr ⟨m, hread⟩

theorem exhausts_string (s : String) : Exhausts Reader.string (.string s) := by
  intro front hfront
  rw [chars, ← closedChars_strokesOf] at hfront
  rcases hfront.of_cons with rfl | ⟨back, rfl, hback⟩
  · exact .inl rfl
  · refine .inl ?_
    rw [Reader.string, dropBlanks_cons (by decide)]
    simp only [quotedRest_cut hback]
    rfl

theorem Exhausts.map {r : Reader α} {j : Json} (h : Exhausts r j) (g : α → β) :
    Exhausts (do return g (← r)) j := by
  intro front hfront
  show (r front).bind _ = _ ∨ ∃ b, (r front).bind _ = _
  rcases h front hfront with htruncated | ⟨a, hread⟩
  · rw [htruncated]
    exact .inl rfl
  · rw [hread]
    exact .inr ⟨g a, rfl⟩

theorem exhausts_uint64 (n : UInt64) : Exhausts Reader.uint64 (.number n.toNat) :=
  (exhausts_natural (Nat.le_refl _) (Nat.le_sub_one_of_lt n.toNat_lt)).map _

theorem Exhausts.orNull {r : Reader α} (hempty : r [] = .error .truncated) {form : α → Json}
    (hform : ∀ a, form a ≠ .null) (h : ∀ a, Exhausts r (form a)) (a : Option α) :
    Exhausts (Reader.orNull r) (.ofOption form a) := by
  intro front hfront
  have hnone : Reader.orNull r [] = .error .truncated := by
    show (r []).map _ = _
    rw [hempty]
    rfl
  rcases a with _ | a
  · rw [ofOption, chars] at hfront
    rcases hfront.of_cons with rfl | ⟨back, rfl, hback⟩
    · exact .inl hnone
    · refine .inl ?_
      rw [Reader.orNull, dropBlanks_cons (by decide)]
      simp only [word_cut hback]
      rfl
  · obtain ⟨c, cs, hchars, hblank, hnull⟩ := (form a).exists_cons_chars
    have hread := h a front hfront
    rw [ofOption, hchars] at hfront
    rcases hfront.of_cons with rfl | ⟨back, rfl, -⟩
    · exact .inl hnone
    · unfold Reader.orNull
      rw [dropBlanks_cons hblank]
      split
      · next heq => exact absurd (hnull (List.cons.inj heq).1) (hform a)
      · rcases hread with htruncated | ⟨a, hread⟩
        · rw [htruncated]
          exact .inl rfl
        · rw [hread]
          exact .inr ⟨some a, rfl⟩

/-! ### Objects -/

/-- What goes on with no number goes on with none after a cut. -/
theorem Cut.ends {front whole : List Char} (h : Cut front whole) (hwhole : Ends whole) :
    Ends front := by
  obtain ⟨lost, -, rfl⟩ := h
  rcases front with _ | ⟨c, front⟩
  · exact ends_nil
  · exact hwhole

section Members

variable {accept : Reader.Accept σ} {acc next last : σ} {members : List (String × Json)}

theorem members_nil {rounds : ℕ} (hrounds : 0 < rounds) (first : Bool) (acc : σ) :
    Reader.members accept rounds first acc [] = .error .truncated := by
  obtain ⟨rounds, rfl⟩ := Nat.exists_eq_succ_of_ne_zero (Nat.ne_of_gt hrounds)
  rfl

theorem Exhausts.member {m : String × Json} {value : Reader σ} (h : Exhausts value m.2)
    (haccept : accept m.1 acc = .ok value) {front : List Char} (hfront : Cut front (aheadChars m)) :
    Reader.member accept acc front = .error .truncated ∨
      ∃ next, Reader.member accept acc front = .ok (next, []) := by
  unfold Reader.member
  rcases hfront.of_append with hname | ⟨back, rfl, hback⟩
  · rw [quotedRest_cut hname]
    exact .inl rfl
  · rw [quotedRest_strokesOf]
    dsimp only
    rw [String.ofList_toList, haccept]
    rcases hback.of_cons with rfl | ⟨text, rfl, htext⟩
    · exact .inl rfl
    · exact h text htext

/-- Behind the quote of a member, if the members after it are found cut short. -/
theorem Recovers.member_cut {name : String} {j : Json} {value : Reader σ}
    (hvalue : Recovers value j next) (hexhausts : Exhausts value j)
    (haccept : accept name acc = .ok value) {rounds : ℕ} {front behind : List Char}
    (hbehind : Ends behind)
    (hnext : ∀ back, Cut back behind → back.length ≤ front.length →
      Reader.members accept rounds false next back = .error .truncated)
    (hrounds : 0 < rounds) (hfront : Cut front (aheadChars (name, j) ++ behind)) :
    ((Reader.member accept acc front).bind fun r ↦ Reader.members accept rounds false r.1 r.2) =
      .error .truncated := by
  rcases hfront.of_append with hmember | ⟨back, rfl, hback⟩
  · rcases hexhausts.member haccept hmember with htruncated | ⟨next, hread⟩
    · rw [htruncated]
      rfl
    · rw [hread]
      exact members_nil hrounds false next
  · rw [hvalue.member haccept (hback.ends hbehind)]
    refine hnext back hback ?_
    rw [List.length_append]
    exact Nat.le_add_left _ _

theorem Gathers.members_commaChars_cut (h : Gathers accept acc members last)
    (hcut : ∀ m ∈ members, ∀ acc value, accept m.1 acc = .ok value → Exhausts value m.2)
    {rounds : ℕ} {front : List Char} (hrounds : front.length < rounds)
    (hfront : Cut front (commaChars members ++ ['\x7d'])) :
    Reader.members accept rounds false acc front = .error .truncated := by
  induction h generalizing rounds front with
  | nil acc =>
    rcases Cut.of_cons hfront with rfl | ⟨back, -, hback⟩
    · exact members_nil hrounds false acc
    · exact absurd hback not_cut_nil
  | @cons acc next last name j value members haccept hvalue hgathers ih =>
    rw [commaChars_cons_append] at hfront
    rcases hfront.of_cons with rfl | ⟨more, rfl, hmore⟩
    · exact members_nil hrounds false acc
    rcases hmore.of_cons with rfl | ⟨ahead, rfl, hahead⟩
    · obtain ⟨rounds, rfl⟩ := Nat.exists_eq_succ_of_ne_zero (Nat.ne_of_gt (Nat.zero_lt_of_lt hrounds))
      rfl
    obtain ⟨rounds, rfl⟩ := Nat.exists_eq_succ_of_ne_zero (Nat.ne_of_gt (Nat.zero_lt_of_lt hrounds))
    simp only [List.length_cons] at hrounds
    rw [members_comma]
    refine hvalue.member_cut (hcut _ List.mem_cons_self acc value haccept) haccept
      (ends_commaChars members []) (fun back hback hlength ↦ ?_) (by omega) hahead
    exact ih (fun m hm ↦ hcut m (List.mem_cons_of_mem _ hm)) (by omega) hback

/-- An object that is not whole is told as such, whatever its members are to be kept for. -/
theorem Gathers.members_cut (h : Gathers accept acc members last)
    (hcut : ∀ m ∈ members, ∀ acc value, accept m.1 acc = .ok value → Exhausts value m.2)
    {rounds : ℕ} {front : List Char} (hrounds : front.length < rounds)
    (hfront : Cut front (membersChars members ++ ['\x7d'])) :
    Reader.members accept rounds true acc front = .error .truncated := by
  cases h with
  | nil acc =>
    rw [membersChars] at hfront
    rcases Cut.of_cons hfront with rfl | ⟨back, -, hback⟩
    · exact members_nil hrounds true acc
    · exact absurd hback not_cut_nil
  | @cons acc next last name j value members haccept hvalue hgathers =>
    rw [membersChars_cons, List.append_assoc] at hfront
    rcases Cut.of_cons hfront with rfl | ⟨ahead, rfl, hahead⟩
    · exact members_nil hrounds true acc
    obtain ⟨rounds, rfl⟩ := Nat.exists_eq_succ_of_ne_zero (Nat.ne_of_gt (Nat.zero_lt_of_lt hrounds))
    simp only [List.length_cons] at hrounds
    rw [members_quote]
    refine hvalue.member_cut (hcut _ List.mem_cons_self acc value haccept) haccept
      (ends_commaChars members []) (fun back hback hlength ↦ ?_) (by omega) hahead
    exact hgathers.members_commaChars_cut (fun m hm ↦ hcut m (List.mem_cons_of_mem _ hm)) (by omega)
      hback

end Members

theorem Gathers.record_cut {l : Layout σ} {start acc : σ} {members : List (String × Json)}
    (h : Gathers l.accept start members acc)
    (hcut : ∀ m ∈ members, m.1 ∈ l.names ∧ ∀ acc, Exhausts (l.setting m.1 acc) m.2)
    (finish : σ → Except Fault α) {front : List Char} (hfront : Cut front (object members).chars) :
    l.record start finish front = .error .truncated := by
  have hvalue : ∀ m ∈ members, ∀ acc value, l.accept m.1 acc = .ok value → Exhausts value m.2 := by
    intro m hm acc value haccept
    obtain ⟨hknown, hsetting⟩ := hcut m hm
    rw [Layout.accept, if_pos hknown] at haccept
    split at haccept
    · cases haccept
    · cases haccept
      exact hsetting acc
  rw [chars] at hfront
  rcases Cut.of_cons hfront with rfl | ⟨back, rfl, hback⟩
  · rfl
  · rw [Layout.record, dropBlanks_cons (by decide)]
    simp only [h.members_cut hvalue (Nat.lt_succ_self _) hback]

end Json

end DeferredLog
