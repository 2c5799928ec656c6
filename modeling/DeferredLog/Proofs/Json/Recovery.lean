import DeferredLog.Proofs.Json.Compact
import DeferredLog.Proofs.Json.Records

/-!
# Readers that recover what was written

Writing and reading belong together kind by kind: `Recovers r j a` says that the reader takes the
compact text of `j` from the front of any text and gives `a`. Readers of which it is known what they
make of every value recover what their values say (`Reads.recovers`). The other readers, of objects
with any names and of choices, need only recover what their parts recover.

An object is read member by member, each with what the members before it gave, so the members are
followed by the chain of what is kept between them (`Gathers`).
-/

namespace DeferredLog.Json

variable {α β σ : Type}

/-- The reader takes the compact text of the value, whatever comes behind it, and gives `a`. -/
def Recovers (r : Reader α) (j : Json) (a : α) : Prop :=
  ∀ rest, Ends rest → r (j.chars ++ rest) = .ok (a, rest)

/-! ### Values without parts -/

theorem Reads.recovers {r : Reader α} {f : Value → Except Fault α} (hr : Reads r f) {j : Json}
    {a : α} (h : f j.toValue = .ok a) : Recovers r j a := by
  intro rest hrest
  have hread := hr j.toValue .none rest hrest
  rw [h, chars_toValue] at hread
  exact hread

theorem recovers_string (s : String) : Recovers Reader.string (.string s) s :=
  reads_string.recovers (Value.read_of_eq_some (text?_string s))

theorem recovers_natural {n most : ℕ} (hmost : most ≤ wordMax) (h : n ≤ most) :
    Recovers (Reader.natural most) (.number n) n :=
  (reads_natural hmost).recovers (Value.read_of_eq_some (natural?_number h))

theorem recovers_uint64 (n : UInt64) : Recovers Reader.uint64 (.number n.toNat) n :=
  reads_uint64.recovers (Value.read_of_eq_some (word?_number n))

theorem recovers_bool (b : Bool) : Recovers Reader.bool (.bool b) b := by
  intro rest _
  cases b <;> rfl

theorem Recovers.map {r : Reader α} {j : Json} {a : α} (h : Recovers r j a) (g : α → β) :
    Recovers (do return g (← r)) j (g a) := by
  intro rest hrest
  show (r (j.chars ++ rest)).bind _ = _
  rw [h rest hrest]
  rfl

/-- What is written begins with no blank, and only null with the letter of null. -/
theorem exists_cons_chars (j : Json) :
    ∃ c cs, j.chars = c :: cs ∧ isBlank c = false ∧ (c = 'n' → j = .null) := by
  obtain ⟨c, cs, hchars, hkind, -⟩ := j.toValue.exists_cons_kind
  obtain ⟨c', cs', hchars', hblank, -⟩ := j.toValue.exists_cons
  obtain ⟨rfl, rfl⟩ := List.cons.inj (hchars.symm.trans hchars')
  refine ⟨c, cs, (chars_toValue j).symm.trans hchars, hblank, fun hc ↦ ?_⟩
  have hnull := hkind hc
  cases j with
  | null => rfl
  | _ =>
    rw [toValue] at hnull
    cases hnull

theorem Recovers.orNull {r : Reader α} {form : α → Json} (hform : ∀ a, form a ≠ .null)
    (h : ∀ a, Recovers r (form a) a) (a : Option α) :
    Recovers (Reader.orNull r) (.ofOption form a) a := by
  intro rest hrest
  rcases a with _ | a
  · rfl
  · obtain ⟨c, cs, hchars, hblank, hnull⟩ := (form a).exists_cons_chars
    have hread := h a rest hrest
    show Reader.orNull r ((form a).chars ++ rest) = _
    rw [hchars, List.cons_append] at hread ⊢
    unfold Reader.orNull
    rw [dropBlanks_cons hblank]
    split
    · next heq => exact absurd (hnull (List.cons.inj heq).1) (hform a)
    · rw [hread]
      rfl

/-! ### Objects -/

theorem quotedRest_strokesOf (s : String) (rest : List Char) :
    quotedRest (closedChars (strokesOf s) ++ rest) = .ok (s.toList, rest) := by
  have hvalue : Stroke.value ∘ Stroke.ofChar = id := funext Stroke.value_ofChar
  rw [quotedRest_closedChars, strokesOf, List.map_map, hvalue, List.map_id]

/-- What comes behind the opening quote of a member. -/
def aheadChars (m : String × Json) : List Char :=
  closedChars (strokesOf m.1) ++ ':' :: m.2.chars

theorem memberTexts_toMembers (members : List (String × Json)) :
    memberTexts (toMembers members) = members.map fun m ↦ '"' :: aheadChars m := by
  induction members with
  | nil => rw [toMembers]; rfl
  | cons m members ih =>
    obtain ⟨name, j⟩ := m
    rw [toMembers, memberTexts, ih, Label.around_ofName, chars_toValue, ← closedChars_strokesOf]
    rfl

/-- Members with a comma before each of them. -/
def commaChars (members : List (String × Json)) : List Char :=
  members.flatMap fun m ↦ ',' :: '"' :: aheadChars m

theorem commaChars_cons_append (m : String × Json) (members : List (String × Json))
    (rest : List Char) : commaChars (m :: members) ++ rest =
      ',' :: '"' :: (aheadChars m ++ (commaChars members ++ rest)) := by
  rw [commaChars, List.flatMap_cons, List.append_assoc]
  rfl

theorem membersChars_cons (m : String × Json) (members : List (String × Json)) :
    membersChars (m :: members) = '"' :: aheadChars m ++ commaChars members := by
  rw [← betweenCommas_toMembers, memberTexts_toMembers, List.map_cons, betweenCommas, behindCommas,
    List.flatMap_map]
  rfl

/-- Behind a member come more members or the brace. -/
theorem ends_commaChars (members : List (String × Json)) (rest : List Char) :
    Ends (commaChars members ++ '\x7d' :: rest) := by
  cases members with
  | nil => exact ends_cons (by decide) rest
  | cons m members => exact ends_cons (by decide) _

/-- Each member is admitted, and its value recovers what is to be kept next. -/
inductive Gathers (accept : Reader.Accept σ) : σ → List (String × Json) → σ → Prop
  | nil (acc : σ) : Gathers accept acc [] acc
  | cons {acc next last : σ} {name : String} {j : Json} {value : Reader σ}
      {members : List (String × Json)} (haccept : accept name acc = .ok value)
      (hvalue : Recovers value j next) (hrest : Gathers accept next members last) :
      Gathers accept acc ((name, j) :: members) last

section Members

variable {accept : Reader.Accept σ} {acc next last : σ} {members : List (String × Json)}

theorem Recovers.member {name : String} {j : Json} {value : Reader σ} (hvalue : Recovers value j next)
    (haccept : accept name acc = .ok value) {rest : List Char} (hrest : Ends rest) :
    Reader.member accept acc (aheadChars (name, j) ++ rest) = .ok (next, rest) := by
  unfold Reader.member
  rw [aheadChars, List.append_assoc, quotedRest_strokesOf]
  dsimp only
  rw [String.ofList_toList, haccept]
  exact hvalue rest hrest

theorem members_quote (rounds : ℕ) (cs : List Char) :
    Reader.members accept (rounds + 1) true acc ('"' :: cs) =
      (Reader.member accept acc cs).bind fun r ↦ Reader.members accept rounds false r.1 r.2 := by
  simp only [Reader.members, dropBlanks_cons (by decide : isBlank '"' = false)]
  rcases Reader.member accept acc cs with fault | r <;> rfl

theorem members_comma (rounds : ℕ) (cs : List Char) :
    Reader.members accept (rounds + 1) false acc (',' :: '"' :: cs) =
      (Reader.member accept acc cs).bind fun r ↦ Reader.members accept rounds false r.1 r.2 := by
  simp only [Reader.members, dropBlanks_cons (by decide : isBlank ',' = false),
    dropBlanks_cons (by decide : isBlank '"' = false)]
  rcases Reader.member accept acc cs with fault | r <;> rfl

theorem Gathers.members_commaChars (h : Gathers accept acc members last) {rounds : ℕ}
    (hrounds : members.length < rounds) (rest : List Char) :
    Reader.members accept rounds false acc (commaChars members ++ '\x7d' :: rest) =
      .ok (last, rest) := by
  induction h generalizing rounds with
  | nil acc =>
    obtain ⟨rounds, rfl⟩ := Nat.exists_eq_succ_of_ne_zero (Nat.ne_of_gt hrounds)
    rfl
  | @cons acc next last name j value members haccept hvalue hgathers ih =>
    obtain ⟨rounds, rfl⟩ := Nat.exists_eq_succ_of_ne_zero (Nat.ne_of_gt (Nat.zero_lt_of_lt hrounds))
    rw [commaChars_cons_append, members_comma, hvalue.member haccept (ends_commaChars members rest)]
    exact ih (Nat.lt_of_succ_lt_succ hrounds)

theorem Gathers.members_membersChars (h : Gathers accept acc members last) {rounds : ℕ}
    (hrounds : members.length < rounds) (rest : List Char) :
    Reader.members accept rounds true acc (membersChars members ++ '\x7d' :: rest) =
      .ok (last, rest) := by
  obtain ⟨rounds, rfl⟩ := Nat.exists_eq_succ_of_ne_zero (Nat.ne_of_gt (Nat.zero_lt_of_lt hrounds))
  cases h with
  | nil acc =>
    rw [membersChars]
    rfl
  | @cons acc next last name j value members haccept hvalue hgathers =>
    rw [membersChars_cons, List.append_assoc, List.cons_append, members_quote,
      hvalue.member haccept (ends_commaChars members rest)]
    exact hgathers.members_commaChars (Nat.lt_of_succ_lt_succ hrounds) rest

/-- The rounds that a text is given are enough, since each member has its own quote. -/
theorem length_le_length_membersChars (members : List (String × Json)) :
    members.length ≤ (membersChars members).length := by
  have hcommas (more : List (String × Json)) : more.length ≤ (commaChars more).length := by
    induction more with
    | nil => exact Nat.le_refl 0
    | cons m more ih =>
      rw [commaChars, List.flatMap_cons, List.length_append, List.length_cons, List.length_cons]
      rw [commaChars] at ih
      omega
  cases members with
  | nil => exact Nat.zero_le _
  | cons m members =>
    have := hcommas members
    rw [membersChars_cons, List.length_append, List.length_cons, List.length_cons]
    omega

theorem object_append (members : List (String × Json)) (rest : List Char) :
    (object members).chars ++ rest = '\x7b' :: (membersChars members ++ '\x7d' :: rest) := by
  rw [chars, List.cons_append, List.cons_append, List.append_assoc]
  rfl

/-- An object is read to its brace. -/
theorem Gathers.members_object (h : Gathers accept acc members last) (rest : List Char) :
    Reader.members accept ((membersChars members ++ '\x7d' :: rest).length + 1) true acc
      (membersChars members ++ '\x7d' :: rest) = .ok (last, rest) := by
  refine h.members_membersChars ?_ rest
  have := length_le_length_membersChars members
  rw [List.length_append]
  omega

theorem Gathers.recovers_object (h : Gathers accept acc members last) :
    Recovers (Reader.object accept acc) (.object members) last := by
  intro rest _
  rw [object_append, Reader.object, dropBlanks_cons (by decide)]
  exact h.members_object rest

end Members

theorem Gathers.recovers_record {l : Layout σ} {start acc : σ} {members : List (String × Json)}
    (h : Gathers l.accept start members acc) {finish : σ → Except Fault α} {a : α}
    (hfinish : finish acc = .ok a) : Recovers (l.record start finish) (.object members) a := by
  intro rest _
  rw [object_append, Layout.record, dropBlanks_cons (by decide)]
  simp only [h.members_object rest, hfinish]
  rfl

/-! ### Choices -/

section Choices

variable {choices : List (String × Choice α)} {name : String}

/-- A bare choice is written by its name. -/
theorem recovers_bare {a : α} (h : choices.lookup name = some (.bare a)) :
    Recovers (Reader.choice choices) (.string name) a := by
  intro rest _
  rw [chars, ← closedChars_strokesOf, List.cons_append, Reader.choice, dropBlanks_cons (by decide)]
  simp only [quotedRest_strokesOf, String.ofList_toList, h]

/-- Any other choice is an object with its name before its record. -/
theorem Recovers.carrying {r : Reader α} {j : Json} {a : α} (hr : Recovers r j a)
    (h : choices.lookup name = some (.carrying r)) :
    Recovers (Reader.choice choices) (.object [(name, j)]) a := by
  intro rest _
  have hquoted (cs : List Char) : Reader.name (quotedChars name ++ cs) = .ok (name, cs) := by
    rw [← closedChars_strokesOf, List.cons_append, Reader.name, dropBlanks_cons (by decide)]
    simp only [quotedRest_strokesOf, Except.map, String.ofList_toList]
  have hvalue : (Reader.colon *> r) (':' :: (j.chars ++ '\x7d' :: rest)) =
      .ok (a, '\x7d' :: rest) := hr _ (ends_cons (by decide) rest)
  have htext : (object [(name, j)]).chars ++ rest =
      '\x7b' :: (quotedChars name ++ ':' :: (j.chars ++ '\x7d' :: rest)) := by
    rw [object_append, membersChars, List.append_assoc]
    rfl
  rw [htext, Reader.choice, dropBlanks_cons (by decide)]
  simp only [hquoted, h, hvalue]
  rfl

end Choices

/-! ### Whole texts -/

theorem Recovers.decode_text {r : Reader α} {j : Json} {a : α} (h : Recovers r j a) :
    decode r j.text = .ok a := by
  have hread := h [] ends_nil
  rw [List.append_nil] at hread
  rw [decode, text, String.toList_ofList, hread]
  rfl

end DeferredLog.Json
