import DeferredLog.Proofs.Json.Scanning

/-!
# Passing over what was written

Every value is passed over, however it is written and however deep it is nested, and what comes
behind it is left (`skip_value`). The proof follows the value. Inside it, the brackets that are open
lie on top of those that were open before, and each character pays for one round, so the rounds that
a text is given are enough.
-/

namespace DeferredLog.Json

/-! ### How values begin -/

theorem Figure.exists_cons (f : Figure) :
    ∃ c cs, f.chars = c :: cs ∧ (c = '-' ∨ c.isDigit = true) := by
  obtain ⟨d, ds, hchars, hdigit⟩ := f.whole.exists_cons
  rcases hnegative : f.negative with _ | _
  · refine ⟨d, ds ++ (f.fractionChars ++ f.powerChars), ?_, Or.inr hdigit⟩
    rw [Figure.chars, hnegative, hchars]
    rfl
  · refine ⟨'-', f.whole.chars ++ (f.fractionChars ++ f.powerChars), ?_, Or.inl rfl⟩
    rw [Figure.chars, hnegative]
    rfl

/-- A character with which a number begins is not one with which anything else begins. -/
theorem ne_of_beginsNumber {c : Char} (h : c = '-' ∨ c.isDigit = true) :
    isBlank c = false ∧ c ≠ '"' ∧ c ≠ 'n' ∧ c ≠ 't' ∧ c ≠ 'f' ∧ c ≠ '[' ∧ c ≠ '\x7b' ∧ c ≠ ']' ∧
      c ≠ '\x7d' ∧ c ≠ ',' := by
  rcases h with rfl | hdigit
  · decide
  · have hne {d : Char} (hd : d.isDigit = false) : c ≠ d := by
      rintro rfl
      rw [hd] at hdigit
      cases hdigit
    have hblank : isBlank c = false := by
      simp [isBlank, hne (d := ' ') (by decide), hne (d := '\n') (by decide),
        hne (d := '\t') (by decide), hne (d := '\r') (by decide)]
    exact ⟨hblank, hne (by decide), hne (by decide), hne (by decide), hne (by decide),
      hne (by decide), hne (by decide), hne (by decide), hne (by decide), hne (by decide)⟩

/-- A value begins with a character that is neither blank nor a mark between or behind values. -/
theorem Value.exists_cons (v : Value) :
    ∃ c cs, v.chars = c :: cs ∧ isBlank c = false ∧ c ≠ ']' ∧ c ≠ '\x7d' ∧ c ≠ ',' := by
  cases v with
  | null => exact ⟨_, _, rfl, by decide⟩
  | bool b => cases b <;> exact ⟨_, _, rfl, by decide⟩
  | number f =>
    obtain ⟨c, cs, hchars, hc⟩ := f.exists_cons
    obtain ⟨hblank, -, -, -, -, -, -, hbracket, hbrace, hcomma⟩ := ne_of_beginsNumber hc
    exact ⟨c, cs, hchars, hblank, hbracket, hbrace, hcomma⟩
  | string strokes => exact ⟨_, _, rfl, by decide⟩
  | array inner items => exact ⟨_, _, by rw [Value.chars]; rfl, by decide⟩
  | object inner members => exact ⟨_, _, by rw [Value.chars]; rfl, by decide⟩

theorem dropBlanks_value (b : Blanks) (v : Value) (rest : List Char) :
    dropBlanks (b.chars ++ (v.chars ++ rest)) = v.chars ++ rest := by
  obtain ⟨c, cs, hchars, hblank, -⟩ := v.exists_cons
  rw [hchars]
  exact dropBlanks_append_cons b hblank (cs ++ rest)

/-! ### Into and out of a value -/

/-- Up to the value of a member. -/
theorem skipName_ahead (l : Label) (b : Blanks) (text rest : List Char) :
    skipName (b.chars ++ '"' :: (l.ahead text ++ rest)) =
      .ok (l.beforeValue.chars ++ (text ++ (l.after.chars ++ rest))) := by
  have hcolon (cs : List Char) : dropBlanks (l.beforeColon.chars ++ ':' :: cs) = ':' :: cs :=
    dropBlanks_append_cons l.beforeColon (by decide) cs
  rw [skipName, dropBlanks_append_cons b (by decide), Label.ahead_append]
  simp only [skipQuoted_closedChars, hcolon]

theorem skipOpen_number (f : Figure) (b : Blanks) {rest : List Char} (h : Ends rest) :
    skipOpen (b.chars ++ (f.chars ++ rest)) = .ok (.ended rest) := by
  obtain ⟨c, cs, hchars, hc⟩ := f.exists_cons
  obtain ⟨hblank, hquote, hn, ht, hf, hbracket, hbrace, -⟩ := ne_of_beginsNumber hc
  have hscan := Numeral.scan_chars .malformed f h
  rw [hchars, List.cons_append] at hscan
  rw [hchars, List.cons_append, skipOpen, dropBlanks_append_cons b hblank]
  simp [hc, hscan, Except.map]

theorem skipOpen_string (strokes : List Stroke) (b : Blanks) (rest : List Char) :
    skipOpen (b.chars ++ '"' :: (closedChars strokes ++ rest)) = .ok (.ended rest) := by
  rw [skipOpen, dropBlanks_append_cons b (by decide)]
  simp only [skipQuoted_closedChars, Except.map]

/-- A word is passed over to its last letter. -/
theorem skipOpen_null (b : Blanks) (rest : List Char) :
    skipOpen (b.chars ++ (Value.null.chars ++ rest)) = .ok (.ended rest) := by
  have hword : word ['u', 'l', 'l'] ('u' :: 'l' :: 'l' :: rest) = .ok ((), rest) :=
    word_append ['u', 'l', 'l'] rest
  rw [skipOpen, dropBlanks_value, Value.chars]
  simp only [List.cons_append, List.nil_append, hword, Except.map]

theorem skipOpen_bool (x : Bool) (b : Blanks) (rest : List Char) :
    skipOpen (b.chars ++ ((Value.bool x).chars ++ rest)) = .ok (.ended rest) := by
  have htrue : word ['r', 'u', 'e'] ('r' :: 'u' :: 'e' :: rest) = .ok ((), rest) :=
    word_append ['r', 'u', 'e'] rest
  have hfalse : word ['a', 'l', 's', 'e'] ('a' :: 'l' :: 's' :: 'e' :: rest) = .ok ((), rest) :=
    word_append ['a', 'l', 's', 'e'] rest
  rw [skipOpen, dropBlanks_value]
  cases x
  · simp only [Value.chars, List.cons_append, List.nil_append, hfalse, Except.map]
  · simp only [Value.chars, List.cons_append, List.nil_append, htrue, Except.map]

theorem skipOpen_emptyArray (b inner : Blanks) (rest : List Char) :
    skipOpen (b.chars ++ '[' :: (inner.chars ++ ']' :: rest)) = .ok (.ended rest) := by
  have hend : dropBlanks (inner.chars ++ ']' :: rest) = ']' :: rest :=
    dropBlanks_append_cons inner (by decide) rest
  rw [skipOpen, dropBlanks_append_cons b (by decide)]
  simp only [hend]

theorem skipOpen_array (b inner before : Blanks) (v : Value) (rest : List Char) :
    skipOpen (b.chars ++ '[' :: (inner.chars ++ (before.chars ++ (v.chars ++ rest)))) =
      .ok (.opened .array (v.chars ++ rest)) := by
  obtain ⟨c, cs, hchars, hblank, hbracket, -⟩ := v.exists_cons
  have hvalue : dropBlanks (inner.chars ++ (before.chars ++ (c :: (cs ++ rest)))) =
      c :: (cs ++ rest) := by
    rw [dropBlanks_append, dropBlanks_append_cons before hblank]
  rw [skipOpen, dropBlanks_append_cons b (by decide), hchars, List.cons_append]
  simp [hvalue, hbracket]

theorem skipOpen_emptyObject (b inner : Blanks) (rest : List Char) :
    skipOpen (b.chars ++ '\x7b' :: (inner.chars ++ '\x7d' :: rest)) = .ok (.ended rest) := by
  have hend : dropBlanks (inner.chars ++ '\x7d' :: rest) = '\x7d' :: rest :=
    dropBlanks_append_cons inner (by decide) rest
  rw [skipOpen, dropBlanks_append_cons b (by decide)]
  simp only [hend]

theorem skipOpen_object (b inner : Blanks) (l : Label) (text rest : List Char) :
    skipOpen (b.chars ++ '\x7b' :: (inner.chars ++ (l.around text ++ rest))) =
      .ok (.opened .object (l.beforeValue.chars ++ (text ++ (l.after.chars ++ rest)))) := by
  have hmember : dropBlanks (inner.chars ++ (l.around text ++ rest)) =
      '"' :: (l.ahead text ++ rest) := by
    rw [Label.around_append, dropBlanks_append, dropBlanks_append_cons _ (by decide)]
  have hname : skipName ('"' :: (l.ahead text ++ rest)) =
      .ok (l.beforeValue.chars ++ (text ++ (l.after.chars ++ rest))) :=
    skipName_ahead l .none text rest
  rw [skipOpen, dropBlanks_append_cons b (by decide)]
  simp [hmember, hname, Except.map]

theorem skipNext_array (b : Blanks) (rest : List Char) :
    skipNext .array (b.chars ++ ',' :: rest) = .ok (.opened .array rest) := by
  have hcomma : dropBlanks (b.chars ++ ',' :: rest) = ',' :: rest :=
    dropBlanks_append_cons b (by decide) rest
  simp only [skipNext, hcomma]

theorem skipNext_object (b : Blanks) (l : Label) (text rest : List Char) :
    skipNext .object (b.chars ++ ',' :: (l.around text ++ rest)) =
      .ok (.opened .object (l.beforeValue.chars ++ (text ++ (l.after.chars ++ rest)))) := by
  have hname := skipName_ahead l l.before text rest
  have hcomma (cs : List Char) : dropBlanks (b.chars ++ ',' :: cs) = ',' :: cs :=
    dropBlanks_append_cons b (by decide) cs
  simp only [skipNext, hcomma, Label.around_append, hname, Except.map]

theorem skipNext_closeArray (b : Blanks) (rest : List Char) :
    skipNext .array (b.chars ++ ']' :: rest) = .ok (.ended rest) := by
  have hclose : dropBlanks (b.chars ++ ']' :: rest) = ']' :: rest :=
    dropBlanks_append_cons b (by decide) rest
  simp only [skipNext, hclose]

theorem skipNext_closeObject (b : Blanks) (rest : List Char) :
    skipNext .object (b.chars ++ '\x7d' :: rest) = .ok (.ended rest) := by
  have hclose : dropBlanks (b.chars ++ '\x7d' :: rest) = '\x7d' :: rest :=
    dropBlanks_append_cons b (by decide) rest
  simp only [skipNext, hclose]

/-! ### Whole values -/

section Rounds

variable {bracket inside : Bracket} {stack : List Bracket} {cs rest : List Char}

theorem skipRounds_of_ended (h : skipOpen cs = .ok (.ended rest)) (n : ℕ) :
    skipRounds (n + 1) true stack cs = skipRounds n false stack rest := by
  rw [skipRounds, h]

theorem skipRounds_of_opened (h : skipOpen cs = .ok (.opened bracket rest)) (n : ℕ) :
    skipRounds (n + 1) true stack cs = skipRounds n true (bracket :: stack) rest := by
  rw [skipRounds, h]

theorem skipRounds_of_next_ended (h : skipNext inside cs = .ok (.ended rest)) (n : ℕ) :
    skipRounds (n + 1) false (inside :: stack) cs = skipRounds n false stack rest := by
  rw [skipRounds, h]

theorem skipRounds_of_next_opened (h : skipNext inside cs = .ok (.opened bracket rest)) (n : ℕ) :
    skipRounds (n + 1) false (inside :: stack) cs = skipRounds n true (bracket :: stack) rest := by
  rw [skipRounds, h]

end Rounds

mutual

/-- A value is passed over in no more rounds than it has characters. -/
theorem skipRounds_value : (v : Value) → ∀ (b : Blanks) (stack : List Bracket) (rest : List Char),
    Ends rest → ∃ k ≤ v.chars.length, ∀ n,
      skipRounds (n + k) true stack (b.chars ++ (v.chars ++ rest)) = skipRounds n false stack rest
  | .null, b, stack, rest, _ =>
    ⟨1, by decide, skipRounds_of_ended (skipOpen_null b rest)⟩
  | .bool x, b, stack, rest, _ =>
    ⟨1, by cases x <;> decide, skipRounds_of_ended (skipOpen_bool x b rest)⟩
  | .number f, b, stack, rest, h => by
    obtain ⟨c, cs, hchars, -⟩ := f.exists_cons
    refine ⟨1, ?_, skipRounds_of_ended (skipOpen_number f b h)⟩
    rw [Value.chars, hchars]
    exact Nat.succ_le_succ (Nat.zero_le _)
  | .string strokes, b, stack, rest, _ =>
    ⟨1, Nat.succ_le_succ (Nat.zero_le _), skipRounds_of_ended (skipOpen_string strokes b rest)⟩
  | .array inner [], b, stack, rest, _ => by
    refine ⟨1, ?_, fun n ↦ ?_⟩
    · rw [Value.chars]
      exact Nat.succ_le_succ (Nat.zero_le _)
    · rw [Value.array_append, itemTexts, betweenCommas]
      exact skipRounds_of_ended (skipOpen_emptyArray b inner rest) n
  | .array inner ((pad, v) :: items), b, stack, rest, _ => by
    have hends := ends_behindCommas pad.after (itemTexts items) (c := ']') (by decide) rest
    -- One round goes in; the first value and what is left behind it have rounds of their own.
    obtain ⟨k, hk, hvalue⟩ := skipRounds_value v .none (.array :: stack) _ hends
    obtain ⟨m, hm, hitems⟩ := skipRounds_items items pad.after stack rest
    refine ⟨m + k + 1, ?_, fun n ↦ ?_⟩
    · simp only [Value.chars, itemTexts, betweenCommas, Pad.around, List.length_append,
        List.length_cons, List.length_nil]
      omega
    · have hopen := skipOpen_array b inner pad.before v
        (pad.after.chars ++ (behindCommas (itemTexts items) ++ ']' :: rest))
      rw [Value.array_append, itemTexts, betweenCommas, List.append_assoc, Pad.around_append,
        ← Nat.add_assoc, ← Nat.add_assoc, skipRounds_of_opened hopen, ← hitems, ← hvalue]
      rfl
  | .object inner [], b, stack, rest, _ => by
    refine ⟨1, ?_, fun n ↦ ?_⟩
    · rw [Value.chars]
      exact Nat.succ_le_succ (Nat.zero_le _)
    · rw [Value.object_append, memberTexts, betweenCommas]
      exact skipRounds_of_ended (skipOpen_emptyObject b inner rest) n
  | .object inner ((l, v) :: members), b, stack, rest, _ => by
    have hends := ends_behindCommas l.after (memberTexts members) (c := '\x7d') (by decide) rest
    obtain ⟨k, hk, hvalue⟩ := skipRounds_value v l.beforeValue (.object :: stack) _ hends
    obtain ⟨m, hm, hmembers⟩ := skipRounds_members members l.after stack rest
    refine ⟨m + k + 1, ?_, fun n ↦ ?_⟩
    · simp only [Value.chars, memberTexts, betweenCommas, Label.around, Label.ahead,
        List.length_append, List.length_cons, List.length_nil]
      omega
    · have hopen := skipOpen_object b inner l v.chars
        (behindCommas (memberTexts members) ++ '\x7d' :: rest)
      rw [Value.object_append, memberTexts, betweenCommas, List.append_assoc, ← Nat.add_assoc,
        ← Nat.add_assoc, skipRounds_of_opened hopen, hvalue, hmembers]

/-- The items that are left in an array, and its bracket. -/
theorem skipRounds_items : (items : List (Pad × Value)) → ∀ (b : Blanks) (stack : List Bracket)
    (rest : List Char), ∃ k ≤ (behindCommas (itemTexts items)).length + 1, ∀ n,
      skipRounds (n + k) false (.array :: stack)
        (b.chars ++ (behindCommas (itemTexts items) ++ ']' :: rest)) = skipRounds n false stack rest
  | [], b, stack, rest =>
    ⟨1, Nat.le_refl _, skipRounds_of_next_ended (skipNext_closeArray b rest)⟩
  | (pad, v) :: items, b, stack, rest => by
    have hends := ends_behindCommas pad.after (itemTexts items) (c := ']') (by decide) rest
    obtain ⟨k, hk, hvalue⟩ := skipRounds_value v pad.before (.array :: stack) _ hends
    obtain ⟨m, hm, hitems⟩ := skipRounds_items items pad.after stack rest
    refine ⟨m + k + 1, ?_, fun n ↦ ?_⟩
    · simp only [itemTexts, behindCommas, List.flatMap_cons, Pad.around, List.length_append,
        List.length_cons] at hm ⊢
      omega
    · rw [itemTexts, behindCommas_cons, Pad.around_append, ← Nat.add_assoc, ← Nat.add_assoc,
        skipRounds_of_next_opened (skipNext_array b _), hvalue, hitems]

/-- The members that are left in an object, and its brace. -/
theorem skipRounds_members : (members : List (Label × Value)) → ∀ (b : Blanks)
    (stack : List Bracket) (rest : List Char),
    ∃ k ≤ (behindCommas (memberTexts members)).length + 1, ∀ n,
      skipRounds (n + k) false (.object :: stack)
        (b.chars ++ (behindCommas (memberTexts members) ++ '\x7d' :: rest)) =
          skipRounds n false stack rest
  | [], b, stack, rest =>
    ⟨1, Nat.le_refl _, skipRounds_of_next_ended (skipNext_closeObject b rest)⟩
  | (l, v) :: members, b, stack, rest => by
    have hends := ends_behindCommas l.after (memberTexts members) (c := '\x7d') (by decide) rest
    obtain ⟨k, hk, hvalue⟩ := skipRounds_value v l.beforeValue (.object :: stack) _ hends
    obtain ⟨m, hm, hmembers⟩ := skipRounds_members members l.after stack rest
    refine ⟨m + k + 1, ?_, fun n ↦ ?_⟩
    · simp only [memberTexts, behindCommas, List.flatMap_cons, Label.around, Label.ahead,
        List.length_append, List.length_cons] at hm ⊢
      omega
    · rw [memberTexts, behindCommas_cons, ← Nat.add_assoc, ← Nat.add_assoc,
        skipRounds_of_next_opened (skipNext_object b l _ _), hvalue, hmembers]

end

/-- A value is passed over to its end. -/
theorem skip_value (v : Value) (b : Blanks) {rest : List Char} (h : Ends rest) :
    skip (b.chars ++ (v.chars ++ rest)) = .ok ((), rest) := by
  obtain ⟨k, hk, hrounds⟩ := skipRounds_value v b [] rest h
  have hlength : k ≤ (b.chars ++ (v.chars ++ rest)).length := by
    rw [List.length_append, List.length_append]
    omega
  obtain ⟨n, hn⟩ := Nat.exists_eq_add_of_le hlength
  have hfew : (b.chars ++ (v.chars ++ rest)).length + 1 = n + 1 + k := by omega
  rw [skip, hfew, hrounds, skipRounds]
  rfl

end DeferredLog.Json
