import DeferredLog.Proofs.Json.Skipping

/-!
# Readers as functions on values

A reader walks over characters, but what it gives depends on the value alone, not on how that is
written: `Reads r f` says that `r` gives of every value what `f` says and leaves what comes behind it.
A reader of a shape gives what has the shape and refuses every other value for the same reason
(`Value.refusal`), which depends on the value and not on the shape.
-/

namespace DeferredLog.Json

variable {α β : Type}

/-- The reader gives of each value what `f` says, whatever comes behind. -/
def Reads (r : Reader α) (f : Value → Except Fault α) : Prop :=
  ∀ (v : Value) (b : Blanks) (rest : List Char), Ends rest →
    r (b.chars ++ (v.chars ++ rest)) = (f v).map fun a ↦ (a, rest)

/-! ### Shapes -/

namespace Value

/-- Whether the value is a number beyond the range of double precision. -/
def isOutOfRange : Value → Bool
  | .number f => f.numeral.isOutOfRange
  | _ => false

/-- The fault of a value that has not the shape asked for. -/
def refusal (v : Value) : Fault :=
  if v.isOutOfRange then .malformed else .mismatched

/-- What a reader of the shape makes of the value. -/
def read (shape : Value → Option α) (v : Value) : Except Fault α :=
  match shape v with
  | some a => .ok a
  | none => .error v.refusal

/-- The natural number up to `most` that the value is. -/
def natural? (most : ℕ) : Value → Option ℕ
  | .number f => f.plain?.filter (· ≤ most)
  | _ => none

/-- The machine word that the value is. -/
def word? (v : Value) : Option UInt64 :=
  (v.natural? wordMax).map UInt64.ofNat

/-- The text that the value is. -/
def text? : Value → Option String
  | .string strokes => some (written strokes)
  | _ => none

/-- Null, or what `shape` says. -/
def orNull? (shape : Value → Option α) : Value → Option (Option α)
  | .null => some none
  | v => (shape v).map some

theorem orNull?_of_ne_null {shape : Value → Option α} {v : Value} (h : v ≠ .null) :
    v.orNull? shape = (shape v).map some := by
  cases v with
  | null => exact absurd rfl h
  | _ => rfl

theorem read_of_eq_some {shape : Value → Option α} {v : Value} {a : α} (h : shape v = some a) :
    v.read shape = .ok a := by
  rw [read, h]

theorem read_of_eq_none {shape : Value → Option α} {v : Value} (h : shape v = none) :
    v.read shape = .error v.refusal := by
  rw [read, h]

theorem read_eq_ok_iff {shape : Value → Option α} {v : Value} {a : α} :
    v.read shape = .ok a ↔ shape v = some a := by
  rcases h : shape v with _ | b
  · rw [read_of_eq_none h]
    exact ⟨nofun, nofun⟩
  · rw [read_of_eq_some h, Except.ok.injEq, Option.some.injEq]

/-- A value is refused as mismatched unless it is a number beyond every range. -/
theorem refusal_cases (v : Value) :
    v.refusal = .mismatched ∨ v.refusal = .malformed ∧ v.isOutOfRange = true := by
  unfold refusal
  rcases v.isOutOfRange
  · exact Or.inl rfl
  · exact Or.inr ⟨rfl, rfl⟩

theorem eq_refusal_of_read {shape : Value → Option α} {v : Value} {fault : Fault}
    (h : v.read shape = .error fault) : fault = v.refusal := by
  rcases hshape : shape v with _ | a
  · rw [read_of_eq_none hshape] at h
    exact (Except.error.inj h).symm
  · rw [read_of_eq_some hshape] at h
    cases h

theorem read_map (shape : Value → Option α) (g : α → β) (v : Value) :
    v.read (fun w ↦ (shape w).map g) = (v.read shape).map g := by
  rcases h : shape v with _ | a
  · rw [read_of_eq_none h, read_of_eq_none (by rw [h]; rfl)]
    rfl
  · rw [read_of_eq_some h, read_of_eq_some (by rw [h]; rfl)]
    rfl

end Value

/-! ### How values begin -/

/-- The first character tells values of different kinds apart. -/
theorem Value.exists_cons_kind (v : Value) :
    ∃ c cs, v.chars = c :: cs ∧ (c = 'n' → v = .null) ∧ (c = '"' → ∃ strokes, v = .string strokes) ∧
      (c = '-' ∨ c.isDigit = true → ∃ f, v = .number f) ∧
      (c = '[' → ∃ inner items, v = .array inner items) ∧
      (c = '\x7b' → ∃ inner members, v = .object inner members) := by
  cases v with
  | null =>
    exact ⟨_, _, rfl, fun _ ↦ rfl, (absurd · (by decide)), (absurd · (by decide)),
      (absurd · (by decide)), (absurd · (by decide))⟩
  | bool b =>
    cases b <;> exact ⟨_, _, rfl, (absurd · (by decide)), (absurd · (by decide)),
      (absurd · (by decide)), (absurd · (by decide)), (absurd · (by decide))⟩
  | number f =>
    obtain ⟨c, cs, hchars, hc⟩ := f.exists_cons
    obtain ⟨-, hquote, hn, -, -, hbracket, hbrace, -⟩ := ne_of_beginsNumber hc
    exact ⟨c, cs, by rw [Value.chars, hchars], (absurd · hn), (absurd · hquote), fun _ ↦ ⟨f, rfl⟩,
      (absurd · hbracket), (absurd · hbrace)⟩
  | string strokes =>
    exact ⟨_, _, rfl, (absurd · (by decide)), fun _ ↦ ⟨strokes, rfl⟩, (absurd · (by decide)),
      (absurd · (by decide)), (absurd · (by decide))⟩
  | array inner items =>
    exact ⟨_, _, by rw [Value.chars]; rfl, (absurd · (by decide)), (absurd · (by decide)),
      (absurd · (by decide)), fun _ ↦ ⟨inner, items, rfl⟩, (absurd · (by decide))⟩
  | object inner members =>
    exact ⟨_, _, by rw [Value.chars]; rfl, (absurd · (by decide)), (absurd · (by decide)),
      (absurd · (by decide)), (absurd · (by decide)), fun _ ↦ ⟨inner, members, rfl⟩⟩

/-! ### Values of another shape -/

theorem mismatch_number (f : Figure) {rest : List Char} (h : Ends rest) :
    mismatch (f.chars ++ rest) = (Value.number f).refusal := by
  obtain ⟨c, cs, hchars, hc⟩ := f.exists_cons
  obtain ⟨-, hquote, hn, ht, hf, hbracket, hbrace, -⟩ := ne_of_beginsNumber hc
  have hnumeral := numeral_chars f h
  rw [hchars, List.cons_append] at hnumeral ⊢
  rw [mismatch, if_pos hc, hnumeral, Value.refusal, Value.isOutOfRange]
  · rcases f.numeral.isOutOfRange <;> rfl
  all_goals assumption

/-- A value of another shape is read to its end or refused at its bracket. -/
theorem mismatch_value (v : Value) {rest : List Char} (h : Ends rest) :
    mismatch (v.chars ++ rest) = v.refusal := by
  cases v with
  | null =>
    have hword : word ['u', 'l', 'l'] ('u' :: 'l' :: 'l' :: rest) = .ok ((), rest) :=
      word_append ['u', 'l', 'l'] rest
    simp only [Value.chars, List.cons_append, List.nil_append, mismatch, hword]
    rfl
  | bool b =>
    have htrue : word ['r', 'u', 'e'] ('r' :: 'u' :: 'e' :: rest) = .ok ((), rest) :=
      word_append ['r', 'u', 'e'] rest
    have hfalse : word ['a', 'l', 's', 'e'] ('a' :: 'l' :: 's' :: 'e' :: rest) = .ok ((), rest) :=
      word_append ['a', 'l', 's', 'e'] rest
    cases b
    · simp only [Value.chars, List.cons_append, List.nil_append, mismatch, hfalse]
      rfl
    · simp only [Value.chars, List.cons_append, List.nil_append, mismatch, htrue]
      rfl
  | number f => exact mismatch_number f h
  | string strokes =>
    rw [Value.chars, List.cons_append, mismatch]
    simp only [quotedRest_closedChars]
    rfl
  | array inner items =>
    rw [Value.array_append, mismatch]
    rfl
  | object inner members =>
    rw [Value.object_append, mismatch]
    rfl

/-! ### Values without parts -/

theorem natural?_numeral (f : Figure) : f.numeral.natural? = f.plain?.filter (· ≤ wordMax) := by
  have hfraction : f.numeral.fraction.isEmpty = f.fraction.isNone := by
    rcases hf : f.fraction with _ | digits
    · rw [Figure.fraction_numeral_of_eq_none hf]
      rfl
    · rw [Figure.fraction_numeral_of_eq_some hf, List.isEmpty_eq_false_iff.2 digits.ne_nil]
      rfl
  have hpower : f.numeral.exponent.isNone = f.power.isNone := by
    rw [Figure.numeral, Option.isNone_map]
  have hnegative : f.numeral.negative = f.negative := rfl
  have hwhole : f.numeral.whole = f.whole.chars := rfl
  unfold Numeral.natural? Figure.plain?
  rw [hfraction, hpower, hnegative, hwhole]
  rcases f.negative <;> rcases f.fraction <;> rcases f.power <;> simp [Option.filter]

/-- A number that a machine word holds is within every range. -/
theorem isOutOfRange_of_natural? {n : Numeral} {k : ℕ} (h : n.natural? = some k) :
    n.isOutOfRange = false := by
  rw [Numeral.isOutOfRange, h]
  rfl

theorem natural?_of_isOutOfRange {most : ℕ} (hmost : most ≤ wordMax) {f : Figure}
    (h : f.numeral.isOutOfRange = true) : (Value.number f).natural? most = none := by
  refine Option.eq_none_iff_forall_ne_some.2 fun n hn ↦ ?_
  obtain ⟨hplain, hle⟩ := Option.filter_eq_some_iff.1 hn
  have hword : n ≤ wordMax := Nat.le_trans (of_decide_eq_true hle) hmost
  have hnumeral : f.numeral.natural? = some n := by
    rw [natural?_numeral, hplain]
    exact Option.filter_some_pos (decide_eq_true hword)
  rw [isOutOfRange_of_natural? hnumeral] at h
  cases h

/-- A number is read if it is a natural one within bounds, else refused. -/
theorem natural_number {most : ℕ} (hmost : most ≤ wordMax) (f : Figure) (b : Blanks)
    {rest : List Char} (h : Ends rest) :
    Reader.natural most (b.chars ++ ((Value.number f).chars ++ rest)) =
      ((Value.number f).read (Value.natural? most)).map fun n ↦ (n, rest) := by
  obtain ⟨c, cs, hchars, hc⟩ := f.exists_cons
  have hnumeral := numeral_chars f h
  rw [hchars, List.cons_append] at hnumeral
  unfold Reader.natural
  rw [dropBlanks_value, Value.chars, hchars, List.cons_append]
  dsimp only
  rw [if_pos hc, hnumeral]
  rcases hrange : f.numeral.isOutOfRange
  · simp only [Bool.false_eq_true, ↓reduceIte, natural?_numeral, Value.read, Value.natural?,
      Value.refusal, Value.isOutOfRange, hrange]
    rcases f.plain? with _ | n
    · rfl
    · by_cases hn : n ≤ most
      · have hword : n ≤ wordMax := Nat.le_trans hn hmost
        simp [Option.filter, hn, hword, Except.map]
      · by_cases hword : n ≤ wordMax <;> simp [Option.filter, hn, hword, Except.map]
  · rw [Value.read_of_eq_none (natural?_of_isOutOfRange hmost hrange), Value.refusal,
      Value.isOutOfRange, hrange]
    rfl

theorem reads_natural {most : ℕ} (hmost : most ≤ wordMax) :
    Reads (Reader.natural most) (Value.read (Value.natural? most)) := by
  intro v b rest h
  -- Only a number is read; whatever else stands here is told apart by its first character.
  by_cases hv : ∃ f, v = .number f
  · obtain ⟨f, rfl⟩ := hv
    exact natural_number hmost f b h
  · have hmismatch := mismatch_value v h
    have hnone : v.natural? most = none := by
      cases v with
      | number f => exact absurd ⟨f, rfl⟩ hv
      | _ => rfl
    obtain ⟨c, cs, hchars, -, -, hkind, -⟩ := v.exists_cons_kind
    unfold Reader.natural
    rw [dropBlanks_value]
    rw [hchars, List.cons_append] at hmismatch ⊢
    dsimp only
    rw [if_neg fun hc ↦ hv (hkind hc), hmismatch, Value.read_of_eq_none hnone]
    rfl

theorem reads_string : Reads Reader.string (Value.read Value.text?) := by
  intro v b rest h
  have hmismatch := mismatch_value v h
  obtain ⟨c, cs, hchars, -, hkind, -⟩ := v.exists_cons_kind
  unfold Reader.string
  rw [dropBlanks_value]
  by_cases hv : ∃ strokes, v = .string strokes
  · obtain ⟨strokes, rfl⟩ := hv
    rw [Value.chars, List.cons_append]
    simp only [quotedRest_closedChars]
    rfl
  · have hnone : v.text? = none := by
      cases v with
      | string strokes => exact absurd ⟨strokes, rfl⟩ hv
      | _ => rfl
    rw [Value.read_of_eq_none hnone]
    rw [hchars, List.cons_append] at hmismatch ⊢
    split
    · next heq => cases heq
    · next heq => exact absurd (hkind (List.cons.inj heq).1) hv
    · rw [hmismatch]
      rfl

theorem Reads.orNull {r : Reader α} {shape : Value → Option α} (hr : Reads r (Value.read shape)) :
    Reads (Reader.orNull r) (Value.read (Value.orNull? shape)) := by
  intro v b rest h
  obtain ⟨c, cs, hchars, hkind, -⟩ := v.exists_cons_kind
  unfold Reader.orNull
  rw [dropBlanks_value]
  by_cases hv : v = .null
  · subst hv
    have hword : word ['u', 'l', 'l'] ('u' :: 'l' :: 'l' :: rest) = .ok ((), rest) :=
      word_append ['u', 'l', 'l'] rest
    simp only [Value.chars, List.cons_append, List.nil_append, hword]
    rfl
  · have hread : v.read (Value.orNull? shape) = (v.read shape).map some := by
      rw [← Value.read_map, Value.read, Value.orNull?_of_ne_null hv]
      rfl
    have hvalue : r (v.chars ++ rest) = (v.read shape).map fun a ↦ (a, rest) := hr v .none rest h
    rw [hread]
    rw [hchars, List.cons_append] at hvalue ⊢
    split
    · next heq => exact absurd (hkind (List.cons.inj heq).1) hv
    · rw [hvalue]
      rcases v.read shape with fault | a <;> rfl

theorem Reads.map {r : Reader α} {f : Value → Except Fault α} (hr : Reads r f) (g : α → β) :
    Reads (do return g (← r)) fun v ↦ (f v).map g := by
  intro v b rest h
  show (r (b.chars ++ (v.chars ++ rest))).bind _ = _
  rw [hr v b rest h]
  dsimp only
  rcases f v with fault | a <;> rfl

theorem reads_uint64 : Reads Reader.uint64 (Value.read Value.word?) := by
  have hread : Value.read Value.word? =
      fun v ↦ (v.read (Value.natural? wordMax)).map UInt64.ofNat :=
    funext fun v ↦ Value.read_map _ _ v
  rw [hread]
  exact (reads_natural (Nat.le_refl _)).map _

theorem reads_skip (a : α) : Reads (skip *> pure a) fun _ ↦ .ok a := by
  intro v b rest h
  show (skip (b.chars ++ (v.chars ++ rest))).bind _ = _
  rw [skip_value v b h]
  rfl

/-! ### Whole texts -/

/-- A whole text gives what its value gives. -/
theorem Reads.decode_text {r : Reader α} {f : Value → Except Fault α} (hr : Reads r f) (d : Document) :
    decode r d.text = f d.value := by
  have hvalue := hr d.value d.before (d.after.chars ++ []) (ends_append d.after ends_nil)
  have hblanks : dropBlanks (d.after.chars ++ []) = [] := dropBlanks_append d.after []
  rw [List.append_nil] at hvalue hblanks
  unfold decode
  rw [Document.text, String.toList_ofList, hvalue]
  rcases f d.value with fault | a
  · rfl
  · simp only [Except.map, hblanks]

end DeferredLog.Json
