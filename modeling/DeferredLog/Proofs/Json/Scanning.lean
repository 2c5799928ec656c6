import DeferredLog.Proofs.Json.Document
import Mathlib.Data.List.TakeDrop

/-!
# Reading what was written

The readers of blanks, words, quoted texts and numbers take exactly what was written and leave the
rest. For a number that depends on what comes behind it: a digit, a point or an exponent would go on
with it. Behind a value in a document none of these can stand (`Ends`, `ends_append`).
-/

namespace DeferredLog.Json

/-! ### Blanks and words -/

theorem dropBlanks_append (b : Blanks) (cs : List Char) :
    dropBlanks (b.chars ++ cs) = dropBlanks cs :=
  List.dropWhile_append_of_pos b.isBlank_of_mem

theorem dropBlanks_cons {c : Char} (h : isBlank c = false) (cs : List Char) :
    dropBlanks (c :: cs) = c :: cs :=
  List.dropWhile_cons_of_neg (Bool.eq_false_iff.1 h)

theorem dropBlanks_append_cons (b : Blanks) {c : Char} (h : isBlank c = false) (cs : List Char) :
    dropBlanks (b.chars ++ c :: cs) = c :: cs := by
  rw [dropBlanks_append, dropBlanks_cons h]

theorem word_append (letters rest : List Char) : word letters (letters ++ rest) = .ok ((), rest) := by
  induction letters with
  | nil => rfl
  | cons c letters ih =>
    rw [List.cons_append, word, if_pos rfl]
    exact ih

/-! ### Quoted texts -/

theorem hexQuad_append (q : Quad) (rest : List Char) : hexQuad (q.chars ++ rest) = .ok q.value := by
  show hexQuad (q.a :: q.b :: q.c :: q.d :: rest) = _
  rw [hexQuad, q.hexNumber?_eq]

/-- The number of a first half is not that of a second. -/
theorem isLowSurrogate_of_isHighSurrogate {n : ℕ} (h : isHighSurrogate n = true) :
    isLowSurrogate n = false := by
  unfold isHighSurrogate at h
  unfold isLowSurrogate
  simp only [Bool.and_eq_true, decide_eq_true_iff] at h
  simp only [Bool.and_eq_false_iff, decide_eq_false_iff_not]
  omega

theorem escapedCharOf_unit {q : Quad} (hhigh : isHighSurrogate q.value = false)
    (hlow : isLowSurrogate q.value = false) (rest : List Char) :
    escapedCharOf ('u' :: (q.chars ++ rest)) = .ok (Char.ofNat q.value, 5) := by
  rw [escapedCharOf, numberedChar, hexQuad_append]
  dsimp only
  rw [hlow, hhigh]
  rfl

theorem escapedCharOf_pair {high low : Quad} (hhigh : isHighSurrogate high.value = true)
    (hlow : isLowSurrogate low.value = true) (rest : List Char) :
    escapedCharOf ('u' :: (high.chars ++ '\\' :: 'u' :: (low.chars ++ rest))) =
      .ok (Char.ofNat (0x10000 + (high.value - 0xd800) * 0x400 + (low.value - 0xdc00)), 11) := by
  have hdrop : (high.chars ++ '\\' :: 'u' :: (low.chars ++ rest)).drop 4 =
      '\\' :: 'u' :: (low.chars ++ rest) := rfl
  rw [escapedCharOf, numberedChar, hexQuad_append]
  dsimp only
  rw [isLowSurrogate_of_isHighSurrogate hhigh, hhigh, hdrop]
  simp only [Bool.false_eq_true, ↓reduceIte]
  rw [hexQuad_append]
  simp only [hlow, ↓reduceIte]
  generalize Char.ofNat _ = c
  rfl

theorem unescape?_u : unescape? 'u' = none := by decide

theorem escapedCharOf_letter {l c : Char} (h : unescape? l = some c) (rest : List Char) :
    escapedCharOf (l :: rest) = .ok (c, 1) := by
  unfold escapedCharOf
  split
  · next heq => cases heq
  · next heq =>
    cases heq
    cases unescape?_u.symm.trans h
  · next heq =>
    cases heq
    rw [h]

/-- The closing quote ends a text. -/
theorem quotedRest_quote (rest : List Char) : quotedRest ('"' :: rest) = .ok ([], rest) := by
  rw [quotedRest]

theorem pair_append {high low : Quad} (hhigh : isHighSurrogate high.value = true)
    (hlow : isLowSurrogate low.value = true) (rest : List Char) :
    (Stroke.pair high low hhigh hlow).chars ++ rest =
      '\\' :: 'u' :: (high.chars ++ '\\' :: 'u' :: (low.chars ++ rest)) :=
  congrArg (fun cs ↦ '\\' :: 'u' :: cs) (List.append_assoc _ _ _)

/-- A character of a quoted text is read however it was written. -/
theorem quotedRest_stroke (s : Stroke) (rest : List Char) :
    quotedRest (s.chars ++ rest) = (quotedRest rest).map fun r ↦ (s.value :: r.1, r.2) := by
  cases s with
  | plain c hquote hbackslash hcontrol =>
    show quotedRest (c :: rest) = _
    rw [quotedRest.eq_def]
    split
    · next heq => cases heq
    · next heq => exact absurd (List.cons.inj heq).1 hquote
    · next heq => exact absurd (List.cons.inj heq).1 hbackslash
    · next heq =>
      obtain ⟨rfl, rfl⟩ := List.cons.inj heq
      rw [if_neg (Nat.not_lt.2 hcontrol)]
      rfl
  | letter l c hletter =>
    show quotedRest ('\\' :: l :: rest) = _
    rw [quotedRest, escapedCharOf_letter hletter]
    rfl
  | unit q hhigh hlow =>
    show quotedRest ('\\' :: 'u' :: (q.chars ++ rest)) = _
    rw [quotedRest, escapedCharOf_unit hhigh hlow]
    rfl
  | pair high low hhigh hlow =>
    rw [pair_append, quotedRest, escapedCharOf_pair hhigh hlow]
    rfl

theorem closedChars_cons (s : Stroke) (strokes : List Stroke) (rest : List Char) :
    closedChars (s :: strokes) ++ rest = s.chars ++ (closedChars strokes ++ rest) := by
  rw [closedChars, closedChars, List.flatMap_cons, List.append_assoc, List.append_assoc,
    List.append_assoc]

theorem quotedRest_closedChars (strokes : List Stroke) (rest : List Char) :
    quotedRest (closedChars strokes ++ rest) = .ok (strokes.map Stroke.value, rest) := by
  induction strokes with
  | nil => exact quotedRest_quote rest
  | cons s strokes ih =>
    rw [closedChars_cons, quotedRest_stroke, ih]
    rfl

theorem escapeLength_letter {l c : Char} (h : unescape? l = some c) (rest : List Char) :
    escapeLength (l :: rest) = .ok 1 := by
  unfold escapeLength
  split
  · next heq => cases heq
  · next heq =>
    cases heq
    cases unescape?_u.symm.trans h
  · next heq =>
    cases heq
    rw [h]
    rfl

theorem escapeLength_unit (q : Quad) (rest : List Char) :
    escapeLength ('u' :: (q.chars ++ rest)) = .ok 5 := by
  rw [escapeLength, hexQuad_append]
  rfl

/-- A character is passed over however it was written, a pair in its two halves. -/
theorem skipQuoted_stroke (s : Stroke) (rest : List Char) :
    skipQuoted (s.chars ++ rest) = skipQuoted rest := by
  cases s with
  | plain c hquote hbackslash hcontrol =>
    show skipQuoted (c :: rest) = _
    rw [skipQuoted.eq_def]
    split
    · next heq => cases heq
    · next heq => exact absurd (List.cons.inj heq).1 hquote
    · next heq => exact absurd (List.cons.inj heq).1 hbackslash
    · next heq =>
      obtain ⟨rfl, rfl⟩ := List.cons.inj heq
      rw [if_neg (Nat.not_lt.2 hcontrol)]
  | letter l c hletter =>
    show skipQuoted ('\\' :: l :: rest) = _
    rw [skipQuoted, escapeLength_letter hletter]
    rfl
  | unit q hhigh hlow =>
    show skipQuoted ('\\' :: 'u' :: (q.chars ++ rest)) = _
    rw [skipQuoted, escapeLength_unit]
    rfl
  | pair high low hhigh hlow =>
    rw [pair_append, skipQuoted, escapeLength_unit]
    show skipQuoted ('\\' :: 'u' :: (low.chars ++ rest)) = _
    rw [skipQuoted, escapeLength_unit]
    rfl

theorem skipQuoted_closedChars (strokes : List Stroke) (rest : List Char) :
    skipQuoted (closedChars strokes ++ rest) = .ok rest := by
  induction strokes with
  | nil =>
    show skipQuoted ('"' :: rest) = _
    rw [skipQuoted]
  | cons s strokes ih => rw [closedChars_cons, skipQuoted_stroke, ih]

/-! ### Numbers -/

/-- Nothing at the front of the text goes on with a number before it. -/
def Ends (rest : List Char) : Prop :=
  ∀ c ∈ rest.head?, c.isDigit = false ∧ c ≠ '.' ∧ c ≠ 'e' ∧ c ≠ 'E'

theorem ends_nil : Ends [] := nofun

/-- The marks between values go on with no number. -/
theorem ends_cons {mark : Char} (hmark : mark ∈ [',', ']', '\x7d']) (rest : List Char) :
    Ends (mark :: rest) := by
  intro c hc
  obtain rfl := Option.some.inj hc
  simp only [List.mem_cons, List.not_mem_nil, or_false] at hmark
  rcases hmark with rfl | rfl | rfl <;> decide

/-- Neither do blanks. -/
theorem ends_append (b : Blanks) {rest : List Char} (h : Ends rest) : Ends (b.chars ++ rest) := by
  intro c hc
  rcases hchars : b.chars with _ | ⟨first, more⟩
  · rw [hchars] at hc
    exact h c hc
  · rw [hchars] at hc
    obtain rfl := Option.some.inj hc
    have hblank := b.isBlank_of_mem first (hchars ▸ List.mem_cons_self)
    simp only [isBlank, Bool.or_eq_true, decide_eq_true_iff] at hblank
    rcases hblank with ((rfl | rfl) | rfl) | rfl <;> decide

/-- Behind a value come more values or the closing bracket. -/
theorem ends_behindCommas (b : Blanks) (texts : List (List Char)) {c : Char}
    (hc : c ∈ [']', '\x7d']) (rest : List Char) :
    Ends (b.chars ++ (behindCommas texts ++ c :: rest)) := by
  rcases texts with _ | ⟨text, texts⟩
  · exact ends_append b (ends_cons (List.mem_cons_of_mem _ hc) rest)
  · rw [behindCommas_cons]
    exact ends_append b (ends_cons List.mem_cons_self _)

theorem Digits.exists_cons (digits : Digits) :
    ∃ d ds, digits.chars = d :: ds ∧ d.isDigit = true := by
  obtain ⟨d, ds, hchars⟩ := List.exists_cons_of_ne_nil digits.ne_nil
  exact ⟨d, ds, hchars, digits.isDigit_of_mem d (hchars ▸ List.mem_cons_self)⟩

theorem digitsOf_append (digits : Digits) {rest : List Char}
    (h : ∀ c ∈ rest.head?, c.isDigit = false) :
    digitsOf (digits.chars ++ rest) = (digits.chars, rest) := by
  have hnone : rest.takeWhile Char.isDigit = [] ∧ rest.dropWhile Char.isDigit = rest := by
    rcases rest with _ | ⟨c, rest⟩
    · exact ⟨rfl, rfl⟩
    · have hc := Bool.eq_false_iff.1 (h c rfl)
      exact ⟨List.takeWhile_cons_of_neg hc, List.dropWhile_cons_of_neg hc⟩
  rw [digitsOf, List.span_eq_takeWhile_dropWhile, List.takeWhile_append_of_pos digits.isDigit_of_mem,
    List.dropWhile_append_of_pos digits.isDigit_of_mem, hnone.1, hnone.2, List.append_nil]

namespace Numeral

variable {n : Numeral} {rest : List Char}

theorem scanExponent_of_ends (atEnd : Fault) (h : Ends rest) :
    scanExponent atEnd n rest = .ok (n, rest) := by
  rcases rest with _ | ⟨c, rest⟩
  · rfl
  · obtain ⟨-, -, he, hE⟩ := h c rfl
    unfold scanExponent
    exact if_neg (not_or.2 ⟨he, hE⟩)

/-- Digits follow a sign or stand alone. -/
theorem scanExponent_chars (atEnd : Fault) (e : Power) (h : Ends rest) :
    scanExponent atEnd n (e.chars ++ rest) =
      .ok ({ n with exponent := some (e.sign = some true, e.digits.chars) }, rest) := by
  obtain ⟨d, ds, hchars, hdigit⟩ := e.digits.exists_cons
  have hdigits : digitsOf (e.digits.chars ++ rest) = (e.digits.chars, rest) :=
    digitsOf_append e.digits fun c hc ↦ (h c hc).1
  have hmark : (if e.capital then 'E' else 'e') = 'e' ∨ (if e.capital then 'E' else 'e') = 'E' := by
    cases e.capital
    · exact Or.inl rfl
    · exact Or.inr rfl
  rw [hchars] at hdigits
  rw [Power.chars, Power.signChars, List.cons_append, hchars]
  unfold scanExponent
  dsimp only
  rw [if_pos hmark]
  -- Without a sign the first digit stands where one would, and must not be taken for it.
  rcases hsign : e.sign with _ | _ | _
  · have hplus : d ≠ '+' := by
      rintro rfl
      exact absurd hdigit (by decide)
    have hminus : d ≠ '-' := by
      rintro rfl
      exact absurd hdigit (by decide)
    simp only [List.cons_append] at hdigits
    simp [hplus, hminus, hdigits]
  · simp only [List.cons_append] at hdigits
    simp [hdigits]
  · simp only [List.cons_append] at hdigits
    simp [hdigits]

/-- What stands behind the digits before an exponent is no digit and no point. -/
theorem head_powerChars (f : Figure) (h : Ends rest) :
    ∀ c ∈ (f.powerChars ++ rest).head?, c.isDigit = false ∧ c ≠ '.' := by
  intro c hc
  rcases hpower : f.power with _ | e
  · rw [Figure.powerChars_of_eq_none hpower] at hc
    exact ⟨(h c hc).1, (h c hc).2.1⟩
  · rw [Figure.powerChars_of_eq_some hpower] at hc
    obtain rfl : (if e.capital then 'E' else 'e') = c := Option.some.inj hc
    cases e.capital <;> decide

/-- What stands behind the whole part is no digit. -/
theorem head_fractionChars (f : Figure) (h : Ends rest) :
    ∀ c ∈ (f.fractionChars ++ (f.powerChars ++ rest)).head?, c.isDigit = false := by
  intro c hc
  rcases hf : f.fraction with _ | digits
  · rw [Figure.fractionChars_of_eq_none hf] at hc
    exact (head_powerChars f h c hc).1
  · rw [Figure.fractionChars_of_eq_some hf] at hc
    obtain rfl : '.' = c := Option.some.inj hc
    decide

theorem scanExponent_powerChars (atEnd : Fault) (f : Figure) (hn : n.exponent = none)
    (h : Ends rest) :
    scanExponent atEnd n (f.powerChars ++ rest) =
      .ok ({ n with exponent := f.numeral.exponent }, rest) := by
  rw [Figure.numeral]
  rcases hpower : f.power with _ | e
  · rw [Figure.powerChars_of_eq_none hpower, List.nil_append, scanExponent_of_ends atEnd h,
      Option.map_none, ← hn]
  · rw [Figure.powerChars_of_eq_some hpower]
    exact scanExponent_chars atEnd e h

theorem scanFraction_chars (atEnd : Fault) (f : Figure) (hn : n.exponent = none)
    (hfraction : n.fraction = []) (h : Ends rest) :
    scanFraction atEnd n (f.fractionChars ++ (f.powerChars ++ rest)) =
      .ok ({ n with fraction := f.numeral.fraction, exponent := f.numeral.exponent }, rest) := by
  have hhead := head_powerChars f h
  rcases hf : f.fraction with _ | digits
  · rw [Figure.fractionChars_of_eq_none hf, Figure.fraction_numeral_of_eq_none hf, ← hfraction,
      ← scanExponent_powerChars atEnd f hn h, hfraction, List.nil_append]
    rcases hrest : f.powerChars ++ rest with _ | ⟨c, cs⟩
    · rfl
    · have hpoint : c ≠ '.' := (hhead c (hrest ▸ rfl)).2
      unfold scanFraction
      split
      · next heq => exact absurd (List.cons.inj heq).1 hpoint
      · rfl
  · obtain ⟨d, ds, hchars, -⟩ := digits.exists_cons
    have hdigits : digitsOf (d :: ds ++ (f.powerChars ++ rest)) = (d :: ds, f.powerChars ++ rest) :=
      hchars ▸ digitsOf_append digits fun c hc ↦ (hhead c hc).1
    rw [Figure.fractionChars_of_eq_some hf, Figure.fraction_numeral_of_eq_some hf, hchars,
      List.cons_append, scanFraction, hdigits]
    exact scanExponent_powerChars atEnd f (n := { n with fraction := d :: ds }) hn h

/-- A number is taken apart, whatever comes behind it. -/
theorem scan_chars (atEnd : Fault) (f : Figure) (h : Ends rest) :
    scan atEnd (f.chars ++ rest) = .ok (f.numeral, rest) := by
  obtain ⟨d, ds, hchars, hdigit⟩ := f.whole.exists_cons
  let tail := f.fractionChars ++ (f.powerChars ++ rest)
  have hdigits : digitsOf (d :: ds ++ tail) = (d :: ds, tail) := by
    rw [← hchars]
    exact digitsOf_append f.whole (head_fractionChars f h)
  have hfraction : scanFraction atEnd { negative := f.negative, whole := d :: ds } tail =
      .ok (f.numeral, rest) := by
    rw [scanFraction_chars atEnd f rfl rfl h, ← hchars]
    rfl
  have htext : f.chars ++ rest = (if f.negative then ['-'] else []) ++ (d :: ds ++ tail) := by
    rw [Figure.chars, hchars, List.append_assoc, List.append_assoc, List.append_assoc]
  unfold scan
  split
  next negative cs hsign =>
    -- A text without a sign begins with a digit, so no sign is found where none was written.
    obtain ⟨rfl, rfl⟩ : negative = f.negative ∧ cs = d :: ds ++ tail := by
      rw [htext] at hsign
      generalize f.negative = minus at hsign ⊢
      rcases minus with _ | _
      · split at hsign
        · next heq =>
          obtain rfl : d = '-' := (List.cons.inj heq).1
          exact absurd hdigit (by decide)
        · cases hsign
          exact ⟨rfl, rfl⟩
      · cases hsign
        exact ⟨rfl, rfl⟩
    rw [hdigits]
    split
    · next heq => cases heq
    · next heq =>
      obtain ⟨rfl, rfl⟩ := List.cons.inj (Prod.mk.inj heq).1
      cases f.eq_nil_of_whole_eq _ hchars
    · next heq =>
      cases heq
      exact hfraction

end Numeral

/-- A number is read unless it is beyond the range of double precision. -/
theorem numeral_chars (f : Figure) {rest : List Char} (h : Ends rest) :
    numeral (f.chars ++ rest) =
      if f.numeral.isOutOfRange then .error .malformed else .ok (f.numeral, rest) := by
  rw [numeral, Numeral.scan_chars .truncated f h]

end DeferredLog.Json
