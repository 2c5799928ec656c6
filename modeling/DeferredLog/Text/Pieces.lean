/-!
# The pieces of a text between separators

A text with `n` separators has `n + 1` pieces, some of them empty. `pieces_append` is the rule by
which a written list is read back: a piece without separators, then a separator, then the rest.
-/

namespace DeferredLog.Text

/-- The pieces of a text between separators. -/
def pieces (separator : Char) : List Char → List (List Char)
  | [] => [[]]
  | c :: rest =>
    if c = separator then [] :: pieces separator rest
    else (pieces separator rest).modifyHead (c :: ·)

theorem pieces_of_not_mem {separator : Char} {piece : List Char} (h : separator ∉ piece) :
    pieces separator piece = [piece] := by
  induction piece with
  | nil => rfl
  | cons c rest ih =>
    obtain ⟨hc, hrest⟩ : separator ≠ c ∧ separator ∉ rest := by simpa using h
    simp [pieces, Ne.symm hc, ih hrest]

/-- A piece without separators stands in front of the pieces behind the next separator. -/
theorem pieces_append {separator : Char} {piece : List Char} (h : separator ∉ piece)
    (rest : List Char) :
    pieces separator (piece ++ separator :: rest) = piece :: pieces separator rest := by
  induction piece with
  | nil => simp [pieces]
  | cons c more ih =>
    obtain ⟨hc, hmore⟩ : separator ≠ c ∧ separator ∉ more := by simpa using h
    simp [pieces, Ne.symm hc, ih hmore]

end DeferredLog.Text
