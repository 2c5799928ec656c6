import DeferredLog.Cursor
import DeferredLog.Proofs.Buffer.Reading
import Mathlib.Algebra.Ring.Nat

/-!
# What a reading takes

Whichever way a cursor reads, it takes the committed bytes from its position on, as many as were
asked for and are there, and stands behind them afterwards (`taken_eq`, `follow_eq`). The ways
differ only in what is asked for (`asked`) and in what the reader is told: a reading of an exact
number or of text can fail, and has then taken the bytes all the same.

Both primitives of the log give the same bytes (`Buffer.readInto_eq`), so a reading over a target
and one by length are not told apart below.

A stream that is read to its end is read piece by piece until a piece comes back empty, and one that
is to fill a target likewise. In whatever pieces, this takes what one reading takes
(`readPieces_eq`), so one reading stands for it.
-/

namespace DeferredLog

/-- What a reader does with its cursor. -/
inductive Reading where
  | read (len : ℕ)
  /-- Also the reading of a stream to its end. -/
  | readRemaining
  | readInto (target : ByteArray)
  | readExact (len : ℕ)
  | readText
  | seek (offset : ℤ) (base : Origin)
  | seekStream (position : Cursor.StreamPosition)
  deriving DecidableEq

/-- Whether it moves the cursor without reading. -/
def Reading.isSeek : Reading → Bool
  | .seek .. | .seekStream _ => true
  | _ => false

/-! ### The readings of a cursor -/

namespace Cursor

/-- Where a reading leaves the cursor. -/
def follow (c : Cursor) (b : Buffer) : Reading → Cursor
  | .read len => (c.read b len).2
  | .readRemaining => (c.readRemaining b).2
  | .readInto target => (c.readInto b target).2.2
  | .readExact len => (c.readExact b len).2
  | .readText => (c.readText b).2
  | .seek offset base => (c.seek b offset base).2
  | .seekStream position => (c.seekStream b position).2

/-- The bytes that a reading takes off the log. If it fails they are lost to the reader. -/
def taken (c : Cursor) (b : Buffer) : Reading → ByteArray
  | .read len => (c.read b len).1
  | .readRemaining => (c.readRemaining b).1
  | .readInto target => (c.readInto b target).2.1.extract 0 (c.readInto b target).1
  | .readExact len => (c.read b len).1
  | .readText => (c.readRemaining b).1
  | .seek .. | .seekStream _ => .empty

/-- How many bytes a reading asks for. -/
def asked (c : Cursor) (b : Buffer) : Reading → ℕ
  | .read len | .readExact len => len
  | .readInto target => target.size
  | .readRemaining | .readText => b.committed - c.position
  | .seek .. | .seekStream _ => 0

variable {c : Cursor} {b : Buffer}

/-- All ways of reading take the bytes that were asked for, as far as the log holds them. -/
theorem taken_eq (r : Reading) : c.taken b r = b.read c.position (c.asked b r) := by
  cases r with
  | read len | readRemaining | readExact len | readText => rfl
  | readInto target =>
    show (b.readInto c.position target).2.extract 0 (b.readInto c.position target).1 = _
    rw [Buffer.readInto_eq]
    exact ByteArray.extract_append_eq_left rfl
  | seek offset base | seekStream position =>
    show ByteArray.empty = b.read c.position 0
    rw [Buffer.read_eq_extract, Nat.add_zero, ByteArray.extract_same]

theorem size_taken (r : Reading) :
    (c.taken b r).size = min (c.asked b r) (b.contents.size - c.position) := by
  rw [taken_eq, Buffer.size_read]

/-- What was taken, as it stands in the log. -/
theorem taken_eq_extract (r : Reading) :
    c.taken b r = b.contents.extract c.position (c.position + (c.taken b r).size) := by
  rw [taken_eq]
  exact b.read_eq_extract_size _ _

/-- A reading leaves the cursor behind what it took, whether or not it fails. -/
theorem follow_eq {r : Reading} (h : r.isSeek = false) :
    c.follow b r = ⟨c.position + (c.taken b r).size⟩ := by
  cases r with
  | read len | readRemaining | readExact len | readText => rfl
  | readInto target =>
    show (⟨c.position + (b.readInto c.position target).1⟩ : Cursor) = _
    rw [taken_eq, Buffer.readInto_eq]
    rfl
  | seek offset base | seekStream position => cases h

/-! ### What the reader is told -/

theorem read_eq (len : ℕ) :
    c.read b len =
      (b.contents.extract c.position (c.position + len),
        ⟨c.position + min len (b.contents.size - c.position)⟩) := by
  rw [← Buffer.read_eq_extract, ← Buffer.size_read]
  rfl

/-- Readings that ask for all that is left, or more, read the same. -/
theorem read_eq_read {len more : ℕ} (hlen : b.contents.size - c.position ≤ len)
    (hmore : b.contents.size - c.position ≤ more) : c.read b len = c.read b more := by
  have hsame : b.read c.position len = b.read c.position more := by
    rw [b.read_eq_extract_size c.position len, b.read_eq_extract_size c.position more,
      Buffer.size_read, Buffer.size_read]
    congr 2
    omega
  rw [read, read, hsame]

/-- What remains is as much as the log holds behind the cursor, as that is what it published. -/
theorem readRemaining_eq_read (h : b.Sound) :
    c.readRemaining b = c.read b (b.contents.size - c.position) := by
  rw [readRemaining, h.committed_eq]

/-- Reads piece by piece and stops behind a piece that comes back empty. -/
def readPieces (c : Cursor) (b : Buffer) : List ℕ → ByteArray × Cursor
  | [] => (.empty, c)
  | len :: rest =>
    let piece := c.read b len
    if piece.1.size = 0 then piece
    else
      let more := piece.2.readPieces b rest
      (piece.1 ++ more.1, more.2)

/-- In whatever pieces a stream is read, none of them of nothing, it is read as if at once. -/
theorem readPieces_eq {sizes : List ℕ} (h : ∀ len ∈ sizes, len ≠ 0) :
    c.readPieces b sizes = c.read b sizes.sum := by
  induction sizes generalizing c with
  | nil =>
    show (ByteArray.empty, c) = c.read b 0
    rw [read_eq, Nat.add_zero, ByteArray.extract_same, Nat.zero_min, Nat.add_zero]
  | cons len rest ih =>
    have hlen := h len List.mem_cons_self
    have hrest := @ih (c.read b len).2 fun more hmore ↦ h more (List.mem_cons_of_mem _ hmore)
    rw [readPieces, List.sum_cons]
    by_cases hnone : (c.read b len).1.size = 0
    · -- nothing comes since the cursor is at the end, so a longer reading gives nothing either
      have hend : min len (b.contents.size - c.position) = 0 :=
        (Buffer.size_read b c.position len).symm.trans hnone
      simp only [hnone, if_true]
      exact read_eq_read (by omega) (by omega)
    · simp only [hnone, if_false, hrest]
      simp only [read, ← b.read_append_read c.position len, ByteArray.size_append, Nat.add_assoc]

theorem readInto_eq (target : ByteArray) :
    c.readInto b target =
      (min target.size (b.contents.size - c.position),
        b.contents.extract c.position (c.position + target.size) ++
          target.extract (min target.size (b.contents.size - c.position)) target.size,
        ⟨c.position + min target.size (b.contents.size - c.position)⟩) := by
  rw [← Buffer.read_eq_extract, ← Buffer.size_read]
  show ((b.readInto c.position target).1, (b.readInto c.position target).2, (⟨_ + _⟩ : Cursor)) = _
  rw [Buffer.readInto_eq]

/-- A reading of an exact number fails if fewer bytes are left. -/
theorem readExact_eq (len : ℕ) :
    c.readExact b len =
      (if len ≤ b.contents.size - c.position then
          .ok (b.contents.extract c.position (c.position + len))
        else .error .unexpectedEnd,
        ⟨c.position + min len (b.contents.size - c.position)⟩) := by
  have hsize : (c.read b len).1.size = min len (b.contents.size - c.position) := Buffer.size_read ..
  show (if (c.read b len).1.size = len then Except.ok (c.read b len).1
    else .error StreamFault.unexpectedEnd, (c.read b len).2) = _
  by_cases hleft : len ≤ b.contents.size - c.position
  · rw [if_pos (by omega), if_pos hleft, read_eq]
  · rw [if_neg (by omega), if_neg hleft, read_eq]

/-- A reading of text fails if the rest is no text. -/
theorem readText_eq :
    c.readText b =
      (if h : (c.readRemaining b).1.IsValidUTF8 then .ok (String.fromUTF8 _ h)
        else .error .invalidText,
        (c.readRemaining b).2) := by
  unfold readText String.fromUTF8?
  by_cases hvalid : (c.readRemaining b).1.IsValidUTF8
  · simp only [dif_pos hvalid]
  · simp only [dif_neg hvalid]

/-- A reading of text gives the text whose bytes it took. -/
theorem fst_readText_eq_ok_iff {text : String} :
    (c.readText b).1 = .ok text ↔ text.toUTF8 = (c.readRemaining b).1 := by
  rw [readText_eq]
  by_cases hvalid : (c.readRemaining b).1.IsValidUTF8
  · rw [dif_pos hvalid]
    refine ⟨?_, fun h ↦ congrArg Except.ok (String.toByteArray_inj.1 h.symm)⟩
    rintro ⟨⟩
    rfl
  · rw [dif_neg hvalid]
    exact ⟨nofun, fun h ↦ absurd (h ▸ text.isValidUTF8) hvalid⟩

theorem fst_readText_eq_error_iff {fault : StreamFault} :
    (c.readText b).1 = .error fault ↔
      fault = .invalidText ∧ ¬ (c.readRemaining b).1.IsValidUTF8 := by
  rw [readText_eq]
  by_cases hvalid : (c.readRemaining b).1.IsValidUTF8
  · rw [dif_pos hvalid]
    exact ⟨nofun, fun h ↦ absurd hvalid h.2⟩
  · rw [dif_neg hvalid]
    refine ⟨?_, fun h ↦ congrArg Except.error h.1.symm⟩
    rintro ⟨⟩
    exact ⟨rfl, hvalid⟩

end Cursor

end DeferredLog
