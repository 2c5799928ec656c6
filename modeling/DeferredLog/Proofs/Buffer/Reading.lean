import DeferredLog.Proofs.Buffer.Runs
import Mathlib.Algebra.GroupWithZero.Nat

/-!
# What can be read of the log

A reading by length and a reading over a target go through the same clamp, `range?`, and are
otherwise written apart. Both give the part of the contents that was asked for and is there
(`toList_read`, `readInto_eq`), and everything else about them is read off these two equations: when
nothing comes, what stays of the target, and that readings of one range after the other give what
one reading of all of them gives (`concat_readChunks`).

The clamp subtracts and adds. A machine does so in words; `wordRange?` is that computation with each
step checked, and no check fails on a log whose length is a word (`wordRange?_eq`), for any offset
and any length.
-/

namespace DeferredLog.Buffer

variable {b : Buffer}

/-! ### The clamp in machine words -/

/-- The difference of two words, unless it lies below zero. -/
def minus? (m n : UInt64) : Option UInt64 :=
  if n ≤ m then some (m - n) else none

/-- The sum of two words, unless no word holds it. -/
def plus? (m n : UInt64) : Option UInt64 :=
  if m.toNat + n.toNat < UInt64.size then some (m + n) else none

theorem map_toNat_minus? {m n : UInt64} (h : n.toNat ≤ m.toNat) :
    (minus? m n).map UInt64.toNat = some (m.toNat - n.toNat) := by
  have hle : n ≤ m := UInt64.le_iff_toNat_le.2 h
  rw [minus?, if_pos hle, Option.map_some, UInt64.toNat_sub_of_le m n hle]

theorem map_toNat_plus? {m n : UInt64} (h : m.toNat + n.toNat < UInt64.size) :
    (plus? m n).map UInt64.toNat = some (m.toNat + n.toNat) := by
  rw [plus?, if_pos h, Option.map_some, UInt64.toNat_add, Nat.mod_eq_of_lt h]

/-- The clamp as a machine computes it for a log of `size` bytes. Gives no answer if a step leaves
the words, and otherwise the first and last offset, if there is anything to read. -/
def wordRange? (size offset len : UInt64) : Option (Option (UInt64 × UInt64)) :=
  if size ≤ offset ∨ len = 0 then some none
  else do
    let left ← minus? size offset
    let last ← plus? offset (if len ≤ left then len else left)
    return some (offset, last)

/-- No step of the clamp leaves the words, and they give what the log holds of the request. -/
theorem wordRange?_eq (h : b.contents.size < UInt64.size) (offset len : UInt64) :
    (wordRange? (.ofNat b.contents.size) offset len).map
        (·.map (Prod.map UInt64.toNat UInt64.toNat)) =
      some (b.range? offset.toNat len.toNat) := by
  generalize hsize : UInt64.ofNat b.contents.size = size
  have hlength : b.contents.size = size.toNat := by
    rw [← hsize, UInt64.toNat_ofNat_of_lt' h]
  simp only [wordRange?, range?, hlength, UInt64.le_iff_toNat_le, ← UInt64.toNat_inj,
    UInt64.toNat_zero]
  by_cases hnone : size.toNat ≤ offset.toNat ∨ len.toNat = 0
  · rw [if_pos hnone, if_neg (by omega)]
    rfl
  · rw [if_neg hnone, if_pos (by omega)]
    obtain ⟨left, hminus, hleft⟩ :=
      Option.map_eq_some_iff.1 (map_toNat_minus? (m := size) (n := offset) (by omega))
    have hmin : (if len.toNat ≤ left.toNat then len else left).toNat =
        min len.toNat (size.toNat - offset.toNat) := by
      rw [← hleft]
      split <;> omega
    -- the last offset is no further than the end of the log, which is a word
    obtain ⟨last, hplus, hlast⟩ := Option.map_eq_some_iff.1 <|
      map_toNat_plus? (m := offset) (n := if len.toNat ≤ left.toNat then len else left)
        (by have := size.toNat_lt; omega)
    rw [hminus, Option.bind_eq_bind, Option.bind_some, hplus, Option.bind_some]
    show some (some (offset.toNat, last.toNat)) = _
    rw [hlast, hmin]

/-- What is to be read lies in the log. -/
theorem le_of_range?_eq_some {offset len first last : ℕ}
    (h : b.range? offset len = some (first, last)) : first ≤ last ∧ last ≤ b.contents.size := by
  unfold range? at h
  split at h
  · cases h
    omega
  · cases h

/-! ### Reading by length -/

theorem size_read (b : Buffer) (offset len : ℕ) :
    (b.read offset len).size = min len (b.contents.size - offset) := by
  rw [read_eq_extract, ByteArray.size_extract]
  omega

/-- A reading is the log without what comes before the offset, cut to the length. -/
theorem toList_read (b : Buffer) (offset len : ℕ) :
    (b.read offset len).data.toList = (b.contents.data.toList.drop offset).take len := by
  rw [read_eq_extract, ByteArray.data_extract, Array.toList_extract, List.extract,
    Nat.add_sub_cancel_left]

/-- Nothing comes at the end of the log or beyond, or if nothing was asked for. -/
theorem read_eq_empty_iff {offset len : ℕ} :
    b.read offset len = .empty ↔ b.contents.size ≤ offset ∨ len = 0 := by
  rw [read_eq_extract, ByteArray.extract_eq_empty_iff]
  omega

/-- What a reading gives, by what it could give and not by what was asked for. -/
theorem read_eq_extract_size (b : Buffer) (offset len : ℕ) :
    b.read offset len = b.contents.extract offset (offset + (b.read offset len).size) := by
  rw [size_read, read_eq_extract]
  refine ByteArray.ext ?_
  rw [ByteArray.data_extract, ByteArray.data_extract, Array.extract_eq_extract_right]
  show min _ (b.contents.size - offset) = min _ (b.contents.size - offset)
  omega

/-- Reading on behind what came gives what reading at once gives. -/
theorem read_append_read (b : Buffer) (offset len more : ℕ) :
    b.read offset len ++ b.read (offset + (b.read offset len).size) more =
      b.read offset (len + more) := by
  calc b.read offset len ++ b.read (offset + (b.read offset len).size) more
      = b.contents.extract offset (offset + (b.read offset len).size) ++
          b.contents.extract (offset + (b.read offset len).size)
            (offset + (b.read offset len).size +
              (b.read (offset + (b.read offset len).size) more).size) := by
        rw [← read_eq_extract_size, ← read_eq_extract_size]
    _ = b.contents.extract offset (offset + (b.read offset (len + more)).size) := by
        rw [ByteArray.extract_append_extract, Nat.min_eq_left (Nat.le_add_right _ _),
          Nat.max_eq_right (Nat.le_add_right _ _)]
        congr 1
        simp only [size_read]
        omega
    _ = b.read offset (len + more) := (b.read_eq_extract_size offset (len + more)).symm

/-- Reading on behind what was asked for, whether or not it came, does so as well. -/
theorem read_append_read_add (b : Buffer) (offset len more : ℕ) :
    b.read offset len ++ b.read (offset + len) more = b.read offset (len + more) := by
  refine ByteArray.ext (Array.toList_inj.1 ?_)
  rw [ByteArray.data_append, Array.toList_append, toList_read, toList_read, toList_read,
    List.take_add, List.drop_drop]

/-- Readings of the given lengths, each where the last one was to end. -/
def readChunks (b : Buffer) (offset : ℕ) : List ℕ → List ByteArray
  | [] => []
  | len :: rest => b.read offset len :: b.readChunks (offset + len) rest

/-- Chunk by chunk comes what one reading of all of them gives. -/
theorem concat_readChunks (b : Buffer) (offset : ℕ) (lens : List ℕ) :
    concat (b.readChunks offset lens) = b.read offset lens.sum := by
  induction lens generalizing offset with
  | nil => exact (read_eq_empty_iff.2 (.inr rfl)).symm
  | cons len rest ih =>
    rw [readChunks, concat_cons, ih, List.sum_cons, read_append_read_add]

/-! ### Reading over a target -/

/-- Reading over a target gives the bytes that a reading of its size gives, and leaves the rest of
it as it was. -/
theorem readInto_eq (b : Buffer) (offset : ℕ) (target : ByteArray) :
    b.readInto offset target =
      ((b.read offset target.size).size,
        b.read offset target.size ++
          target.extract (b.read offset target.size).size target.size) := by
  unfold readInto
  by_cases hany : offset < b.contents.size ∧ target.size ≠ 0
  · have hread : b.read offset target.size =
        b.contents.extract offset (offset + min target.size (b.contents.size - offset)) := by
      rw [read, range?, if_pos hany]
    rw [range?, if_pos hany]
    show (_ - offset, b.contents.extract offset _ ++ target.extract (_ - offset) target.size) = _
    rw [← hread, size_read, Nat.add_sub_cancel_left]
  · have hread : b.read offset target.size = .empty := by
      rw [read, range?, if_neg hany]
    rw [range?, if_neg hany, hread, ByteArray.size_empty, ByteArray.empty_append,
      ByteArray.extract_zero_size]

/-- The target afterwards: the bytes read lie in front, and behind them it is as it was. -/
theorem toList_readInto (b : Buffer) (offset : ℕ) (target : ByteArray) :
    let read := b.read offset target.size
    (b.readInto offset target).2.data.toList.take read.size = read.data.toList ∧
    (b.readInto offset target).2.data.toList.drop read.size =
      target.data.toList.drop read.size := by
  intro read
  have hlength : read.data.toList.length = read.size := Array.length_toList
  have hrest : (target.extract read.size target.size).data.toList =
      target.data.toList.drop read.size := by
    rw [ByteArray.data_extract, Array.toList_extract, List.extract]
    refine List.take_of_length_le ?_
    exact Nat.le_of_eq (by rw [List.length_drop, Array.length_toList, ByteArray.size_data])
  rw [readInto_eq, ByteArray.data_append, Array.toList_append]
  exact ⟨List.take_left' hlength, (List.drop_left' hlength).trans hrest⟩

/-! ### All readings of a log -/

/-- A log of any sizing, after any run. Its length is a word, and no step of the clamp leaves the
words or the log. Reading by length gives the log behind the offset, cut to the length, which is
nothing at all exactly at the end or beyond, or for no length; reading over a target gives as much,
and leaves the rest of the target as it was; and in whatever chunks a range is read, they give what
it holds. -/
theorem readings_agree {initial maxEntry : ℕ} {ceiling : Option ℕ}
    (h : allocate initial maxEntry ceiling = .ok b) (steps : List Step) :
    let log := b.run steps
    log.committed < UInt64.size ∧
    (∀ offset len : UInt64,
      (wordRange? (.ofNat log.committed) offset len).map
        (·.map (Prod.map UInt64.toNat UInt64.toNat)) =
          some (log.range? offset.toNat len.toNat)) ∧
    ∀ offset : ℕ,
      (∀ len : ℕ,
        (∀ first last, log.range? offset len = some (first, last) →
          first ≤ last ∧ last ≤ log.committed) ∧
        (log.read offset len).data.toList = (log.contents.data.toList.drop offset).take len ∧
        (log.read offset len = .empty ↔ log.committed ≤ offset ∨ len = 0)) ∧
      (∀ target : ByteArray,
        let n := (log.readInto offset target).1
        n = (log.read offset target.size).size ∧
        (log.readInto offset target).2.size = target.size ∧
        (log.readInto offset target).2.data.toList.take n =
          (log.read offset target.size).data.toList ∧
        (log.readInto offset target).2.data.toList.drop n = target.data.toList.drop n) ∧
      ∀ lens : List ℕ, concat (log.readChunks offset lens) = log.read offset lens.sum := by
  intro log
  have hword : log.committed < UInt64.size :=
    Nat.lt_trans (committed_lt_run h steps) (by decide : addressSpace < UInt64.size)
  rw [show log.committed = log.contents.size from ((sound_of_allocate h).run steps).committed_eq]
    at hword ⊢
  refine ⟨hword, wordRange?_eq hword, fun offset ↦
    ⟨fun len ↦ ⟨fun _ _ ↦ le_of_range?_eq_some, toList_read .., read_eq_empty_iff⟩,
      fun target ↦ ?_, concat_readChunks log offset⟩⟩
  have hcount : (log.readInto offset target).1 = (log.read offset target.size).size := by
    rw [readInto_eq]
  have hsize : (log.readInto offset target).2.size = target.size := by
    rw [readInto_eq, ByteArray.size_append, ByteArray.size_extract, size_read]
    omega
  refine ⟨hcount, hsize, ?_⟩
  rw [hcount]
  exact toList_readInto log offset target

/-- Four bytes are committed when a target of three is filled from the third on, and the longest
words are asked for. -/
theorem readings_agree_of_longest_words :
    let steps : List Step := [.append ⟨#[1, 2, 3]⟩, .append ⟨#[4]⟩]
    ∃ b, allocate 2 8 none = .ok b ∧
      wordRange? (.ofNat (b.run steps).committed) 1 (.ofNat wordMax) = some (some (1, 4)) ∧
      ((b.run steps).read 1 wordMax).data.toList = [2, 3, 4] ∧
      (b.run steps).read wordMax wordMax = .empty ∧
      ((b.run steps).readInto 2 ⟨#[7, 8, 9]⟩).1 = 2 ∧
      ((b.run steps).readInto 2 ⟨#[7, 8, 9]⟩).2.data.toList = [3, 4, 9] ∧
      concat ((b.run steps).readChunks 1 [0, 2, wordMax]) =
        (b.run steps).read 1 (2 + wordMax) := by
  intro steps
  obtain ⟨b, hb⟩ : ∃ b, allocate 2 8 none = .ok b := ⟨_, rfl⟩
  obtain ⟨-, -, rfl⟩ := allocate_eq_ok_iff.1 hb
  refine ⟨_, hb, by decide +kernel, ?_⟩
  obtain ⟨-, -, hread⟩ := readings_agree hb steps
  refine ⟨?_, ?_, by decide +kernel, by decide +kernel, ?_⟩
  · rw [((hread 1).1 wordMax).2.1]
    decide +kernel
  · rw [((hread wordMax).1 wordMax).2.2]
    decide +kernel
  · exact (hread 1).2.2 [0, 2, wordMax]

end DeferredLog.Buffer
