import DeferredLog.Cell
import Mathlib.Algebra.Group.Nat.Defs

/-!
# Formatting in bounded room is cutting

However an entry is split into parts, the draft holds the first bytes of their concatenation: as
many as there is room for. So formatting into a cell and publishing the whole text come to the same
(`Cell.write_eq_of_entry?_eq_some`), and later theory speaks of whole entries and `Draft.cut` only.

The invariant is `Draft.Cuts`: the draft holds the cut of everything that was put so far, and its
mark tells whether that was cut. `Cuts.put` keeps it part by part, `Cuts.run` over a list of parts.
-/

namespace DeferredLog

namespace Part

/-! ### The text of a list of parts -/

/-- The bytes of all parts before the first that ends the formatting. -/
def joined : List Part → ByteArray
  | [] => .empty
  | part :: rest =>
    match part.bytes? with
    | some added => added ++ joined rest
    | none => .empty

/-- Whether the producer breaks down before the formatting has ended. -/
def breaks : List Part → Bool
  | [] => false
  | part :: rest =>
    match part.bytes? with
    | some _ => breaks rest
    | none => part == .breakdown

/-- The whole entry that the parts make, unless the producer breaks down. -/
def entry? (parts : List Part) : Option ByteArray :=
  if breaks parts then none else some (joined parts)

/-- Only two parts end the formatting. -/
theorem eq_fail_or_breakdown_of_bytes? {part : Part} (h : part.bytes? = none) :
    part = .fail ∨ part = .breakdown := by
  cases part with
  | fail => exact Or.inl rfl
  | breakdown => exact Or.inr rfl
  | text s => cases h
  | char c => cases h
  | bytes b => cases h
  | number n => cases h

/-- A producer breaks down after whatever it has written. -/
theorem breaks_iff {parts : List Part} :
    breaks parts = true ↔ ∃ written rest, parts = written ++ .breakdown :: rest ∧
      ∀ part ∈ written, part.bytes?.isSome = true := by
  induction parts with
  | nil => simp [breaks]
  | cons part rest ih =>
    cases hp : part.bytes? with
    | some added =>
      rw [breaks, hp]
      refine ih.trans ⟨?_, ?_⟩
      · rintro ⟨written, after, rfl, hwritten⟩
        exact ⟨part :: written, after, rfl,
          List.forall_mem_cons.2 ⟨Option.isSome_of_eq_some hp, hwritten⟩⟩
      · rintro ⟨_ | ⟨first, written⟩, after, heq, hwritten⟩
        · obtain ⟨rfl, -⟩ := List.cons.inj heq
          cases hp
        · obtain ⟨-, rfl⟩ := List.cons.inj heq
          exact ⟨written, after, rfl, (List.forall_mem_cons.1 hwritten).2⟩
    | none =>
      rw [breaks, hp]
      refine beq_iff_eq.trans ⟨?_, ?_⟩
      · rintro rfl
        exact ⟨[], rest, rfl, nofun⟩
      · rintro ⟨_ | ⟨first, written⟩, after, heq, hwritten⟩
        · exact (List.cons.inj heq).1
        · obtain ⟨rfl, -⟩ := List.cons.inj heq
          have hfirst := (List.forall_mem_cons.1 hwritten).1
          rw [hp] at hfirst
          cases hfirst

theorem entry?_eq_none_iff {parts : List Part} :
    entry? parts = none ↔ ∃ written rest, parts = written ++ .breakdown :: rest ∧
      ∀ part ∈ written, part.bytes?.isSome = true := by
  rw [← breaks_iff, entry?]
  cases breaks parts with
  | true => exact iff_of_true rfl rfl
  | false => exact iff_of_false nofun nofun

end Part

namespace Draft

/-- The first `room` bytes of an entry, or all of it if it is shorter. -/
def cut (room : ℕ) (entry : ByteArray) : ByteArray :=
  entry.extract 0 room

@[simp] theorem size_cut (room : ℕ) (entry : ByteArray) :
    (cut room entry).size = min entry.size room := by
  rw [cut, ByteArray.size_extract]
  omega

/-- Cutting at the entry's own end does nothing more. -/
theorem extract_min_size (room : ℕ) (entry : ByteArray) :
    entry.extract 0 (min entry.size room) = cut room entry := by
  rcases Nat.le_total room entry.size with h | h
  · rw [Nat.min_eq_right h, cut]
  · have hall : entry.extract 0 (max room entry.size) = entry := ByteArray.extract_zero_max_size
    rw [Nat.min_eq_left h, ByteArray.extract_zero_size, cut, ← Nat.max_eq_left h, hall]

/-! ### The invariant of formatting -/

/-- The draft holds the cut of `whole` and knows whether anything was cut. -/
structure Cuts (d : Draft) (whole : ByteArray) : Prop where
  bytes_eq : d.bytes = cut d.capacity whole
  truncated_eq : d.truncated = decide (d.capacity < whole.size)

theorem cuts_empty (capacity : ℕ) : ({ capacity } : Draft).Cuts .empty where
  bytes_eq := by
    refine (ByteArray.size_eq_zero_iff.1 ?_).symm
    rw [size_cut, ByteArray.size_empty, Nat.zero_min]
  truncated_eq := by simp

variable {d : Draft} {whole : ByteArray}

/-- The room left beside a cut is the room left beside the whole. -/
theorem Cuts.remaining_eq (h : d.Cuts whole) : d.remaining = d.capacity - whole.size := by
  rw [remaining, h.bytes_eq, size_cut]
  omega

theorem Cuts.put (h : d.Cuts whole) (added : ByteArray) : (d.put added).Cuts (whole ++ added) where
  bytes_eq := by
    show d.bytes ++ added.extract 0 d.remaining = (whole ++ added).extract 0 d.capacity
    rw [h.remaining_eq, h.bytes_eq, cut, ByteArray.extract_append, Nat.zero_sub]
  truncated_eq := by
    show (d.truncated || decide (d.remaining < added.size)) =
      decide (d.capacity < (whole ++ added).size)
    rw [h.remaining_eq, h.truncated_eq, ByteArray.size_append, ← Bool.decide_or, decide_eq_decide]
    -- a whole that was cut leaves no room, but an empty part does not mark it again
    omega

/-- Running the parts cuts the text that they add. -/
theorem Cuts.run (h : d.Cuts whole) (parts : List Part) :
    (d.run parts).2.Cuts (whole ++ Part.joined parts) := by
  induction parts generalizing d whole with
  | nil => rwa [Draft.run, Part.joined, ByteArray.append_empty]
  | cons part rest ih =>
    cases hp : part.bytes? with
    | some added =>
      rw [run_cons_of_bytes? hp, Part.joined, hp]
      have hrest := ih (h.put added)
      rwa [ByteArray.append_assoc] at hrest
    | none =>
      have hsame : (d.run (part :: rest)).2 = d := by
        rcases Part.eq_fail_or_breakdown_of_bytes? hp with rfl | rfl <;> rfl
      rwa [hsame, Part.joined, hp, ByteArray.append_empty]

@[simp] theorem capacity_run (d : Draft) (parts : List Part) :
    (d.run parts).2.capacity = d.capacity := by
  induction parts generalizing d with
  | nil => rfl
  | cons part rest ih =>
    cases hp : part.bytes? with
    | some added => rw [run_cons_of_bytes? hp, ih, capacity_put]
    | none => rcases Part.eq_fail_or_breakdown_of_bytes? hp with rfl | rfl <;> rfl

/-- The room does not decide whether the producer breaks down. -/
theorem run_eq_broken_iff (d : Draft) (parts : List Part) :
    (d.run parts).1 = .broken ↔ Part.breaks parts = true := by
  induction parts generalizing d with
  | nil => simp [Draft.run, Part.breaks]
  | cons part rest ih =>
    cases hp : part.bytes? with
    | some added => rw [run_cons_of_bytes? hp, ih, Part.breaks, hp]
    | none =>
      rcases Part.eq_fail_or_breakdown_of_bytes? hp with rfl | rfl <;>
        simp [Draft.run, Part.breaks, Part.bytes?]

end Draft

namespace Cell

/-! ### Formatting into a cell -/

theorem publish_eq_store (c : Cell) (entry : ByteArray) :
    c.publish entry = c.store (Draft.cut c.capacity entry) (decide (c.capacity < entry.size)) := by
  rw [publish, Draft.extract_min_size]

/-- A producer that breaks down leaves the cell as it is. -/
theorem write_eq_of_entry?_eq_none {parts : List Part} (h : Part.entry? parts = none) (c : Cell) :
    c.write parts = (none, c) := by
  have hb : Part.breaks parts = true := by
    cases hb : Part.breaks parts with
    | true => rfl
    | false => rw [Part.entry?, hb] at h; cases h
  have hend := (Draft.run_eq_broken_iff { capacity := c.capacity } parts).2 hb
  unfold write
  split
  · rfl
  · next hne heq => exact absurd ((congrArg Prod.fst heq).symm.trans hend) hne

/-- Formatting an entry publishes its whole text. -/
theorem write_eq_of_entry?_eq_some {parts : List Part} {entry : ByteArray}
    (h : Part.entry? parts = some entry) (c : Cell) :
    c.write parts = (some (c.publish entry).1, (c.publish entry).2) := by
  obtain ⟨hb, rfl⟩ : ¬ Part.breaks parts = true ∧ Part.joined parts = entry := by
    by_cases hb : Part.breaks parts = true
    · rw [Part.entry?, if_pos hb] at h
      cases h
    · rw [Part.entry?, if_neg hb] at h
      exact ⟨hb, Option.some.inj h⟩
  have hend := mt (Draft.run_eq_broken_iff { capacity := c.capacity } parts).1 hb
  have hcuts := (Draft.cuts_empty c.capacity).run parts
  rw [ByteArray.empty_append] at hcuts
  have hbytes := hcuts.bytes_eq
  have htruncated := hcuts.truncated_eq
  rw [Draft.capacity_run] at hbytes htruncated
  unfold write
  split
  · next heq => exact absurd (congrArg Prod.fst heq) hend
  · next draft hne heq =>
    rw [heq] at hbytes htruncated
    rw [publish_eq_store, ← hbytes, ← htruncated]

end Cell

end DeferredLog
