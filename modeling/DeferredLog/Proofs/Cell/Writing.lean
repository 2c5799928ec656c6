import DeferredLog.Proofs.Cell.Mailbox
import Mathlib.Data.List.Infix

/-!
# What a formatting leaves in the cell

There are two ways into a cell. A formatting fills bounded room part by part and marks that
something was lost; a publication cuts a whole entry once. `Cell.write_truncates` says that they
cannot be told apart: wherever the text is split, be it inside a character or by parts that add
nothing, and wherever the formatting gives up, the cell ends as if the text up to there had been
published.

On the way a producer may ask how much it has written. What it is told is `Draft.stages`, and
`stages_ofCut` is its shadow on the level of texts: one cut for each prefix of the parts that are
written.
-/

namespace DeferredLog

namespace Part

/-! ### The parts that are written -/

/-- The parts before the first that ends the formatting. -/
def written (parts : List Part) : List Part :=
  parts.takeWhile fun part ↦ part.bytes?.isSome

variable {part : Part} {added : ByteArray}

theorem joined_cons (h : part.bytes? = some added) (rest : List Part) :
    joined (part :: rest) = added ++ joined rest := by
  rw [joined, h]

theorem written_cons (h : part.bytes? = some added) (rest : List Part) :
    written (part :: rest) = part :: written rest :=
  List.takeWhile_cons_of_pos (by rw [h]; rfl)

theorem written_cons_of_eq_none (h : part.bytes? = none) (rest : List Part) :
    written (part :: rest) = [] :=
  List.takeWhile_cons_of_neg (by rw [h]; exact Bool.false_ne_true)

end Part

namespace Draft

/-! ### The stages of a formatting -/

/-- The draft of room that `whole` was put into. -/
def ofCut (room : ℕ) (whole : ByteArray) : Draft where
  capacity := room
  bytes := cut room whole
  truncated := decide (room < whole.size)

variable {d : Draft} {room : ℕ} {whole : ByteArray}

theorem cuts_ofCut : (ofCut room whole).Cuts whole where
  bytes_eq := rfl
  truncated_eq := rfl

/-- A draft that cuts a text is determined by its room and the text. -/
theorem Cuts.eq_ofCut (h : d.Cuts whole) : d = ofCut d.capacity whole := by
  cases d with
  | mk capacity bytes truncated =>
    exact congrArg₂ (Draft.mk capacity) h.bytes_eq h.truncated_eq

theorem ofCut_empty (room : ℕ) : ofCut room .empty = { capacity := room } :=
  (cuts_empty room).eq_ofCut.symm

theorem put_ofCut (added : ByteArray) :
    (ofCut room whole).put added = ofCut room (whole ++ added) :=
  (cuts_ofCut.put added).eq_ofCut

/-- After each part that is written stands the cut of the text so far. -/
theorem stages_ofCut (room : ℕ) (whole : ByteArray) (parts : List Part) :
    (ofCut room whole).stages parts =
      (Part.written parts).inits.map fun front ↦ ofCut room (whole ++ Part.joined front) := by
  induction parts generalizing whole with
  | nil => simp [stages, Part.written, Part.joined]
  | cons part rest ih =>
    cases hp : part.bytes? with
    | none => simp [stages, hp, Part.written_cons_of_eq_none hp, Part.joined]
    | some added =>
      have hfront (front : List Part) :
          ofCut room (whole ++ added ++ Part.joined front) =
            ofCut room (whole ++ Part.joined (part :: front)) := by
        rw [Part.joined_cons hp, ByteArray.append_assoc]
      have hrest := ih (whole ++ added)
      simp only [hfront] at hrest
      rw [stages, hp, Part.written_cons hp, List.inits_cons, List.map_cons, List.map_map]
      refine congrArg₂ List.cons ?_ ((congrArg (stages · rest) (put_ofCut added)).trans hrest)
      rw [Part.joined, ByteArray.append_empty]

/-- The formatting ends in its last stage. -/
theorem getLast?_stages (d : Draft) (parts : List Part) :
    (d.stages parts).getLast? = some (d.run parts).2 := by
  induction parts generalizing d with
  | nil => rfl
  | cons part rest ih =>
    cases hp : part.bytes? with
    | some added =>
      rw [stages, hp, run_cons_of_bytes? hp, List.getLast?_cons, ih, Option.getD_some]
    | none =>
      rw [stages, hp]
      rcases Part.eq_fail_or_breakdown_of_bytes? hp with rfl | rfl <;> rfl

end Draft

namespace Cell

/-! ### Formatting and publishing -/

variable {c : Cell}

/-- What is published is stored up to the room of the cell. -/
theorem extract_slots_publish (c : Cell) (entry : ByteArray) :
    (c.publish entry).2.slots.extract 0 (c.publish entry).2.length =
      Draft.cut c.capacity entry := by
  rw [publish_eq_store, extract_slots_store]

theorem length_publish (c : Cell) (entry : ByteArray) :
    (c.publish entry).2.length = min c.capacity entry.size := by
  rw [publish_eq_store, Nat.min_comm]
  exact Draft.size_cut _ _

theorem peek_publish (c : Cell) (entry : ByteArray) :
    (c.publish entry).2.peek =
      if (c.publish entry).2.hasPending then some (Draft.cut c.capacity entry) else none := by
  have hlength : (c.publish entry).2.length ≤ c.capacity := by
    rw [length_publish]
    exact Nat.min_le_left _ _
  rw [peek, capacity_publish, Nat.min_eq_left hlength, extract_slots_publish]

/-- However the text before the first failure is split into parts, formatting them does what
publishing it whole does: the first bytes are stored, as many as there is room for, and a loss is
counted once. After each part the producer is told how much of the text so far has found room, and
what there is after the last one is what is stored. -/
theorem write_truncates (c : Cell) {parts : List Part} (h : Part.breaks parts = false) :
    let whole := Part.joined parts
    let stored := whole.extract 0 (min c.capacity whole.size)
    let after := (c.write parts).2
    c.write parts = (some (c.publish whole).1, (c.publish whole).2) ∧
      after.slots.extract 0 after.length = stored ∧
      after.length = min c.capacity whole.size ∧
      after.peek = (if after.hasPending then some stored else none) ∧
      after.stats.truncated =
        c.stats.truncated + (if c.capacity < whole.size then 1 else 0) ∧
      (({ capacity := c.capacity } : Draft).stages parts).map
          (fun d ↦ (d.bytes.size, d.remaining, d.isEmpty)) =
        (Part.written parts).inits.map (fun front ↦
          let length := min c.capacity (Part.joined front).size
          (length, c.capacity - length, decide (length = 0))) ∧
      (({ capacity := c.capacity } : Draft).stages parts).getLast?.map Draft.bytes = some stored ∧
      ∀ others, Part.breaks others = false → Part.joined others = whole →
        c.write others = c.write parts := by
  intro whole stored after
  have hwrite {others : List Part} (hb : Part.breaks others = false)
      (hj : Part.joined others = whole) :
      c.write others = (some (c.publish whole).1, (c.publish whole).2) :=
    c.write_eq_of_entry?_eq_some (by rw [Part.entry?, hb, hj]; rfl)
  have hafter : after = (c.publish whole).2 := congrArg Prod.snd (hwrite h rfl)
  have hstored : stored = Draft.cut c.capacity whole := by
    rw [← Draft.extract_min_size, Nat.min_comm]
  have hcuts : ((({ capacity := c.capacity } : Draft).run parts).2).Cuts whole := by
    have hrun := (Draft.cuts_empty c.capacity).run parts
    rwa [ByteArray.empty_append] at hrun
  refine ⟨hwrite h rfl, ?_, ?_, ?_, ?_, ?_, ?_, fun others hb hj ↦ ?_⟩
  · rw [hafter, hstored, extract_slots_publish]
  · rw [hafter, length_publish]
  · rw [hafter, hstored, peek_publish]
  · rw [hafter, publish_eq_store]
    simp [store]
  · rw [← Draft.ofCut_empty, Draft.stages_ofCut, List.map_map]
    refine List.map_congr_left fun front _ ↦ ?_
    simp only [Function.comp_apply, Draft.ofCut, Draft.remaining, Draft.isEmpty, Draft.size_cut,
      ByteArray.empty_append, Nat.min_comm c.capacity, beq_eq_decide]
  · rw [Draft.getLast?_stages, Option.map_some, hcuts.bytes_eq, Draft.capacity_run, hstored]
  · rw [hwrite hb hj, hwrite h rfl]

/-- Room for five bytes, taken by an entry that nobody fetched: the text is cut inside a character,
a part that adds nothing comes when all is full, and the formatting gives up before its last
part. -/
theorem write_truncates_inside_a_character :
    let c := ((empty 5).publish ⟨#[1, 2, 3, 4, 5, 6]⟩).2
    let parts : List Part :=
      [.text "añb", .char '€', .bytes .empty, .number 70, .fail, .text "x"]
    Part.breaks parts = false ∧
      (c.write parts).1 = some .superseded ∧
      (c.write parts).2.slots.extract 0 (c.write parts).2.length =
        ⟨#[0x61, 0xC3, 0xB1, 0x62, 0xE2]⟩ ∧
      (c.write parts).2.stats.truncated = 2 ∧
      (({ capacity := 5 } : Draft).stages parts).map
          (fun d ↦ (d.bytes.size, d.remaining, d.isEmpty)) =
        [(0, 5, true), (4, 1, false), (5, 0, false), (5, 0, false), (5, 0, false)] ∧
      c.write [.bytes ⟨#[0x61, 0xC3]⟩, .bytes ⟨#[0xB1, 0x62, 0xE2, 0x82, 0xAC, 0x37]⟩, .number 0] =
        c.write parts := by
  intro c parts
  have hb : Part.breaks parts = false := by decide
  obtain ⟨hwrite, hslots, -, -, htruncated, hstages, -, hothers⟩ := c.write_truncates hb
  refine ⟨hb, ?_, ?_, ?_, ?_, hothers _ (by decide) (by decide +kernel)⟩
  · rw [hwrite]
    decide +kernel
  · rw [hslots]
    decide +kernel
  · rw [htruncated]
    decide +kernel
  · exact hstages.trans (by decide +kernel)

end Cell

end DeferredLog
