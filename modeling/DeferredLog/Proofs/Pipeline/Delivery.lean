import DeferredLog.Proofs.Buffer.Runs
import DeferredLog.Proofs.Pipeline.Course
import Mathlib.Data.List.Pairwise

/-!
# What the log contains

The past alone tells what the log must contain. Between two drains the cell is a mailbox for one
letter: `since` collects the letters published since the last drain, latest first, and a drain takes
the first of them, whatever its request came from. `items` lists what reached the log in order,
direct entries and letters, together with the letters it refused.

The pipeline knows nothing of letters; it has two numbers, slots that are used again and a log that
moves. `Course.Follows` compares the two, and every effect keeps it (`Follows.effect`).

Order needs no pipeline at all. `queue` puts the letters taken so far before those still waiting; an
event other than a publication only thins it out (`queue_cons_sublist`), and a publication adds a
letter that is later than all of them, so it stays in order (`Course.Ordered.effect`).
-/

namespace DeferredLog.Pipeline

/-! ### Letters -/

/-- A published entry. -/
structure Letter where
  /-- How many events were before it. -/
  number : ℕ
  /-- The tick of its fire, if it came from one. -/
  tick : Option ℕ
  entry : ByteArray
  deriving DecidableEq

/-- One letter was published before another, and so were the ticks of their fires. -/
structure Letter.Before (l l' : Letter) : Prop where
  number_lt : l.number < l'.number
  tick_lt : ∀ t ∈ l.tick, ∀ t' ∈ l'.tick, t < t'

/-- The letters published since the last drain, latest first. -/
def since : List Event → List Letter
  | [] => []
  | .published entry tick :: past => ⟨past.length, tick, entry⟩ :: since past
  | .drained _ :: _ => []
  | .appended _ _ :: past => since past
  | .quiet :: past => since past

/-! ### What reaches the log -/

/-- What the log was offered. -/
inductive Item where
  /-- An entry that was appended directly. -/
  | direct (entry : ByteArray)
  | delivered (letter : Letter)
  /-- A letter that was taken and refused. -/
  | dropped (letter : Letter)

namespace Item

/-- What an item adds to a log behind a cell of the given room. -/
def bytes? (room : ℕ) : Item → Option ByteArray
  | .direct entry => some entry
  | .delivered letter => some (Draft.cut room letter.entry)
  | .dropped _ => none

/-- The letter of an item that was taken from the cell. -/
def letter? : Item → Option Letter
  | .direct _ => none
  | .delivered letter => some letter
  | .dropped letter => some letter

/-- The tick of a delivered letter that came from a fire. -/
def deliveredTick? : Item → Option ℕ
  | .delivered letter => letter.tick
  | _ => none

end Item

/-- The item that an event after the given past comes to. -/
def Event.item? (past : List Event) : Event → Option Item
  | .appended entry (.ok _) => some (.direct entry)
  | .drained (.ok (some _)) => (since past).head?.map .delivered
  | .drained (.error _) => (since past).head?.map .dropped
  | _ => none

/-- All items of the past, oldest first. -/
def items : List Event → List Item
  | [] => []
  | e :: past => items past ++ (e.item? past).toList

/-- The letters that were taken, and after them those that wait. -/
def queue (past : List Event) : List Letter :=
  (items past).filterMap Item.letter? ++ (since past).reverse

variable {p q : Pipeline} {past : List Event} {e : Event} {room : ℕ}

theorem length_since_le (past : List Event) : (since past).length ≤ publications past := by
  induction past with
  | nil => exact Nat.le_refl _
  | cons e past ih =>
    have hle := publications_le_cons e past
    cases e with
    | published entry tick =>
      have hcount : publications (.published entry tick :: past) = publications past + 1 :=
        List.countP_cons_of_pos rfl
      rw [since, List.length_cons, hcount]
      omega
    | drained answer => exact Nat.zero_le _
    | appended entry answer => exact Nat.le_trans ih hle
    | quiet => exact Nat.le_trans ih hle

theorem filterMap_items_cons {α : Type} (f : Item → Option α) (e : Event) (past : List Event) :
    (items (e :: past)).filterMap f =
      (items past).filterMap f ++ ((e.item? past).bind f).toList := by
  rw [items, List.filterMap_append]
  cases e.item? past with
  | none => rfl
  | some item => cases hf : f item <;> simp [hf]

/-! ### What the log must contain -/

/-- The bytes of all items, in order. -/
def written (room : ℕ) (past : List Event) : ByteArray :=
  Buffer.concat ((items past).filterMap (·.bytes? room))

theorem written_of_item?_eq_none (h : e.item? past = none) :
    written room (e :: past) = written room past := by
  rw [written, filterMap_items_cons, h]
  exact congrArg Buffer.concat (List.append_nil _)

theorem written_of_item?_eq_some {item : Item} (h : e.item? past = some item) (room : ℕ) :
    written room (e :: past) = written room past ++ (item.bytes? room).getD .empty := by
  rw [written, filterMap_items_cons, h, Buffer.concat_append, Option.bind_some]
  refine congrArg (written room past ++ ·) ?_
  cases item.bytes? room with
  | none => rfl
  | some entry => exact ByteArray.append_empty

/-- A drain that took a letter brings it to the log, or to those dropped. -/
theorem written_drained {letter : Letter} (hhead : (since past).head? = some letter)
    (answer : Except Failure ℕ) :
    written room (.drained (answer.map some) :: past) =
      if answer.toBool then written room past ++ Draft.cut room letter.entry
      else written room past := by
  cases answer with
  | error cause =>
    have hitem : (Event.drained (.error cause)).item? past = some (.dropped letter) := by
      rw [Event.item?, hhead]
      rfl
    exact (written_of_item?_eq_some hitem room).trans ByteArray.append_empty
  | ok n =>
    have hitem : (Event.drained (.ok (some n))).item? past = some (.delivered letter) := by
      rw [Event.item?, hhead]
      rfl
    exact written_of_item?_eq_some hitem room

theorem written_appended (entry : ByteArray) (answer : Except Failure ℕ) :
    written room (.appended entry answer :: past) =
      if answer.toBool then written room past ++ entry else written room past := by
  cases answer with
  | error cause => exact written_of_item?_eq_none rfl
  | ok n =>
    have hitem : (Event.appended entry (.ok n)).item? past = some (.direct entry) := rfl
    exact written_of_item?_eq_some hitem room

/-! ### The order of letters -/

theorem queue_published (entry : ByteArray) (tick : Option ℕ) (past : List Event) :
    queue (.published entry tick :: past) = queue past ++ [⟨past.length, tick, entry⟩] := by
  rw [queue, filterMap_items_cons, since, List.reverse_cons, ← List.append_assoc]
  exact congrArg (· ++ (since past).reverse ++ _) (List.append_nil _)

/-- A drain takes no letter but one of those that wait. -/
theorem mem_since_of_drained {answer : Except Failure (Option ℕ)} {letter : Letter}
    (h : ((Event.drained answer).item? past).bind Item.letter? = some letter) :
    letter ∈ since past := by
  suffices hhead : (since past).head? = some letter from List.mem_of_mem_head? hhead
  rcases answer with cause | taken | n
  · cases hhead : (since past).head? <;> rw [Event.item?, hhead] at h <;> exact h
  · cases h
  · cases hhead : (since past).head? <;> rw [Event.item?, hhead] at h <;> exact h

/-- Whatever is not a publication adds nothing to the queue and changes no order in it. -/
theorem queue_cons_sublist (he : e.isPublication = false) (past : List Event) :
    (queue (e :: past)).Sublist (queue past) := by
  rw [queue, filterMap_items_cons, List.append_assoc]
  refine List.Sublist.append_left ?_ _
  cases e with
  | published entry tick => cases he
  | quiet => exact List.Sublist.refl _
  | appended entry answer => cases answer <;> exact List.Sublist.refl _
  | drained answer =>
    -- a drain takes the latest letter at most, and leaves none of those before it waiting
    rw [since, List.reverse_nil, List.append_nil]
    cases hletter : ((Event.drained answer).item? past).bind Item.letter? with
    | none => exact List.nil_sublist _
    | some letter =>
      exact List.singleton_sublist.2 (List.mem_reverse.2 (mem_since_of_drained hletter))

/-- The letters of a course stand in the order of their publication, and none is from the future. -/
structure Course.Ordered (c : Course) : Prop where
  bounded : ∀ letter ∈ queue c.past,
    letter.number < c.past.length ∧ ∀ t ∈ letter.tick, t ≤ c.pipeline.tick
  pairwise : (queue c.past).Pairwise Letter.Before

theorem ordered_fresh (scratch : ℕ) (b : Buffer) (producer : Producer) (uptime : ℕ → Duration) :
    (Course.fresh scratch b producer uptime).Ordered :=
  ⟨nofun, List.Pairwise.nil⟩

/-- What is not a publication keeps the order, as long as ticks do not go back. -/
theorem Course.Ordered.thin (h : Course.Ordered ⟨p, past⟩) (he : e.isPublication = false)
    (htick : p.tick ≤ q.tick) : Course.Ordered ⟨q, e :: past⟩ := by
  have hsublist := queue_cons_sublist he past
  refine ⟨fun letter hletter ↦ ?_, h.pairwise.sublist hsublist⟩
  obtain ⟨hnumber, hbefore⟩ := h.bounded letter (hsublist.subset hletter)
  exact ⟨Nat.lt_succ_of_lt hnumber, fun t ht ↦ Nat.le_trans (hbefore t ht) htick⟩

theorem Course.Ordered.effect (h : Course.Ordered ⟨p, past⟩) (he : Effect p q e) :
    Course.Ordered ⟨q, e :: past⟩ := by
  cases he with
  | published entry tick htick =>
    obtain ⟨hle, hnext⟩ := htick
    refine ⟨fun letter hletter ↦ ?_, ?_⟩
    · rw [queue_published, List.mem_append, List.mem_singleton] at hletter
      rcases hletter with hletter | rfl
      · obtain ⟨hnumber, hbefore⟩ := h.bounded letter hletter
        exact ⟨Nat.lt_succ_of_lt hnumber, fun t ht ↦ Nat.le_trans (hbefore t ht) hle⟩
      · exact ⟨Nat.lt_succ_self _, fun t ht ↦ (hnext t ht).2⟩
    · rw [queue_published, List.pairwise_append]
      refine ⟨h.pairwise, List.pairwise_singleton _ _, fun letter hletter latest hlatest ↦ ?_⟩
      obtain rfl := List.mem_singleton.1 hlatest
      obtain ⟨hnumber, hbefore⟩ := h.bounded letter hletter
      exact ⟨hnumber, fun t ht t' ht' ↦ Nat.lt_of_le_of_lt (hbefore t ht) (hnext t' ht').1⟩
  | quiet htick => exact h.thin rfl htick
  | missed htick => exact h.thin rfl (Nat.le_of_eq htick.symm)
  | took entry htick => exact h.thin rfl (Nat.le_of_eq htick.symm)
  | appended entry htick => exact h.thin rfl (Nat.le_of_eq htick.symm)

/-! ### What a pipeline follows -/

/-- The cell holds the letters since the last drain and the log the items of the past. -/
structure Course.Follows (room : ℕ) (c : Course) : Prop where
  capacity_eq : c.pipeline.cell.capacity = room
  holds : c.pipeline.cell.Holds ((since c.past).map (·.entry))
  contents_eq : c.pipeline.buffer.contents = written room c.past

theorem follows_fresh {initial maxEntry : ℕ} {ceiling : Option ℕ} {b : Buffer}
    (h : Buffer.allocate initial maxEntry ceiling = .ok b) (scratch : ℕ) (producer : Producer)
    (uptime : ℕ → Duration) :
    (Course.fresh scratch b producer uptime).Follows (min scratch maxScratchCapacity) where
  capacity_eq := Cell.capacity_empty scratch
  holds := Cell.holds_nil (Cell.behind_empty scratch)
  contents_eq := Buffer.contents_of_allocate h

/-- What waits in the cell is the latest letter, cut to the room. -/
theorem Course.Follows.peek_eq {c : Course} (h : c.Follows room)
    (hlt : publications c.past < 2 ^ 63) :
    c.pipeline.cell.peek =
      (since c.past).head?.map fun letter ↦ Draft.cut room letter.entry := by
  have hlength : ((since c.past).map (·.entry)).length < 2 ^ 63 := by
    rw [List.length_map]
    exact Nat.lt_of_le_of_lt (length_since_le c.past) hlt
  rw [h.holds.peek_eq hlength, h.capacity_eq, List.head?_map, Option.map_map]
  rfl

theorem Course.Follows.effect (h : Course.Follows room ⟨p, past⟩) (he : Effect p q e)
    (hlt : publications (e :: past) < 2 ^ 63) : Course.Follows room ⟨q, e :: past⟩ := by
  have hpeek := h.peek_eq (Nat.lt_of_le_of_lt (publications_le_cons e past) hlt)
  obtain ⟨hcapacity, hholds, hcontents⟩ := h
  dsimp only at hcapacity hholds hcontents hpeek
  cases he with
  | published entry tick htick hc hb hd =>
    exact
      { capacity_eq := by rw [hc, Cell.capacity_publish, hcapacity]
        holds := by
          rw [hc]
          exact hholds.publish entry
        contents_eq := by rw [hb, hcontents, written_of_item?_eq_none rfl] }
  | quiet htick hc quota hb hd =>
    exact
      { capacity_eq := by rw [hc, hcapacity]
        holds := by rwa [hc]
        contents_eq := by
          rw [hb, Buffer.contents_withQuota, hcontents, written_of_item?_eq_none rfl] }
  | missed htick hnone hc hb hd =>
    have hsince : since past = [] := by
      rw [hnone, eq_comm, Option.map_eq_none_iff, List.head?_eq_none_iff] at hpeek
      exact hpeek
    exact
      { capacity_eq := by rw [hc, hcapacity]
        holds := by rwa [hc, since, ← hsince]
        contents_eq := by rw [hb, hcontents, written_of_item?_eq_none rfl] }
  | took entry htick hsome hc hb hd =>
    rw [hsome, eq_comm, Option.map_eq_some_iff] at hpeek
    obtain ⟨letter, hhead, rfl⟩ := hpeek
    exact
      { capacity_eq := by rw [hc, Cell.capacity_take, hcapacity]
        holds := by
          rw [hc]
          exact p.cell.holds_take
        -- the letter is the same whatever the log answers
        contents_eq := by
          rw [hb, Buffer.contents_append, hcontents, written_drained hhead] }
  | appended entry htick hc hb hd =>
    exact
      { capacity_eq := by rw [hc, hcapacity]
        holds := by rwa [hc]
        contents_eq := by rw [hb, Buffer.contents_append, hcontents, written_appended] }

/-! ### What the next drain answers -/

theorem Course.Follows.drain_of_nil {c : Course} (h : c.Follows room)
    (hlt : publications c.past < 2 ^ 63) (hsince : since c.past = []) :
    c.pipeline.drain.1 = .ok none := by
  have hpeek := h.peek_eq hlt
  rw [hsince] at hpeek
  obtain ⟨journal, hdrain⟩ := drain_of_peek_eq_none hpeek
  rw [hdrain]

/-- With letters a drain answers what the log says to the latest. -/
theorem Course.Follows.drain_of_cons {c : Course} (h : c.Follows room)
    (hlt : publications c.past < 2 ^ 63) {letter : Letter} {rest : List Letter}
    (hsince : since c.past = letter :: rest) :
    c.pipeline.drain.1 =
      (c.pipeline.buffer.append (Draft.cut room letter.entry)).1.map some := by
  have hpeek := h.peek_eq hlt
  rw [hsince] at hpeek
  obtain ⟨journal, hdrain⟩ := drain_of_peek_eq_some hpeek
  rw [hdrain]

/-- A drain finds nothing exactly if nothing was published since the last one. -/
theorem Course.Follows.drain_eq_none_iff {c : Course} (h : c.Follows room)
    (hlt : publications c.past < 2 ^ 63) :
    c.pipeline.drain.1 = .ok none ↔ since c.past = [] := by
  refine ⟨fun hnone ↦ ?_, h.drain_of_nil hlt⟩
  rcases hsince : since c.past with _ | ⟨letter, rest⟩
  · rfl
  · rw [h.drain_of_cons hlt hsince] at hnone
    -- neither a success nor a refusal of the log is the answer that there was nothing
    rcases hanswer : (c.pipeline.buffer.append (Draft.cut room letter.entry)).1 with cause | n <;>
      rw [hanswer] at hnone <;> cases hnone

/-- A drain that commits answers the length of what it committed. -/
theorem Course.Follows.drain_eq_some {c : Course} (h : c.Follows room)
    (hlt : publications c.past < 2 ^ 63) {n : ℕ} (hn : c.pipeline.drain.1 = .ok (some n)) :
    ∃ letter ∈ (since c.past).head?, n = min letter.entry.size room := by
  rcases hsince : since c.past with _ | ⟨letter, rest⟩
  · rw [h.drain_of_nil hlt hsince] at hn
    cases hn
  · rw [h.drain_of_cons hlt hsince] at hn
    refine ⟨letter, rfl, ?_⟩
    rcases hanswer : (c.pipeline.buffer.append (Draft.cut room letter.entry)).1 with cause | written
    · rw [hanswer] at hn
      cases hn
    · rw [hanswer] at hn
      obtain rfl := Option.some.inj (Except.ok.inj hn)
      rw [Buffer.eq_size_of_append_eq_ok hanswer, Draft.size_cut]

/-! ### The consequences for single letters -/

/-- Ticks of delivered letters increase if the letters are in order. -/
theorem pairwise_deliveredTick
    (h : ((items past).filterMap Item.letter?).Pairwise Letter.Before) :
    ((items past).filterMap Item.deliveredTick?).Pairwise (· < ·) := by
  rw [List.pairwise_filterMap] at h ⊢
  refine h.imp fun {item item'} hbefore t ht t' ht' ↦ ?_
  cases item with
  | delivered letter =>
    cases item' with
    | delivered letter' => exact (hbefore letter rfl letter' rfl).tick_lt t ht t' ht'
    | direct entry => cases ht'
    | dropped letter' => cases ht'
  | direct entry => cases ht
  | dropped letter => cases ht

/-- A letter that was dropped is not among those delivered, neither before nor after. -/
theorem number_ne_of_dropped
    (h : ((items past).filterMap Item.letter?).Pairwise Letter.Before) {letter letter' : Letter}
    (hdropped : .dropped letter ∈ items past) (hdelivered : .delivered letter' ∈ items past) :
    letter.number ≠ letter'.number := by
  let Apart (item item' : Item) : Prop :=
    ∀ l, item.letter? = some l → ∀ l', item'.letter? = some l' → l.number ≠ l'.number
  have : Std.Symm Apart := ⟨fun item item' hapart l hl l' hl' ↦ (hapart l' hl' l hl).symm⟩
  rw [List.pairwise_filterMap] at h
  have happart : (items past).Pairwise Apart :=
    h.imp fun hbefore l hl l' hl' ↦ Nat.ne_of_lt (hbefore l hl l' hl').number_lt
  exact happart.forall hdropped hdelivered nofun letter rfl letter' rfl

/-- What any course of a new pipeline leaves in the log, and what a drain would answer next: the log
is the direct entries and the delivered letters in their order, each letter the latest since the
drain before and cut to the room; letters are delivered at most once and in the order of their
fires, and none that was dropped. -/
theorem deliveries {initial maxEntry : ℕ} {ceiling : Option ℕ} {b : Buffer}
    (h : Buffer.allocate initial maxEntry ceiling = .ok b) (scratch : ℕ) (producer : Producer)
    (uptime : ℕ → Duration) (acts : List Act)
    (hlt : publications ((Course.fresh scratch b producer uptime).run acts).past < 2 ^ 63) :
    let c := (Course.fresh scratch b producer uptime).run acts
    let room := min scratch maxScratchCapacity
    c.pipeline.buffer.contents = written room c.past ∧
    (c.pipeline.drain.1 = .ok none ↔ since c.past = []) ∧
    (∀ n, c.pipeline.drain.1 = .ok (some n) →
      ∃ letter ∈ (since c.past).head?, n = min letter.entry.size room) ∧
    ((items c.past).filterMap Item.letter?).Pairwise Letter.Before ∧
    ((items c.past).filterMap Item.deliveredTick?).Pairwise (· < ·) ∧
    ∀ letter letter', .dropped letter ∈ items c.past → .delivered letter' ∈ items c.past →
      letter.number ≠ letter'.number := by
  intro c room
  have hfollows : c.Follows room := Course.run_induction (follows_fresh h scratch producer uptime)
    (fun _ a hc hlt ↦ hc.effect (effect_perform _ a) hlt) acts hlt
  have hordered : c.Ordered := Course.run_induction (ordered_fresh scratch b producer uptime)
    (fun _ a hc _ ↦ hc.effect (effect_perform _ a)) acts hlt
  have htaken : ((items c.past).filterMap Item.letter?).Pairwise Letter.Before :=
    (List.pairwise_append.1 hordered.pairwise).1
  exact ⟨hfollows.contents_eq, hfollows.drain_eq_none_iff hlt,
    fun n hn ↦ hfollows.drain_eq_some hlt hn, htaken, pairwise_deliveredTick htaken,
    fun _ _ hdropped hdelivered ↦ number_ne_of_dropped htaken hdropped hdelivered⟩

/-- The first of four fires is superseded and the third is dropped for want of memory, so that the
log holds the second, a direct entry and the fourth; then nothing waits. -/
theorem deliveries_of_four_fires :
    let acts : List Act := [.fire, .fire, .drain, .limit (some 8), .append ⟨#[7]⟩, .fire, .drain,
      .limit none, .schedule, .fire, .drain]
    ∃ b, Buffer.allocate 5 8 (some 12) = .ok b ∧
      let c := (Course.fresh 4 b .counter).run acts
      publications c.past < 2 ^ 63 ∧
      c.pipeline.buffer.contents = ⟨#[84, 105, 109, 101, 7, 84, 105, 109, 101]⟩ ∧
      (items c.past).filterMap Item.deliveredTick? = [2, 4] ∧ [2, 4].Pairwise (· < ·) ∧
      c.pipeline.drain.1 = .ok none := by
  intro acts
  obtain ⟨b, hb⟩ : ∃ b, Buffer.allocate 5 8 (some 12) = .ok b := ⟨_, rfl⟩
  obtain ⟨-, -, rfl⟩ := Buffer.allocate_eq_ok_iff.1 hb
  refine ⟨_, hb, ?_⟩
  intro c
  have hlt : publications c.past < 2 ^ 63 := by decide +kernel
  obtain ⟨hcontents, hnone, -, -, hticks, -⟩ := deliveries hb 4 .counter _ acts hlt
  have hdelivered : (items c.past).filterMap Item.deliveredTick? = [2, 4] := by decide +kernel
  have hsince : since c.past = [] := by decide +kernel
  refine ⟨hlt, hcontents.trans (by decide +kernel), hdelivered, ?_, hnone.2 hsince⟩
  exact hdelivered ▸ hticks

end DeferredLog.Pipeline
