import DeferredLog.Proofs.Cell.Mailbox
import Mathlib.Data.List.Induction

/-!
# A cell in use

A cell over any number of uses. Its two numbers are machine words that advance by two, so in a long
life they wrap around again and again (`seq_run`); what they tell is only whether anything was
published since the last take. That is said here without the numbers: `Use.recent` looks back over
the uses up to the last take and lists what was published, latest first.

A use publishes an entry, takes what waits, or leaves the cell as it is, and `run_induction` is
induction over a run by these three cases. `holds_run` is the invariant: after any uses the cell
holds `Use.recent`. The bound of `2 ^ 63` publications is needed where the numbers are compared and
nowhere else, so it is asked of the time since the last take alone: a cell that was confused earlier
is put right by the next take.
-/

namespace DeferredLog.Cell

/-- One use of a cell. -/
inductive Use where
  | publish (entry : ByteArray)
  | write (parts : List Part)
  | take
  | peek
  deriving DecidableEq

namespace Use

/-- The entry that a use publishes; a formatting that breaks down publishes none. -/
def published? : Use → Option ByteArray
  | publish entry => some entry
  | write parts => Part.entry? parts
  | take => none
  | peek => none

/-- What was published since the last take, latest first. -/
def recent (uses : List Use) : List ByteArray :=
  (uses.reverse.takeWhile (· ≠ take)).filterMap published?

variable {u : Use}

theorem ne_take_of_published? {entry : ByteArray} (h : u.published? = some entry) : u ≠ take := by
  rintro rfl
  cases h

theorem recent_concat_of_ne_take (h : u ≠ take) (uses : List Use) :
    recent (uses ++ [u]) = u.published?.toList ++ recent uses := by
  rw [recent, List.reverse_concat, List.takeWhile_cons_of_pos (by simpa using h),
    List.filterMap_cons]
  match u.published? with
  | some entry => rfl
  | none => rfl

theorem recent_concat_take (uses : List Use) : recent (uses ++ [take]) = [] := by
  rw [recent, List.reverse_concat, List.takeWhile_cons_of_neg (by simp), List.filterMap_nil]

end Use

/-- The cell after one use. -/
def use (c : Cell) : Use → Cell
  | .publish entry => (c.publish entry).2
  | .write parts => (c.write parts).2
  | .take => c.take.2
  | .peek => c

/-- The cell after any number of uses. -/
def run (c : Cell) (uses : List Use) : Cell :=
  uses.foldl use c

variable {c : Cell} {u : Use}

theorem run_concat (c : Cell) (uses : List Use) (u : Use) :
    c.run (uses ++ [u]) = (c.run uses).use u :=
  List.foldl_append

/-- A use that publishes does what publishing the whole entry does. -/
theorem use_of_published?_eq_some {entry : ByteArray} (h : u.published? = some entry) :
    c.use u = (c.publish entry).2 := by
  match u with
  | .publish _ => exact congrArg (fun e ↦ (c.publish e).2) (Option.some.inj h)
  | .write _ => exact congrArg Prod.snd (write_eq_of_entry?_eq_some h c)

/-- A use that neither publishes nor takes leaves the cell as it is. -/
theorem use_of_published?_eq_none (h : u.published? = none) (hne : u ≠ .take) : c.use u = c := by
  match u with
  | .write _ => exact congrArg Prod.snd (write_eq_of_entry?_eq_none h c)
  | .take => exact absurd rfl hne
  | .peek => rfl

/-! ### Runs -/

/-- Induction over the uses of a new cell: what holds of it, and is kept by a publication, by a take
and by uses that leave the cell as it is, holds after any uses. -/
theorem run_induction {capacity : ℕ} {motive : List Use → Cell → Prop}
    (new : motive [] (empty capacity))
    (publish : ∀ uses u entry c, u.published? = some entry → motive uses c →
      motive (uses ++ [u]) (c.publish entry).2)
    (take : ∀ uses c, motive uses c → motive (uses ++ [.take]) c.take.2)
    (leave : ∀ uses u c, u.published? = none → u ≠ .take → motive uses c → motive (uses ++ [u]) c)
    (uses : List Use) : motive uses ((empty capacity).run uses) := by
  induction uses using List.reverseRecOn with
  | nil => exact new
  | append_singleton uses u ih =>
    rw [run_concat]
    match hu : u.published? with
    | some entry =>
      rw [use_of_published?_eq_some hu]
      exact publish uses u entry _ hu ih
    | none =>
      by_cases htake : u = .take
      · rw [htake]
        exact take uses _ ih
      · rw [use_of_published?_eq_none hu htake]
        exact leave uses u _ hu htake ih

theorem capacity_run (capacity : ℕ) (uses : List Use) :
    ((empty capacity).run uses).capacity = min capacity maxScratchCapacity := by
  refine run_induction (motive := fun _ c ↦ c.capacity = _) (capacity_empty capacity)
    (fun _ _ entry c _ ih ↦ ?_) (fun _ c ih ↦ ?_) (fun _ _ _ _ _ ih ↦ ih) uses
  · rw [capacity_publish, ih]
  · rw [capacity_take, ih]

/-- The number of a cell counts all publications, two for each, round and round. -/
theorem seq_run (capacity : ℕ) (uses : List Use) :
    ((empty capacity).run uses).seq = 2 * UInt64.ofNat (uses.filterMap Use.published?).length := by
  refine run_induction
    (motive := fun uses c ↦ c.seq = 2 * UInt64.ofNat (uses.filterMap Use.published?).length)
    rfl (fun uses u entry c hu ih ↦ ?_) (fun uses c ih ↦ ?_) (fun uses u c hu _ ih ↦ ?_) uses
  · show c.seq + 2 = _
    rw [ih, List.filterMap_append, List.filterMap_cons_some hu, List.length_append,
      UInt64.ofNat_add, UInt64.mul_add]
    rfl
  · rw [take_eq, List.filterMap_append, List.length_append]
    exact ih
  · rw [List.filterMap_append, List.filterMap_cons_none hu, List.length_append]
    exact ih

/-- After any uses a new cell holds what was published since the last take. -/
theorem holds_run (capacity : ℕ) (uses : List Use) :
    ((empty capacity).run uses).Holds (Use.recent uses) := by
  refine run_induction (motive := fun uses c ↦ c.Holds (Use.recent uses))
    (holds_nil (behind_empty capacity)) (fun uses u entry c hu ih ↦ ?_) (fun uses c ih ↦ ?_)
    (fun uses u c hu hne ih ↦ ?_) uses
  · rw [Use.recent_concat_of_ne_take (Use.ne_take_of_published? hu), hu]
    exact ih.publish entry
  · rw [Use.recent_concat_take]
    exact holds_take c
  · rw [Use.recent_concat_of_ne_take hne, hu]
    exact ih

/-! ### The main result -/

/-- What a publication answers. -/
theorem fst_publish_eq_superseded_iff (c : Cell) (entry : ByteArray) :
    (c.publish entry).1 = .superseded ↔ c.hasPending = true := by
  show (if c.hasPending then Publication.superseded else .fresh) = .superseded ↔ _
  cases c.hasPending <;> simp

/-- A new cell after any uses, with fewer than `2 ^ 63` publications since the last take and any
number of them before. Its number has counted all publications by twos, as far as a word goes, and
is even. An entry waits exactly if one was published since the last take; then the next publication
supersedes it, however it comes about, and a look or a take finds the latest one, as much of it as
there is room for and nothing of those before it. After a take nothing waits, and a look leaves the
cell as it is. -/
theorem pending_exact (capacity : ℕ) (uses : List Use) (h : (Use.recent uses).length < 2 ^ 63) :
    let c := (empty capacity).run uses
    let latest :=
      (Use.recent uses).head?.map (Draft.cut (min capacity maxScratchCapacity))
    c.seq.toNat = 2 * (uses.filterMap Use.published?).length % 2 ^ 64 ∧ 2 ∣ c.seq.toNat ∧
    (c.hasPending = true ↔ Use.recent uses ≠ []) ∧
    (∀ entry, (c.publish entry).1 = .superseded ↔ c.hasPending = true) ∧
    (∀ parts, Part.breaks parts = false →
      ((c.write parts).1 = some .superseded ↔ c.hasPending = true)) ∧
    c.peek = latest ∧ c.take.1 = latest ∧ latest.isSome = c.hasPending ∧
    ((empty capacity).run (uses ++ [.take])).hasPending = false ∧
    (empty capacity).run (uses ++ [.peek]) = c := by
  intro c latest
  have hholds : c.Holds (Use.recent uses) := holds_run capacity uses
  have hseq : c.seq.toNat = 2 * (uses.filterMap Use.published?).length % 2 ^ 64 := by
    rw [seq_run, UInt64.toNat_mul, UInt64.toNat_ofNat', Nat.mul_mod_mod]
    rfl
  have hpeek : c.peek = latest := by
    rw [hholds.peek_eq h, capacity_run]
  refine ⟨hseq, by omega, ?_, fst_publish_eq_superseded_iff c, fun parts hb ↦ ?_, hpeek, ?_, ?_,
    ?_, ?_⟩
  · rw [hholds.behind.hasPending_iff h, Ne, List.length_eq_zero_iff]
  · have hentry : Part.entry? parts = some (Part.joined parts) := by rw [Part.entry?, hb]; rfl
    rw [write_eq_of_entry?_eq_some hentry, Option.some_inj, fst_publish_eq_superseded_iff]
  · rw [take_eq, hpeek]
  · rw [← hpeek, isSome_peek]
  · rw [run_concat]
    exact hasPending_take c
  · rw [run_concat]
    rfl

/-- Room for four bytes: an entry that does not fit is taken, then a full one is superseded by a
formatting that gives up after one byte. -/
theorem pending_exact_of_shorter_entry :
    let uses : List Use := [.publish ⟨#[1, 2, 3, 4, 5]⟩, .take, .publish ⟨#[6, 7, 8, 9]⟩, .peek,
      .write [.text "a", .fail, .text "b"]]
    let c := (empty 4).run uses
    (Use.recent uses).length < 2 ^ 63 ∧ c.seq.toNat = 6 ∧ c.hasPending = true ∧
      c.peek = some ⟨#[0x61]⟩ ∧ c.take.1 = some ⟨#[0x61]⟩ ∧
      (c.publish .empty).1 = .superseded ∧ ((empty 4).run (uses ++ [.take])).hasPending = false := by
  intro uses c
  have hrecent : Use.recent uses = [⟨#[0x61]⟩, ⟨#[6, 7, 8, 9]⟩] := by decide +kernel
  have hfew : (Use.recent uses).length < 2 ^ 63 := by rw [hrecent]; decide
  obtain ⟨hseq, -, hpending, hpublish, -, hpeek, htake, -, hafter, -⟩ :=
    pending_exact 4 uses hfew
  have hwaits : c.hasPending = true := hpending.2 (by rw [hrecent]; exact List.cons_ne_nil _ _)
  have hlatest : (Use.recent uses).head?.map (Draft.cut (min 4 maxScratchCapacity)) =
      some ⟨#[0x61]⟩ := by
    rw [hrecent]
    decide +kernel
  exact ⟨hfew, hseq.trans (by decide +kernel), hwaits, hpeek.trans hlatest, htake.trans hlatest,
    (hpublish _).2 hwaits, hafter⟩

end DeferredLog.Cell
