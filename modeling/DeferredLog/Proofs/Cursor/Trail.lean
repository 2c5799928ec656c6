import DeferredLog.Proofs.Cursor.Reading

/-!
# What a reader has read

A reader reads on while entries come in. What it has taken so far is exactly the log between where
it began and where it stands (`Faithful`): a reading takes what lies behind the position and moves
past it, and the log changes only behind its end.

A reader may begin beyond the end. It takes nothing there until the log has grown past it, and this
is why the invariant puts the position at the beginning or within the log.
-/

namespace DeferredLog

/-- A log, a reader's cursor on it, and all that the reader has taken. -/
structure Trail where
  log : Buffer
  cursor : Cursor
  consumed : ByteArray := .empty

namespace Trail

/-- What happens to a log with a reader. -/
inductive Event where
  | log (step : Buffer.Step)
  | reading (reading : Reading)
  deriving DecidableEq

/-- Whether the reader moves without reading. -/
def Event.isSeek : Event → Bool
  | .log _ => false
  | .reading r => r.isSeek

def step (t : Trail) : Event → Trail
  | .log s => { t with log := t.log.step s }
  | .reading r =>
    { t with
      cursor := t.cursor.follow t.log r
      consumed := t.consumed ++ t.cursor.taken t.log r }

def run (t : Trail) (events : List Event) : Trail :=
  events.foldl step t

/-- What happens to the log alone. -/
def Event.step? : Event → Option Buffer.Step
  | .log s => some s
  | .reading _ => none

/-- Readers do not touch the log. -/
theorem log_run (t : Trail) (events : List Event) :
    (t.run events).log = t.log.run (events.filterMap Event.step?) := by
  induction events generalizing t with
  | nil => rfl
  | cons e rest ih =>
    cases e with
    | log s => exact ih (t.step (.log s))
    | reading r => exact ih (t.step (.reading r))

variable {t : Trail} {start : ℕ}

/-! ### The invariant -/

/-- What was taken is the log from `start` to the position. -/
structure Faithful (t : Trail) (start : ℕ) : Prop where
  le_position : start ≤ t.cursor.position
  /-- The reader stands where it began, perhaps beyond the end, or within the log. -/
  placed : t.cursor.position = start ∨ t.cursor.position ≤ t.log.contents.size
  consumed_eq : t.consumed = t.log.contents.extract start t.cursor.position

theorem faithful_new (b : Buffer) (start : ℕ) :
    ({ log := b, cursor := ⟨start⟩ } : Trail).Faithful start :=
  ⟨Nat.le_refl _, .inl rfl, ByteArray.extract_same.symm⟩

theorem Faithful.size_consumed (h : t.Faithful start) :
    t.consumed.size = t.cursor.position - start := by
  rw [h.consumed_eq, ByteArray.size_extract]
  have hplaced := h.placed
  omega

/-- An entry comes in behind all that was taken. -/
theorem Faithful.log (h : t.Faithful start) (s : Buffer.Step) :
    (t.step (.log s)).Faithful start := by
  have hcontents := t.log.contents_step s
  refine ⟨h.le_position, h.placed.imp_right fun hle ↦ Nat.le_trans hle ?_, ?_⟩
  · show t.log.contents.size ≤ (t.log.step s).contents.size
    rw [hcontents, ByteArray.size_append]
    exact Nat.le_add_right _ _
  · show t.consumed = (t.log.step s).contents.extract start t.cursor.position
    rw [hcontents, h.consumed_eq]
    rcases h.placed with hstart | hle
    · rw [hstart, ByteArray.extract_same, ByteArray.extract_same]
    · exact (Buffer.extract_append_of_le hle).symm

/-- A reading takes what lies right behind what was taken before. -/
theorem Faithful.reading (h : t.Faithful start) {r : Reading} (hr : r.isSeek = false) :
    (t.step (.reading r)).Faithful start := by
  have hsize : (t.cursor.taken t.log r).size =
      min (t.cursor.asked t.log r) (t.log.contents.size - t.cursor.position) :=
    Cursor.size_taken r
  have hplaced := h.placed
  have hle := h.le_position
  rw [step, Cursor.follow_eq hr]
  refine ⟨Nat.le_trans hle (Nat.le_add_right _ _), ?_, ?_⟩
  · show t.cursor.position + _ = start ∨ t.cursor.position + _ ≤ t.log.contents.size
    omega
  · show t.consumed ++ t.cursor.taken t.log r =
      t.log.contents.extract start (t.cursor.position + _)
    rw [h.consumed_eq, Cursor.taken_eq_extract r, ByteArray.extract_append_extract,
      Nat.min_eq_left hle, Nat.max_eq_right (Nat.le_add_right _ _), ← Cursor.taken_eq_extract r]

theorem Faithful.run (h : t.Faithful start) {events : List Event}
    (hevents : ∀ e ∈ events, e.isSeek = false) : (t.run events).Faithful start := by
  induction events generalizing t with
  | nil => exact h
  | cons e rest ih =>
    have hrest : ∀ e ∈ rest, e.isSeek = false := fun e he ↦ hevents e (List.mem_cons_of_mem _ he)
    have he := hevents e List.mem_cons_self
    cases e with
    | log s => exact ih (h.log s) hrest
    | reading r => exact ih (h.reading he) hrest

/-! ### The main result -/

/-- A reader who begins anywhere, also beyond the end, and reads on without seeking, in whatever
ways and whatever is appended in between. What it has taken is the log from where it began to where
it stands. Its next reading takes what it asks for, as far as that is committed, and moves past it.
One of what remains takes all the rest, also piece by piece. One of an exact number fails if fewer
bytes are left, one of text if the rest is no text, and these have taken what was there all the
same. No position passes the largest word. -/
theorem reads_in_order {initial maxEntry : ℕ} {ceiling : Option ℕ} {b : Buffer}
    (h : Buffer.allocate initial maxEntry ceiling = .ok b) (before : List Buffer.Step) {start : ℕ}
    (hstart : start ≤ wordMax) {events : List Event} (hevents : ∀ e ∈ events, e.isSeek = false) :
    let t := ({ log := b.run before, cursor := ⟨start⟩ } : Trail).run events
    let position := t.cursor.position
    let rest := t.log.committed - position
    let ahead := fun len ↦ t.log.contents.extract position (position + len)
    (start ≤ position ∧ t.consumed.size = position - start ∧
      t.consumed = t.log.contents.extract start position) ∧
    (∀ r : Reading, r.isSeek = false →
      (t.cursor.taken t.log r).size = min (t.cursor.asked t.log r) rest ∧
      (t.cursor.follow t.log r).position = position + (t.cursor.taken t.log r).size ∧
      position + (t.cursor.taken t.log r).size ≤ wordMax) ∧
    (∀ len, t.cursor.read t.log len = (ahead len, ⟨position + min len rest⟩)) ∧
    t.cursor.readRemaining t.log = (ahead rest, ⟨position + rest⟩) ∧
    (∀ sizes : List ℕ, (∀ len ∈ sizes, len ≠ 0) → rest ≤ sizes.sum →
      t.cursor.readPieces t.log sizes = (ahead rest, ⟨position + rest⟩)) ∧
    (∀ target, t.cursor.readInto t.log target =
      (min target.size rest, ahead target.size ++ target.extract (min target.size rest) target.size,
        ⟨position + min target.size rest⟩)) ∧
    (∀ len, t.cursor.readExact t.log len =
      (if len ≤ rest then .ok (ahead len) else .error .unexpectedEnd,
        ⟨position + min len rest⟩)) ∧
    (∀ text, (t.cursor.readText t.log).1 = .ok text ↔ text.toUTF8 = ahead rest) ∧
    (∀ fault, (t.cursor.readText t.log).1 = .error fault ↔
      fault = .invalidText ∧ ¬ (ahead rest).IsValidUTF8) ∧
    (t.cursor.readText t.log).2 = ⟨position + rest⟩ := by
  intro t position rest ahead
  have hfaithful : t.Faithful start := (faithful_new (b.run before) start).run hevents
  have hlog : t.log = b.run (before ++ events.filterMap Event.step?) :=
    (log_run _ events).trans (Buffer.run_append b before _).symm
  have hsound : t.log.Sound := hlog ▸ (Buffer.sound_of_allocate h).run _
  have hcommitted : t.log.committed < addressSpace := hlog ▸ Buffer.committed_lt_run h _
  have hwords : addressSpace < wordMax := by decide
  rw [hsound.committed_eq] at hcommitted
  -- what is left is told by what was published, and read from what the log holds
  have hrest : rest = t.log.contents.size - position := by
    rw [← hsound.committed_eq]
  clear_value rest
  subst hrest
  have hplaced : position = start ∨ position ≤ t.log.contents.size := hfaithful.placed
  have hremaining : t.cursor.readRemaining t.log =
      (ahead (t.log.contents.size - position), ⟨position + (t.log.contents.size - position)⟩) := by
    rw [Cursor.readRemaining_eq_read hsound, Cursor.read_eq, Nat.min_self]
  refine ⟨⟨hfaithful.le_position, hfaithful.size_consumed, hfaithful.consumed_eq⟩, fun r hr ↦ ?_,
    fun _ ↦ Cursor.read_eq _, hremaining, fun sizes hsizes hall ↦ ?_,
    fun _ ↦ Cursor.readInto_eq _, fun _ ↦ Cursor.readExact_eq _, fun _ ↦ ?_, fun _ ↦ ?_, ?_⟩
  · have hsize : (t.cursor.taken t.log r).size =
        min (t.cursor.asked t.log r) (t.log.contents.size - position) :=
      Cursor.size_taken r
    refine ⟨hsize, by rw [Cursor.follow_eq hr], ?_⟩
    omega
  · rw [Cursor.readPieces_eq hsizes, Cursor.read_eq_read hall (Nat.le_refl _),
      ← Cursor.readRemaining_eq_read hsound, hremaining]
  · rw [Cursor.fst_readText_eq_ok_iff, hremaining]
  · rw [Cursor.fst_readText_eq_error_iff, hremaining]
  · rw [Cursor.readText_eq, hremaining]

/-- A reader begins two bytes beyond an empty log. It gets nothing, then a byte over a target, loses
three in an attempt to read them as text, and one more because it asked for five. -/
theorem reads_in_order_of_lost_text :
    let events : List Event := [.reading (.read 3), .log (.append ⟨#[1, 2, 3, 4]⟩),
      .reading (.readInto ⟨#[0]⟩), .log (.append ⟨#[255, 5]⟩), .reading .readText,
      .log (.append ⟨#[6]⟩), .reading (.readExact 5)]
    ∃ b, Buffer.allocate 2 8 none = .ok b ∧ 2 ≤ wordMax ∧ (∀ e ∈ events, e.isSeek = false) ∧
      let t := ({ log := b, cursor := ⟨2⟩ } : Trail).run events
      t.cursor.position = 7 ∧ t.consumed = ⟨#[3, 4, 255, 5, 6]⟩ ∧
        (t.cursor.readExact t.log 1).1 = .error .unexpectedEnd := by
  intro events
  obtain ⟨b, hb⟩ : ∃ b, Buffer.allocate 2 8 none = .ok b := ⟨_, rfl⟩
  obtain ⟨-, -, rfl⟩ := Buffer.allocate_eq_ok_iff.1 hb
  have hevents : ∀ e ∈ events, e.isSeek = false := by decide
  have hword : 2 ≤ wordMax := by decide
  refine ⟨_, hb, hword, hevents, ?_⟩
  obtain ⟨⟨-, -, hconsumed⟩, -, -, -, -, -, hexact, -⟩ := reads_in_order hb [] hword hevents
  refine ⟨by decide +kernel, hconsumed.trans (by decide +kernel), ?_⟩
  exact congrArg Prod.fst ((hexact 1).trans (congrArg (·, _) (if_neg (by decide +kernel))))

end Trail

end DeferredLog
