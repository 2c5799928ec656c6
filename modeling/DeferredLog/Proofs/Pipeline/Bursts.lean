import DeferredLog.Proofs.Pipeline.Lockstep

/-!
# What one settling does about late ticks

A trigger that is late fires for all its late ticks in one go, and the appender drains once
afterwards. So of a burst only the last entry reaches the log (`Alert.settle_burst`); the others are
superseded, each by the next. `Work.Burst` is the work in the middle of it, with the entries
published so far, and `Burst.fire` adds one.

How many ticks there are is a matter of the timetable. It moves on by a period with each of them,
and only ticks that are late within tolerance are caught up with: `Timetable.due_le_div` bounds the
burst by the number of periods in the tolerance.

In which order the tasks were woken does not matter to the trigger. An appender that was woken first
makes room for it and is woken again by its fires; from then on the pipeline is orderly, and settles
as it would have (`Alert.exists_orderly`).
-/

namespace DeferredLog

/-! ### How many ticks are due -/

namespace Timetable

variable {t : Timetable} {now : ℕ}

/-- Ticks late within tolerance are a period apart. -/
theorem due_le_of_near (hnear : now ≤ t.next + tolerance) (h : t.next ≤ now) :
    t.due now ≤ (now - t.next) / t.period + 1 := by
  have hpos := t.period_pos
  have hfar : tolerance < horizon := by decide
  fun_induction due now t with
  | case1 t hdue ih =>
    rw [period_after] at ih
    refine Nat.succ_le_succ ?_
    have hnext : (t.after now).next = min (t.next + t.period) (now + horizon) := by
      rw [after, if_neg (Nat.not_lt.2 hnear)]
    rcases Nat.lt_or_ge now (t.after now).next with hlater | hagain
    · rw [due_of_lt hlater]
      exact Nat.zero_le _
    · have hkept : (t.after now).next = t.next + t.period := by omega
      have hdiv : (now - t.next) / t.period = (now - t.next - t.period) / t.period + 1 :=
        Nat.div_eq_sub_div hpos (by omega)
      rw [hdiv, Nat.sub_sub, ← hkept]
      exact ih (by omega) hagain hpos
  | case2 t hdue => exact Nat.zero_le _

/-- There are no more ticks to catch up with than periods in the tolerance, and one. -/
theorem due_le_div (now : ℕ) (t : Timetable) : t.due now ≤ tolerance / t.period + 1 := by
  rcases Nat.lt_or_ge (t.next + tolerance) now with hlate | hnear
  · rw [due_of_late hlate]
    exact Nat.le_add_left 1 _
  rcases Nat.lt_or_ge now t.next with hearly | hdue
  · rw [due_of_lt hearly]
    exact Nat.zero_le _
  · calc t.due now ≤ (now - t.next) / t.period + 1 := due_le_of_near hnear hdue
      _ ≤ tolerance / t.period + 1 := Nat.succ_le_succ (Nat.div_le_div_right (by omega))

end Timetable

/-! ### The work of a burst -/

namespace Work

variable {w v : Work} {since : List ByteArray} {n : ℕ}

/-- The request that comes with a fire leaves a drain owed, and touches nothing but the counts of
requests. -/
theorem request_eq (w : Work) : ∃ requests, w.request = { w with owed := true, requests } := by
  cases howed : w.owed with
  | false => exact ⟨_, request_of_not_owed howed⟩
  | true =>
    refine ⟨{ w.requests with coalesced := w.requests.coalesced + 1 }, ?_⟩
    rw [request_of_owed howed, ← howed]

theorem clock_fire (w : Work) :
    w.fire.tick = w.tick + 1 ∧ w.fire.producer = w.producer ∧ w.fire.uptime = w.uptime ∧
      w.fire.now = w.now := by
  cases hentry : Part.entry? (w.producer (w.tick + 1) (w.uptime (w.tick + 1))) with
  | none =>
    rw [fire_of_entry?_eq_none hentry]
    exact ⟨rfl, rfl, rfl, rfl⟩
  | some entry =>
    rw [fire_of_entry?_eq_some hentry]
    obtain ⟨requests, hrequest⟩ :=
      request_eq { w with tick := w.tick + 1, cell := (w.cell.publish entry).2 }
    rw [hrequest]
    exact ⟨rfl, rfl, rfl, rfl⟩

/-- Every fire is a tick, whatever its producer does. -/
theorem clock_fires (n : ℕ) (w : Work) :
    (fire^[n] w).tick = w.tick + n ∧ (fire^[n] w).producer = w.producer ∧
      (fire^[n] w).uptime = w.uptime ∧ (fire^[n] w).now = w.now := by
  induction n with
  | zero => exact ⟨rfl, rfl, rfl, rfl⟩
  | succ n ih =>
    obtain ⟨htick, hproducer, huptime, hnow⟩ := ih
    obtain ⟨htick', hproducer', huptime', hnow'⟩ := clock_fire (fire^[n] w)
    rw [Function.iterate_succ_apply']
    exact ⟨htick'.trans (congrArg (· + 1) htick), hproducer'.trans hproducer,
      huptime'.trans huptime, hnow'.trans hnow⟩

theorem clock_attend (w : Work) (stage : Stage) (stopped : Bool) :
    (w.attend stage stopped).tick = w.tick ∧ (w.attend stage stopped).producer = w.producer ∧
      (w.attend stage stopped).uptime = w.uptime ∧ (w.attend stage stopped).now = w.now := by
  unfold attend drain
  split
  · split
    · exact ⟨rfl, rfl, rfl, rfl⟩
    · exact ⟨rfl, rfl, rfl, rfl⟩
  · exact ⟨rfl, rfl, rfl, rfl⟩

/-- An appender to which no entry waits changes nothing but its own counts. -/
theorem attend_of_not_pending (h : w.cell.hasPending = false) (stage : Stage) (stopped : Bool) :
    ∃ owed drains, w.attend stage stopped = { w with owed, drains } := by
  have hpeek : w.cell.peek = none :=
    Option.isSome_eq_false_iff.1 (w.cell.isSome_peek.trans h) |> Option.isNone_iff_eq_none.1
  unfold attend
  split
  · exact ⟨_, _, drain_of_peek_eq_none hpeek⟩
  · exact ⟨w.owed, w.drains, rfl⟩

/-- The work `v` after fires from `w`, where nothing waited: they published the entries `since`,
latest first, and each superseded the one before it. -/
structure Burst (w v : Work) (since : List ByteArray) : Prop where
  holds : v.cell.Holds since
  capacity_eq : v.cell.capacity = w.cell.capacity
  superseded_eq : v.cell.stats.superseded = w.cell.stats.superseded + (since.length - 1)
  latest : ∀ entry ∈ since.head?,
    Part.entry? (w.producer (w.tick + since.length) (w.uptime (w.tick + since.length))) = some entry
  owed : since ≠ [] → v.owed = true
  buffer_eq : v.buffer = w.buffer
  clock_eq : v.tick = w.tick + since.length ∧ v.producer = w.producer ∧ v.uptime = w.uptime

theorem burst_nil (h : w.cell.hasPending = false) : Burst w w [] where
  holds := by
    have hsame : w.cell.seq = w.cell.drained := by simpa [Cell.hasPending] using h
    exact Cell.holds_nil (hsame.trans (UInt64.add_zero _).symm)
  capacity_eq := rfl
  superseded_eq := rfl
  latest := nofun
  owed := fun hne ↦ absurd rfl hne
  buffer_eq := rfl
  clock_eq := ⟨rfl, rfl, rfl⟩

theorem Burst.fire (h : Burst w v since) (hlt : since.length < 2 ^ 63)
    (hsteady : w.producer.Steady) : ∃ entry, Burst w v.fire (entry :: since) := by
  obtain ⟨htick, hproducer, huptime⟩ := h.clock_eq
  obtain ⟨entry, hentry⟩ :=
    Option.isSome_iff_exists.1 (hsteady (v.tick + 1) (v.uptime (v.tick + 1)))
  have hfire : v.fire = request { v with tick := v.tick + 1, cell := (v.cell.publish entry).2 } :=
    fire_of_entry?_eq_some (hproducer ▸ hentry)
  obtain ⟨requests, hrequest⟩ :=
    request_eq { v with tick := v.tick + 1, cell := (v.cell.publish entry).2 }
  have hsuperseded : (v.cell.publish entry).2.stats.superseded =
      v.cell.stats.superseded + if v.cell.hasPending then 1 else 0 := rfl
  refine ⟨entry, ?_⟩
  rw [hfire, hrequest]
  exact
    { holds := h.holds.publish entry
      capacity_eq := (Cell.capacity_publish _ _).trans h.capacity_eq
      superseded_eq := by
        show (v.cell.publish entry).2.stats.superseded = _
        rw [hsuperseded, h.superseded_eq, h.holds.hasPending_eq hlt]
        cases since with
        | nil => rfl
        | cons latest rest => exact Nat.add_assoc _ _ _
      latest := fun latest hlatest ↦ by
        rw [← Option.some.inj hlatest, List.length_cons, ← Nat.add_assoc, ← htick, ← huptime]
        exact hentry
      owed := fun _ ↦ rfl
      buffer_eq := h.buffer_eq
      clock_eq := ⟨congrArg (· + 1) htick, hproducer, huptime⟩ }

theorem exists_burst_fires (h : w.cell.hasPending = false) (hsteady : w.producer.Steady)
    (hn : n ≤ 2 ^ 63) : ∃ since, since.length = n ∧ Burst w (Work.fire^[n] w) since := by
  induction n with
  | zero => exact ⟨[], rfl, burst_nil h⟩
  | succ n ih =>
    obtain ⟨since, rfl, hburst⟩ := ih (Nat.le_of_succ_le hn)
    obtain ⟨entry, hfired⟩ := hburst.fire hn hsteady
    refine ⟨entry :: since, rfl, ?_⟩
    rw [Function.iterate_succ_apply']
    exact hfired

/-- After a burst the appender hands the latest entry to the log, and no other. -/
theorem Burst.attend (h : Burst w v since) (hlt : since.length < 2 ^ 63) (hne : since ≠ [])
    (stopped : Bool) :
    (v.attend .running stopped).cell.hasPending = false ∧
      (v.attend .running stopped).cell.stats.superseded =
        w.cell.stats.superseded + (since.length - 1) ∧
      ∃ entry,
        Part.entry? (w.producer (w.tick + since.length) (w.uptime (w.tick + since.length))) =
          some entry ∧
        (v.attend .running stopped).buffer =
          (w.buffer.append (Draft.cut w.cell.capacity entry)).2 := by
  obtain ⟨entry, rest, rfl⟩ := List.exists_cons_of_ne_nil hne
  have hdrain : v.attend .running stopped = v.drain := by
    rw [attend_running, h.owed hne]
    rfl
  have hpeek : v.cell.peek = some (Draft.cut w.cell.capacity entry) := by
    rw [h.holds.peek_eq hlt, h.capacity_eq]
    rfl
  refine ⟨hdrain ▸ hasPending_cell_drain v, ?_, entry, h.latest entry rfl, ?_⟩
  · rw [hdrain, drain_of_peek_eq_some hpeek]
    exact (congrArg Cell.Stats.superseded v.cell.stats_take).trans h.superseded_eq
  · rw [hdrain, drain_of_peek_eq_some hpeek, ← h.buffer_eq]

end Work

/-! ### Settling, whoever was woken first -/

namespace Pipeline

variable {p : Pipeline}

/-- A pipeline settles as an orderly one does: itself, or if the appender is the first to run
although ticks are due, the pipeline after that run. -/
theorem Alert.exists_orderly (h : p.Alert none) (hsteady : p.producer.Steady) :
    ∃ q, q.Orderly ∧ q.settle = p.settle ∧ q.ticksDue = p.ticksDue ∧
      q.nextTrigger = p.nextTrigger ∧
      (q = p ∨ ¬ p.TriggerFirst ∧
        ∃ rest, Attended { p with ready := rest } q p.appender.stage) := by
  by_cases hfirst : p.TriggerFirst
  · exact ⟨p, ⟨h, hfirst, fun _ ↦ hsteady⟩, rfl, rfl, rfl, Or.inl rfl⟩
  obtain ⟨hdue, hother⟩ := Classical.not_imp.1 hfirst
  have hwoken : .trigger ∈ p.ready :=
    (h.ready_or_rests .trigger nofun).resolve_right fun hrests ↦
      hdue (TriggerRests.ticksDue_eq hrests)
  rcases hready : p.ready with _ | ⟨_ | _, rest⟩
  · rw [hready] at hwoken
    cases hwoken
  · rw [hready] at hother
    exact absurd rfl hother
  have hattended : Attended { p with ready := rest } p.turn p.appender.stage := by
    rw [turn_of_ready_eq_appender hready]
    exact attended_pollAppender (p := { p with ready := rest }) h.waits
  have hsettle : p.turn.settle = p.settle :=
    turn_of_ready_eq_nil (ready_settle h)
  have hbeside := hattended.beside_eq
  simp only [besideAppender, Prod.mk.injEq] at hbeside
  obtain ⟨htask, hline, -, hrest, hproducer, -, -, hnow⟩ := hbeside
  refine ⟨p.turn, ⟨h.turn, fun _ ↦ ?_, fun _ ↦ hproducer ▸ hsteady⟩, hsettle, ?_, ?_,
    Or.inr ⟨hfirst, rest, hattended⟩⟩
  · -- nobody but the trigger can be left
    have hnodup := h.nodup
    rw [hready, List.nodup_cons] at hnodup
    rw [hready, List.mem_cons] at hwoken
    have hmem : .trigger ∈ rest := hwoken.resolve_left (by decide)
    rw [hrest]
    rcases rest with _ | ⟨_ | _, others⟩
    · cases hmem
    · rfl
    · exact absurd List.mem_cons_self hnodup.1
  · unfold ticksDue
    rw [htask, hline, hnow]
  · unfold nextTrigger
    rw [htask, hline, hnow]

/-- Whoever was woken first, the trigger fires as often as ticks are due, and no time goes by. -/
theorem Alert.settle_eq (h : p.Alert none) (hsteady : p.producer.Steady) :
    p.settle.trigger = p.nextTrigger ∧ p.settle.tick = p.tick + p.ticksDue ∧
      p.settle.producer = p.producer ∧ p.settle.uptime = p.uptime ∧ p.settle.now = p.now := by
  obtain ⟨q, horderly, hsettle, hdue, hnext, hq⟩ := h.exists_orderly hsteady
  obtain ⟨hwork, htrigger, -⟩ := horderly.settle_eq
  obtain ⟨hsame₁, hsame₂, hsame₃, hsame₄⟩ :
      q.tick = p.tick ∧ q.producer = p.producer ∧ q.uptime = p.uptime ∧ q.now = p.now := by
    obtain rfl | ⟨-, rest, hattended⟩ := hq
    · exact ⟨rfl, rfl, rfl, rfl⟩
    · have hbeside := hattended.beside_eq
      simp only [besideAppender, Prod.mk.injEq] at hbeside
      obtain ⟨-, -, -, -, hproducer, huptime, htick, hnow⟩ := hbeside
      exact ⟨htick, hproducer, huptime, hnow⟩
  obtain ⟨htick, hproducer, huptime, hnow⟩ :=
    (Work.fire^[q.ticksDue] q.work).clock_attend q.appender.stage q.appenderLine.sounds
  obtain ⟨htick', hproducer', huptime', hnow'⟩ := Work.clock_fires q.ticksDue q.work
  rw [hsettle, prospect] at hwork
  refine ⟨hsettle ▸ htrigger.trans hnext, ?_, ?_, ?_, ?_⟩
  · rw [← hdue, ← hsame₁]
    exact (congrArg Work.tick hwork).trans (htick.trans htick')
  · rw [← hsame₂]
    exact (congrArg Work.producer hwork).trans (hproducer.trans hproducer')
  · rw [← hsame₃]
    exact (congrArg Work.uptime hwork).trans (huptime.trans huptime')
  · rw [← hsame₄]
    exact (congrArg Work.now hwork).trans (hnow.trans hnow')

/-- Settling hands the last entry of a burst to the log, if the appender runs and nothing waited
before. All others of the burst are superseded. The appender may have been told to stop, unless it
is the first to run. -/
theorem Alert.settle_burst (h : p.Alert none) (hsteady : p.producer.Steady)
    (hrunning : p.appender.stage = .running)
    (htold : p.appenderLine.sounds = true → p.TriggerFirst)
    (hidle : p.cell.hasPending = false) (hdue : p.ticksDue ≠ 0) :
    p.settle.cell.hasPending = false ∧
      p.settle.cell.stats.superseded = p.cell.stats.superseded + (p.ticksDue - 1) ∧
      ∃ entry,
        Part.entry? (p.producer (p.tick + p.ticksDue) (p.uptime (p.tick + p.ticksDue))) =
          some entry ∧
        p.settle.buffer = (p.buffer.append (Draft.cut p.cell.capacity entry)).2 := by
  obtain ⟨q, horderly, hsettle, hsame, -, hq⟩ := h.exists_orderly hsteady
  obtain ⟨hwork, -, -⟩ := horderly.settle_eq
  rw [hsettle] at hwork
  -- an appender that runs first finds nothing, and goes on to wait
  obtain ⟨⟨owed, drains, hbefore⟩, hstage⟩ :
      (∃ owed drains, q.work = { p.work with owed, drains }) ∧ q.appender.stage = .running := by
    obtain rfl | ⟨hlate, rest, hattended⟩ := hq
    · exact ⟨⟨_, _, rfl⟩, hrunning⟩
    · have hsilent : p.appenderLine.sounds = false := Bool.eq_false_iff.2 (mt htold hlate)
      obtain ⟨owed, drains, hattend⟩ :=
        p.work.attend_of_not_pending hidle p.appender.stage p.appenderLine.sounds
      refine ⟨⟨owed, drains, hattended.work_eq.trans hattend⟩, ?_⟩
      rw [hattended.stage_eq, hrunning]
      exact congrArg (Stage.told .running) hsilent
  let w : Work := { p.work with owed, drains }
  have hfew : p.ticksDue < 2 ^ 63 := Nat.lt_of_le_of_lt p.ticksDue_le (by decide)
  obtain ⟨since, hlength, hburst⟩ :=
    Work.exists_burst_fires (w := w) hidle hsteady (Nat.le_of_lt hfew)
  have hne : since ≠ [] := List.length_pos_iff.1 (hlength ▸ Nat.pos_of_ne_zero hdue)
  obtain ⟨hnone, hsuperseded, entry, hentry, hbuffer⟩ :=
    hburst.attend (hlength ▸ hfew) hne q.appenderLine.sounds
  rw [prospect, hsame, hbefore, hstage] at hwork
  rw [hlength, ← hwork] at hsuperseded
  rw [hlength] at hentry
  rw [← hwork] at hnone hbuffer
  exact ⟨hnone, hsuperseded, entry, hentry, hbuffer⟩

end Pipeline

end DeferredLog
