import DeferredLog.Proofs.Pipeline.Teardown
import DeferredLog.Proofs.Pipeline.Twins

/-!
# A producer that breaks down

A trigger whose producer breaks down is compared with one whose producer does not, its twin. As long
as every tick was published (`Whole`), whatever happens is the same with either producer; the first
tick that is not published is one on which the producer broke down, and with it the trigger's task
is over.

Both runs are followed along their itineraries. `Forks` says how two itineraries compare: they are
the same, or the same up to the turn in which the producer breaks down, and up to there the
pipelines are the same but for the producer. One turn forks or does not (`turn_cases`), and what is
shown for turns carries over to halts, moves and runs (`forks_itinerary`), as long as the trigger's
task is the only one that writes. After the fork only the run that broke down is followed, and it is
`Stalled`: the trigger fires no more.
-/

namespace DeferredLog.Pipeline

variable {p q : Pipeline} {producer twin : Producer} {n : ℕ}

/-! ### Ticks that were published -/

/-- Every tick so far was published. -/
def Whole (p : Pipeline) : Prop :=
  p.cell.stats.published = p.tick

theorem Whole.fire (h : p.Whole) (hentry : (Part.entry? p.nextParts).isSome = true) :
    p.fire.2.Whole := by
  obtain ⟨entry, hentry⟩ := Option.isSome_iff_exists.1 hentry
  obtain ⟨ready, hfire⟩ := fire_of_entry?_eq_some hentry
  rw [hfire]
  exact congrArg (· + 1) h

theorem isSome_entry?_of_fire {fired : Fired} (h : p.fire = (some fired, q)) :
    (Part.entry? p.nextParts).isSome = true := by
  cases hentry : Part.entry? p.nextParts with
  | some entry => rfl
  | none =>
    rw [fire_of_entry?_eq_none hentry] at h
    cases h

theorem entry?_eq_none_of_fire (h : p.fire = (none, q)) :
    Part.entry? p.nextParts = none ∧ q = { p with tick := p.tick + 1 } := by
  cases hentry : Part.entry? p.nextParts with
  | none =>
    rw [fire_of_entry?_eq_none hentry] at h
    exact ⟨rfl, (congrArg Prod.snd h).symm⟩
  | some entry =>
    obtain ⟨ready, hfire⟩ := fire_of_entry?_eq_some hentry
    rw [hfire] at h
    cases h

/-- A burst that began at `p` has ended at `q` because the producer broke down. It had published `n`
ticks, just as its twin does, and of the next nothing is left but its number. -/
structure Breaks (twin : Producer) (n : ℕ) (p q : Pipeline) : Prop where
  whole : (p.fires n).Whole
  fires_eq : (p.withProducer twin).fires n = (p.fires n).withProducer twin
  entry?_eq_none : Part.entry? (p.fires n).nextParts = none
  eq : q = { p.fires n with tick := (p.fires n).tick + 1, trigger := .finished true }

/-- A burst goes on after a fire that was the same with the twin. -/
theorem Breaks.succ (hsame : (p.withProducer twin).fire.2 = p.fire.2.withProducer twin)
    (h : Breaks twin n p.fire.2 q) : Breaks twin (n + 1) p q where
  whole := h.whole
  fires_eq := by
    rw [fires_succ, hsame]
    exact h.fires_eq
  entry?_eq_none := h.entry?_eq_none
  eq := h.eq

/-- A burst is the same with either producer, unless the producer breaks down. -/
theorem fireDue_cases (now : ℕ) (t : Timetable) (h : p.Whole) (hmends : twin.Mends p.producer) :
    ((fireDue now t p).Whole ∧
      fireDue now t (p.withProducer twin) = (fireDue now t p).withProducer twin) ∨
    ∃ n, Breaks twin n p (fireDue now t p) := by
  -- along the burst: each fire publishes, or it is the last
  fun_induction fireDue now t p with
  | case1 t p hdue fired q hfire ih =>
    have hentry := isSome_entry?_of_fire hfire
    have hq : p.fire.2 = q := congrArg Prod.snd hfire
    have hsame : (p.withProducer twin).fire = (some fired, q.withProducer twin) := by
      rw [fire_withProducer hmends hentry, hfire]
    have hproducer : q.producer = p.producer := hq ▸ producer_fire p
    obtain ⟨hwhole, hburst⟩ | ⟨n, hbreaks⟩ := ih (hq ▸ h.fire hentry) (hproducer ▸ hmends)
    · refine Or.inl ⟨hwhole, ?_⟩
      rw [fireDue, dif_pos hdue, hsame]
      exact hburst
    · rw [← hq] at hsame hbreaks ⊢
      exact Or.inr ⟨n + 1, hbreaks.succ (congrArg Prod.snd hsame)⟩
  | case2 t p hdue q hfire =>
    obtain ⟨hnone, hq⟩ := entry?_eq_none_of_fire hfire
    refine Or.inr ⟨0, h, rfl, hnone, ?_⟩
    rw [hq]
    rfl
  | case3 t p hdue =>
    refine Or.inl ⟨h, ?_⟩
    rw [fireDue, dif_neg hdue]
    rfl

theorem pollTrigger_of_stage_ne (h : p.trigger.stage ≠ .running) : p.pollTrigger = p := by
  cases htask : p.trigger with
  | absent => rw [pollTrigger, htask]
  | finished broken => rw [pollTrigger, htask]
  | spawned period => exact absurd (congrArg TriggerTask.stage htask) h
  | armed t => exact absurd (congrArg TriggerTask.stage htask) h

/-- A run of the trigger's task is the same with either producer, unless the producer breaks
down. -/
theorem pollTrigger_cases (h : p.Whole) (hmends : twin.Mends p.producer) :
    (p.pollTrigger.Whole ∧
      (p.withProducer twin).pollTrigger = p.pollTrigger.withProducer twin) ∨
    ∃ n, Breaks twin n p p.pollTrigger := by
  have hidle (hstage : p.trigger.stage ≠ .running) :
      p.pollTrigger.Whole ∧
        (p.withProducer twin).pollTrigger = p.pollTrigger.withProducer twin := by
    rw [pollTrigger_of_stage_ne hstage, pollTrigger_of_stage_ne (p := p.withProducer twin) hstage]
    exact ⟨h, rfl⟩
  cases htask : p.trigger with
  | absent => exact Or.inl (hidle (by rw [htask]; nofun))
  | finished broken => exact Or.inl (hidle (by rw [htask]; nofun))
  | spawned period =>
    have hnone := (ticked_of_spawned htask).eq
    refine Or.inl ⟨?_, pollTrigger_withProducer_of_spawned htask twin⟩
    rw [hnone]
    exact h
  | armed t =>
    have hrun {q : Pipeline} (hq : q.trigger = .armed t) : q.pollTrigger = q.runTrigger t := by
      rw [pollTrigger, hq]
    rw [hrun htask, hrun (q := p.withProducer twin) htask]
    cases hline : p.triggerLine.sounds with
    | true =>
      rw [runTrigger_of_sounds hline, runTrigger_of_sounds (p := p.withProducer twin) hline]
      exact Or.inl ⟨h, rfl⟩
    | false =>
      rw [runTrigger_of_silent hline, runTrigger_of_silent (p := p.withProducer twin) hline]
      exact fireDue_cases p.now t h hmends

/-! ### Steps -/

/-- A pipeline with the given producer that has published every tick so far. -/
structure Sound (p : Pipeline) (producer : Producer) : Prop where
  alert : p.Alert none
  whole : p.Whole
  producer_eq : p.producer = producer

/-- The pipeline in whose turn the trigger runs. -/
def popped (p : Pipeline) : Pipeline :=
  { p with ready := p.ready.tail }

theorem producer_turn (p : Pipeline) : p.turn.producer = p.producer :=
  congrArg Surroundings.producer (surroundings_turn p)

/-- An act that leaves the writer alone neither ticks nor publishes, and leaves the trigger's task
as it is. -/
theorem counts_perform {a : Act} (h : a.sparesWriter = true) (p : Pipeline) :
    (p.perform a).2.trigger = p.trigger ∧ (p.perform a).2.tick = p.tick ∧
      (p.perform a).2.cell.stats.published = p.cell.stats.published := by
  have hnone : (p.perform a).1.isPublication = false := by
    cases a <;> first | rfl | cases h
  have hpublished := (effect_perform p a).published_eq
  rw [hnone] at hpublished
  obtain ⟨_, _, _, _, tick, _, _, _, hperform, htick, -⟩ := perform_eq p a
  obtain rfl := htick (by rintro rfl; cases h)
  refine ⟨?_, ?_, hpublished⟩
  · rw [hperform]
  · rw [hperform]

/-- Nor does a run of the appender's task. -/
theorem counts_pollAppender (h : p.appender.Waits p.pending) :
    p.pollAppender.trigger = p.trigger ∧ p.pollAppender.tick = p.tick ∧
      p.pollAppender.cell.stats.published = p.cell.stats.published := by
  obtain ⟨hwork, hbeside, -, -⟩ := attended_pollAppender h
  simp only [besideAppender, Prod.mk.injEq] at hbeside
  obtain ⟨htrigger, -, -, -, -, -, htick, -⟩ := hbeside
  have hpublished := p.work.published_attend p.appender.stage p.appenderLine.sounds
  rw [← hwork] at hpublished
  exact ⟨htrigger, htick, hpublished⟩

/-- A turn is the same with either producer, unless the producer breaks down in it. -/
theorem turn_cases (h : p.Sound producer) (hmends : twin.Mends producer) :
    (p.turn.Sound producer ∧ (p.withProducer twin).turn = p.turn.withProducer twin) ∨
    ∃ n, p.ready.head? = some .trigger ∧ Breaks twin n p.popped p.turn := by
  have halert := h.alert.turn
  have hproducer := (producer_turn p).trans h.producer_eq
  rcases hready : p.ready with _ | ⟨_ | _, rest⟩
  · have hidle {q : Pipeline} (hq : q.ready = []) : q.turn = q := turn_of_ready_eq_nil hq
    rw [hidle hready, hidle (q := p.withProducer twin) hready]
    exact Or.inl ⟨h, rfl⟩
  · have hpopped : p.popped = { p with ready := rest } := by
      rw [popped, hready]
      rfl
    rw [turn_of_ready_eq_trigger hready] at halert hproducer ⊢
    rw [turn_of_ready_eq_trigger (p := p.withProducer twin) hready]
    let q : Pipeline := { p with ready := rest }
    obtain ⟨hwhole, hsame⟩ | ⟨n, hn⟩ :=
      pollTrigger_cases (p := q) h.whole (h.producer_eq ▸ hmends)
    · exact Or.inl ⟨⟨halert, hwhole, hproducer⟩, hsame⟩
    · refine Or.inr ⟨n, rfl, ?_⟩
      rw [hpopped]
      exact hn
  · rw [turn_of_ready_eq_appender hready] at halert hproducer ⊢
    rw [turn_of_ready_eq_appender (p := p.withProducer twin) hready]
    let q : Pipeline := { p with ready := rest }
    obtain ⟨-, htick, hpublished⟩ := counts_pollAppender (p := q) h.alert.waits
    have hwhole : q.pollAppender.Whole := hpublished.trans (h.whole.trans htick.symm)
    exact Or.inl ⟨⟨halert, hwhole, hproducer⟩, pollAppender_withProducer q twin⟩

/-- A step other than a turn neither ticks nor publishes, and a trigger that was handed over stays
as it is. -/
theorem counts_step {s : Step} (hspares : s.sparesWriter = true) (hturn : s ≠ .turn)
    (p : Pipeline) :
    (p.trigger ≠ .absent → (p.step s).trigger = p.trigger) ∧ (p.step s).tick = p.tick ∧
      (p.step s).cell.stats.published = p.cell.stats.published := by
  cases s with
  | act a =>
    obtain ⟨htrigger, htick, hpublished⟩ := counts_perform hspares p
    exact ⟨fun _ ↦ htrigger, htick, hpublished⟩
  | spawnTrigger period =>
    obtain ⟨ready, hwake⟩ := wake_eq { p with trigger := .spawned period } .trigger
    rw [step]
    split
    · next habsent =>
      rw [spawnTrigger, hwake]
      exact ⟨fun hpresent ↦ absurd habsent hpresent, rfl, rfl⟩
    · exact ⟨fun _ ↦ rfl, rfl, rfl⟩
  | spawnAppender =>
    obtain ⟨ready, hwake⟩ := wake_eq { p with appender := .spawned } .appender
    rw [step]
    split
    · rw [spawnAppender, hwake]
      exact ⟨fun _ ↦ rfl, rfl, rfl⟩
    · exact ⟨fun _ ↦ rfl, rfl, rfl⟩
  | stopTrigger signal =>
    obtain ⟨ready, hstop⟩ := exists_stopTrigger_eq p signal
    rw [step, hstop]
    exact ⟨fun _ ↦ rfl, rfl, rfl⟩
  | stopAppender signal =>
    obtain ⟨ready, hstop⟩ := exists_stopAppender_eq p signal
    rw [step, hstop]
    exact ⟨fun _ ↦ rfl, rfl, rfl⟩
  | turn => exact absurd rfl hturn

/-! ### Forks -/

/-- How the itineraries of a run and of the run with the twin compare: they are the same, and so are
the pipelines, or they are the same up to the turn in which the producer breaks down. -/
inductive Forks (producer twin : Producer) (p : Pipeline) : List Step → List Step → Prop
  | same {l : List Step} (hsound : (p.steps l).Sound producer)
      (hsame : (p.withProducer twin).steps l = (p.steps l).withProducer twin) :
      Forks producer twin p l l
  | apart {pre : List Step} {n : ℕ} (hsound : (p.steps pre).Sound producer)
      (hsame : (p.withProducer twin).steps pre = (p.steps pre).withProducer twin)
      (hfirst : (p.steps pre).ready.head? = some .trigger)
      (hbreaks : Breaks twin n (p.steps pre).popped (p.steps pre).turn) (post post' : List Step) :
      Forks producer twin p (pre ++ .turn :: post) (pre ++ .turn :: post')

variable {l l' k k' : List Step}

/-- Itineraries are compared piece by piece. -/
theorem Forks.append (h : Forks producer twin p l l')
    (hnext : (p.steps l).Sound producer →
      (p.withProducer twin).steps l' = (p.steps l).withProducer twin →
      Forks producer twin (p.steps l) k k') :
    Forks producer twin p (l ++ k) (l' ++ k') := by
  cases h with
  | same hsound hsame =>
    cases hnext hsound hsame with
    | same hsound' hsame' =>
      refine .same (by rwa [steps_append]) ?_
      rw [steps_append, hsame, hsame', steps_append]
    | @apart pre n hsound' hsame' hfirst hbreaks post post' =>
      rw [← List.append_assoc, ← List.append_assoc]
      rw [← steps_append] at hsound' hfirst hbreaks
      refine .apart hsound' ?_ hfirst hbreaks post post'
      rw [steps_append, hsame, hsame', steps_append]
  | apart hsound hsame hfirst hbreaks post post' =>
    rw [List.append_assoc, List.append_assoc, List.cons_append, List.cons_append]
    exact .apart hsound hsame hfirst hbreaks (post ++ k) (post' ++ k')

/-- A step forks if the producer breaks down in it. -/
theorem forks_step (h : p.Sound producer) (hmends : twin.Mends producer) {s : Step}
    (hspares : s.sparesWriter = true) : Forks producer twin p [s] [s] := by
  by_cases hturn : s = .turn
  · subst hturn
    obtain ⟨hsound, hsame⟩ | ⟨n, hfirst, hbreaks⟩ := turn_cases h hmends
    · exact .same hsound hsame
    · have hpre : (p.steps []).Sound producer := h
      exact .apart hpre rfl hfirst hbreaks [] []
  · have hkept := kept_of_work (Q := fun w ↦ w.producer = producer)
      fun p a hp ↦ (producer_perform p a).trans hp
    obtain ⟨halert, hproducer⟩ := hkept.step s ⟨h.alert, h.producer_eq⟩
    obtain ⟨-, htick, hpublished⟩ := counts_step hspares hturn p
    have hwhole : (p.step s).Whole := hpublished.trans (h.whole.trans htick.symm)
    exact .same ⟨halert, hwhole, hproducer⟩ (step_withProducer hspares hturn p twin)

theorem forks_steps (hmends : twin.Mends producer) (hspares : ∀ s ∈ l, s.sparesWriter = true)
    (h : p.Sound producer) : Forks producer twin p l l := by
  induction l generalizing p with
  | nil => exact .same h rfl
  | cons s rest ih =>
    obtain ⟨hs, hrest⟩ := List.forall_mem_cons.1 hspares
    exact (forks_step h hmends hs).append fun hsound _ ↦ ih hrest hsound

theorem forks_settling (hmends : twin.Mends producer) (h : p.Sound producer) :
    Forks producer twin p settling settling :=
  forks_steps hmends sparesWriter_settling h

theorem forks_passing (hmends : twin.Mends producer) (ms : ℕ) (h : p.Sound producer) :
    Forks producer twin p (passing ms) (passing ms) :=
  forks_steps hmends (sparesWriter_passing ms) h

/-- The halts are the same as long as the pipelines are. -/
theorem forks_halts (hmends : twin.Mends producer) (ms : ℕ) (h : p.Sound producer) :
    Forks producer twin p (halts ms p) (halts ms (p.withProducer twin)) := by
  fun_induction elapse ms p with
  | case1 ms p wait hwait hhalt ih =>
    rw [halts_of_halt hwait hhalt, halts_of_halt (p := p.withProducer twin) hwait hhalt]
    refine (forks_passing hmends wait h).append fun hsound hsame ↦ ?_
    rw [steps_passing, steps_passing] at hsame
    rw [hsame]
    exact ih hsound
  | case2 ms p wait hwait hhalt =>
    rw [halts_of_not_halt hwait hhalt, halts_of_not_halt (p := p.withProducer twin) hwait hhalt]
    exact forks_passing hmends ms h
  | case3 ms p hwait =>
    rw [halts_of_untilDue_eq_none hwait, halts_of_untilDue_eq_none (p := p.withProducer twin) hwait]
    exact forks_passing hmends ms h

theorem forks_route (hmends : twin.Mends producer) {m : Move} (hspares : m.sparesWriter = true)
    (h : p.Sound producer) :
    Forks producer twin p (p.route m) ((p.withProducer twin).route m) := by
  cases m with
  | act a => exact forks_step h hmends hspares
  | spawnTrigger period => exact forks_step h hmends rfl
  | spawnAppender => exact forks_step h hmends rfl
  | stopTrigger signal => exact forks_step h hmends rfl
  | stopAppender signal => exact forks_step h hmends rfl
  | settle => exact forks_settling hmends h
  | sleep ms =>
    refine (forks_settling hmends h).append fun hsound hsame ↦ ?_
    rw [steps_settling, steps_settling] at hsame
    rw [hsame]
    exact forks_halts hmends ms hsound
  | jump ms => exact (forks_settling hmends h).append fun hsound _ ↦ forks_passing hmends ms hsound

theorem forks_itinerary (hmends : twin.Mends producer) (moves : List Move)
    (hspares : ∀ m ∈ moves, m.sparesWriter = true) (h : p.Sound producer) :
    Forks producer twin p (p.itinerary moves) ((p.withProducer twin).itinerary moves) := by
  induction moves generalizing p with
  | nil => exact .same h rfl
  | cons m rest ih =>
    obtain ⟨hm, hrest⟩ := List.forall_mem_cons.1 hspares
    refine (forks_route hmends hm h).append fun hsound hsame ↦ ?_
    rw [steps_route, steps_route] at hsame
    rw [steps_route] at hsound ⊢
    rw [hsame]
    exact ih hrest hsound

/-! ### After the breakdown -/

/-- A pipeline whose trigger's task was lost with tick `k`, the only one that was not published. -/
structure Stalled (p : Pipeline) (k : ℕ) : Prop where
  alert : p.Alert none
  trigger_eq : p.trigger = .finished true
  tick_eq : p.tick = k
  published_eq : p.cell.stats.published + 1 = k

variable {k : ℕ}

theorem Breaks.stalled (h : Breaks twin n p q) (halert : q.Alert none) :
    q.Stalled ((p.fires n).tick + 1) where
  alert := halert
  trigger_eq := by rw [h.eq]
  tick_eq := by rw [h.eq]
  published_eq := by
    rw [h.eq]
    exact congrArg (· + 1) h.whole

theorem Stalled.turn (h : p.Stalled k) : p.turn.Stalled k := by
  have halert := h.alert.turn
  rcases hready : p.ready with _ | ⟨_ | _, rest⟩
  · rwa [turn_of_ready_eq_nil hready]
  · rw [turn_of_ready_eq_trigger hready] at halert ⊢
    have hover : p.trigger.stage ≠ .running := by
      rw [h.trigger_eq]
      nofun
    rw [pollTrigger_of_stage_ne (p := { p with ready := rest }) hover] at halert ⊢
    exact ⟨halert, h.trigger_eq, h.tick_eq, h.published_eq⟩
  · rw [turn_of_ready_eq_appender hready] at halert ⊢
    let q : Pipeline := { p with ready := rest }
    obtain ⟨htrigger, htick, hpublished⟩ := counts_pollAppender (p := q) h.alert.waits
    exact ⟨halert, htrigger.trans h.trigger_eq, htick.trans h.tick_eq,
      (congrArg (· + 1) hpublished).trans h.published_eq⟩

theorem Stalled.step (h : p.Stalled k) {s : Step} (hspares : s.sparesWriter = true) :
    (p.step s).Stalled k := by
  by_cases hturn : s = .turn
  · exact hturn ▸ h.turn
  · have hpresent : p.trigger ≠ .absent := by
      rw [h.trigger_eq]
      nofun
    have hkept := kept_of_work (Q := fun _ ↦ True) fun _ _ _ ↦ trivial
    obtain ⟨htrigger, htick, hpublished⟩ := counts_step hspares hturn p
    exact ⟨(hkept.step s ⟨h.alert, trivial⟩).1, (htrigger hpresent).trans h.trigger_eq,
      htick.trans h.tick_eq, (congrArg (· + 1) hpublished).trans h.published_eq⟩

theorem Stalled.steps (h : p.Stalled k) (hspares : ∀ s ∈ l, s.sparesWriter = true) :
    (p.steps l).Stalled k := by
  induction l generalizing p with
  | nil => exact h
  | cons s rest ih =>
    obtain ⟨hs, hrest⟩ := List.forall_mem_cons.1 hspares
    exact ih (h.step hs) hrest

theorem Stalled.operate (h : p.Stalled k) {moves : List Move}
    (hspares : ∀ m ∈ moves, m.sparesWriter = true) : (p.operate moves).Stalled k := by
  rw [← steps_itinerary]
  exact h.steps (sparesWriter_itinerary p hspares)

theorem Stalled.not_whole (h : p.Stalled k) : ¬ p.Whole := by
  intro hwhole
  have hpublished := h.published_eq
  rw [hwhole, h.tick_eq] at hpublished
  exact Nat.succ_ne_self k hpublished

/-- As long as every tick was published, a run is its twin's. Otherwise the producer broke down in
one of the turns: up to there the run is its twin's, and ever since the pipeline has stalled. -/
theorem operate_cases (hmends : twin.Mends producer) (h : p.Sound producer) {moves : List Move}
    (hspares : ∀ m ∈ moves, m.sparesWriter = true) :
    (p.operate moves).Whole ∧
      (p.withProducer twin).operate moves = (p.operate moves).withProducer twin ∨
    (∃ pre post post' n,
      p.itinerary moves = pre ++ .turn :: post ∧
      (p.withProducer twin).itinerary moves = pre ++ .turn :: post' ∧
      (p.withProducer twin).steps pre = (p.steps pre).withProducer twin ∧
      (p.steps pre).ready.head? = some .trigger ∧
      Breaks twin n (p.steps pre).popped (p.steps pre).turn ∧
      (p.operate moves).tick = ((p.steps pre).popped.fires n).tick + 1) ∧
    (p.operate moves).Stalled (p.operate moves).tick := by
  have hforks := forks_itinerary hmends moves hspares h
  have hsteps := sparesWriter_itinerary p hspares
  rw [← steps_itinerary, ← steps_itinerary]
  generalize p.itinerary moves = l, (p.withProducer twin).itinerary moves = l' at hforks hsteps ⊢
  cases hforks with
  | same hsound hsame => exact Or.inl ⟨hsound.whole, hsame⟩
  | @apart pre n hsound hsame hfirst hbreaks post post' =>
    have hpost := (List.forall_mem_cons.1 (List.forall_mem_append.1 hsteps).2).2
    have hstalled := (hbreaks.stalled hsound.alert.turn).steps hpost
    have htick : (p.steps (pre ++ .turn :: post)).tick =
        ((p.steps pre).popped.fires n).tick + 1 := by
      rw [steps_append]
      exact hstalled.tick_eq
    refine Or.inr ⟨⟨pre, post, post', n, rfl, rfl, hsame, hfirst, hbreaks, htick⟩, ?_⟩
    rw [htick, steps_append]
    exact hstalled

end DeferredLog.Pipeline
