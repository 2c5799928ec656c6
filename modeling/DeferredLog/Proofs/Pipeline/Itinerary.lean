import DeferredLog.Proofs.Pipeline.Moves

/-!
# Moves step by step

A move that lets time go by runs the tasks many times. Step by step it is a list of acts by hand and
of turns, and so is every run of moves: its itinerary (`steps_itinerary`). Which steps those are
depends on the pipeline, for a sleep halts at every tick on the way.

A run can then be taken apart at any of its turns, which the moves alone do not allow.
-/

namespace DeferredLog.Pipeline

variable {p : Pipeline}

/-! ### Steps -/

/-- The least that can happen to a pipeline. -/
inductive Step where
  | act (a : Act)
  | spawnTrigger (period : Duration)
  | spawnAppender
  | stopTrigger (signal : Signal)
  | stopAppender (signal : Signal)
  | turn
  deriving DecidableEq

/-- The pipeline after a step. A task can be handed over only once. -/
def step (p : Pipeline) : Step → Pipeline
  | .act a => (p.perform a).2
  | .spawnTrigger period => if p.trigger = .absent then p.spawnTrigger period else p
  | .spawnAppender => if p.appender = .absent then p.spawnAppender else p
  | .stopTrigger signal => p.stopTrigger signal
  | .stopAppender signal => p.stopAppender signal
  | .turn => p.turn

def steps (p : Pipeline) (l : List Step) : Pipeline :=
  l.foldl step p

theorem steps_append (p : Pipeline) (l k : List Step) : p.steps (l ++ k) = (p.steps l).steps k :=
  List.foldl_append ..

/-- What every step of every move keeps, a step keeps. -/
theorem Kept.step {P : Pipeline → Prop} (hP : Kept P) (s : Step) (h : P p) : P (p.step s) := by
  cases s with
  | act a => exact hP.act p a h
  | spawnTrigger period => exact hP.move (.spawnTrigger period) h
  | spawnAppender => exact hP.move .spawnAppender h
  | stopTrigger signal => exact hP.stopTrigger p signal h
  | stopAppender signal => exact hP.stopAppender p signal h
  | turn => exact hP.turn p h

/-! ### Itineraries -/

/-- Settling, step by step. -/
def settling : List Step :=
  [.turn, .turn, .turn]

theorem steps_settling (p : Pipeline) : p.steps settling = p.settle := rfl

/-- Moving the clock and settling, step by step. -/
def passing (ms : ℕ) : List Step :=
  .act (.pass ms) :: settling

theorem steps_passing (p : Pipeline) (ms : ℕ) : p.steps (passing ms) = (p.advance ms).settle := rfl

/-- Time that goes by, step by step, with a halt at every tick on the way. -/
def halts (ms : ℕ) (p : Pipeline) : List Step :=
  match p.untilDue with
  | some wait =>
    if 0 < wait ∧ wait ≤ ms then passing wait ++ halts (ms - wait) (p.advance wait).settle
    else passing ms
  | none => passing ms
termination_by ms

theorem halts_of_halt {wait ms : ℕ} (h : p.untilDue = some wait) (hhalt : 0 < wait ∧ wait ≤ ms) :
    halts ms p = passing wait ++ halts (ms - wait) (p.advance wait).settle := by
  rw [halts, h]
  exact if_pos hhalt

theorem halts_of_not_halt {wait ms : ℕ} (h : p.untilDue = some wait)
    (hhalt : ¬ (0 < wait ∧ wait ≤ ms)) : halts ms p = passing ms := by
  rw [halts, h]
  exact if_neg hhalt

theorem halts_of_untilDue_eq_none (h : p.untilDue = none) (ms : ℕ) : halts ms p = passing ms := by
  rw [halts, h]

theorem steps_halts (ms : ℕ) (p : Pipeline) : p.steps (halts ms p) = elapse ms p := by
  fun_induction elapse ms p with
  | case1 ms p wait hwait hhalt ih =>
    rw [halts_of_halt hwait hhalt, steps_append, steps_passing, ih]
  | case2 ms p wait hwait hhalt => rw [halts_of_not_halt hwait hhalt, steps_passing]
  | case3 ms p hwait => rw [halts_of_untilDue_eq_none hwait, steps_passing]

/-- A move, step by step. -/
def route (p : Pipeline) : Move → List Step
  | .act a => [.act a]
  | .spawnTrigger period => [.spawnTrigger period]
  | .spawnAppender => [.spawnAppender]
  | .stopTrigger signal => [.stopTrigger signal]
  | .stopAppender signal => [.stopAppender signal]
  | .settle => settling
  | .sleep ms => settling ++ halts ms p.settle
  | .jump ms => settling ++ passing ms

theorem steps_route (p : Pipeline) (m : Move) : p.steps (p.route m) = p.move m := by
  cases m with
  | act a => rfl
  | spawnTrigger period => rfl
  | spawnAppender => rfl
  | stopTrigger signal => rfl
  | stopAppender signal => rfl
  | settle => rfl
  | sleep ms => rw [route, steps_append, steps_settling, steps_halts, move, sleep]
  | jump ms => rfl

/-- Several moves, step by step. -/
def itinerary (p : Pipeline) : List Move → List Step
  | [] => []
  | m :: rest => p.route m ++ (p.move m).itinerary rest

theorem steps_itinerary (p : Pipeline) (moves : List Move) :
    p.steps (p.itinerary moves) = p.operate moves := by
  induction moves generalizing p with
  | nil => rfl
  | cons m rest ih =>
    rw [itinerary, steps_append, steps_route, ih]
    rfl

/-! ### Steps that leave the writer alone -/

/-- Whether an act leaves the writing to the trigger's task. -/
def Act.sparesWriter : Act → Bool
  | .publish _ | .write _ | .fire => false
  | _ => true

def Step.sparesWriter : Step → Bool
  | .act a => a.sparesWriter
  | _ => true

def Move.sparesWriter : Move → Bool
  | .act a => a.sparesWriter
  | _ => true

theorem sparesWriter_settling : ∀ s ∈ settling, s.sparesWriter = true := by
  decide

theorem sparesWriter_passing (ms : ℕ) : ∀ s ∈ passing ms, s.sparesWriter = true :=
  List.forall_mem_cons.2 ⟨rfl, sparesWriter_settling⟩

theorem sparesWriter_halts (ms : ℕ) (p : Pipeline) : ∀ s ∈ halts ms p, s.sparesWriter = true := by
  fun_induction elapse ms p with
  | case1 ms p wait hwait hhalt ih =>
    rw [halts_of_halt hwait hhalt]
    exact List.forall_mem_append.2 ⟨sparesWriter_passing wait, ih⟩
  | case2 ms p wait hwait hhalt =>
    rw [halts_of_not_halt hwait hhalt]
    exact sparesWriter_passing ms
  | case3 ms p hwait =>
    rw [halts_of_untilDue_eq_none hwait]
    exact sparesWriter_passing ms

theorem sparesWriter_route (p : Pipeline) {m : Move} (h : m.sparesWriter = true) :
    ∀ s ∈ p.route m, s.sparesWriter = true := by
  cases m with
  | act a => exact List.forall_mem_singleton.2 h
  | spawnTrigger period => exact List.forall_mem_singleton.2 rfl
  | spawnAppender => exact List.forall_mem_singleton.2 rfl
  | stopTrigger signal => exact List.forall_mem_singleton.2 rfl
  | stopAppender signal => exact List.forall_mem_singleton.2 rfl
  | settle => exact sparesWriter_settling
  | sleep ms =>
    exact List.forall_mem_append.2 ⟨sparesWriter_settling, sparesWriter_halts ms p.settle⟩
  | jump ms => exact List.forall_mem_append.2 ⟨sparesWriter_settling, sparesWriter_passing ms⟩

/-- Moves that leave the writer alone are made of steps that do. -/
theorem sparesWriter_itinerary (p : Pipeline) {moves : List Move}
    (h : ∀ m ∈ moves, m.sparesWriter = true) :
    ∀ s ∈ p.itinerary moves, s.sparesWriter = true := by
  induction moves generalizing p with
  | nil => exact nofun
  | cons m rest ih =>
    obtain ⟨hm, hrest⟩ := List.forall_mem_cons.1 h
    exact List.forall_mem_append.2 ⟨sparesWriter_route p hm, ih _ hrest⟩

end DeferredLog.Pipeline
