/-!
# The line on which a task is told to stop

Each task listens on a line of its own, and whoever holds the other end says a word or hangs up. The
line keeps one word. A word on top of an unheard one overruns it, and the task hears of the overrun
first; that the other end hung up it hears only after what was said before. What a task hears makes
no difference to it: it ends at anything.
-/

namespace DeferredLog

/-- What can be done to stop a task. -/
inductive Signal where
  | word
  | hangUp
  deriving DecidableEq, Repr

/-- What a task can hear. -/
inductive Heard where
  | word
  /-- Words were said that are lost. -/
  | overrun
  | hangUp
  deriving DecidableEq, Repr

/-- A line with room for one word. -/
structure StopLine where
  /-- Whether a word was said and not heard yet. -/
  kept : Bool := false
  /-- Whether the kept word has overrun another. -/
  overrun : Bool := false
  /-- Whether the other end hung up, after which nobody can say a word. -/
  hungUp : Bool := false
  deriving DecidableEq, Repr

namespace StopLine

/-- The line after a signal. -/
def signal (l : StopLine) : Signal → StopLine
  | .word => if l.hungUp then l else { l with kept := true, overrun := l.overrun || l.kept }
  | .hangUp => { l with hungUp := true }

/-- What the task hears if it listens, unless the line is silent. -/
def hear? (l : StopLine) : Option Heard :=
  if l.overrun then some .overrun
  else if l.kept then some .word
  else if l.hungUp then some .hangUp
  else none

/-- Whether the task hears anything. -/
def sounds (l : StopLine) : Bool :=
  l.hear?.isSome

/-- Either signal is heard, whatever was said before. -/
@[simp] theorem sounds_signal (l : StopLine) (signal : Signal) :
    (l.signal signal).sounds = true := by
  obtain ⟨kept, overrun, hungUp⟩ := l
  cases signal <;> revert kept overrun hungUp <;> decide

end StopLine

end DeferredLog
