/-!
# Why no reporter is installed

Three causes, each with the words of the part that found it.
-/

namespace DeferredLog.Report

/-- Why a reporter is not installed. -/
inductive Fault where
  /-- A directory or file cannot be made. -/
  | file (reason : String)
  /-- A file that is begun anew from time to time cannot be opened. -/
  | rolling (reason : String)
  /-- There is a reporter already. -/
  | alreadyInstalled (reason : String)
  deriving DecidableEq, Repr

/-- What the user is told. -/
def Fault.message : Fault → String
  | file reason => "I/O error: " ++ reason
  | rolling reason => "Appender error: " ++ reason
  | alreadyInstalled reason => "Subscriber already initialized: " ++ reason

end DeferredLog.Report
