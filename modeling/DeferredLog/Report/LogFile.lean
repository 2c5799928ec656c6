import DeferredLog.FileTree
import DeferredLog.Report.Config
import DeferredLog.Report.Fault

/-!
# Files of notices

The name of a file tells when it was begun, unless it is never begun anew. A file that is never
begun anew is emptied when it is opened; the others go on where they stopped, so two runs within the
same hour or day share one file.

A stem may hold slashes. The directories it names are made for a file that is begun anew from time
to time, and must be there for one that is not.
-/

namespace DeferredLog.Report

/-- An hour of the calendar. -/
structure Hour where
  year : Nat
  month : Nat
  day : Nat
  hour : Nat
  deriving DecidableEq, Repr

/-- A number with zeros in front, up to a width. -/
def paddedDigits (width n : Nat) : String :=
  let digits := Nat.toDigits 10 n
  String.ofList (List.replicate (width - digits.length) '0' ++ digits)

namespace Hour

/-- The day as it stands in a file's name. -/
def dayText (h : Hour) : String :=
  "-".intercalate [paddedDigits 4 h.year, paddedDigits 2 h.month, paddedDigits 2 h.day]

/-- The hour with its day. -/
def text (h : Hour) : String :=
  h.dayText ++ "-" ++ paddedDigits 2 h.hour

end Hour

/-- What a file's name tells about when it was begun. -/
def Rotation.stamp? (r : Rotation) (now : Hour) : Option String :=
  match r with
  | never => none
  | hourly => some now.text
  | daily => some now.dayText

namespace FileSpec

/-- The name of the file: the stem, the stamp if there is one, and the ending, with dots between
them. An empty stem before a stamp is left out with its dot. -/
def fileName (f : FileSpec) (now : Hour) : String :=
  match f.rotation.stamp? now with
  | none => f.stem ++ ".log"
  | some stamp => if f.stem.isEmpty then stamp ++ ".log" else f.stem ++ "." ++ stamp ++ ".log"

/-- The path of the file. -/
def path (f : FileSpec) (now : Hour) : Path :=
  (Path.ofText f.directory).join (Path.ofText (f.fileName now))

/-- Opens a file that is never begun anew: it is emptied. -/
def openSole (t : FileTree) (p : Path) : Except Fault Place × FileTree :=
  match t.create p with
  | (.error fault, t) => (.error (.file fault.message), t)
  | (.ok place, t) => (.ok place, t)

/-- Opens a file that is begun anew from time to time: to go on with it, and with the directories
that lead to it made if it cannot be opened at once. -/
def openRolling (t : FileTree) (p : Path) : Except Fault Place × FileTree :=
  match t.resume p with
  | (.ok place, t) => (.ok place, t)
  | (.error _, t) =>
    match t.makeDirectories p.parent with
    | (.error fault, t) =>
      (.error (.rolling ("failed to create log directory: " ++ fault.message)), t)
    | (.ok _, t) =>
      match t.resume p with
      | (.error fault, t) =>
        (.error (.rolling ("failed to create log file: " ++ fault.message)), t)
      | (.ok place, t) => (.ok place, t)

/-- Opens the file for notices, and makes its directory first. -/
def openIn (f : FileSpec) (now : Hour) (t : FileTree) : Except Fault Place × FileTree :=
  match t.makeDirectories (Path.ofText f.directory) with
  | (.error fault, t) => (.error (.file fault.message), t)
  | (.ok _, t) =>
    match f.rotation with
    | .never => openSole t (f.path now)
    | .hourly | .daily => openRolling t (f.path now)

example : ({ directory := "logs" } : FileSpec).path ⟨2024, 3, 9, 7⟩ =
    ["logs", "klog.2024-03-09.log"] := by decide +kernel

example : ({ directory := "", stem := "", rotation := .hourly } : FileSpec).path ⟨2024, 3, 9, 7⟩ =
    ["2024-03-09-07.log"] := by decide +kernel

end FileSpec

end DeferredLog.Report
