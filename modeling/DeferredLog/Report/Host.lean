import DeferredLog.Report.Filter
import DeferredLog.Report.Line
import DeferredLog.Report.LogFile

/-!
# The reporter of a process

A process has at most one reporter, and the first that is installed stays. Installing opens the file
of notices before it looks whether there is a reporter, so what opening does to the files is done
even if the installation is refused.

An installed reporter lets records through by its filter, prints them in its form, and adds them to
its file as JSON lines. Which spans are open depends on the installations as well: one that is
refused only because there is a reporter has still made the process attend to what its filter would
have let through.
-/

namespace DeferredLog.Report

/-- An installed reporter. -/
structure Reporter where
  config : Config
  filter : Filter
  /-- The file of notices, if there is one. -/
  sink : Option Place

/-- A line on standard output. -/
inductive Output where
  | json (line : Json)
  | readable (line : String)

/-- The line of a record on standard output, in the form that the reporter has. -/
def Reporter.output? (r : Reporter) (env : Circumstances) (record : Record) : Option Output :=
  match r.config.console with
  | .off => none
  | .json => some (.json (r.config.jsonLine env record))
  | .pretty _ => some (.readable (readableLine env record.notice))

/-- What of a process a reporter has to do with. -/
structure Host where
  files : FileTree := {}
  /-- The filter that the environment asks for, if it does. -/
  environment : Option String := none
  /-- The hour in which files are opened. -/
  now : Hour
  reporter : Option Reporter := none
  /-- The least urgent level that spans are opened for. -/
  attended : Threshold := none

namespace Host

/-! ### Installing -/

/-- Opens the file of notices if the settings name one. -/
def openSink (h : Host) (c : Config) : Except Fault (Option Place) × FileTree :=
  match c.file with
  | none => (.ok none, h.files)
  | some spec =>
    match spec.openIn h.now h.files with
    | (.error fault, files) => (.error fault, files)
    | (.ok place, files) => (.ok (some place), files)

/-- Installs a reporter and tells whether it writes a file; refused if there is a reporter already
or if its file cannot be opened. -/
def install (h : Host) (c : Config) : Except Fault Bool × Host :=
  match h.openSink c with
  | (.error fault, files) => (.error fault, { h with files })
  | (.ok sink, files) =>
    let filter := Filter.choose h.environment c
    match h.reporter with
    | some r =>
      (.error (.alreadyInstalled "a global default trace dispatcher has already been set"),
        { h with files, attended := r.filter.attention.either filter.attention })
    | none =>
      (.ok sink.isSome,
        { h with files, reporter := some ⟨c, filter, sink⟩, attended := filter.attention })

end Host

/-- The reporters that a program can ask for. -/
inductive Request where
  | standard
  | development
  | testing
  /-- One with settings of the program's own. -/
  | custom (settings : Config)

/-- The settings of the reporter that is asked for. -/
def Request.settings : Request → Config
  | .standard => {}
  | .development => .development
  | .testing => .testing
  | .custom settings => settings

namespace Host

/-- Asks for a reporter. Tests make do with one that is there already, so who asks for theirs is not
told that it was refused. -/
def ask (h : Host) (request : Request) : Except Fault Bool × Host :=
  match request, h.install request.settings with
  | .testing, (.error _, after) => (.ok false, after)
  | _, answer => answer

/-! ### Telling -/

/-- Tells a record: on standard output, and as a line of the file if there is one. -/
def tell (h : Host) (env : Circumstances) (record : Record) : Option Output × Host :=
  match h.reporter with
  | none => (none, h)
  | some r =>
    let record := record.within (r.filter.opens h.attended)
    if r.filter.admits record then
      let files :=
        match r.sink with
        | none => h.files
        | some place => h.files.append place ((r.config.jsonLine env record).text ++ "\n").toUTF8
      (r.output? env record, { h with files })
    else (none, h)

/-- Tells records in order. -/
def tellAll (h : Host) (env : Circumstances) : List Record → List Output × Host
  | [] => ([], h)
  | record :: rest =>
    let told := h.tell env record
    let more := told.2.tellAll env rest
    (told.1.toList ++ more.1, more.2)

/-! ### The reporter stays -/

end Host

end DeferredLog.Report
