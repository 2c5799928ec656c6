import DeferredLog.Json
import DeferredLog.Notice
import DeferredLog.Report.Config

/-!
# The lines in which notices are told

A record becomes a JSON object or a line for people. The object tells, in this order, when, how
urgent, what with which values, by which component, from where in the program, in which span and on
which thread; the settings of the reporter leave some of it out. The line for people has the
urgency, the component, the words and the values.
-/

namespace DeferredLog.Report

/-- What a line tells that only the running system knows. -/
structure Circumstances where
  /-- When the notice is given. -/
  time : String
  /-- The file of the program that gives it. -/
  file : String
  /-- The line in that file. -/
  line : Nat
  /-- The name of the thread. -/
  thread : String
  /-- The words of a task that did not survive. -/
  lastWords : String

variable (env : Circumstances)

/-- The text of a value. -/
def valueText : Notice.Value → String
  | .number n => toString n
  | .text s => s
  | .ambient => env.lastWords

/-- A value in a JSON line. -/
def valueJson : Notice.Value → Json
  | .number n => .number n
  | v => .string (valueText env v)

/-- Values under their names. -/
def fieldsJson (fields : List (String × Notice.Value)) : List (String × Json) :=
  fields.map fun f ↦ (f.1, valueJson env f.2)

/-- A span: its values, then its name. -/
def spanJson (s : Span) : Json :=
  .object (fieldsJson env s.fields ++ [("name", .string s.name)])

namespace Config

/-- The JSON line of a record. -/
def jsonLine (c : Config) (r : Record) : Json :=
  let n := r.notice
  let told := (Notice.messageName, Json.string n.message) :: fieldsJson env n.fields
  .object <|
    [("timestamp", .string env.time), ("level", .string n.level.name)] ++
    (if c.flattenFields then told else [("fields", .object told)]) ++
    [("target", .string n.component.path)] ++
    (if c.sourceLocation then
      [("filename", .string env.file), ("line_number", .number env.line)] else []) ++
    (match r.span with
      | none => []
      | some s =>
        ("span", spanJson env s) ::
          (if c.spanList then [("spans", .array [spanJson env s])] else [])) ++
    (if c.threadNames then [("threadName", .string env.thread)] else [])

end Config

/-- The line for people. -/
def readableLine (n : Notice) : String :=
  n.level.name ++ " " ++ n.component.path ++ ": " ++
    ", ".intercalate (n.message :: n.fields.map fun f ↦ f.1 ++ ": " ++ valueText env f.2)

end DeferredLog.Report
