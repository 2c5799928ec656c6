import DeferredLog.Json
import DeferredLog.Json.Shape
import DeferredLog.Report.Config

/-!
# The written form of a reporter's settings

A compact JSON object of the eight settings in order. Choices are written by name; the console for
people carries a record of its own. Reading admits objects with the members in any order and arrays
of all settings, as for the configuration of the log; only the file may be missing. A target given
twice has the level given last.
-/

namespace DeferredLog.Report

/-! ### Writing -/

def Console.toJson : Console → Json
  | off => .string "off"
  | json => .string "json"
  | pretty ansi => .object [("pretty", .object [("ansi", .bool ansi)])]

def Rotation.toJson : Rotation → Json
  | never => .string "never"
  | hourly => .string "hourly"
  | daily => .string "daily"

def FileSpec.toJson (f : FileSpec) : Json :=
  .object
    [("directory", .string f.directory), ("prefix", .string f.stem),
     ("rotation", f.rotation.toJson)]

def Targets.toJson (t : Targets) : Json :=
  .object (t.entries.map fun e ↦ (e.1, .string e.2))

namespace Config

def toJson (c : Config) : Json :=
  .object
    [("level", .string c.level),
     ("targets", c.targets.toJson),
     ("console", c.console.toJson),
     ("file", .ofOption FileSpec.toJson c.file),
     ("flatten_fields", .bool c.flattenFields),
     ("span_list", .bool c.spanList),
     ("source_location", .bool c.sourceLocation),
     ("thread_names", .bool c.threadNames)]

/-- The written form. -/
def text (c : Config) : String :=
  c.toJson.text

end Config

/-! ### Reading -/

/-- The record of the console for people: whether it has colours. -/
def Console.prettyLayout : Json.Layout (Option Bool) where
  names := ["ansi"]
  isSet _ acc := acc.isSome
  setting _ _ := do return some (← Json.Reader.bool)

def Console.reader : Json.Reader Console :=
  Json.Reader.choice
    [("off", .bare .off), ("json", .bare .json),
     ("pretty", .carrying (prettyLayout.record none fun acc ↦ do
       return .pretty (← Json.required acc)))]

def Rotation.reader : Json.Reader Rotation :=
  Json.Reader.choice [("never", .bare .never), ("hourly", .bare .hourly), ("daily", .bare .daily)]

namespace FileSpec

/-- The settings of a file that were read. -/
structure Parts where
  directory : Option String := none
  stem : Option String := none
  rotation : Option Rotation := none

def layout : Json.Layout Parts where
  names := ["directory", "prefix", "rotation"]
  isSet name acc :=
    match name with
    | "directory" => acc.directory.isSome
    | "prefix" => acc.stem.isSome
    | _ => acc.rotation.isSome
  setting name acc :=
    match name with
    | "directory" => do return { acc with directory := some (← Json.Reader.string) }
    | "prefix" => do return { acc with stem := some (← Json.Reader.string) }
    | _ => do return { acc with rotation := some (← Rotation.reader) }

def reader : Json.Reader FileSpec :=
  layout.record {} fun acc ↦ do
    return {
      directory := ← Json.required acc.directory
      stem := ← Json.required acc.stem
      rotation := ← Json.required acc.rotation }

end FileSpec

/-- Reads levels by target from an object of texts. -/
def Targets.reader : Json.Reader Targets :=
  Json.Reader.object
    (fun target acc ↦ .ok do return acc.insert target (← Json.Reader.string)) .empty

namespace Config

/-- The settings of a reporter that were read. -/
structure Parts where
  level : Option String := none
  targets : Option Targets := none
  console : Option Console := none
  file : Option (Option FileSpec) := none
  flattenFields : Option Bool := none
  spanList : Option Bool := none
  sourceLocation : Option Bool := none
  threadNames : Option Bool := none

def layout : Json.Layout Parts where
  names :=
    ["level", "targets", "console", "file", "flatten_fields", "span_list", "source_location",
     "thread_names"]
  isSet name acc :=
    match name with
    | "level" => acc.level.isSome
    | "targets" => acc.targets.isSome
    | "console" => acc.console.isSome
    | "file" => acc.file.isSome
    | "flatten_fields" => acc.flattenFields.isSome
    | "span_list" => acc.spanList.isSome
    | "source_location" => acc.sourceLocation.isSome
    | _ => acc.threadNames.isSome
  setting name acc :=
    match name with
    | "level" => do return { acc with level := some (← Json.Reader.string) }
    | "targets" => do return { acc with targets := some (← Targets.reader) }
    | "console" => do return { acc with console := some (← Console.reader) }
    | "file" => do return { acc with file := some (← Json.Reader.orNull FileSpec.reader) }
    | "flatten_fields" => do return { acc with flattenFields := some (← Json.Reader.bool) }
    | "span_list" => do return { acc with spanList := some (← Json.Reader.bool) }
    | "source_location" => do return { acc with sourceLocation := some (← Json.Reader.bool) }
    | _ => do return { acc with threadNames := some (← Json.Reader.bool) }

/-- The settings of a reporter from those that were read; only the file may be missing. -/
def ofParts (acc : Parts) : Except Json.Fault Config := do
  return {
    level := ← Json.required acc.level
    targets := ← Json.required acc.targets
    console := ← Json.required acc.console
    file := acc.file.getD none
    flattenFields := ← Json.required acc.flattenFields
    spanList := ← Json.required acc.spanList
    sourceLocation := ← Json.required acc.sourceLocation
    threadNames := ← Json.required acc.threadNames }

/-- Reads the settings of a reporter. -/
def reader : Json.Reader Config :=
  layout.record {} ofParts

/-- Reads a whole text as the settings of a reporter. -/
def ofText (text : String) : Except Json.Fault Config :=
  Json.decode reader text

end Config

end DeferredLog.Report
