import DeferredLog.Report.Targets

/-!
# Where notices go

The settings of a reporter: how urgent a notice must be, in what form it goes to standard output,
whether it also goes to a file, and what a line holds besides the notice.

Levels are free texts here. They become a filter only when the reporter is installed, by way of
`directives`: the level for every target, then each target with its own, separated by commas.
-/

namespace DeferredLog.Report

/-- The form of the lines on standard output. -/
inductive Console where
  | off
  | json
  /-- For people, with or without colours. -/
  | pretty (ansi : Bool)
  deriving DecidableEq, Repr

/-- When a new log file is begun. -/
inductive Rotation where
  | never
  | hourly
  | daily
  deriving DecidableEq, Repr

/-- A file for notices: the directory, the first part of the name, and when a new one is begun. -/
structure FileSpec where
  directory : String
  stem : String := "klog"
  rotation : Rotation := .daily
  deriving DecidableEq, Repr

/-- The settings of a reporter. -/
structure Config where
  level : String := "info"
  targets : Targets := .empty
  console : Console := .json
  file : Option FileSpec := none
  /-- Put the values of a notice at the top of its line rather than under one name. -/
  flattenFields : Bool := true
  /-- List the spans around a notice. -/
  spanList : Bool := true
  /-- Tell where in the program a notice is given. -/
  sourceLocation : Bool := true
  /-- Tell the thread. -/
  threadNames : Bool := false
  deriving DecidableEq

namespace Config

/-- For people who work on the log. -/
def development : Config :=
  { level := "debug", console := .pretty true }

/-- Files in a directory, begun anew every day, and nothing on standard output. -/
def production (directory : String) : Config :=
  { console := .off, file := some { directory := directory } }

/-- Warnings alone. -/
def testing : Config :=
  { level := "warn", sourceLocation := false }

/-- Gives a target a level of its own. -/
def withTarget (c : Config) (target level : String) : Config :=
  { c with targets := c.targets.insert target level }

/-- The text of the filter: the level, then every target with its own. -/
def directives (c : Config) : String :=
  c.targets.entries.foldl (fun text e ↦ text ++ "," ++ e.1 ++ "=" ++ e.2) c.level

/-- The order in which targets were given does not matter, as long as they differ. -/
example :
    (testing.withTarget "b" "debug" |>.withTarget "a" "trace").directives =
      (testing.withTarget "a" "trace" |>.withTarget "b" "debug").directives := by
  decide +kernel

end Config

end DeferredLog.Report
