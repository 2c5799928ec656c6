import DeferredLog.Report.Config
import DeferredLog.Report.Directive
import DeferredLog.Text.Pieces

/-!
# Which notices are let through

A filter is a list of directives, written between commas. Of the general directives that are for a
notice one decides: the directive that goes before the others, and of two for the same the later.
Without any nothing is let through. A notice in an open span is also let through by any local
directive that holds in the span; of two for the same the later stands for both.

A span is open if a local directive concerns it, whatever that directive's level, or if the general
directives let spans of its level through, the fields they name disregarded. But no span is opened
while all that filters attend to is more urgent than it is.

The environment's text is taken as it is or not at all, so one without any directive silences
everything. Of the settings' directives what is none is left out, and if none is left errors alone
are let through.
-/

namespace DeferredLog.Report

/-- The directives of a filter, in the order in which they were written. -/
structure Filter where
  directives : List Directive
  deriving DecidableEq, Repr

namespace Filter

/-! ### Reading -/

/-- The directives that a text writes, each as such or none if it is no directive. -/
def parts (text : String) : List (Option Directive) :=
  ((Text.pieces ',' text.toList).filter (!·.isEmpty)).map Directive.ofText?

/-- The filter of a text in which every directive must be one. -/
def ofText? (text : String) : Option Filter :=
  let all := parts text
  if all.all Option.isSome then some ⟨all.filterMap id⟩ else none

/-- The filter of a text, what is no directive left out; errors alone if nothing is left. -/
def ofTextLossy (text : String) : Filter :=
  match (parts text).filterMap id with
  | [] => ⟨[{ threshold := some .error }]⟩
  | directives => ⟨directives⟩

/-- The filter of a reporter: that of the environment if there is one and every directive of it is
one, else that of the settings. -/
def choose (environment : Option String) (c : Config) : Filter :=
  (environment.bind ofText?).getD (ofTextLossy c.directives)

/-! ### Deciding -/

/-- The general directive that decides among those that are suitable. -/
def deciding? (f : Filter) (suits : Directive → Bool) : Option Directive :=
  f.directives.foldl
    (fun best d ↦
      if d.isGeneral && suits d && best.all (d.goesBefore ·) then some d else best)
    none

/-- The directives that no later one for the same replaces. -/
def standing : List Directive → List Directive
  | [] => []
  | d :: rest => if rest.any d.isForSame then standing rest else d :: standing rest

/-- The least urgent level that the filter attends to. Where a value is asked for, everything has to
be attended to, since values are known only when they are told. -/
def attention (f : Filter) : Threshold :=
  if f.directives.any (·.asksValue) then some .trace
  else f.directives.foldl (fun t d ↦ t.either d.threshold) none

/-- Whether spans like this are open while so much is attended to. -/
def opens (f : Filter) (attended : Threshold) (s : Span) : Bool :=
  attended.admits s.level &&
    (f.directives.any (·.concerns s) ||
      (f.deciding? (·.covers s.component.path)).any (·.threshold.admits s.level))

/-- Whether notices of this level are let through for being given in this span. -/
def admitsIn (f : Filter) (s : Span) (level : Level) : Bool :=
  (standing f.directives).any fun d ↦ d.holdsIn s && d.threshold.admits level

/-- Whether a notice is let through, wherever it is given. -/
def admitsAnywhere (f : Filter) (n : Notice) : Bool :=
  (f.deciding? fun d ↦ d.covers n.component.path && d.field.all (·.field ∈ n.names)).any
    (·.threshold.admits n.level)

/-- Whether a record is let through whose span, if it has one, is open. -/
def admits (f : Filter) (r : Record) : Bool :=
  f.admitsAnywhere r.notice || r.span.any (f.admitsIn · r.notice.level)

end Filter

example : Filter.ofText? "b=ad=c" = none ∧ Filter.ofText? "=" = none := by decide +kernel

example : (Filter.ofText? ",").any (!·.admits ⟨.triggerFailed, none⟩) ∧
    (Filter.ofTextLossy ",").admits ⟨.triggerFailed, none⟩ := by decide +kernel

example : (Filter.ofText? "off,klog_core::trigger=Trace").any fun f ↦
    f.admits ⟨.triggerDisarmed 2, none⟩ && !f.admits ⟨.triggerFailed, none⟩ := by decide +kernel

example : (Filter.ofText? "[start_with_producer\x7bperiod_ms=10\x7d]=debug").any fun f ↦
    f.admits ⟨.started 3 64, some (.starting 16 10)⟩ && !f.admits ⟨.started 3 64, none⟩ &&
      !f.admits ⟨.started 3 64, some (.starting 16 20)⟩ := by decide +kernel

end DeferredLog.Report
