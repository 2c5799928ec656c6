/-!
# Levels by target

A finite map from targets to levels, both free texts. Its entries are kept in ascending order of
their targets, each target once, so a map has one form and writing it out has one result, whatever
the order in which the entries came.
-/

namespace DeferredLog.Report

/-- Puts an entry into ascending entries, over the one of the same target if there is one. -/
def insertEntry (target level : String) : List (String × String) → List (String × String)
  | [] => [(target, level)]
  | e :: rest =>
    if target < e.1 then (target, level) :: e :: rest
    else if target = e.1 then (target, level) :: rest
    else e :: insertEntry target level rest

/-- An entry of the result is the new one or was there before. -/
theorem fst_mem_insertEntry {target level : String} {entries : List (String × String)}
    {e : String × String} (h : e ∈ insertEntry target level entries) :
    e.1 = target ∨ e ∈ entries := by
  fun_induction insertEntry target level entries <;> grind

/-- Putting an entry in keeps the order. -/
theorem pairwise_insertEntry (target level : String) {entries : List (String × String)}
    (h : entries.Pairwise (·.1 < ·.1)) :
    (insertEntry target level entries).Pairwise (·.1 < ·.1) := by
  induction entries with
  | nil => simp [insertEntry]
  | cons e rest ih =>
    obtain ⟨hlt, hrest⟩ := List.pairwise_cons.1 h
    unfold insertEntry
    split
    · next hlt' =>
      refine List.pairwise_cons.2 ⟨fun x hx ↦ ?_, h⟩
      rcases List.mem_cons.1 hx with rfl | hx
      · exact hlt'
      · exact String.lt_trans hlt' (hlt x hx)
    · split
      · next heq =>
        subst heq
        exact List.pairwise_cons.2 ⟨hlt, hrest⟩
      · next hge hne =>
        refine List.pairwise_cons.2 ⟨fun x hx ↦ ?_, ih hrest⟩
        rcases fst_mem_insertEntry hx with hx | hx
        · grind
        · exact hlt x hx

/-- Levels by target, in ascending order of the targets. -/
structure Targets where
  entries : List (String × String) := []
  ascending : entries.Pairwise (·.1 < ·.1) := by simp
  deriving DecidableEq

namespace Targets

/-- No target has a level. -/
def empty : Targets := {}

/-- Gives a target a level, in place of the one it had. -/
def insert (t : Targets) (target level : String) : Targets :=
  ⟨insertEntry target level t.entries, pairwise_insertEntry target level t.ascending⟩

/-- The level of a target. -/
def get? (t : Targets) (target : String) : Option String :=
  t.entries.lookup target

theorem lookup_insertEntry (target level other : String) (entries : List (String × String)) :
    (insertEntry target level entries).lookup other =
      if other = target then some level else entries.lookup other := by
  fun_induction insertEntry target level entries <;> grind

/-- After an insertion the target has the new level and every other one the level it had. -/
@[simp] theorem get?_insert (t : Targets) (target level other : String) :
    (t.insert target level).get? other = if other = target then some level else t.get? other :=
  lookup_insertEntry target level other t.entries

end Targets

end DeferredLog.Report
