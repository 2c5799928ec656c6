import DeferredLog.Proofs.Report.RoundTrip
import DeferredLog.Proofs.Text.ByteOrder
import DeferredLog.Text.Pieces
import Mathlib.Data.List.Induction
import Mathlib.Data.List.Perm.Basic

/-!
# The text of a filter and what it tells

The text of a filter does not depend on how the settings came about: whatever targets were given
levels, in whatever order and however often, it depends on the level for every target and on the
level that each target was given last (`Config.directives_canonical`). A map from targets to levels
has one form only, as its entries are in ascending order (`Targets.eq_of_get?_eq`), and of that
form the text is a list: every entry behind a comma, the target before an equals sign
(`Config.toList_directives`).

The other way round, a text tells its settings if commas and equals signs stand in it as separators
only. Then the pieces between its commas are the level and the entries
(`Config.pieces_directives`), and an entry is taken apart at its first equals sign, so that a
level may have further ones (`Config.sides?_entryText`).
-/

namespace DeferredLog.Report

/-! ### Maps with the same levels -/

namespace Targets

/-- The entries of a map are its targets with their levels. -/
theorem mem_entries_iff {t : Targets} {target level : String} :
    (target, level) ∈ t.entries ↔ t.get? target = some level := by
  rw [get?, List.lookup_eq_some_iff]
  refine ⟨fun hmem ↦ ?_, ?_⟩
  · obtain ⟨before, behind, hsplit⟩ := List.append_of_mem hmem
    have hascending := t.ascending
    rw [hsplit, List.pairwise_append] at hascending
    refine ⟨before, behind, hsplit, fun e he ↦ ?_⟩
    have hlt : e.1 < target := hascending.2.2 e he _ List.mem_cons_self
    simpa using (String.ne_of_lt hlt).symm
  · rintro ⟨before, behind, hsplit, -⟩
    simp [hsplit]

/-- Maps with the same level for every target are the same. -/
theorem eq_of_get?_eq {t t' : Targets} (h : ∀ target, t.get? target = t'.get? target) : t = t' := by
  have hnodup (t : Targets) : t.entries.Nodup :=
    t.ascending.imp fun hlt ↦ fun heq ↦ String.ne_of_lt hlt (congrArg Prod.fst heq)
  have hperm : t.entries.Perm t'.entries := by
    refine (List.perm_ext_iff_of_nodup (hnodup t) (hnodup t')).2 fun e ↦ ?_
    rw [mem_entries_iff, mem_entries_iff, h]
  exact eq_of_entries_eq <| hperm.eq_of_pairwise
    (fun _ _ _ _ hlt hgt ↦ absurd hgt (String.lt_asymm hlt)) t.ascending t'.ascending

end Targets

namespace Config

variable {c : Config}

/-! ### Levels given one after the other -/

/-- Gives targets levels of their own, one after the other. -/
def withTargets (c : Config) (given : List (String × String)) : Config :=
  given.foldl (fun c e ↦ c.withTarget e.1 e.2) c

/-- The level that a target is given last, the one that it has at first if it is given none. -/
def lastLevel? (c : Config) (given : List (String × String)) (target : String) : Option String :=
  (given.reverse.lookup target).or (c.targets.get? target)

theorem withTargets_concat (c : Config) (given : List (String × String)) (e : String × String) :
    c.withTargets (given ++ [e]) = (c.withTargets given).withTarget e.1 e.2 :=
  List.foldl_concat ..

theorem level_withTargets (c : Config) (given : List (String × String)) :
    (c.withTargets given).level = c.level := by
  induction given using List.reverseRecOn with
  | nil => rfl
  | append_singleton given e ih =>
    rw [withTargets_concat]
    exact ih

/-- Of the levels that a target is given the last one is kept. -/
theorem get?_withTargets (c : Config) (given : List (String × String)) (target : String) :
    (c.withTargets given).targets.get? target = c.lastLevel? given target := by
  induction given using List.reverseRecOn with
  | nil => rfl
  | append_singleton given e ih =>
    have hput : ((c.withTargets given).withTarget e.1 e.2).targets.get? target =
        if target = e.1 then some e.2 else (c.withTargets given).targets.get? target :=
      Targets.get?_insert ..
    rw [withTargets_concat, hput, ih, lastLevel?, lastLevel?, List.reverse_concat,
      List.lookup_cons]
    split_ifs with htarget
    · simp [htarget]
    · rw [beq_eq_false_iff_ne.2 htarget]

/-! ### The text as a list -/

/-- An entry as it stands in the text of a filter. -/
def entryText (e : String × String) : List Char :=
  e.1.toList ++ '=' :: e.2.toList

theorem toList_directives (c : Config) :
    c.directives.toList = c.level.toList ++ c.targets.entries.flatMap (',' :: entryText ·) := by
  rw [directives]
  generalize c.level = text
  induction c.targets.entries generalizing text with
  | nil => simp
  | cons e rest ih =>
    rw [List.foldl_cons, ih]
    simp [entryText]

/-! ### The text taken apart -/

/-- What is before the first equals sign and what is behind it, if there is one. -/
def sides? (piece : List Char) : Option (String × String) :=
  match piece.dropWhile (· ≠ '=') with
  | [] => none
  | _ :: behind => some (String.ofList (piece.takeWhile (· ≠ '=')), String.ofList behind)

/-- The first piece between commas, and the two sides of every other one. -/
def parts? (text : String) : Option (String × List (String × String)) :=
  match Text.pieces ',' text.toList with
  | [] => none
  | first :: rest => (rest.mapM sides?).map (String.ofList first, ·)

/-- Commas are in none of the texts that are put together, and equals signs in no target. -/
def Separable (c : Config) : Prop :=
  ',' ∉ c.level.toList ∧
    ∀ e ∈ c.targets.entries, ',' ∉ e.1.toList ∧ '=' ∉ e.1.toList ∧ ',' ∉ e.2.toList
  deriving Decidable

theorem sides?_entryText {e : String × String} (h : '=' ∉ e.1.toList) :
    sides? (entryText e) = some e := by
  have hbefore : ∀ x ∈ e.1.toList, decide (x ≠ '=') = true :=
    fun x hx ↦ decide_eq_true fun heq ↦ h (heq ▸ hx)
  have hdrop : (entryText e).dropWhile (· ≠ '=') = '=' :: e.2.toList := by
    rw [entryText, List.dropWhile_append_of_pos hbefore, List.dropWhile_cons_of_neg (by decide)]
  have htake : (entryText e).takeWhile (· ≠ '=') = e.1.toList := by
    rw [entryText, List.takeWhile_append_of_pos hbefore, List.takeWhile_cons_of_neg (by decide),
      List.append_nil]
  rw [sides?, hdrop, htake]
  simp

theorem mapM_sides? {entries : List (String × String)} (h : ∀ e ∈ entries, '=' ∉ e.1.toList) :
    (entries.map entryText).mapM sides? = some entries := by
  induction entries with
  | nil => rfl
  | cons e rest ih =>
    obtain ⟨he, hrest⟩ := List.forall_mem_cons.1 h
    simp [List.mapM_cons, sides?_entryText he, ih hrest]

/-- Between the commas are a text without commas and the entries behind it. -/
theorem pieces_append_entryText {text : List Char} {entries : List (String × String)}
    (htext : ',' ∉ text) (h : ∀ e ∈ entries, ',' ∉ entryText e) :
    Text.pieces ',' (text ++ entries.flatMap (',' :: entryText ·)) =
      text :: entries.map entryText := by
  induction entries generalizing text with
  | nil => simpa using Text.pieces_of_not_mem htext
  | cons e rest ih =>
    obtain ⟨he, hrest⟩ := List.forall_mem_cons.1 h
    rw [List.flatMap_cons, List.cons_append, Text.pieces_append htext, ih he hrest, List.map_cons]

theorem Separable.pieces_directives (h : c.Separable) :
    Text.pieces ',' c.directives.toList = c.level.toList :: c.targets.entries.map entryText := by
  rw [toList_directives, pieces_append_entryText h.1 fun e he ↦ ?_]
  have hsigns := h.2 e he
  simp [entryText, hsigns]

/-- The text of a filter tells the level and the entries. -/
theorem Separable.parts?_directives (h : c.Separable) :
    parts? c.directives = some (c.level, c.targets.entries) := by
  have hsides := mapM_sides? fun e he ↦ (h.2 e he).2.1
  rw [parts?, h.pieces_directives]
  simp [hsides]

/-! ### The main result -/

/-- The text of a filter is the level and then, behind a comma each, the targets with the level that
each was given last, in ascending order of their bytes and thus each once. So it is the same
whenever the level and the levels given last are. Where commas and equals signs are separators only,
it tells all of them, and is another one when they are others. -/
theorem directives_canonical (c : Config) (given : List (String × String)) :
    let d := c.withTargets given
    (d.directives.toList = c.level.toList ++
        d.targets.entries.flatMap (fun e ↦ ',' :: e.1.toList ++ '=' :: e.2.toList) ∧
      d.targets.entries.Pairwise (fun e e' ↦ Text.bytesOf e.1 < Text.bytesOf e'.1) ∧
      ∀ target level,
        (target, level) ∈ d.targets.entries ↔ c.lastLevel? given target = some level) ∧
    (d.Separable → parts? d.directives = some (c.level, d.targets.entries)) ∧
    ∀ (c' : Config) (given' : List (String × String)),
      let d' := c'.withTargets given'
      let same := c'.level = c.level ∧
        ∀ target, c'.lastLevel? given' target = c.lastLevel? given target
      (same → d'.directives = d.directives) ∧
        (d.Separable → d'.Separable → d'.directives = d.directives → same) := by
  intro d
  have hlevel : d.level = c.level := level_withTargets c given
  refine ⟨⟨?_, ?_, fun target level ↦ ?_⟩, fun hd ↦ ?_, fun c' given' ↦ ⟨?_, ?_⟩⟩
  · rw [toList_directives, hlevel]
    rfl
  · exact d.targets.ascending.imp fun hlt ↦ (Text.lt_iff_bytesOf_lt _ _).1 hlt
  · rw [Targets.mem_entries_iff, get?_withTargets]
  · rw [hd.parts?_directives, hlevel]
  · rintro ⟨hsame, hlast⟩
    have htargets : (c'.withTargets given').targets = d.targets :=
      Targets.eq_of_get?_eq fun target ↦ by
        rw [get?_withTargets, get?_withTargets, hlast]
    rw [directives, directives, htargets, hlevel, level_withTargets, hsame]
  · intro hd hd' heq
    have hparts := hd'.parts?_directives
    rw [heq, hd.parts?_directives] at hparts
    obtain ⟨hsame, hentries⟩ := Prod.mk.inj (Option.some.inj hparts)
    refine ⟨?_, fun target ↦ ?_⟩
    · rw [← hlevel, hsame, level_withTargets]
    · rw [← get?_withTargets, ← get?_withTargets, Targets.get?, Targets.get?, hentries]

/-- The target `b` is given a level, then `a`, then `b` another one. The text is as if `b` had been
given the second alone, and another one than without `b`. -/
theorem directives_canonical_of_overwritten :
    let given := [("b", "info"), ("a", "a=trace"), ("b", "")]
    let once := [("a", "a=trace"), ("b", "")]
    let fewer := [("a", "a=trace")]
    let d := testing.withTargets given
    (testing.lastLevel? given "b" = some "" ∧ ("b", "") ∈ d.targets.entries) ∧
      (d.Separable ∧ parts? d.directives = some ("warn", once)) ∧
      ((∀ target, testing.lastLevel? once target = testing.lastLevel? given target) ∧
        (testing.withTargets once).directives = d.directives) ∧
      (testing.withTargets fewer).Separable ∧
      (testing.withTargets fewer).directives ≠ d.directives := by
  intro given once fewer d
  obtain ⟨⟨-, -, hmem⟩, hparts, hother⟩ := directives_canonical testing given
  have hlast : testing.lastLevel? given "b" = some "" := by decide
  have hd : d.Separable := by decide
  have hfewer : (testing.withTargets fewer).Separable := by decide
  have hsame (target : String) :
      testing.lastLevel? once target = testing.lastLevel? given target := by
    simp only [given, once, lastLevel?, List.reverse_cons, List.reverse_nil, List.nil_append,
      List.cons_append, List.lookup_cons, List.lookup_nil]
    split <;> rfl
  refine ⟨⟨hlast, (hmem _ _).2 hlast⟩, ⟨hd, (hparts hd).trans (by decide)⟩,
    ⟨hsame, (hother testing once).1 ⟨rfl, hsame⟩⟩, hfewer, fun heq ↦ ?_⟩
  have hb := ((hother testing fewer).2 hd hfewer heq).2 "b"
  exact absurd hb (by decide)

end Config

end DeferredLog.Report
