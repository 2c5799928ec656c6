import DeferredLog.Proofs.Buffer.Plan
import DeferredLog.Subsystem

/-!
# When a log starts

`Config.Lawful` spells out what validation checks. One thing a start needs is not among it: the
greeting must fit below the ceiling. It is an append like any other, and an append into a log that
must not grow that far fails. `Config.Fitting` is that missing rule, and with it everything else a
start needs follows from `Lawful` and from memory (`Granted`): a validated configuration starts
exactly if it is fitting (`start_of_validated`).

The preset `Config.fixed` keeps the greeting of the default, so it validates and does not start
below fourteen bytes.
-/

namespace DeferredLog

variable {c : Config}

namespace Config

/-! ### What validation checks -/

/-- The rules of a configuration. -/
structure Lawful (c : Config) : Prop where
  initial_ne : c.initialCapacity ≠ 0
  maxEntry_ne : c.maxEntry ≠ 0
  scratch_ne : c.scratchCapacity ≠ 0
  scratch_le : c.scratchCapacity.toNat ≤ maxScratchCapacity
  period_ne : c.period.isZero = false
  initial_le : ∀ limit ∈ c.ceiling, c.initialCapacity.toNat ≤ limit.toNat
  banner_le : ∀ text ∈ c.banner, text.utf8ByteSize ≤ c.maxEntry.toNat

theorem ceilingFault?_eq_none_iff :
    c.ceilingFault? = none ↔ ∀ limit ∈ c.ceiling, c.initialCapacity.toNat ≤ limit.toNat := by
  unfold ceilingFault?
  cases c.ceiling with
  | none => exact ⟨nofun, fun _ ↦ rfl⟩
  | some limit => simp [UInt64.lt_iff_toNat_lt]

theorem bannerFault?_eq_none_iff :
    c.bannerFault? = none ↔ ∀ text ∈ c.banner, text.utf8ByteSize ≤ c.maxEntry.toNat := by
  unfold bannerFault?
  cases c.banner with
  | none => exact ⟨nofun, fun _ ↦ rfl⟩
  | some text => simp

/-- Validation accepts a configuration exactly if it keeps the rules. -/
theorem validate_eq_ok_iff_lawful : c.validate = .ok () ↔ c.Lawful := by
  rw [validate_eq_ok_iff, fault?]
  constructor
  · intro h
    split at h
    · cases h
    split at h
    · cases h
    split at h
    · cases h
    split at h
    · cases h
    next hinitial hmaxEntry hscratch hperiod =>
      rw [Option.orElse_eq_orElse, Option.orElse_eq_or, Option.or_eq_none_iff] at h
      obtain ⟨hceiling, hbanner⟩ := h
      obtain ⟨hne, hle⟩ := not_or.1 hscratch
      exact ⟨hinitial, hmaxEntry, hne, Nat.le_of_not_lt hle, Bool.eq_false_iff.2 hperiod,
        ceilingFault?_eq_none_iff.1 hceiling, bannerFault?_eq_none_iff.1 hbanner⟩
  · rintro ⟨hinitial, hmaxEntry, hne, hle, hperiod, hceiling, hbanner⟩
    rw [if_neg hinitial, if_neg hmaxEntry, if_neg (not_or.2 ⟨hne, Nat.not_lt_of_le hle⟩),
      if_neg (Bool.eq_false_iff.1 hperiod), ceilingFault?_eq_none_iff.2 hceiling,
      bannerFault?_eq_none_iff.2 hbanner]
    rfl

/-! ### What a start needs besides -/

/-- The greeting, if there is one, fits below the ceiling, if there is one. -/
def Fitting (c : Config) : Prop :=
  ∀ text ∈ c.banner, ∀ limit ∈ c.ceiling, text.utf8ByteSize ≤ limit.toNat

/-- The log of a configuration before its greeting. -/
def newLog (c : Config) : Buffer where
  contents := .empty
  capacity := c.initialCapacity.toNat
  maxEntry := c.maxEntry.toNat
  ceiling := c.ceiling.map UInt64.toNat

/-- The memory grants what a start asks for: the first capacity, and the capacity to grow to if the
greeting fits below the ceiling but not into the first. -/
structure Granted (c : Config) : Prop where
  initial_lt : c.initialCapacity.toNat < addressSpace
  grants : c.Fitting → ∀ text ∈ c.banner, c.initialCapacity.toNat < text.utf8ByteSize →
    c.newLog.grants (c.newLog.target text.utf8ByteSize) = true

/-- A log that cannot take its greeting asks for its first capacity only. -/
theorem granted_of_not_fitting (h : c.initialCapacity.toNat < addressSpace)
    (hunfit : ¬ c.Fitting) : c.Granted :=
  ⟨h, fun hfits ↦ absurd hfits hunfit⟩

/-- A fixed log keeps the greeting of the default, however small it is. -/
theorem not_fitting_fixed {capacity : UInt64} (h : capacity.toNat < 14) :
    ¬ (fixed capacity).Fitting := by
  intro hfits
  have hle : "Hello, world!\n".utf8ByteSize ≤ capacity.toNat := hfits _ rfl capacity rfl
  have hsize : "Hello, world!\n".utf8ByteSize = 14 := by decide +kernel
  omega

theorem ofConfig_eq (h : c.Lawful) (hgranted : c.Granted) :
    Buffer.ofConfig c = .ok c.newLog := by
  refine Buffer.allocate_eq_ok_iff.2 ⟨fun limit hlimit ↦ ?_, hgranted.initial_lt, rfl⟩
  obtain ⟨word, hword, rfl⟩ := Option.map_eq_some_iff.1 hlimit
  exact h.initial_le word hword

/-! ### The greeting -/

/-- A greeting that fits is committed whole. -/
theorem append_newLog_of_fitting (h : c.Lawful) (hgranted : c.Granted) (hfits : c.Fitting)
    {text : String} (htext : text ∈ c.banner) :
    ∃ b, c.newLog.append text.toUTF8 = (.ok text.utf8ByteSize, b) ∧ b.contents = text.toUTF8 := by
  have hplanned := c.newLog.planned text.toUTF8.size
  have hrequired : c.newLog.contents.size + text.toUTF8.size = text.utf8ByteSize := Nat.zero_add _
  cases hmade : c.newLog.makeRoom text.toUTF8.size with
  | ok roomy =>
    rw [Buffer.append_of_makeRoom_eq_ok hmade]
    refine ⟨_, rfl, ?_⟩
    rw [Buffer.contents_commit, Buffer.contents_of_makeRoom_eq_ok hmade]
    exact ByteArray.empty_append
  | error cause =>
    -- each refusal is ruled out by one rule: validation, fitting, memory
    rw [hmade] at hplanned
    cases hplanned with
    | tooLarge hlarge => exact absurd (h.banner_le text htext) (Nat.not_le_of_lt hlarge)
    | full limit hsize hroom hceiling hlimit =>
      obtain ⟨word, hword, rfl⟩ := Option.map_eq_some_iff.1 hceiling
      have hle := hfits text htext word hword
      omega
    | refused hsize hroom hlimit hrefused =>
      rw [hrequired] at hroom hrefused
      exact absurd (hgranted.grants hfits text htext hroom) hrefused

/-- A greeting above the ceiling is refused for that reason. -/
theorem append_newLog_of_lt (h : c.Lawful) {text : String} (htext : text ∈ c.banner)
    {limit : UInt64} (hlimit : limit ∈ c.ceiling) (hlt : limit.toNat < text.utf8ByteSize) :
    (c.newLog.append text.toUTF8).1 =
      .error (.capacityExceeded text.utf8ByteSize limit.toNat) := by
  have hplanned := c.newLog.planned text.toUTF8.size
  have hrequired : c.newLog.contents.size + text.toUTF8.size = text.utf8ByteSize := Nat.zero_add _
  have hceiling : c.newLog.ceiling = some limit.toNat := Option.mem_map_of_mem _ hlimit
  have hinitial := h.initial_le limit hlimit
  cases hmade : c.newLog.makeRoom text.toUTF8.size with
  | ok roomy =>
    rw [hmade] at hplanned
    cases hplanned with
    | fits hsize hroom =>
      have hcapacity : c.newLog.capacity = c.initialCapacity.toNat := rfl
      omega
    | grows hsize hroom hle hgrants =>
      have := hle _ hceiling
      omega
  | error cause =>
    rw [Buffer.append_of_makeRoom_eq_error hmade]
    rw [hmade] at hplanned
    cases hplanned with
    | tooLarge hlarge => exact absurd (h.banner_le text htext) (Nat.not_le_of_lt hlarge)
    | full limit' hsize hroom hceiling' hlimit' =>
      rw [hceiling] at hceiling'
      obtain rfl := Option.some.inj hceiling'
      rw [hrequired]
    | refused hsize hroom hle hrefused =>
      have := hle _ hceiling
      omega

end Config

namespace Subsystem

open Config

variable {producer : Producer} {b : Buffer}

/-! ### The start -/

theorem greet_of_banner_eq_none (hvalid : c.validate = .ok ())
    (hnew : Buffer.ofConfig c = .ok c.newLog) (hbanner : c.banner = none) :
    greet c = .ok c.newLog := by
  rw [greet, hvalid, hnew, hbanner]
  rfl

theorem greet_of_banner_eq_some {text : String} (hvalid : c.validate = .ok ())
    (hnew : Buffer.ofConfig c = .ok c.newLog) (hbanner : c.banner = some text) :
    greet c =
      (c.newLog.append text.toUTF8).1.map fun _ ↦ (c.newLog.append text.toUTF8).2 := by
  rw [greet, hvalid, hnew, hbanner]
  dsimp only [bind, Except.bind]
  rcases c.newLog.append text.toUTF8 with ⟨cause | written, b⟩ <;> rfl

theorem start_of_greet_eq_error {cause : Failure} (h : greet c = .error cause)
    (producer : Producer) (uptime : ℕ → Duration) : start c producer uptime = .error cause := by
  rw [start, h]
  rfl

/-- Handing the tasks over touches neither the log nor the cell. -/
theorem start_of_greet_eq_ok (h : greet c = .ok b) (producer : Producer) (uptime : ℕ → Duration) :
    ∃ s, start c producer uptime = .ok s ∧ s.pipeline.buffer = b ∧
      s.pipeline.cell = .empty c.scratchCapacity.toNat := by
  rw [start, h]
  exact ⟨_, rfl, rfl, rfl⟩

/-- A fitting configuration is greeted with its banner and nothing else. -/
theorem greet_of_fitting (hvalid : c.validate = .ok ()) (hgranted : c.Granted)
    (hfits : c.Fitting) :
    ∃ b, greet c = .ok b ∧ b.contents = (c.banner.map String.toUTF8).getD .empty := by
  have hlawful := validate_eq_ok_iff_lawful.1 hvalid
  have hnew := ofConfig_eq hlawful hgranted
  cases hbanner : c.banner with
  | none => exact ⟨c.newLog, greet_of_banner_eq_none hvalid hnew hbanner, rfl⟩
  | some text =>
    obtain ⟨b, happend, hcontents⟩ := append_newLog_of_fitting hlawful hgranted hfits hbanner
    refine ⟨b, ?_, hcontents⟩
    rw [greet_of_banner_eq_some hvalid hnew hbanner, happend]
    rfl

/-- A greeting above the ceiling keeps a validated configuration from starting. -/
theorem start_of_lt (hvalid : c.validate = .ok ()) (hgranted : c.Granted) {text : String}
    (htext : text ∈ c.banner) {limit : UInt64} (hlimit : limit ∈ c.ceiling)
    (hlt : limit.toNat < text.utf8ByteSize) (producer : Producer) (uptime : ℕ → Duration) :
    start c producer uptime = .error (.capacityExceeded text.utf8ByteSize limit.toNat) := by
  have hlawful := validate_eq_ok_iff_lawful.1 hvalid
  refine start_of_greet_eq_error ?_ producer uptime
  rw [greet_of_banner_eq_some hvalid (ofConfig_eq hlawful hgranted) htext,
    append_newLog_of_lt hlawful htext hlimit hlt]
  rfl

/-- When a validated configuration starts, if the memory grants what it needs: exactly if it is
fitting, and then the log holds the greeting and the cell has the room that was asked for. Otherwise
the greeting is refused for the ceiling, and the start with it. -/
theorem start_of_validated (hvalid : c.validate = .ok ()) (hgranted : c.Granted)
    (producer : Producer) (uptime : ℕ → Duration) :
    (c.Fitting →
      ∃ s, start c producer uptime = .ok s ∧
        s.pipeline.buffer.contents = (c.banner.map String.toUTF8).getD .empty ∧
        s.pipeline.cell.capacity = c.scratchCapacity.toNat) ∧
    (¬ c.Fitting →
      ∃ text ∈ c.banner, ∃ limit ∈ c.ceiling, limit.toNat < text.utf8ByteSize ∧
        start c producer uptime = .error (.capacityExceeded text.utf8ByteSize limit.toNat)) := by
  refine ⟨fun hfits ↦ ?_, fun hunfit ↦ ?_⟩
  · have hlawful := validate_eq_ok_iff_lawful.1 hvalid
    obtain ⟨b, hgreet, hcontents⟩ := greet_of_fitting hvalid hgranted hfits
    obtain ⟨s, hstart, hbuffer, hcell⟩ := start_of_greet_eq_ok hgreet producer uptime
    refine ⟨s, hstart, by rw [hbuffer, hcontents], ?_⟩
    rw [hcell, Cell.capacity_empty, Nat.min_eq_left hlawful.scratch_le]
  · obtain ⟨text, htext, limit, hlimit, hlt⟩ : ∃ text ∈ c.banner, ∃ limit ∈ c.ceiling,
        limit.toNat < text.utf8ByteSize := by
      simpa [Fitting] using hunfit
    exact ⟨text, htext, limit, hlimit, hlt,
      start_of_lt hvalid hgranted htext hlimit hlt producer uptime⟩

/-- The greeting of the default starts a log that may grow from eight bytes to sixteen, and not one
that must stay at eight. -/
theorem start_of_validated_at_eight :
    let roomy := { Config.fixed 8 with ceiling := some 16 }
    (∃ s, start roomy .timer = .ok s ∧
      s.pipeline.buffer.contents = "Hello, world!\n".toUTF8 ∧ s.pipeline.cell.capacity = 64) ∧
    ∃ text ∈ (Config.fixed 8).banner, ∃ limit ∈ (Config.fixed 8).ceiling,
      limit.toNat < text.utf8ByteSize ∧
        start (Config.fixed 8) .timer =
          .error (.capacityExceeded text.utf8ByteSize limit.toNat) := by
  intro roomy
  have hroomy : roomy.validate = .ok () := (validate_eq_ok_iff _).2 (by decide +kernel)
  have htight : (Config.fixed 8).validate = .ok () := (validate_eq_ok_iff _).2 (by decide +kernel)
  have hgranted : roomy.Granted := by
    refine ⟨by decide, fun _ text htext _ ↦ ?_⟩
    obtain rfl := Option.some.inj htext
    decide +kernel
  have hfits : roomy.Fitting := by
    intro text htext limit hlimit
    obtain rfl := Option.some.inj htext
    obtain rfl := Option.some.inj hlimit
    decide +kernel
  have hunfit : ¬ (Config.fixed 8).Fitting := not_fitting_fixed (by decide)
  exact ⟨(start_of_validated hroomy hgranted .timer _).1 hfits,
    (start_of_validated htight (granted_of_not_fitting (by decide) hunfit) .timer _).2
      hunfit⟩

/-- The preset for eight bytes is validated and granted all memory, and does not start. -/
theorem start_refused_of_fixed_eight :
    (Config.fixed 8).validate = .ok () ∧ (Config.fixed 8).Granted ∧
      start (Config.fixed 8) .timer = .error (.capacityExceeded 14 8) := by
  have hvalid : (Config.fixed 8).validate = .ok () := (validate_eq_ok_iff _).2 (by decide +kernel)
  have hgranted : (Config.fixed 8).Granted :=
    granted_of_not_fitting (by decide) (not_fitting_fixed (by decide))
  have hsize : "Hello, world!\n".utf8ByteSize = 14 := by decide +kernel
  have hstart := start_of_lt hvalid hgranted rfl rfl (by decide +kernel) .timer fun _ ↦ .ofMillis 0
  rw [show ("Hello, world!\n" : String).utf8ByteSize = 14 from hsize] at hstart
  exact ⟨hvalid, hgranted, hstart⟩

end Subsystem

end DeferredLog
