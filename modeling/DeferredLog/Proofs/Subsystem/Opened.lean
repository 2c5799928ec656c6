import DeferredLog.Proofs.Buffer.Runs
import DeferredLog.Proofs.Pipeline.Lockstep
import DeferredLog.Subsystem

/-!
# What a start leaves

A log that has started was validated, made and greeted (`greet_eq_ok`), and stands with both tasks
handed over, the appender first (`start_eq_ok_iff`). Nothing has been published and nothing
requested, so its counts are in lockstep, with the greeting as the one entry that came without a
drain.
-/

namespace DeferredLog.Subsystem

variable {c : Config} {producer : Producer} {uptime : ℕ → Duration} {b : Buffer} {s : Subsystem}

/-- What the greeting does to a new log. -/
def greeting (c : Config) : List Buffer.Step :=
  c.banner.toList.map fun text ↦ .append text.toUTF8

/-- The log before any task runs is a new one that has taken the greeting, if there is one. -/
theorem greet_eq_ok (h : greet c = .ok b) :
    c.validate = .ok () ∧ ∃ b₀, Buffer.ofConfig c = .ok b₀ ∧ b = b₀.run (greeting c) ∧
      b.counts.entries = if c.banner.isSome then 1 else 0 := by
  unfold greet at h
  rcases hvalid : c.validate with cause | ⟨⟩
  · rw [hvalid] at h
    cases h
  rcases hnew : Buffer.ofConfig c with cause | b₀
  · rw [hvalid, hnew] at h
    cases h
  obtain ⟨-, -, hempty⟩ := Buffer.allocate_eq_ok_iff.1 hnew
  have hnone : b₀.counts.entries = 0 := by rw [hempty]
  rw [hvalid, hnew] at h
  refine ⟨rfl, b₀, rfl, ?_⟩
  rcases hbanner : c.banner with _ | text
  · rw [hbanner] at h
    obtain rfl : b₀ = b := Except.ok.inj h
    rw [greeting, hbanner]
    exact ⟨rfl, hnone⟩
  · rw [hbanner] at h
    have hentries := Buffer.entries_append b₀ text.toUTF8
    rcases happend : b₀.append text.toUTF8 with ⟨cause | written, b₁⟩
    · have herror : Except.error cause = Except.ok b := by
        simpa only [bind, Except.bind, happend] using h
      cases herror
    · obtain rfl : b₁ = b := by
        simpa only [bind, Except.bind, happend, Except.ok.injEq] using h
      rw [happend, hnone] at hentries
      rw [greeting, hbanner]
      exact ⟨(congrArg Prod.snd happend).symm, hentries⟩

/-- The pipeline of a log that has started: greeted, with both tasks handed over. -/
def opened (c : Config) (b : Buffer) (producer : Producer) (uptime : ℕ → Duration) : Pipeline :=
  let p : Pipeline :=
    { cell := .empty c.scratchCapacity.toNat, buffer := b, producer, uptime,
      journal := startJournal c }
  (p.spawnAppender.spawnTrigger c.period).note (.started b.committed c.scratchCapacity.toNat)
    (startSpan c)

theorem start_eq_ok_iff :
    start c producer uptime = .ok s ↔
      ∃ b, greet c = .ok b ∧ s = ⟨c, opened c b producer uptime⟩ := by
  unfold start
  rcases greet c with cause | b
  · exact ⟨nofun, nofun⟩
  · constructor
    · intro h
      exact ⟨b, rfl, (Except.ok.inj h).symm⟩
    · rintro ⟨_, ⟨⟩, rfl⟩
      rfl

theorem alert_opened (c : Config) (b : Buffer) (producer : Producer) (uptime : ℕ → Duration) :
    (opened c b producer uptime).Alert none := by
  have hnew := Pipeline.alert_make c.scratchCapacity.toNat b producer uptime
  have hspawned := (hnew.spawnAppender rfl).spawnTrigger c.period
  exact ⟨hspawned.nodup, hspawned.waits, hspawned.ready_or_rests⟩

/-- Nothing was published yet, and only the greeting is in the log. -/
theorem inStep_opened (c : Config) (b : Buffer) (producer : Producer) (uptime : ℕ → Duration) :
    (opened c b producer uptime).InStep b.counts.entries 0 where
  alert := alert_opened c b producer uptime
  lockstep := ⟨rfl, rfl, rfl, rfl, rfl, rfl, rfl, (Nat.zero_add _).symm⟩
  appender_eq := rfl
  silent := rfl
  trigger_ne := nofun

end DeferredLog.Subsystem
