import HardwareFingerprint.Proofs.Run.Isolation
import HardwareFingerprint.Proofs.Settings.Validity

/-!
# Logging and the course of a run

A run with accepted settings takes the same course whether its log is kept or not, as long as it can
announce its wait: that is, debug events are not kept, or the interval times the attempts is below
`2 ^ 64` seconds. The settings do not see to that. With a longer budget, and debug events kept, a run
ends in the announcement with nobody called, where the same run without a log goes through its gate.
-/
namespace HardwareFingerprint

set_option autoImplicit false

/-- Two sessions ended with the same result, after the same calls and with the outside in the same
state. -/
structure Session.SameCourse {σ α : Type} (a b : α × Journal σ) : Prop where
  result : a.1 = b.1
  calls : a.2.calls = b.2.calls
  state : a.2.state = b.2.state

/-- Settings that are in force: those of a document, or those left by given values. -/
inductive Settings.Accepted (s : Settings) : Prop
  | document {d : String} : ofDocument d = .ok s → Accepted s
  | overridden {s' : Settings} {o : Overrides} : s'.withOverrides o = .ok s → Accepted s

theorem Policy.budgetSecs?_ne_none_iff (service : String) (attempts secs : Nat) :
    Policy.budgetSecs? ⟨service, attempts, 1000 * secs⟩ ≠ none ↔ secs * attempts < secsBound := by
  have hsecs : 1000 * secs * attempts / 1000 = secs * attempts := by
    rw [Nat.mul_assoc, Nat.mul_div_cancel_left _ (by decide)]
  simp only [budgetSecs?, budget, hsecs]
  split
  · next h => simp [h]
  · next h => simp [h]

namespace Settings

theorem Accepted.valid {s : Settings} (h : s.Accepted) : s.validate = .ok () := by
  rw [validate_eq_ok_iff]
  cases h with
  | document h => exact (ofDocument_eq_ok_iff.mp h).2
  | overridden h =>
    obtain ⟨hvalid, rfl⟩ := withOverrides_eq_ok_iff.mp h
    exact hvalid

theorem engineConfig_of_valid {s : Settings} (h : s.validate = .ok ())
    (windowsDirectory : Option String) :
    ∃ config, s.engineConfig windowsDirectory = .ok config ∧ config.readiness = s.policy := by
  obtain ⟨v, hv⟩ := (validate_eq_ok_iff.mp h).versioned
  exact ⟨_, engineConfig_of_threshold hv windowsDirectory, rfl⟩

end Settings

/-- Collections that differ in no part are the same. -/
theorem Collection.Matches.eq {k k' : Collection} (h : k.Matches (fun _ => False) k') : k = k' := by
  obtain ⟨strategy, outcomes, host⟩ := k
  obtain ⟨strategy', outcomes', host'⟩ := k'
  obtain rfl : strategy = strategy' := h.strategy
  have houtcomes : outcomes = outcomes' := by
    refine List.forall₂_eq_eq_eq ▸ h.outcomes.imp fun o o' ho => ?_
    cases o
    cases o'
    exact Outcome.mk.injEq .. ▸ ⟨ho.category, ho.result id⟩
  have hhost : host = host' := by
    cases host
    cases host'
    exact HostFacts.mk.injEq .. ▸ ⟨h.facts .hostname id, h.facts .primaryIp id,
      h.facts .macAddress id⟩
  rw [houtcomes, hhost]

theorem Engine.Alike.eq {r r' : Except Stop Collection} (h : Alike (fun _ => False) r r') :
    r = r' := by
  cases h with
  | stopped e => rfl
  | finished hk => rw [hk.eq]

theorem World.inStep_self {σ : Type} (w : World σ) (apart : Call → Prop) : w.InStep w apart Eq := by
  refine ⟨?_, ?_⟩
  · rintro c t _ rfl _
    rfl
  · rintro c t _ rfl
    rfl

theorem Readiness.announces_unlogged {σ : Type} (w : World σ) (p : Policy) :
    Announces ⟨w, none⟩ p := by
  intro h
  cases h

namespace Engine

variable {σ : Type} {engine : Engine} {w : World σ} {upTo upTo' : Option Level}

/-- Two runs that can announce their wait take the same course, whatever is recorded of them. -/
theorem sameCourse (h : Readiness.Announces ⟨w, upTo⟩ engine.config.readiness)
    (h' : Readiness.Announces ⟨w, upTo'⟩ engine.config.readiness) (j : Journal σ) :
    Session.SameCourse (engine.collect ⟨w, upTo⟩ j) (engine.collect ⟨w, upTo'⟩ j) := by
  have agree : Session.Agree Eq ⟨w, upTo⟩ ⟨w, upTo'⟩ engine.collect engine.collect
      (Alike fun _ => False) :=
    collect_agree (w.inStep_self _) h h'
  obtain ⟨hr, hj⟩ := agree j j ⟨rfl, rfl⟩
  exact ⟨hr.eq, hj.calls, hj.state⟩

theorem collect_ne_overflow (h : Readiness.Announces ⟨w, upTo⟩ engine.config.readiness)
    (j : Journal σ) : (engine.collect ⟨w, upTo⟩ j).1 ≠ .error .budgetOverflow := by
  intro ho
  obtain ⟨xs, es, _, hr⟩ := collect_does h j
  rw [ho] at hr
  cases hr

/-- A run that is stopped by its own log takes another course than the same run without a log. -/
theorem not_sameCourse (h : ¬ Readiness.Announces ⟨w, upTo⟩ engine.config.readiness)
    (j : Journal σ) :
    ¬ Session.SameCourse (engine.collect ⟨w, upTo⟩ j) (engine.collect ⟨w, none⟩ j) := by
  intro hsame
  have hstopped : (engine.collect ⟨w, upTo⟩ j).1 = .error .budgetOverflow :=
    congrArg Prod.fst (collect_overflows h j)
  have hunlogged := Readiness.announces_unlogged w engine.config.readiness
  exact collect_ne_overflow hunlogged j (hsame.result.symm.trans hstopped)

end Engine

/-- For accepted settings there is a configuration, and a run with it is never stopped by its own
log if none is kept. If one is kept, the run takes the same course exactly if debug events are not
kept or the interval times the attempts is below `2 ^ 64` seconds; otherwise it ends before its first
call. -/
theorem Settings.sameCourse_iff {s : Settings} (hs : s.Accepted) (windowsDirectory : Option String) :
    ∃ config, s.engineConfig windowsDirectory = .ok config ∧
      ∀ {σ : Type} (platform : PlatformSource) (host : HostSource) (w : World σ) (j : Journal σ)
        (upTo : Option Level),
        let engine : Engine := ⟨config, platform, host⟩
        let silent := engine.collect ⟨w, none⟩ j
        let logged := engine.collect ⟨w, upTo⟩ j
        let inTime := Level.debug.isRecorded upTo = true →
          s.intervalSecs.val * s.attempts.val < Numeral.countOf 64
        silent.1 ≠ .error .budgetOverflow ∧
        (Session.SameCourse logged silent ↔ inTime) ∧
        (¬ inTime → logged = (.error .budgetOverflow, j)) := by
  obtain ⟨config, hconfig, hpolicy⟩ := engineConfig_of_valid hs.valid windowsDirectory
  refine ⟨config, hconfig, ?_⟩
  intro σ platform host w j upTo engine silent logged inTime
  have hann : inTime ↔ Readiness.Announces ⟨w, upTo⟩ engine.config.readiness := by
    have hbudget := Policy.budgetSecs?_ne_none_iff s.service s.attempts.val s.intervalSecs.val
    have hp : engine.config.readiness = s.policy := hpolicy
    rw [Readiness.Announces, hp]
    exact imp_congr_right fun _ => hbudget.symm
  have hsilent := Readiness.announces_unlogged w engine.config.readiness
  refine ⟨Engine.collect_ne_overflow hsilent j, ⟨?_, ?_⟩, ?_⟩
  · intro hsame
    apply Classical.byContradiction
    intro hlate
    exact Engine.not_sameCourse (fun ha => hlate (hann.mpr ha)) j hsame
  · intro hin
    exact Engine.sameCourse (hann.mp hin) hsilent j
  · intro hlate
    exact Engine.collect_overflows (fun ha => hlate (hann.mpr ha)) j

namespace Settings

/-- Two attempts with so many seconds between them, and nothing else configured. -/
def twice (secs : Fin (Numeral.countOf 64)) : Settings :=
  { byDefault with attempts := ⟨2, by decide⟩, intervalSecs := secs }

/-- With one second less than half of `2 ^ 64` between two attempts, debug events change nothing. -/
theorem twice_sameCourse :
    let secs : Fin (Numeral.countOf 64) := ⟨9223372036854775807, by decide⟩
    ({ byDefault with intervalSecs := secs }).withOverrides ⟨none, some ⟨2, by decide⟩⟩ =
      .ok (twice secs) ∧
    ∃ config, (twice secs).engineConfig none = .ok config ∧
      let engine : Engine := ⟨config, .asked, .asked⟩
      Session.SameCourse (engine.collect ⟨World.unreachable, some .debug⟩ (.start ()))
        (engine.collect ⟨World.unreachable, none⟩ (.start ())) := by
  intro secs
  have given : ({ byDefault with intervalSecs := secs }).withOverrides
      ⟨none, some ⟨2, by decide⟩⟩ = .ok (twice secs) :=
    Except.toOption_eq_some_iff.mp (by decide +kernel)
  refine ⟨given, ?_⟩
  obtain ⟨config, hconfig, hrun⟩ := sameCourse_iff (.overridden given) none
  refine ⟨config, hconfig, ?_⟩
  obtain ⟨_, hsame, _⟩ := hrun .asked .asked World.unreachable (.start ()) (some .debug)
  exact hsame.mpr fun _ => by decide

/-- With half of `2 ^ 64` seconds between two attempts, which a document may ask for, a run whose
debug events are kept takes another course. -/
theorem twice_not_sameCourse :
    let secs : Fin (Numeral.countOf 64) := ⟨9223372036854775808, by decide⟩
    ofDocument "\x7b\"readiness_attempts\":2,\"readiness_interval_secs\":9223372036854775808\x7d" =
      .ok (twice secs) ∧
    ∃ config, (twice secs).engineConfig none = .ok config ∧
      let engine : Engine := ⟨config, .asked, .asked⟩
      ¬ Session.SameCourse (engine.collect ⟨World.unreachable, some .debug⟩ (.start ()))
        (engine.collect ⟨World.unreachable, none⟩ (.start ())) := by
  intro secs
  have given : ofDocument
      "\x7b\"readiness_attempts\":2,\"readiness_interval_secs\":9223372036854775808\x7d" =
        .ok (twice secs) :=
    Except.toOption_eq_some_iff.mp (by decide +kernel)
  refine ⟨given, ?_⟩
  have hvalid := Accepted.valid (.document given)
  obtain ⟨config, hconfig, hpolicy⟩ := engineConfig_of_valid hvalid none
  refine ⟨config, hconfig, Engine.not_sameCourse (fun ha => ?_) (.start ())⟩
  have hp : (Engine.mk config .asked .asked).config.readiness = (twice secs).policy := hpolicy
  rw [hp] at ha
  exact ha (by decide) (by decide)

end Settings

end HardwareFingerprint
