import HardwareFingerprint.Program
import HardwareFingerprint.Proofs.Session.Transcript
import HardwareFingerprint.Proofs.Settings.Loading
import HardwareFingerprint.Proofs.Settings.Overriding

/-!
# Where a run of the program stops

Only a Windows host can be collected from, so on any other system a run always fails, and the first
of three stages that fails gives the failure. The settings may not be there to be loaded; the command
line may ask for no attempt at all; and if neither is so, the run is refused for its system. What
loading and overriding leave is valid, so it always has a configuration, and the stage between them
and the refusal, which has no label, is never the one that fails.
-/
namespace HardwareFingerprint.Program

set_option autoImplicit false

/-- A run has no settings to start from, for a reason. -/
def Unloadable (env : Environment) (c : CommandLine) (e : Failure) : Prop :=
  Settings.Unloadable env.files env.configDirectory c.settings e

/-- The command line asks for no attempt at all. -/
def Unattempted (c : CommandLine) : Prop :=
  c.attempts.map Fin.val = some 0

instance (c : CommandLine) : Decidable (Unattempted c) :=
  inferInstanceAs (Decidable (_ = _))

/-- A failure is that of the first stage that does not succeed. -/
structure FirstFailure (env : Environment) (c : CommandLine) (f : StageFailure) : Prop where
  loading : f.stage.label = some "Failed to load settings" ↔ ∃ e, Unloadable env c e
  unloadable : ∀ e, Unloadable env c e → f.failure = e
  overriding : f.stage.label = some "Invalid settings" ↔
    (¬ ∃ e, Unloadable env c e) ∧ Unattempted c
  collecting : f.stage.label = some "Hardware fingerprint unavailable" ↔
    (¬ ∃ e, Unloadable env c e) ∧ ¬ Unattempted c
  unsupported : f.stage.label = some "Hardware fingerprint unavailable" →
    f.failure = .notSupported
      ("hardware fingerprinting requires Windows (running on " ++ env.system ++ ")")
  configured : f.stage ≠ .configuring

/-- The failure of a run, by what loading its settings gave. -/
def failureAfter (env : Environment) (c : CommandLine) : Except Failure Settings → StageFailure
  | .error e => ⟨.loading, e⟩
  | .ok _ =>
    if Unattempted c then
      ⟨.overriding, .invalidConfig "readiness_attempts" "must be at least 1"⟩
    else ⟨.collecting, refusal env.system⟩

variable {σ : Type} {env : Environment} {c : CommandLine}

theorem unattempted_iff : Unattempted c ↔ ∃ n, c.overrides.attempts = some n ∧ n.val = 0 :=
  Option.map_eq_some_iff

/-- Valid settings stay valid under any values but zero attempts, so that nothing fails before the
refusal. -/
theorem run_eq (env : Environment) (c : CommandLine) (s : Surroundings σ) (j : Journal σ) :
    (run env c s j).1 =
      .error (failureAfter env c (Settings.load env.files env.configDirectory c.settings s j).1) := by
  rw [run, Session.bind_apply]
  cases hload : (Settings.load env.files env.configDirectory c.settings s j).1 with
  | error e => rfl
  | ok loaded =>
    have hvalid := Settings.valid_of_load hload
    cases hover : loaded.withOverrides c.overrides with
    | error e =>
      obtain ⟨hattempts, rfl⟩ := (Settings.withOverrides_eq_error_iff hvalid c.overrides).mp hover
      rw [failureAfter, if_pos (unattempted_iff.mpr hattempts)]
      simp only [hover]
      rfl
    | ok settings =>
      have hattempted : ¬ Unattempted c := by
        intro hunattempted
        have hrefused := (Settings.withOverrides_eq_error_iff hvalid c.overrides).mpr
          ⟨unattempted_iff.mp hunattempted, rfl⟩
        rw [hover] at hrefused
        cases hrefused
      obtain ⟨hvalid', rfl⟩ := Settings.withOverrides_eq_ok_iff.mp hover
      obtain ⟨v, hv⟩ := hvalid'.versioned
      have hconfig := Settings.engineConfig_of_threshold hv env.windowsDirectory
      rw [failureAfter, if_neg hattempted]
      simp only [hover, hconfig]
      rfl

/-- If loading fails exactly where there is a reason, the failure after it is that of the first stage
that does not succeed. -/
theorem firstFailure_failureAfter {loaded : Except Failure Settings}
    (hload : ∀ e, loaded = .error e ↔ Unloadable env c e) :
    FirstFailure env c (failureAfter env c loaded) := by
  cases loaded with
  | error e =>
    have hunloadable : ∃ e, Unloadable env c e := ⟨e, (hload e).mp rfl⟩
    have hoverriding : Stage.loading.label ≠ some "Invalid settings" := by decide
    have hcollecting : Stage.loading.label ≠ some "Hardware fingerprint unavailable" := by decide
    exact
      { loading := iff_of_true rfl hunloadable
        unloadable := fun e' he' => Except.error.inj ((hload e').mpr he')
        overriding := iff_of_false hoverriding fun h => h.1 hunloadable
        collecting := iff_of_false hcollecting fun h => h.1 hunloadable
        unsupported := fun h => absurd h hcollecting
        configured := Stage.noConfusion }
  | ok settings =>
    have hloadable : ¬ ∃ e, Unloadable env c e := by
      intro h
      obtain ⟨e, he⟩ := h
      cases (hload e).mpr he
    by_cases hattempts : Unattempted c
    · have hloading : Stage.overriding.label ≠ some "Failed to load settings" := by decide
      have hcollecting : Stage.overriding.label ≠ some "Hardware fingerprint unavailable" := by
        decide
      rw [failureAfter, if_pos hattempts]
      exact
        { loading := iff_of_false hloading hloadable
          unloadable := fun e he => absurd ⟨e, he⟩ hloadable
          overriding := iff_of_true rfl ⟨hloadable, hattempts⟩
          collecting := iff_of_false hcollecting fun h => h.2 hattempts
          unsupported := fun h => absurd h hcollecting
          configured := Stage.noConfusion }
    · have hloading : Stage.collecting.label ≠ some "Failed to load settings" := by decide
      have hoverriding : Stage.collecting.label ≠ some "Invalid settings" := by decide
      rw [failureAfter, if_neg hattempts]
      exact
        { loading := iff_of_false hloading hloadable
          unloadable := fun e he => absurd ⟨e, he⟩ hloadable
          overriding := iff_of_false hoverriding fun h => hattempts h.2
          collecting := iff_of_true rfl ⟨hloadable, hattempts⟩
          unsupported := fun _ => rfl
          configured := Stage.noConfusion }

/-- Whatever the command line and the settings files are, a run fails. Its failure is that of the
first stage that does not succeed: that no settings can be loaded, which no value of the command line
mends, else that no attempt is asked for, else that the system is not supported. The choice of a
strategy and the form of the output make no difference, and nothing is written to the output. -/
theorem run_refused {σ : Type} (env : Environment) (c : CommandLine) (s : Surroundings σ)
    (j : Journal σ) :
    ∃ f, (run env c s j).1 = .error f ∧ FirstFailure env c f ∧
      (∀ c' : CommandLine, c'.settings = c.settings → c'.attempts = c.attempts →
        (run env c' s j).1 = .error f) ∧
      ∀ warning, (report c warning (run env c s j).1).output = "" := by
  have hfirst : FirstFailure env c (failureAfter env c
      (Settings.load env.files env.configDirectory c.settings s j).1) :=
    firstFailure_failureAfter fun e => Settings.load_eq_error_iff
  refine ⟨_, run_eq env c s j, hfirst, ?_, ?_⟩
  · intro c' hsettings hattempts
    have hsame : Unattempted c' ↔ Unattempted c := by rw [Unattempted, Unattempted, hattempts]
    rw [run_eq, hsettings]
    cases (Settings.load env.files env.configDirectory c.settings s j).1 with
    | error e => rfl
    | ok settings => simp only [failureAfter, hsame]
  · intro warning
    rw [run_eq]
    rfl

/-- There is one settings file, with the given document. -/
def Environment.withSettings (document : String) : Environment where
  files := fun path =>
    if path = "settings.json" then .ok (Bytes.ofText document) else .error .absent
  configDirectory := none
  logFilter := none
  windowsDirectory := none
  system := "linux"

/-- A command line that asks for three attempts does not mend settings that ask for none, and with a
strategy and the indented form the same run fails in the same way. -/
theorem unattempted_refused :
    let env := Environment.withSettings "\x7b\"readiness_attempts\":0\x7d"
    let c : CommandLine :=
      { CommandLine.bare with settings := some "settings.json", attempts := some ⟨3, by decide⟩ }
    let c' : CommandLine := { c with strategy := some .auto, pretty := true, showFailures := true }
    ∃ f, (run env c ⟨World.unreachable, none⟩ (.start ())).1 = .error f ∧
      f.stage.label = some "Failed to load settings" ∧
      f.failure = .invalidConfig "readiness_attempts" "must be at least 1" ∧
      c'.settings = c.settings ∧ c'.attempts = c.attempts ∧
      (run env c' ⟨World.unreachable, none⟩ (.start ())).1 = .error f := by
  intro env c c'
  obtain ⟨f, hrun, hfirst, hsame, _⟩ := run_refused env c ⟨World.unreachable, none⟩ (.start ())
  have hfile : env.files "settings.json" =
      .ok (Bytes.ofText "\x7b\"readiness_attempts\":0\x7d") := by
    simp only [env, Environment.withSettings, ↓reduceIte]
  have hread : Settings.read "\x7b\"readiness_attempts\":0\x7d" =
      .ok { Settings.byDefault with attempts := ⟨0, by decide⟩ } :=
    Except.toOption_eq_some_iff.mp (by decide +kernel)
  have hunloadable : Unloadable env c
      (.invalidConfig "readiness_attempts" "must be at least 1") :=
    ⟨"settings.json", .given rfl, .invalid hfile hread (.unattempted (by decide) rfl)⟩
  exact ⟨f, hrun, hfirst.loading.mpr ⟨_, hunloadable⟩, hfirst.unloadable _ hunloadable, rfl, rfl,
    hsame c' rfl rfl⟩

end HardwareFingerprint.Program
