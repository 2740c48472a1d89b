import HardwareFingerprint.Proofs.Settings.Validity

/-!
# Given values, one after the other

Values from the command line replace those of some settings, and may do so several times over. A step
keeps settings valid or fails for its number of attempts, and two steps are one in which the later
values win. So the whole chain is one step with the values given last. What the settings say in the
end is what their configuration has.
-/
namespace HardwareFingerprint

set_option autoImplicit false

namespace Overrides

/-- Values given after others: they win where there are any. -/
def after (o earlier : Overrides) : Overrides :=
  ⟨o.strategy.or earlier.strategy, o.attempts.or earlier.attempts⟩

/-- The values given last. A strategy that is given as automatic is one. -/
def last (os : List Overrides) : Overrides :=
  ⟨(os.filterMap Overrides.strategy).getLast?, (os.filterMap Overrides.attempts).getLast?⟩

theorem last_cons (o : Overrides) (os : List Overrides) : last (o :: os) = (last os).after o := by
  have step : ∀ {α : Type} (given : Overrides → Option α),
      ((o :: os).filterMap given).getLast? = ((os.filterMap given).getLast?).or (given o) := by
    intro α given
    rw [List.filterMap_cons]
    cases given o with
    | none => rw [Option.or_none]
    | some a =>
      rw [List.getLast?_cons]
      cases (os.filterMap given).getLast? <;> rfl
  rw [last, step, step]
  rfl

end Overrides

namespace Settings

variable {s s' : Settings}

/-- The settings after several steps, each of which must leave valid ones. -/
def overrideAll (s : Settings) (os : List Overrides) : Except Failure Settings :=
  os.foldlM withOverrides s

/-- Settings that a program starts from: the defaults, or those of a document. -/
inductive Initial (s : Settings) : Prop
  | byDefault : s = Settings.byDefault → Initial s
  | document {document : String} : ofDocument document = .ok s → Initial s

/-- A configuration has what its settings say. -/
structure Carries (s : Settings) (windowsDirectory : Option String) (c : EngineConfig) : Prop where
  service : c.readiness.service = s.service
  attempts : c.readiness.attempts = s.attempts.val
  attempted : 1 ≤ c.readiness.attempts
  interval : c.readiness.interval = 1000 * s.intervalSecs.val
  threshold : Version.parse s.threshold = .ok c.selector.threshold
  forced : c.selector.forced = s.strategy
  configured : ∀ path, s.command = some path → c.command = path
  found : s.command = none → ∀ directory, windowsDirectory = some directory →
    Text.isAllBlank directory = false → c.command = Path.commandUnder directory
  usual : s.command = none →
    (∀ directory, windowsDirectory = some directory → Text.isAllBlank directory = true) →
    c.command = Path.commandUnder Path.defaultWindowsDirectory

theorem Initial.valid (h : s.Initial) : s.Valid := by
  cases h with
  | byDefault h =>
    rw [h]
    exact valid_byDefault
  | document h => exact (ofDocument_eq_ok_iff.mp h).2

theorem override_override (s : Settings) (earlier o : Overrides) :
    (s.override earlier).override o = s.override (o.after earlier) := by
  have later : ∀ {α : Type} (x y : Option α) (a : α), x.getD (y.getD a) = (x.or y).getD a := by
    intro α x y a
    cases x <;> rfl
  rw [override, override, override, Overrides.after, later, later]

/-- A chain of steps keeps settings valid, and leaves what one step with its last values does. -/
theorem overrideAll_spec {os : List Overrides} (h : s.overrideAll os = .ok s') (hs : s.Valid) :
    s'.Valid ∧ s' = s.override (Overrides.last os) := by
  -- The settings vary along the chain: each step starts from those that the one before has left.
  induction os generalizing s with
  | nil =>
    obtain rfl : s = s' := Except.ok.inj h
    exact ⟨hs, rfl⟩
  | cons o os ih =>
    rw [overrideAll, List.foldlM_cons] at h
    obtain ⟨middle, hstep, hrest⟩ := Except.bind_eq_ok_iff.mp h
    obtain ⟨hmiddle, rfl⟩ := withOverrides_eq_ok_iff.mp hstep
    obtain ⟨hvalid, hlast⟩ := ih hrest hmiddle
    rw [override_override, ← Overrides.last_cons] at hlast
    exact ⟨hvalid, hlast⟩

theorem withOverrides_eq_error_iff (h : s.Valid) (o : Overrides) {e : Failure} :
    s.withOverrides o = .error e ↔
      (∃ n, o.attempts = some n ∧ n.val = 0) ∧
        e = .invalidConfig "readiness_attempts" "must be at least 1" := by
  have hvalidate := h.validate_override o
  have hpositive : s.attempts.val ≠ 0 := Nat.one_le_iff_ne_zero.mp h.attempted
  rw [withOverrides, hvalidate]
  cases ha : o.attempts with
  | none =>
    rw [Option.getD_none, if_neg hpositive]
    constructor
    · intro hok
      cases hok
    · rintro ⟨⟨n, hn, _⟩, _⟩
      cases hn
  | some n =>
    rw [Option.getD_some]
    by_cases hzero : n.val = 0
    · rw [if_pos hzero]
      constructor
      · intro herror
        exact ⟨⟨n, rfl, hzero⟩, (Except.error.inj herror).symm⟩
      · rintro ⟨_, rfl⟩
        rfl
    · rw [if_neg hzero]
      constructor
      · intro hok
        cases hok
      · rintro ⟨⟨n', hn', hzero'⟩, _⟩
        obtain rfl := Option.some.inj hn'
        exact absurd hzero' hzero

theorem Valid.carries (h : s.Valid) (windowsDirectory : Option String) :
    ∃ config, s.engineConfig windowsDirectory = .ok config ∧ s.Carries windowsDirectory config := by
  obtain ⟨v, hv⟩ := h.versioned
  refine ⟨_, engineConfig_of_threshold hv windowsDirectory, ?_⟩
  constructor
  case service => rfl
  case attempts => rfl
  case attempted => exact h.attempted
  case interval => rfl
  case threshold => exact hv
  case forced => rfl
  case configured =>
    intro path hpath
    rw [hpath]
    rfl
  case found =>
    intro hnone directory hdirectory hvisible
    simp only [hnone, hdirectory, Option.getD_none, Path.command, hvisible, Bool.false_eq_true,
      ↓reduceIte]
  case usual =>
    intro hnone hblank
    rw [hnone]
    cases hd : windowsDirectory with
    | none => rfl
    | some directory => simp only [Option.getD_none, Path.command, hblank directory hd, ↓reduceIte]

/-- Whatever values are given, one step after the other, to the defaults or to the settings of a
document: the settings that are left are valid and have a configuration that carries them. A further
step fails exactly if it gives zero attempts. The whole chain is one step with the values given last:
these are in the settings, and the service, the interval, the threshold and the command are as they
were. -/
theorem overrideAll_faithful {os : List Overrides} (hs : s.Initial)
    (h : s.overrideAll os = .ok s') :
    s'.validate = .ok () ∧
    (∀ windowsDirectory, ∃ config, s'.engineConfig windowsDirectory = .ok config ∧
      s'.Carries windowsDirectory config) ∧
    (∀ o, ((∃ e, s'.withOverrides o = .error e) ↔ ∃ n, o.attempts = some n ∧ n.val = 0) ∧
      ∀ e, s'.withOverrides o = .error e →
        e = .invalidConfig "readiness_attempts" "must be at least 1") ∧
    s.withOverrides (Overrides.last os) = .ok s' ∧
    s'.strategy = (Overrides.last os).strategy.getD s.strategy ∧
    s'.attempts = (Overrides.last os).attempts.getD s.attempts ∧
    s'.service = s.service ∧ s'.intervalSecs = s.intervalSecs ∧ s'.threshold = s.threshold ∧
    s'.command = s.command := by
  obtain ⟨hvalid, hlast⟩ := overrideAll_spec h hs.valid
  refine ⟨validate_eq_ok_iff.mpr hvalid, hvalid.carries, ?_, ?_, ?_⟩
  · intro o
    refine ⟨⟨?_, ?_⟩, ?_⟩
    · rintro ⟨e, he⟩
      exact ((withOverrides_eq_error_iff hvalid o).mp he).1
    · intro hzero
      exact ⟨_, (withOverrides_eq_error_iff hvalid o).mpr ⟨hzero, rfl⟩⟩
    · intro e he
      exact ((withOverrides_eq_error_iff hvalid o).mp he).2
  · exact withOverrides_eq_ok_iff.mpr ⟨hlast ▸ hvalid, hlast⟩
  · rw [hlast]
    exact ⟨rfl, rfl, rfl, rfl, rfl, rfl⟩

/-- A document forces a strategy, and so does a first step. A later step takes the force away, which
wins over both. -/
theorem unforced_faithful :
    let document := "\x7b\"strategy\":\"command-output\",\"version_threshold\":\" 6.3nano\"\x7d"
    let s : Settings := { byDefault with strategy := some .commandOutput, threshold := " 6.3nano" }
    let os : List Overrides :=
      [⟨some (some .structuredQuery), none⟩, ⟨none, some ⟨7, by decide⟩⟩, ⟨some none, none⟩]
    let s' : Settings := { s with strategy := none, attempts := ⟨7, by decide⟩ }
    ofDocument document = .ok s ∧ s.overrideAll os = .ok s' ∧
      s.withOverrides ⟨some none, some ⟨7, by decide⟩⟩ = .ok s' ∧
      ∃ config, s'.engineConfig (some "D:\\Windows") = .ok config ∧
        s'.Carries (some "D:\\Windows") config := by
  intro document s os s'
  have hread : ofDocument document = .ok s :=
    Except.toOption_eq_some_iff.mp (by decide +kernel)
  have hchain : s.overrideAll os = .ok s' :=
    Except.toOption_eq_some_iff.mp (by decide +kernel)
  obtain ⟨_, hconfig, _, hstep, _⟩ := overrideAll_faithful (.document hread) hchain
  exact ⟨hread, hchain, hstep, hconfig _⟩

end Settings

end HardwareFingerprint
