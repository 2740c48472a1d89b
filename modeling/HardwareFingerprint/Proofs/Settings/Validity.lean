import HardwareFingerprint.Proofs.Result
import HardwareFingerprint.Settings

/-!
# Valid settings

What validation asks for, and what follows from it: settings in force are valid, valid settings have a
configuration, and the only given value that can make valid settings invalid is a number of attempts
that is zero.
-/
namespace HardwareFingerprint.Settings

set_option autoImplicit false

variable {s s' : Settings}

structure Valid (s : Settings) : Prop where
  named : Text.isAllBlank s.service = false
  attempted : 1 ≤ s.attempts.val
  versioned : ∃ v, Version.parse s.threshold = .ok v

theorem validate_eq_ok_iff : s.validate = .ok () ↔ s.Valid := by
  rw [validate]
  constructor
  · intro h
    split at h
    · cases h
    · next hname =>
      split at h
      · cases h
      · next hattempts =>
        cases hv : Version.parse s.threshold with
        | error e =>
          rw [hv] at h
          cases h
        | ok v => exact ⟨Bool.eq_false_iff.mpr hname, Nat.one_le_iff_ne_zero.mpr hattempts, v, hv⟩
  · rintro ⟨hname, hattempts, v, hv⟩
    rw [hname, if_neg Bool.false_ne_true, if_neg (Nat.one_le_iff_ne_zero.mp hattempts), hv]

theorem ofDocument_eq_ok_iff {document : String} :
    ofDocument document = .ok s ↔ read document = .ok s ∧ s.Valid := by
  rw [← validate_eq_ok_iff, ofDocument]
  constructor
  · intro h
    obtain ⟨s', hread, h⟩ := Except.bind_eq_ok_iff.mp h
    obtain ⟨_, hvalid, h⟩ := Except.bind_eq_ok_iff.mp h
    obtain rfl := Except.ok.inj h
    exact ⟨Except.mapError_eq_ok_iff.mp hread, hvalid⟩
  · rintro ⟨hread, hvalid⟩
    exact Except.bind_eq_ok_iff.mpr ⟨s, Except.mapError_eq_ok_iff.mpr hread,
      Except.bind_eq_ok_iff.mpr ⟨(), hvalid, rfl⟩⟩

theorem withOverrides_eq_ok_iff {o : Overrides} :
    s.withOverrides o = .ok s' ↔ (s.override o).Valid ∧ s' = s.override o := by
  rw [← validate_eq_ok_iff, withOverrides]
  constructor
  · intro h
    obtain ⟨_, hvalid, h⟩ := Except.bind_eq_ok_iff.mp h
    exact ⟨hvalid, (Except.ok.inj h).symm⟩
  · rintro ⟨hvalid, rfl⟩
    exact Except.bind_eq_ok_iff.mpr ⟨(), hvalid, rfl⟩

theorem valid_byDefault : byDefault.Valid :=
  validate_eq_ok_iff.mp (Except.toOption_eq_some_iff.mp (by decide +kernel))

/-- Of the values that can be given, only a number of attempts is looked at. -/
theorem Valid.validate_override (h : s.Valid) (o : Overrides) :
    (s.override o).validate =
      if (o.attempts.getD s.attempts).val = 0 then
        .error (.invalidConfig "readiness_attempts" "must be at least 1")
      else .ok () := by
  obtain ⟨hname, _, v, hv⟩ := h
  have hservice : (s.override o).service = s.service := rfl
  have hthreshold : (s.override o).threshold = s.threshold := rfl
  have hattempts : (s.override o).attempts = o.attempts.getD s.attempts := rfl
  rw [validate, hservice, hthreshold, hattempts, hname, if_neg Bool.false_ne_true, hv]

/-- The configuration has the version that validation found in the threshold. -/
theorem engineConfig_of_threshold {v : Version} (h : Version.parse s.threshold = .ok v)
    (windowsDirectory : Option String) :
    s.engineConfig windowsDirectory =
      .ok ⟨s.policy, ⟨v, s.strategy⟩, s.command.getD (Path.command windowsDirectory)⟩ := by
  rw [engineConfig, Selector.ofThreshold, h]
  rfl

end HardwareFingerprint.Settings
