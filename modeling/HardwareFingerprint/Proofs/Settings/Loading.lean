import HardwareFingerprint.Proofs.Settings.Merging

/-!
# Loading settings

Settings are loaded from the file that is given, else from the one at the usual place if there is
one, else they are the defaults. A file that is chosen has to be there, be readable, be a text, be a
document of settings, and the settings have to be valid; the first of these that does not hold is the
failure. Settings that are loaded are valid.
-/
namespace HardwareFingerprint.Settings

set_option autoImplicit false

/-- The settings in a file cannot be had, for the first reason that there is. -/
inductive Unusable (files : Files) (path : String) : Failure → Prop
  /-- The file is missing, or cannot be read. -/
  | unread {p : FileTree.Problem} : files path = .error p →
      Unusable files path (.fileRead path p.message)
  | notText {b : Bytes} : files path = .ok b → Bytes.text? b = none →
      Unusable files path (.fileRead path FileTree.Problem.notText.message)
  | unparsed {document : String} {e : Json.Error} : files path = .ok (Bytes.ofText document) →
      read document = .error e → Unusable files path (.jsonParse e)
  | invalid {document : String} {s : Settings} {e : Failure} :
      files path = .ok (Bytes.ofText document) → read document = .ok s → s.Refused e →
      Unusable files path e

/-- The file that has the settings: the one that is given, or the one at the usual place if there is
one. -/
inductive Chosen (files : Files) (configDirectory given : Option String) : String → Prop
  | given {path : String} : given = some path → Chosen files configDirectory given path
  | usual {directory : String} : given = none → configDirectory = some directory →
      files.finds (Path.settingsUnder directory) = true →
      Chosen files configDirectory given (Path.settingsUnder directory)

/-- A file is chosen, and the settings in it cannot be had. -/
def Unloadable (files : Files) (configDirectory given : Option String) (e : Failure) : Prop :=
  ∃ path, Chosen files configDirectory given path ∧ Unusable files path e

variable {σ : Type} {files : Files} {configDirectory given : Option String} {path : String}
  {s : Surroundings σ} {j : Journal σ} {settings : Settings} {e : Failure}

theorem ofDocument_eq_error {document : String} (h : ofDocument document = .error e) :
    (∃ e', read document = .error e' ∧ e = .jsonParse e') ∨
      ∃ settings, read document = .ok settings ∧ settings.Refused e := by
  cases hread : read document with
  | error e' =>
    rw [ofDocument_of_error hread] at h
    exact .inl ⟨e', rfl, (Except.error.inj h).symm⟩
  | ok settings => exact .inr ⟨settings, rfl, (ofDocument_eq_error_iff hread).mp h⟩

/-- What a file gives does not depend on the session in which it is read. -/
theorem ofFile_result (files : Files) (path : String) (s : Surroundings σ) (j : Journal σ) :
    (ofFile files path s j).1 =
      match files.readText path with
      | .error p => .error (.fileRead path p.message)
      | .ok document => ofDocument document := by
  rw [ofFile]
  cases files.readText path with
  | error p => rfl
  | ok document =>
    cases hd : ofDocument document with
    | error e =>
      simp only [hd]
      rfl
    | ok settings =>
      simp only [hd]
      rfl

theorem unusable_of_readText {p : FileTree.Problem} (h : files.readText path = .error p) :
    Unusable files path (.fileRead path p.message) := by
  cases hfile : files path with
  | error p' =>
    rw [Files.readText_of_error hfile] at h
    obtain rfl := Except.error.inj h
    exact .unread hfile
  | ok b =>
    cases htext : Bytes.text? b with
    | none =>
      rw [Files.readText_of_notText hfile htext] at h
      obtain rfl := Except.error.inj h
      exact .notText hfile htext
    | some document =>
      rw [Files.readText_of_text hfile htext] at h
      cases h

theorem ofFile_eq_error_iff : (ofFile files path s j).1 = .error e ↔ Unusable files path e := by
  rw [ofFile_result]
  constructor
  · intro h
    cases htext : files.readText path with
    | error p =>
      rw [htext] at h
      obtain rfl := Except.error.inj h
      exact unusable_of_readText htext
    | ok document =>
      rw [htext] at h
      have hfile := Files.readText_eq_ok_iff.mp htext
      rcases ofDocument_eq_error h with ⟨e', hread, rfl⟩ | ⟨settings, hread, hrefused⟩
      · exact .unparsed hfile hread
      · exact .invalid hfile hread hrefused
  · intro h
    cases h with
    | unread hfile => rw [Files.readText_of_error hfile]
    | notText hfile hb => rw [Files.readText_of_notText hfile hb]
    | unparsed hfile hread =>
      rw [Files.readText_eq_ok_iff.mpr hfile]
      exact ofDocument_of_error hread
    | invalid hfile hread hrefused =>
      rw [Files.readText_eq_ok_iff.mpr hfile]
      exact (ofDocument_eq_error_iff hread).mpr hrefused

theorem valid_of_ofFile (h : (ofFile files path s j).1 = .ok settings) : settings.Valid := by
  rw [ofFile_result] at h
  split at h
  · cases h
  · exact (ofDocument_eq_ok_iff.mp h).2

theorem load_of_chosen (h : Chosen files configDirectory given path) (s : Surroundings σ)
    (j : Journal σ) :
    (load files configDirectory given s j).1 = (ofFile files path s j).1 := by
  cases h with
  | given hgiven =>
    rw [hgiven]
    rfl
  | usual hnone hdirectory hfinds =>
    rw [hnone, hdirectory, load, Option.map_some]
    simp only [hfinds, ↓reduceIte]

theorem load_of_not_chosen (h : ¬ ∃ path, Chosen files configDirectory given path)
    (s : Surroundings σ) (j : Journal σ) :
    (load files configDirectory given s j).1 = .ok byDefault := by
  cases hgiven : given with
  | some path => exact absurd ⟨path, .given hgiven⟩ h
  | none =>
    cases hdirectory : configDirectory with
    | none => rfl
    | some directory =>
      have habsent : files.finds (Path.settingsUnder directory) = false := by
        apply Bool.eq_false_iff.mpr
        intro hfinds
        exact h ⟨_, .usual hgiven hdirectory hfinds⟩
      rw [load, Option.map_some]
      simp only [habsent, Bool.false_eq_true, ↓reduceIte]
      rfl

theorem load_eq_error_iff :
    (load files configDirectory given s j).1 = .error e ↔
      Unloadable files configDirectory given e := by
  constructor
  · intro h
    by_cases hchosen : ∃ path, Chosen files configDirectory given path
    · obtain ⟨path, hpath⟩ := hchosen
      rw [load_of_chosen hpath] at h
      exact ⟨path, hpath, ofFile_eq_error_iff.mp h⟩
    · rw [load_of_not_chosen hchosen] at h
      cases h
  · rintro ⟨path, hpath, hunusable⟩
    rw [load_of_chosen hpath]
    exact ofFile_eq_error_iff.mpr hunusable

theorem valid_of_load (h : (load files configDirectory given s j).1 = .ok settings) :
    settings.Valid := by
  by_cases hchosen : ∃ path, Chosen files configDirectory given path
  · obtain ⟨path, hpath⟩ := hchosen
    rw [load_of_chosen hpath] at h
    exact valid_of_ofFile h
  · rw [load_of_not_chosen hchosen] at h
    obtain rfl := Except.ok.inj h
    exact valid_byDefault

end HardwareFingerprint.Settings
