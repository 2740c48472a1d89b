import HardwareFingerprint.Proofs.Run.Parts
import HardwareFingerprint.Proofs.Version.Variant
import HardwareFingerprint.Scripted

/-!
# The threshold and the choice of a strategy

Records are queried only if they are forced, or if nothing is forced and the platform's version is
known, can be read and is not below the threshold. Whatever else happens, commands are run. The
choice follows the order of versions, so it can only turn to records where the version rises or the
threshold falls, and it is the same for all texts of a version.
-/
namespace HardwareFingerprint

set_option autoImplicit false

/-- What the platform would answer if it were asked for its version. -/
def PlatformSource.answer {σ : Type} (p : PlatformSource) (s : Surroundings σ) (j : Journal σ) :
    Except Failure String :=
  p.versionOf (s.world p.lookup j.state).1

namespace Version

/-- At the first place at which the numbers differ, if there is one, the version has the larger. -/
def AtLeast (v threshold : Version) : Prop :=
  ∀ i, (∀ k < i, v.numberAt k = threshold.numberAt k) → threshold.numberAt i ≤ v.numberAt i

/-- The answer is a text of the version. -/
def ToldBy (v : Version) (answer : Except Failure String) : Prop :=
  ∃ text, answer = .ok text ∧ parse text = .ok v

/-- If the first answer tells a version, then the second tells one that is not below it. -/
def Rises (answer answer' : Except Failure String) : Prop :=
  ∀ v : Version, v.ToldBy answer → ∃ v' : Version, v'.ToldBy answer' ∧ v ≤ v'

/-- Both answers are failures, or texts of the same version. -/
inductive Retold : Except Failure String → Except Failure String → Prop
  | unknown (e e' : Failure) : Retold (.error e) (.error e')
  | text {a b : String} : Variant a.toList b.toList → Retold (.ok a) (.ok b)

/-- The versions are the same, or given by texts of the same version. -/
inductive Respelt (v : Version) : Version → Prop
  | same : Respelt v v
  | text {a b : String} {v' : Version} : parse a = .ok v → Variant a.toList b.toList →
      parse b = .ok v' → Respelt v v'

theorem le_iff_compare {v v' : Version} : v ≤ v' ↔ compare v.significant v'.significant ≠ .gt := by
  rw [← order_eq_compare]
  exact Iff.rfl

theorem le_iff_atLeast {threshold v : Version} : threshold ≤ v ↔ v.AtLeast threshold := by
  have hswap : order threshold v = .gt ↔ order v threshold = .lt := Std.OrientedCmp.gt_iff_lt
  have hbelow : threshold ≤ v ↔ ¬ order v threshold = .lt := not_congr hswap
  rw [hbelow, order_eq_lt_iff]
  constructor
  · intro h i hbefore
    exact Nat.le_of_not_lt fun hlt => h ⟨i, hbefore, hlt⟩
  · rintro h ⟨i, hbefore, hlt⟩
    exact Nat.not_lt.mpr (h i hbefore) hlt

theorem Respelt.significant {v v' : Version} (h : Respelt v v') :
    v'.significant = v.significant := by
  cases h with
  | same => rfl
  | text ha hvariant hb =>
    obtain ⟨w, hw, hsignificant⟩ := hvariant.parse ha
    rw [hb] at hw
    rwa [Except.ok.inj hw]

end Version

namespace Selector

/-- Records are forced, or nothing is forced and the answer tells a version that is not below the
threshold. -/
def Queries (sel : Selector) (answer : Except Failure String) : Prop :=
  sel.forced = some .structuredQuery ∨
    sel.forced = none ∧ ∃ v : Version, v.ToldBy answer ∧ v.AtLeast sel.threshold

/-- The strategy for the numbers of a version up to the last that is not zero. -/
def ofReading (sel : Selector) (ns : List Nat) : Strategy :=
  if compare sel.threshold.significant ns ≠ .gt then .structuredQuery else .commandOutput

theorem ofVersion_eq (sel : Selector) (v : Version) :
    sel.ofVersion v = sel.ofReading v.significant :=
  if_congr Version.le_iff_compare rfl rfl

/-- A text counts only for what is read of it. -/
theorem toOption_forVersion (sel : Selector) (text : String) :
    (sel.forVersion text).toOption = (Version.reading? text.toList).map sel.ofReading := by
  rw [← Version.significant_parse, forVersion]
  cases Version.parse text with
  | error e => rfl
  | ok v => exact congrArg some (sel.ofVersion_eq v)

theorem choice_eq (sel : Selector) (answer : Except Failure String) :
    sel.choice answer = (answer >>= sel.forVersion).toOption.getD .commandOutput := by
  rw [choice]
  cases answer >>= sel.forVersion <;> rfl

theorem choice_eq_structuredQuery_iff (sel : Selector) (answer : Except Failure String) :
    sel.choice answer = .structuredQuery ↔
      ∃ v : Version, v.ToldBy answer ∧ v.AtLeast sel.threshold := by
  constructor
  · intro h
    cases answer with
    | error e => cases h
    | ok text =>
      cases hparse : Version.parse text with
      | error e =>
        rw [choice_eq] at h
        simp only [bind, Except.bind, forVersion, hparse] at h
        cases h
      | ok v =>
        refine ⟨v, ⟨text, rfl, hparse⟩, Version.le_iff_atLeast.mp ?_⟩
        apply Classical.byContradiction
        intro hbelow
        rw [choice_eq] at h
        simp only [bind, Except.bind, forVersion, hparse, ofVersion, if_neg hbelow] at h
        cases h
  · rintro ⟨v, ⟨text, rfl, hparse⟩, hatLeast⟩
    rw [choice_eq]
    simp only [bind, Except.bind, forVersion, hparse, ofVersion,
      if_pos (Version.le_iff_atLeast.mpr hatLeast)]
    rfl

section Run

variable {σ τ : Type}

theorem select_eq (sel : Selector) (p : PlatformSource) (s : Surroundings σ) (j : Journal σ) :
    (sel.select p s j).1 = sel.forced.getD (sel.choice (p.answer s j)) := by
  obtain ⟨xs, es, hleads, hchose⟩ := sel.select_does s p j
  have hanswered := hleads.answered
  generalize (sel.select p s j).1 = strategy at hchose ⊢
  cases hchose with
  | forced hforced => rw [hforced, Option.getD_some]
  | lookedUp reply hforced =>
    have hreply : reply = (s.world p.lookup j.state).1 := hanswered.1
    rw [hforced, Option.getD_none, hreply, PlatformSource.answer]

theorem select_eq_structuredQuery_iff (sel : Selector) (p : PlatformSource) (s : Surroundings σ)
    (j : Journal σ) : (sel.select p s j).1 = .structuredQuery ↔ sel.Queries (p.answer s j) := by
  rw [select_eq, Queries]
  cases hforced : sel.forced with
  | none => simp [choice_eq_structuredQuery_iff]
  | some strategy => simp

/-- Records stay queried where the version rises or the threshold falls. -/
theorem Queries.mono {sel sel' : Selector} {answer answer' : Except Failure String}
    (hforced : sel'.forced = sel.forced) (hthreshold : sel'.threshold ≤ sel.threshold)
    (hrises : Version.Rises answer answer') (h : sel.Queries answer) : sel'.Queries answer' := by
  rcases h with h | ⟨hnone, v, htold, hatLeast⟩
  · exact .inl (hforced.trans h)
  · obtain ⟨v', htold', hle⟩ := hrises v htold
    refine .inr ⟨hforced.trans hnone, v', htold', Version.le_iff_atLeast.mp ?_⟩
    rw [← Version.le_iff_atLeast, Version.le_iff_isLE] at hatLeast
    rw [Version.le_iff_isLE] at hthreshold hle ⊢
    exact Std.TransCmp.isLE_trans hthreshold (Std.TransCmp.isLE_trans hatLeast hle)

/-- What is read of a text, and of the threshold's, is all that the choice depends on. -/
theorem choice_retold {sel sel' : Selector} (hthreshold : sel.threshold.Respelt sel'.threshold)
    {answer answer' : Except Failure String} (h : Version.Retold answer answer') :
    sel'.choice answer' = sel.choice answer := by
  have hreading : sel'.ofReading = sel.ofReading := by
    funext ns
    rw [ofReading, ofReading, hthreshold.significant]
  rw [choice_eq, choice_eq]
  cases h with
  | unknown e e' => rfl
  | @text a b hvariant =>
    change (sel'.forVersion b).toOption.getD _ = (sel.forVersion a).toOption.getD _
    rw [toOption_forVersion, toOption_forVersion, hvariant.reading?_eq, hreading]

/-- A run chooses records exactly if they are forced or the platform tells a version that is not
below the threshold, and otherwise commands. With the same strategy forced, or none, another run
whose version is not lower and whose threshold is not higher chooses records as well; and a run in
which version and threshold are only told by other texts chooses the same. Another text of a
threshold is always a version. -/
theorem select_by_threshold (sel : Selector) (p : PlatformSource) (s : Surroundings σ)
    (j : Journal σ) :
    ((sel.select p s j).1 = .structuredQuery ↔ sel.Queries (p.answer s j)) ∧
    ((sel.select p s j).1 = .commandOutput ↔ ¬ sel.Queries (p.answer s j)) ∧
    (∀ {τ : Type} (sel' : Selector) (p' : PlatformSource) (s' : Surroundings τ) (j' : Journal τ),
      sel'.forced = sel.forced →
      (sel'.threshold ≤ sel.threshold → Version.Rises (p.answer s j) (p'.answer s' j') →
        (sel.select p s j).1 = .structuredQuery → (sel'.select p' s' j').1 = .structuredQuery) ∧
      (sel.threshold.Respelt sel'.threshold →
        Version.Retold (p.answer s j) (p'.answer s' j') →
        (sel'.select p' s' j').1 = (sel.select p s j).1)) ∧
    (∀ a b : String, Version.parse a = .ok sel.threshold → Version.Variant a.toList b.toList →
      ∃ sel', ofThreshold b = .ok sel' ∧ sel.threshold.Respelt sel'.threshold) := by
  have hqueries := sel.select_eq_structuredQuery_iff p s j
  refine ⟨hqueries, ?_, ?_, ?_⟩
  · rw [← hqueries]
    cases (sel.select p s j).1 <;> simp
  · intro τ sel' p' s' j' hforced
    constructor
    · intro hthreshold hrises h
      exact (sel'.select_eq_structuredQuery_iff p' s' j').mpr
        ((hqueries.mp h).mono hforced hthreshold hrises)
    · intro hthreshold hretold
      rw [select_eq, select_eq, hforced, choice_retold hthreshold hretold]
  · intro a b ha hvariant
    obtain ⟨v, hb, _⟩ := hvariant.parse ha
    exact ⟨⟨v, none⟩, by rw [ofThreshold, hb]; rfl, .text ha hvariant hb⟩

end Run

end Selector

/-- An outside whose platform answers with a version. -/
def Script.ofVersion (version : String) : Script :=
  { Script.silent with platform := ⟨[.ok version]⟩ }

namespace Selector

/-- The strategy that a selector chooses for a platform with a version. -/
def chosen (sel : Selector) (version : String) : Strategy :=
  (sel.select .asked ⟨Script.world, none⟩ (Journal.start (Script.ofVersion version))).1

/-- Suffixes to the first and the last part of a threshold, and a zero at its end; blanks around a
version, with a suffix that has a blank in it. -/
theorem suffixed_chosen :
    let sel : Selector := ⟨⟨[10, 0, 26100, 0], "10rc.0.26100-b2.0"⟩, none⟩
    byDefault.threshold.Respelt sel.threshold ∧
      Version.Variant "10.0.26200".toList "\u300010.0.26200 x\t".toList ∧
      sel.chosen "\u300010.0.26200 x\t" = byDefault.chosen "10.0.26200" := by
  intro sel
  have hfirst : Version.Variant "10.0.26100".toList "10rc.0.26100".toList :=
    @Version.Variant.suffixed _ "10".toList "rc".toList ".0.26100".toList
      ⟨.inr ⟨_, rfl⟩, by decide, by decide, fun _ => by decide⟩ .same
  have hlast : Version.Variant "10.0.26100".toList "10rc.0.26100-b2".toList :=
    @Version.Variant.suffixed _ "10rc.0.26100".toList "-b2".toList []
      ⟨.inl rfl, by decide, by decide, fun _ => by decide⟩ hfirst
  have hthreshold : byDefault.threshold.Respelt sel.threshold :=
    @Version.Respelt.text _ "10.0.26100" "10rc.0.26100-b2.0" _ (by decide +kernel)
      (.extended hlast) (by decide +kernel)
  have hsuffix : Version.Variant "10.0.26200".toList "10.0.26200 x".toList :=
    @Version.Variant.suffixed _ "10.0.26200".toList " x".toList []
      ⟨.inl rfl, by decide, by decide, fun _ => by decide⟩ .same
  have hversion : Version.Variant "10.0.26200".toList "\u300010.0.26200 x\t".toList :=
    @Version.Variant.spaced _ ['\u3000'] _ ['\t'] (List.forall_mem_singleton.mpr (by decide)) hsuffix
      (List.forall_mem_singleton.mpr (by decide))
  have hchosen := byDefault.select_by_threshold .asked ⟨Script.world, none⟩
    (Journal.start (Script.ofVersion "10.0.26200"))
  exact ⟨hthreshold, hversion, (hchosen.2.2.1 sel .asked ⟨Script.world, none⟩
    (Journal.start (Script.ofVersion "\u300010.0.26200 x\t")) rfl).2 hthreshold (.text hversion)⟩

/-- A suffix that starts with a blank becomes the number of an empty first part. -/
theorem emptyPart_suffixed :
    '.' ∉ " 10".toList ∧ " 10".toList.head?.any Char.isDigit = false ∧
      byDefault.chosen ("" ++ ".0.26100") = .commandOutput ∧
      byDefault.chosen ("" ++ " 10" ++ ".0.26100") = .structuredQuery := by
  decide +kernel

end Selector

end HardwareFingerprint
