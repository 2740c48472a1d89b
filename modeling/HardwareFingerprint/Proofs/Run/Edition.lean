import HardwareFingerprint.Proofs.Result
import HardwareFingerprint.Proofs.Run.Threshold

/-!
# The edition and the choice of a strategy

On a Nano Server the version gets a mark before it is read. The mark ends up behind the number of
the last part, where nothing counts, also if the version is blank, ends with a dot or has a mark
already. So a selector that is not forced chooses by the version alone.
-/
namespace HardwareFingerprint

set_option autoImplicit false

namespace Version

/-- The mark of an edition is a suffix for the last part of any text. -/
theorem suffix_nano (front : List Char) : Suffix front "nano".toList [] :=
  ⟨.inl rfl, by decide, by decide, fun _ => by decide⟩

theorem variant_nano (text : String) : Variant text.toList (text ++ "nano").toList := by
  have hsuffixed : Variant text.toList (text.toList ++ ("nano".toList ++ [])) :=
    .suffixed (suffix_nano _) (by rw [List.append_nil]; exact .same)
  rwa [List.append_nil, ← String.toList_append] at hsuffixed

end Version

theorem PlatformDetails.variant_markedVersion (os : OperatingSystem) :
    Version.Variant (Text.trim os.version).toList (markedVersion os).toList := by
  rw [markedVersion]
  split
  · exact Version.variant_nano _
  · exact .same

namespace Selector

theorem toOption_forVersion_variant (sel : Selector) {a b : String}
    (h : Version.Variant a.toList b.toList) :
    (sel.forVersion b).toOption = (sel.forVersion a).toOption := by
  rw [toOption_forVersion, toOption_forVersion, h.reading?_eq]

end Selector

namespace Selector

variable {σ : Type} {sel : Selector} {s : Surroundings σ} {j : Journal σ}

/-- What the operating-system record would be answered with. -/
def systemReply (s : Surroundings σ) (j : Journal σ) : Except Failure Record :=
  (s.world (.queryFirst .operatingSystem) j.state).1

theorem select_record (hunforced : sel.forced = none) (s : Surroundings σ) (j : Journal σ) :
    (sel.select .record s j).1 =
      ((PlatformSource.systemOf (systemReply s j)).map PlatformDetails.markedVersion >>=
        sel.forVersion).toOption.getD .commandOutput := by
  have hversion : PlatformSource.record.versionOf (systemReply s j) =
      (PlatformSource.systemOf (systemReply s j)).map PlatformDetails.markedVersion := by
    change ((PlatformSource.systemOf (systemReply s j)).map PlatformDetails.ofSystem).map
      PlatformDetails.version = _
    cases PlatformSource.systemOf (systemReply s j) <;> rfl
  rw [← hversion, ← choice_eq, select_eq, hunforced]
  rfl

theorem select_of_system (hunforced : sel.forced = none) {values : RecordOf .operatingSystem}
    (hreply : systemReply s j = .ok ⟨.operatingSystem, values⟩) :
    (sel.select .record s j).1 =
      (sel.forVersion (Text.trim values.operatingSystem.version)).toOption.getD .commandOutput := by
  have hmarked := sel.toOption_forVersion_variant
    (PlatformDetails.variant_markedVersion values.operatingSystem)
  rw [select_record hunforced, hreply, ← hmarked]
  rfl

/-- A selector that is not forced chooses by the version in the operating-system record alone. On
every edition the strategy is that of the version without its mark, and a version can be read with
the mark exactly if it can be read without. If the version cannot be read, or there is no such record
to read it from, the strategy is command output. -/
theorem select_ignores_edition {σ : Type} {sel : Selector} (hunforced : sel.forced = none)
    (s : Surroundings σ) (j : Journal σ) :
    (∀ values, systemReply s j = .ok ⟨.operatingSystem, values⟩ →
      (sel.select .record s j).1 =
        (sel.forVersion (Text.trim values.operatingSystem.version)).toOption.getD .commandOutput ∧
      ∀ {τ : Type} (s' : Surroundings τ) (j' : Journal τ) (values' : RecordOf .operatingSystem),
        systemReply s' j' = .ok ⟨.operatingSystem, values'⟩ →
        values'.operatingSystem.version = values.operatingSystem.version →
        (sel.select .record s' j').1 = (sel.select .record s j).1) ∧
    (∀ e, systemReply s j = .error e → (sel.select .record s j).1 = .commandOutput) ∧
    (∀ r, systemReply s j = .ok r → r.cls ≠ .operatingSystem →
      (sel.select .record s j).1 = .commandOutput) ∧
    ∀ version, (∃ e, sel.forVersion (Text.trim version ++ "nano") = .error e) ↔
      ∃ e, sel.forVersion (Text.trim version) = .error e := by
  refine ⟨fun values hreply => ⟨select_of_system hunforced hreply, ?_⟩, ?_, ?_, ?_⟩
  · intro τ s' j' values' hreply' hversion
    rw [select_of_system hunforced hreply', select_of_system hunforced hreply, hversion]
  · intro e hreply
    rw [select_record hunforced, hreply]
    rfl
  · rintro ⟨cls, values⟩ hreply hcls
    rw [select_record hunforced, hreply]
    cases cls with
    | operatingSystem => exact absurd rfl hcls
    | _ => rfl
  · intro version
    have hmarked := sel.toOption_forVersion_variant (Version.variant_nano (Text.trim version))
    rw [← Except.toOption_eq_none_iff, ← Except.toOption_eq_none_iff, ← hmarked]

end Selector

/-- What a Nano Server says of itself, with blanks around its version. -/
def RecordOf.nanoServer : RecordOf .operatingSystem :=
  ("Microsoft Windows Server", ⟨143, by decide⟩, " 10.0.26100\u3000", ())

/-- An outside with the record of a Nano Server. -/
def Script.nanoServer : Script :=
  { Script.silent with
    records := [("Win32_OperatingSystem", ⟨[.ok ⟨.operatingSystem, RecordOf.nanoServer⟩]⟩)] }

theorem Selector.nanoServer_queried :
    (byDefault.select .record ⟨Script.world, none⟩ (Journal.start Script.nanoServer)).1 =
      .structuredQuery := by
  have hversion : (byDefault.forVersion (Text.trim " 10.0.26100\u3000")).toOption =
      some .structuredQuery := by decide
  have hunforced : byDefault.forced = none := rfl
  have hchosen := ((select_ignores_edition hunforced ⟨Script.world, none⟩
    (Journal.start Script.nanoServer)).1 RecordOf.nanoServer rfl).1
  exact hchosen.trans (congrArg (Option.getD · .commandOutput) hversion)

end HardwareFingerprint
