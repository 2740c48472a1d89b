import HardwareFingerprint.Proofs.Json.Restoring
import HardwareFingerprint.Proofs.Settings.Validity

/-!
# Written settings read back

The document that is written of some settings gives each member once, in the form that its reader
takes: what is not forced and not configured is null. So it reads as those settings, and is accepted
exactly if they are valid. No member falls back to its default.
-/
namespace HardwareFingerprint

set_option autoImplicit false

open Json (Takes)

theorem Strategy.lookup_choices (s : Strategy) : choices.lookup s.name = some s := by
  cases s <;> decide

namespace Settings

/-- The form of a member's value in a document. -/
def Member.form : (m : Member) → m.Value → Json
  | service => .text
  | attempts => fun n => .number (.natural n.val)
  | intervalSecs => fun n => .number (.natural n.val)
  | threshold => .text
  | strategy => fun forced => (forced.map Strategy.toJson).getD .null
  | command => fun path => (path.map Json.text).getD .null

def content (s : Settings) : shape.Content :=
  (s.service, s.attempts, s.intervalSecs, s.threshold, s.strategy, s.command, ())

theorem ofContent_content (s : Settings) : ofContent s.content = s :=
  rfl

theorem toJson_eq (s : Settings) : s.toJson = shape.toObject Member.form shape.keys s.content :=
  rfl

theorem takes_strategy (depth : Nat) (forced : Option Strategy) :
    Takes (Json.orNull (Json.readChoice Strategy.choices depth))
      (Json.write (Member.form .strategy forced)) forced := by
  cases forced with
  | none => exact Json.takes_orNull_none _
  | some s => exact (Json.takes_readChoice s.lookup_choices depth).orNull (by decide) (by decide)

theorem takes_command (path : Option String) :
    Takes (Json.orNull Json.readPath) (Json.write (Member.form .command path)) path := by
  cases path with
  | none => exact Json.takes_orNull_none _
  | some p => exact (Json.takes_textCalled "path string" p).orNull (by decide) (by decide)

theorem takes_form (m : Member) (depth : Nat) (v : m.Value) :
    Takes (m.reader depth) (Json.write (m.form v)) v := by
  cases m with
  | service => exact Json.takes_textCalled "a string" v
  | attempts => exact Json.takes_readBelow (by decide) "u32" v
  | intervalSecs => exact Json.takes_readBelow (Nat.le_refl _) "u64" v
  | threshold => exact Json.takes_textCalled "a string" v
  | strategy => exact takes_strategy depth v
  | command => exact takes_command v

theorem restores (depth : Nat) : shape.Restores depth shape.keys Member.form where
  wellFormed m v := (takes_form m depth v).wellFormed
  takes m _ v := takes_form m depth v

theorem read_write (s : Settings) : read s.write = .ok s := by
  have hnames : (shape.keys.map shape.name).Nodup := by decide
  have htakes := Json.Shape.takes_write (restores (Json.maxDepth - 1)) hnames s.content
  have hread : shape.readDocument s.write = .ok s.content := by
    rw [write, toJson_eq]
    exact htakes.readDocument
  rw [read, hread]
  exact congrArg Except.ok s.ofContent_content

/-- Written settings are accepted exactly if they are valid, and then they are the same. -/
theorem ofDocument_write_iff (s : Settings) : ofDocument s.write = .ok s ↔ s.Valid := by
  rw [ofDocument_eq_ok_iff]
  exact and_iff_right s.read_write

/-- Accepted settings are read from their own document, and so are those that given values leave of
them. Any settings are accepted from their own document exactly if they are valid. -/
theorem document_restored {document : String} {s : Settings} (h : ofDocument document = .ok s) :
    ofDocument s.write = .ok s ∧
    (∀ o s', s.withOverrides o = .ok s' → ofDocument s'.write = .ok s') ∧
    ∀ t : Settings, ofDocument t.write = .ok t ↔ t.validate = .ok () := by
  refine ⟨?_, ?_, ?_⟩
  · exact s.ofDocument_write_iff.mpr (ofDocument_eq_ok_iff.mp h).2
  · intro o s' ho
    obtain ⟨hvalid, rfl⟩ := withOverrides_eq_ok_iff.mp ho
    exact (ofDocument_write_iff _).mpr hvalid
  · intro t
    rw [validate_eq_ok_iff]
    exact t.ofDocument_write_iff

/-- A service and a path with characters that are escaped, the longest interval, and a forced strategy
that the command line takes back. -/
theorem escaped_document_restored :
    let document := "\x7b\"service_name\":\"\\u0000\\ud83d\\ude00\\\"\",\"strategy\":\"structured-query\"," ++
      "\"readiness_interval_secs\":18446744073709551615,\"wmic_path\":\"C:\\\\wmic\\u007f\\n\"\x7d"
    let s : Settings :=
      { byDefault with
        service := "\x00😀\""
        intervalSecs := ⟨18446744073709551615, by decide⟩
        strategy := some .structuredQuery
        command := some "C:\\wmic\x7f\n" }
    let s' : Settings := { s with strategy := none }
    ofDocument document = .ok s ∧ ofDocument s.write = .ok s ∧
      s.withOverrides ⟨some none, none⟩ = .ok s' ∧ ofDocument s'.write = .ok s' := by
  intro document s s'
  have hread : ofDocument document = .ok s :=
    Except.toOption_eq_some_iff.mp (by decide +kernel)
  have hgiven : s.withOverrides ⟨some none, none⟩ = .ok s' :=
    Except.toOption_eq_some_iff.mp (by decide +kernel)
  obtain ⟨hrestored, hafter, _⟩ := document_restored hread
  exact ⟨hread, hrestored, hgiven, hafter _ _ hgiven⟩

end Settings

end HardwareFingerprint
