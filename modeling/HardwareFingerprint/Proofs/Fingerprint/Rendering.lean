import HardwareFingerprint.Program
import HardwareFingerprint.Proofs.Fingerprint.LastSet
import HardwareFingerprint.Proofs.Json.Writing

/-!
# Rendered fingerprints

A fingerprint is rendered as the object of its entries. Whatever texts are under its keys, both forms
read as that object, so that neither form of another fingerprint is the same. The compact form is
one line.
-/
namespace HardwareFingerprint

set_option autoImplicit false

open Json (Exact NoControl)

namespace Fingerprint

variable {f g : Fingerprint}

theorem exact_toJson (f : Fingerprint) (depth : Nat) : Exact (depth + 1) f.toJson := by
  refine .object fun m hm => ?_
  obtain ⟨e, _, rfl⟩ := List.mem_map.mp hm
  exact .text e.2

/-- Both forms read as the object of the entries. -/
theorem readValue_render (f : Fingerprint) (pretty : Bool) :
    Json.readDocument (Json.readValue Json.maxDepth) (f.render pretty) = .ok f.toJson := by
  have hexact := f.exact_toJson (Json.maxDepth - 1)
  cases pretty with
  | false => exact hexact.takes_write.readDocument
  | true => exact (hexact.takes_writeIndented 0).readDocument

theorem toJson_injective (h : f.toJson = g.toJson) : f = g := by
  have hmember : Function.Injective fun e : String × String => (e.1, Json.text e.2) := by
    rintro ⟨key, value⟩ ⟨key', value'⟩ he
    obtain ⟨rfl, hvalue⟩ := Prod.mk.inj he
    obtain rfl := Json.text.inj hvalue
    rfl
  obtain ⟨es⟩ := f
  obtain ⟨es'⟩ := g
  obtain rfl := hmember.list_map (Json.object.inj h)
  rfl

/-- A text is a form of one fingerprint only. -/
theorem render_injective {pretty pretty' : Bool} (h : f.render pretty = g.render pretty') :
    f = g := by
  have hf := f.readValue_render pretty
  rw [h, g.readValue_render pretty'] at hf
  exact toJson_injective (Except.ok.inj hf).symm

theorem noControl_compact (f : Fingerprint) : NoControl (f.render false).toList := by
  have h := (f.exact_toJson 0).noControl_write
  rwa [render, if_neg Bool.false_ne_true, Json.compact, String.toList_ofList]

/-- A fingerprint with the nine keys, whatever its texts are. Its compact form and its indented form
read as the object that has each key once, in ascending order and with its text, and no other
fingerprint has one of these forms. The compact form has no control characters, so a run that is not
asked for the indented form leaves one line on its output. -/
theorem render_faithful (hf : f.keys = orderedKeys) :
    (∀ pretty, Json.readDocument (Json.readValue Json.maxDepth) (f.render pretty) =
      .ok (.object (f.entries.map fun e => (e.1, .text e.2)))) ∧
    f.keys.Perm Key.all ∧ f.keys.Pairwise (· < ·) ∧
    (∀ (g : Fingerprint) (pretty pretty' : Bool), f.render pretty = g.render pretty' → f = g) ∧
    (∀ x ∈ (f.render false).toList, ¬ x < ' ') ∧
    ∀ (c : CommandLine) (warning : String) (k : Collection), c.pretty = false →
      ∃ line, (Program.report c warning (.ok k)).output = line ++ "\n" ∧
        ∀ x ∈ line.toList, ¬ x < ' ' := by
  refine ⟨f.readValue_render, ?_, ?_, ?_, f.noControl_compact, ?_⟩
  · rw [hf]
    exact perm_orderedKeys
  · rw [hf]
    exact orderedKeys_ascending
  · intro g pretty pretty' h
    exact render_injective h
  · intro c warning k hc
    refine ⟨k.fingerprint.render false, ?_, k.fingerprint.noControl_compact⟩
    rw [Program.report, hc]

/-- Host facts with a line break, a quotation mark, a backslash and a character of four bytes. -/
theorem escaped_render_faithful :
    let f := empty.setAll
      [(Key.hostname, "a\n\"\x7d"), (Key.ipAddress, "\\u0041"), (Key.macAddress, "\x00😀")]
    f.keys = orderedKeys ∧
      Json.readDocument (Json.readValue Json.maxDepth) (f.render true) =
        .ok (.object (f.entries.map fun e => (e.1, .text e.2))) ∧
      ∀ x ∈ (f.render false).toList, ¬ x < ' ' := by
  intro f
  have hf : f.keys = orderedKeys := by
    rw [keys_setAll, keys_empty]
  obtain ⟨hread, _, _, _, hline, _⟩ := render_faithful hf
  exact ⟨hf, hread true, hline⟩

end Fingerprint

end HardwareFingerprint
