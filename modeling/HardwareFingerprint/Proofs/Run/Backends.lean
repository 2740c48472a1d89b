import HardwareFingerprint.Proofs.Digest.Base64
import HardwareFingerprint.Proofs.Run.Parts

/-!
# Both backends have one digest

What a command prints and what a record encodes go through the same digest, for every category. The
backends are therefore told apart by the sums of those bytes and by nothing else. An answer that is
no output, or no record of the class asked for, never becomes a digest: the failure carries the
category, the strategy and the cause as it was given.
-/
namespace HardwareFingerprint.Source

set_option autoImplicit false

/-- A source has the verdict on the answer to its only call, whatever was done before. -/
theorem collect_eq_verdict {σ : Type} (src : Source) (c : Category) (s : Surroundings σ)
    (j : Journal σ) :
    (src.collect c s j).1 = src.verdict c (s.world (src.request c) j.state).1 := by
  obtain ⟨xs, es, hl, reply, rfl, hr⟩ := src.collect_does s c j
  have answered : reply = (s.world (src.request c) j.state).1 := hl.answered.1
  rw [hr, answered]

theorem verdict_output (program : String) (c : Category) (b : Bytes) :
    verdict ⟨.commandOutput, program⟩ c (.ok b) = .ok (Digest.ofBytes b) := rfl

theorem verdict_record (program : String) {c : Category} {r : Record} (h : r.cls = c.recordClass) :
    verdict ⟨.structuredQuery, program⟩ c (.ok r) = .ok (Digest.ofBytes (Canonical.record r)) := by
  have accepted : c.accept r = .ok r := by rw [Category.accept, if_pos h]
  change ((c.accept r).map Canonical.digest).mapError _ = _
  rw [accepted]
  rfl

theorem verdict_unexpected (program : String) {c : Category} {r : Record}
    (h : r.cls ≠ c.recordClass) :
    verdict ⟨.structuredQuery, program⟩ c (.ok r) =
      .error ⟨c, .structuredQuery, .unexpectedRecord c.recordClass.name r.cls.name⟩ := by
  have refused : c.accept r = .error (.unexpectedRecord c.recordClass.name r.cls.name) := by
    rw [Category.accept, if_neg h]
  change ((c.accept r).map Canonical.digest).mapError _ = _
  rw [refused]
  rfl

variable {σ₁ σ₂ : Type}

/-- For a category whose command printed `b` and whose record is `r`, both backends have a digest,
and the same one exactly if `b` and the encoding of `r` have the same sum. Every other answer is a
failure of the category under the strategy of the backend. -/
theorem backends_equivalent (c : Category) (program unused : String) (s₁ : Surroundings σ₁)
    (j₁ : Journal σ₁) (s₂ : Surroundings σ₂) (j₂ : Journal σ₂) :
    let printed := (s₁.world (.run program c.arguments) j₁.state).1
    let found := (s₂.world (.queryFirst c.recordClass) j₂.state).1
    let byCommand := (collect ⟨.commandOutput, program⟩ c s₁ j₁).1
    let byQuery := (collect ⟨.structuredQuery, unused⟩ c s₂ j₂).1
    (∀ b r, printed = .ok b → found = .ok r → r.cls = c.recordClass →
      ∃ d e, byCommand = .ok d ∧ byQuery = .ok e ∧
        (d = e ↔ Bytes.Md5.sum b = Bytes.Md5.sum (Canonical.record r)) ∧
        (b = Canonical.record r → d = e)) ∧
    (∀ e, printed = .error e → byCommand = .error ⟨c, .commandOutput, e⟩) ∧
    (∀ e, found = .error e → byQuery = .error ⟨c, .structuredQuery, e⟩) ∧
    (∀ r, found = .ok r → r.cls ≠ c.recordClass →
      byQuery =
        .error ⟨c, .structuredQuery, .unexpectedRecord c.recordClass.name r.cls.name⟩) := by
  intro printed found byCommand byQuery
  have hc : byCommand = verdict ⟨.commandOutput, program⟩ c printed :=
    collect_eq_verdict ⟨.commandOutput, program⟩ c s₁ j₁
  have hq : byQuery = verdict ⟨.structuredQuery, unused⟩ c found :=
    collect_eq_verdict ⟨.structuredQuery, unused⟩ c s₂ j₂
  rw [hc, hq]
  refine ⟨?_, ?_, ?_, ?_⟩
  · intro b r hb hr hcls
    rw [hb, hr, verdict_output, verdict_record unused hcls]
    refine ⟨_, _, rfl, rfl, Digest.ofBytes_eq_iff, ?_⟩
    rintro rfl
    rfl
  · intro e he
    rw [he]
    rfl
  · intro e he
    rw [he]
    rfl
  · intro r hr hcls
    rw [hr]
    exact verdict_unexpected unused hcls

end HardwareFingerprint.Source
