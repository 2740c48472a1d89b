import HardwareFingerprint.Proofs.Digest.Shape
import HardwareFingerprint.Proofs.Fingerprint.LastSet

/-!
# Failures and empty keys of a run

A run that passes its gate lists its failures and fills its fingerprint from the same collection. The
two tell the same: the key of a category is empty exactly if the category is listed, since no digest
is empty; the key of a host fact is empty also where the fact was given as an empty text. Nothing is
assumed of the answers that the run had.
-/
namespace HardwareFingerprint

set_option autoImplicit false

/-- The facts in the order in which they are asked for. -/
def HostFact.all : List HostFact :=
  [.hostname, .primaryIp, .macAddress]

theorem HostFact.mem_all (f : HostFact) : f ∈ all := by
  cases f <;> decide

/-- The parts of a run in the order in which they are gathered. -/
def Part.all : List Part :=
  Category.all.map .category ++ HostFact.all.map .fact

namespace Collection

/-- A part was asked for without success. -/
inductive Failed (k : Collection) : Part → Prop
  | category {c : Category} {e : CategoryError} : ⟨c, .error e⟩ ∈ k.outcomes → Failed k (.category c)
  | fact {f : HostFact} {e : Failure} : k.host.get f = .error e → Failed k (.fact f)

/-- The keys of the failures. -/
def failedKeys (k : Collection) : List String :=
  k.failures.map FailedKey.key

/-- The failures of a collection and the empty keys of its fingerprint tell the same. -/
structure Consistent (k : Collection) : Prop where
  /-- The failures come in the order of the parts. -/
  ordered : k.failedKeys.Sublist (Part.all.map Part.key)
  /-- No part is listed twice. -/
  once : k.failedKeys.Nodup
  /-- What is listed failed, and what failed is listed. -/
  listed : ∀ part : Part, part.key ∈ k.failedKeys ↔ k.Failed part
  categories : ∀ c : Category, c.key ∈ k.fingerprint.missing ↔ c.key ∈ k.failedKeys
  facts : ∀ f : HostFact,
    f.key ∈ k.fingerprint.missing ↔ f.key ∈ k.failedKeys ∨ k.host.get f = .ok ""
  digests : ∀ c : Category, c.key ∉ k.failedKeys →
    ∃ v, k.fingerprint.get? c.key = some v ∧ Digest.hasShape v = true

/-- Every category has one outcome, in order, and every success is a digest. -/
structure Complete (k : Collection) : Prop where
  inOrder : k.outcomes.map Outcome.category = Category.all
  digest : ∀ {c : Category} {v : String}, ⟨c, .ok v⟩ ∈ k.outcomes → Digest.hasShape v = true

end Collection

theorem Part.nodup_keys : (Part.all.map Part.key).Nodup := by
  decide

theorem Fingerprint.mem_missing_iff {f : Fingerprint} (hn : f.keys.Nodup) {key : String} :
    key ∈ f.missing ↔ f.get? key = some "" := by
  obtain ⟨es⟩ := f
  simp only [missing, get?, keys] at hn ⊢
  induction es with
  | nil => simp
  | cons e es ih =>
    obtain ⟨k, v⟩ := e
    obtain ⟨hfresh, hn⟩ := List.nodup_cons.mp hn
    have absent : k ∉ (es.filter fun e => e.2.isEmpty).map Prod.fst :=
      fun h => hfresh ((List.filter_sublist.map Prod.fst).subset h)
    by_cases hk : key = k
    · subst hk
      by_cases hv : v = "" <;> simp_all
    · rw [List.lookup_cons, beq_eq_false_iff_ne.mpr hk, ← ih hn]
      by_cases hv : v = "" <;> simp [hv, hk]

namespace Source

theorem digest_of_verdict {src : Source} {c : Category} {reply : (src.request c).Reply} {v : String}
    (h : src.verdict c reply = .ok v) : ∃ b, v = Digest.ofBytes b := by
  have hd : src.digestOf c reply = .ok v := by
    rw [verdict] at h
    cases hr : src.digestOf c reply with
    | error e => rw [hr] at h; cases h
    | ok w =>
      rw [hr] at h
      exact congrArg _ (Except.ok.inj h)
  obtain ⟨strategy, program⟩ := src
  cases strategy with
  | commandOutput =>
    cases reply with
    | error e => cases hd
    | ok b => exact ⟨b, (Except.ok.inj hd).symm⟩
  | structuredQuery =>
    have hq : (reply >>= c.accept).map Canonical.digest = .ok v := hd
    cases hr : reply >>= c.accept with
    | error e => rw [hr] at hq; cases hq
    | ok r =>
      rw [hr] at hq
      exact ⟨Canonical.record r, (Except.ok.inj hq).symm⟩

theorem Collected.categories {src : Source} {cs : List Category} {xs : List Exchange}
    {os : List Outcome} (h : src.Collected cs xs os) : os.map Outcome.category = cs := by
  induction h with
  | nil => rfl
  | cons reply _ ih => exact congrArg _ ih

theorem Collected.digest {src : Source} {cs : List Category} {xs : List Exchange}
    {os : List Outcome} (h : src.Collected cs xs os) {c : Category} {v : String}
    (ho : ⟨c, .ok v⟩ ∈ os) : Digest.hasShape v = true := by
  induction h with
  | nil => cases ho
  | @cons d cs xs os reply _ ih =>
    rcases List.mem_cons.mp ho with he | ho
    · obtain ⟨rfl, hv⟩ := Outcome.mk.inj he
      obtain ⟨b, rfl⟩ := digest_of_verdict hv.symm
      exact Digest.hasShape_ofBytes b
    · exact ih ho

end Source

theorem Outcome.failed?_eq_some {o : Outcome} {failed : FailedKey} :
    o.failed? = some failed ↔
      ∃ e, o.result = .error e ∧ ⟨o.category.key, e.message⟩ = failed := by
  rw [failed?]
  cases o.result <;> simp

theorem HostFacts.failed?_eq_some {key : String} {r : Except Failure String} {failed : FailedKey} :
    failed? (key, r) = some failed ↔ ∃ e, r = .error e ∧ ⟨key, e.message⟩ = failed := by
  cases r <;> simp [failed?]

theorem HostFacts.entries_eq (facts : HostFacts) :
    facts.entries = HostFact.all.map fun f => (f.key, facts.get f) := rfl

theorem HostFact.key_injective {f g : HostFact} (h : f.key = g.key) : f = g := by
  cases f <;> cases g <;> first | rfl | exact absurd h (by decide)

theorem Part.key_injective {p q : Part} (h : p.key = q.key) : p = q := by
  cases p with
  | category c =>
    cases q with
    | category d => exact congrArg _ (Category.key_injective h)
    | fact g => exact absurd h (Collection.key_ne_factKey c g)
  | fact f =>
    cases q with
    | category d => exact absurd h.symm (Collection.key_ne_factKey d f)
    | fact g => exact congrArg _ (HostFact.key_injective h)

namespace Collection

theorem mem_failedKeys_iff {k : Collection} {key : String} :
    key ∈ k.failedKeys ↔ ∃ part : Part, k.Failed part ∧ part.key = key := by
  simp only [failedKeys, failures, HostFacts.entries_eq, List.map_append, List.mem_append,
    List.mem_map, List.mem_filterMap, List.filterMap_map]
  constructor
  · rintro (⟨failed, ⟨⟨c, result⟩, ho, hf⟩, rfl⟩ | ⟨failed, ⟨f, _, hf⟩, rfl⟩)
    · obtain ⟨e, rfl, rfl⟩ := Outcome.failed?_eq_some.mp hf
      exact ⟨.category c, .category ho, rfl⟩
    · obtain ⟨e, he, rfl⟩ := HostFacts.failed?_eq_some.mp hf
      exact ⟨.fact f, .fact he, rfl⟩
  · rintro ⟨_, ho | hf, rfl⟩
    · exact .inl ⟨_, ⟨_, ho, rfl⟩, rfl⟩
    · next f e =>
      have listed : HostFacts.failed? (f.key, k.host.get f) = some ⟨f.key, e.message⟩ :=
        HostFacts.failed?_eq_some.mpr ⟨e, hf, rfl⟩
      exact .inr ⟨⟨f.key, e.message⟩, ⟨f, f.mem_all, listed⟩, rfl⟩

theorem key_mem_failedKeys_iff {k : Collection} {part : Part} :
    part.key ∈ k.failedKeys ↔ k.Failed part := by
  rw [mem_failedKeys_iff]
  constructor
  · rintro ⟨other, hf, hkey⟩
    exact Part.key_injective hkey ▸ hf
  · intro hf
    exact ⟨part, hf, rfl⟩

/-- The keys of those among some things that failed come in the order of the things. -/
theorem sublist_failedKeys {α : Type} {failed? : α → Option FailedKey} {key : α → String}
    (h : ∀ x failed, failed? x = some failed → failed.key = key x) (xs : List α) :
    ((xs.filterMap failed?).map FailedKey.key).Sublist (xs.map key) := by
  induction xs with
  | nil => exact .slnil
  | cons x xs ih =>
    rw [List.filterMap_cons]
    cases hx : failed? x with
    | none => exact ih.cons _
    | some failed =>
      rw [List.map_cons, List.map_cons, h x failed hx]
      exact ih.cons_cons _

namespace Complete

variable {k : Collection}

theorem ordered (h : k.Complete) : k.failedKeys.Sublist (Part.all.map Part.key) := by
  have hcategories : ((k.outcomes.filterMap Outcome.failed?).map FailedKey.key).Sublist
      (k.outcomes.map fun o => o.category.key) := by
    apply sublist_failedKeys
    intro o failed hf
    obtain ⟨e, _, rfl⟩ := Outcome.failed?_eq_some.mp hf
    rfl
  have hfacts : ((k.host.entries.filterMap HostFacts.failed?).map FailedKey.key).Sublist
      (k.host.entries.map Prod.fst) := by
    apply sublist_failedKeys
    rintro ⟨key, r⟩ failed hf
    obtain ⟨e, _, rfl⟩ := HostFacts.failed?_eq_some.mp hf
    rfl
  have hall : (k.outcomes.map fun o => o.category.key) = Category.all.map Category.key := by
    rw [← h.inOrder, List.map_map]
    rfl
  rw [hall] at hcategories
  rw [failedKeys, failures, List.map_append]
  exact hcategories.append hfacts

theorem nodup (h : k.Complete) : (k.outcomes.map Outcome.category).Nodup := by
  rw [h.inOrder]
  decide

/-- A category has one outcome, and its text in the fingerprint is empty if that is a failure. -/
theorem get?_fingerprint (h : k.Complete) (c : Category) :
    (∃ e, ⟨c, .error e⟩ ∈ k.outcomes ∧ k.fingerprint.get? c.key = some "") ∨
    ∃ v, ⟨c, .ok v⟩ ∈ k.outcomes ∧ k.fingerprint.get? c.key = some v := by
  have hc : c ∈ k.outcomes.map Outcome.category := h.inOrder ▸ c.mem_all
  obtain ⟨⟨_, result⟩, ho, rfl⟩ := List.mem_map.mp hc
  rw [get?_fingerprint_category, Outcome.lastSuccess?_of_mem h.nodup ho]
  cases result with
  | error e => exact .inl ⟨e, ho, rfl⟩
  | ok v => exact .inr ⟨v, ho, rfl⟩

/-- A category does not have a failure and a success. -/
theorem result_unique (h : k.Complete) {c : Category} {r r' : Except CategoryError String}
    (hr : ⟨c, r⟩ ∈ k.outcomes) (hr' : ⟨c, r'⟩ ∈ k.outcomes) : r = r' := by
  have hf := Outcome.filter_category h.nodup hr
  rw [Outcome.filter_category h.nodup hr'] at hf
  exact (Outcome.mk.inj (List.cons.inj hf).1).2.symm

theorem consistent (h : k.Complete) : k.Consistent where
  ordered := h.ordered
  once := Part.nodup_keys.sublist h.ordered
  listed := fun _ => key_mem_failedKeys_iff
  categories := by
    intro c
    rw [Fingerprint.mem_missing_iff (k.keys_fingerprint ▸ Fingerprint.nodup_orderedKeys)]
    change _ ↔ (Part.category c).key ∈ k.failedKeys
    rw [key_mem_failedKeys_iff]
    rcases h.get?_fingerprint c with ⟨e, ho, hg⟩ | ⟨v, ho, hg⟩
    · exact ⟨fun _ => .category ho, fun _ => hg⟩
    · rw [hg]
      refine ⟨fun hv => ?_, ?_⟩
      · exact absurd (Option.some.inj hv) (Digest.ne_empty_of_hasShape (h.digest ho))
      · intro hf
        cases hf with
        | category he => cases h.result_unique he ho
  facts := by
    intro f
    rw [Fingerprint.mem_missing_iff (k.keys_fingerprint ▸ Fingerprint.nodup_orderedKeys)]
    change _ ↔ (Part.fact f).key ∈ k.failedKeys ∨ _
    rw [key_mem_failedKeys_iff, get?_fingerprint_fact]
    cases hr : k.host.get f with
    | error e => exact ⟨fun _ => .inl (.fact hr), fun _ => rfl⟩
    | ok v =>
      refine ⟨fun hv => .inr (congrArg _ (Option.some.inj hv)), ?_⟩
      rintro (hf | hv)
      · cases hf with
        | fact he =>
          rw [hr] at he
          cases he
      · rw [Except.ok.inj hv]
        rfl
  digests := by
    intro c hc
    rcases h.get?_fingerprint c with ⟨e, ho, _⟩ | ⟨v, ho, hg⟩
    · have hlisted : (Part.category c).key ∈ k.failedKeys :=
        key_mem_failedKeys_iff.mpr (.category ho)
      exact absurd hlisted hc
    · exact ⟨v, hg, h.digest ho⟩

end Complete

end Collection

variable {σ : Type}

theorem Engine.Filled.complete {engine : Engine} {xs : List Exchange} {k : Collection}
    (h : engine.Filled xs k) : k.Complete := by
  obtain ⟨_, hc, _⟩ := h
  exact ⟨hc.categories, hc.digest⟩

/-- Whoever has a collection passed the gate and gathered everything. -/
theorem Engine.filled_of_collect {engine : Engine} {s : Surroundings σ} {j : Journal σ}
    {k : Collection} (h : (engine.collect s j).1 = .ok k) : ∃ xs, engine.Filled xs k := by
  have ha : Readiness.Announces s engine.config.readiness := by
    apply Classical.byContradiction
    intro hn
    rw [collect_overflows hn] at h
    cases h
  obtain ⟨xs, es, _, hran⟩ := collect_does ha j
  rw [h] at hran
  cases hran with
  | finished _ hfilled => exact ⟨_, hfilled⟩

/-- Whatever a run was answered: once it has passed its gate, its list of failures and the empty keys
of its fingerprint tell the same. -/
theorem Engine.collection_consistent {engine : Engine} {s : Surroundings σ} {j : Journal σ}
    {k : Collection} (h : (engine.collect s j).1 = .ok k) : k.Consistent := by
  obtain ⟨xs, hfilled⟩ := filled_of_collect h
  exact hfilled.complete.consistent

/-- Nothing fails but the primary address; every command prints nothing, and the host has no
name. -/
def World.wordless : World Unit := fun c u =>
  match c with
  | .connect | .openService _ => (.ok (), u)
  | .queryStatus => (.ok .running, u)
  | .pause _ => ((), u)
  | .platformDetails => (.ok ⟨"", "", ""⟩, u)
  | .run _ _ => (.ok [], u)
  | .queryFirst cls => (.error (.noRecords cls.name), u)
  | .hostname => (.ok "", u)
  | .primaryIp => (.error (.hostIdentity "none"), u)
  | .macAddress => (.ok "aa:bb:cc:dd:ee:ff", u)

/-- Without a word from anyone, the categories have digests; the name of the host is empty and is no
failure. -/
theorem Engine.wordless_consistent :
    let config := { EngineConfig.byDefault none with
      selector := ⟨Selector.defaultThreshold, some .commandOutput⟩ }
    let engine : Engine := ⟨config, .asked, .asked⟩
    let k : Collection := ⟨.commandOutput,
      [⟨.uuid, .ok (Digest.ofBytes [])⟩, ⟨.processor, .ok (Digest.ofBytes [])⟩,
        ⟨.memory, .ok (Digest.ofBytes [])⟩, ⟨.bios, .ok (Digest.ofBytes [])⟩,
        ⟨.system, .ok (Digest.ofBytes [])⟩, ⟨.disk, .ok (Digest.ofBytes [])⟩],
      ⟨.ok "", .error (.hostIdentity "none"), .ok "aa:bb:cc:dd:ee:ff"⟩⟩
    (engine.collect ⟨World.wordless, none⟩ (.start ())).1 = .ok k ∧ k.Consistent := by
  intro config engine k
  have h : (engine.collect ⟨World.wordless, none⟩ (.start ())).1 = .ok k := by rfl
  exact ⟨h, collection_consistent h⟩

end HardwareFingerprint
