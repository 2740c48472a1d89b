import Mathlib.Data.List.Forall2
import HardwareFingerprint.Proofs.Run.Order
import HardwareFingerprint.Proofs.Session.InStep

/-!
# Failures stay with their part

A run has nine parts: a category or a host fact each. Two outsides that differ in nothing but what
they answer for some parts are stopped at the same gate with the same failure, or lead to
collections that differ in those parts alone, and to fingerprints that differ under their keys
alone. What a part is answered can fail or succeed on either side, in any way.
-/
namespace HardwareFingerprint

set_option autoImplicit false

inductive HostFact where
  | hostname
  | primaryIp
  | macAddress
  deriving DecidableEq

/-- The call by which a fact is asked for. -/
def HostFact.call : HostFact → Call
  | hostname => .hostname
  | primaryIp => .primaryIp
  | macAddress => .macAddress

def HostFact.key : HostFact → String
  | hostname => Key.hostname
  | primaryIp => Key.ipAddress
  | macAddress => Key.macAddress

def HostFacts.get (facts : HostFacts) : HostFact → Except Failure String
  | .hostname => facts.hostname
  | .primaryIp => facts.primaryIp
  | .macAddress => facts.macAddress

/-- What a run gathers independently of everything else. -/
inductive Part where
  | category (c : Category)
  | fact (f : HostFact)
  deriving DecidableEq

def Part.key : Part → String
  | category c => c.key
  | fact f => f.key

/-- The calls that an engine makes for a part, under one strategy or the other. -/
def Engine.AsksFor (engine : Engine) : Part → Call → Prop
  | .category c, call => ∃ strategy, call = Source.request ⟨strategy, engine.config.command⟩ c
  | .fact f, call => call = f.call

/-- The calls for some parts. -/
def Engine.AsksForAny (engine : Engine) (apart : Part → Prop) (call : Call) : Prop :=
  ∃ part, apart part ∧ engine.AsksFor part call

/-- Outcomes of the same category, and the same unless the category is set apart. -/
structure Outcome.Matches (apart : Part → Prop) (o o' : Outcome) : Prop where
  category : o.category = o'.category
  result : ¬ apart (.category o.category) → o.result = o'.result

/-- Collections that are the same but for some parts. -/
structure Collection.Matches (apart : Part → Prop) (k k' : Collection) : Prop where
  strategy : k.strategy = k'.strategy
  outcomes : List.Forall₂ (Outcome.Matches apart) k.outcomes k'.outcomes
  facts : ∀ f, ¬ apart (.fact f) → k.host.get f = k'.host.get f

/-- Fingerprints that are the same but for the keys of some parts. -/
def Fingerprint.Matches (apart : Part → Prop) (f f' : Fingerprint) : Prop :=
  ∀ key, (∀ part, apart part → key ≠ part.key) → f.get? key = f'.get? key

/-- Runs that are stopped alike, or whose collections are the same but for some parts. -/
inductive Engine.Alike (apart : Part → Prop) :
    Except Stop Collection → Except Stop Collection → Prop
  | stopped (e : Failure) : Alike apart (.error (.failed e)) (.error (.failed e))
  | finished {k k' : Collection} : k.Matches apart k' → Alike apart (.ok k) (.ok k')

variable {σ₁ σ₂ : Type} {R : σ₁ → σ₂ → Prop} {s₁ : Surroundings σ₁} {s₂ : Surroundings σ₂}

namespace Readiness

variable {apart : Call → Prop} {p : Policy}

/-- Every call that the gate can make. -/
def calls (p : Policy) : List Call :=
  [.connect, .openService p.service, .queryStatus, .pause p.interval]

theorem poll_agree (hw : s₁.world.InStep s₂.world apart R) (hg : ∀ c ∈ calls p, ¬ apart c)
    (left attempt : Nat) :
    Session.Agree R s₁ s₂ (poll p left attempt) (poll p left attempt) Eq := by
  have hq : ¬ apart .queryStatus := hg _ (by simp [calls])
  have hp : ¬ apart (.pause p.interval) := hg _ (by simp [calls])
  induction left generalizing attempt with
  | zero => exact .pure rfl
  | succ left ih =>
    refine .ask_bind hw hq fun answer => ?_
    split
    · exact .pure rfl
    · exact .tell_bind hw (.ask_bind hw hp fun _ => ih (attempt + 1))
    · exact .tell_bind hw (.ask_bind hw hp fun _ => ih (attempt + 1))

theorem gate_agree (hw : s₁.world.InStep s₂.world apart R) (hg : ∀ c ∈ calls p, ¬ apart c) :
    Session.Agree R s₁ s₂ (gate p) (gate p) Eq := by
  refine .ask_bind hw (hg _ (by simp [calls])) fun connected => ?_
  split
  · exact .pure rfl
  · refine .ask_bind hw (hg _ (by simp [calls])) fun opened => ?_
    split
    · exact .pure rfl
    · refine (poll_agree hw hg p.attempts 1).bind ?_
      rintro r _ rfl
      split
      · exact .pure rfl
      · exact .tell_bind hw (.pure rfl)

theorem waitForService_agree (hw : s₁.world.InStep s₂.world apart R)
    (hg : ∀ c ∈ calls p, ¬ apart c) (ha₁ : Announces s₁ p) (ha₂ : Announces s₂ p) :
    Session.Agree R s₁ s₂ (waitForService p) (waitForService p)
      fun r r' => ∃ g : Except Failure Unit, r = g.mapError .failed ∧ r' = r := by
  refine (Session.Agree.of_silent hw (announce_does ha₁) (announce_does ha₂)).bind ?_
  rintro r r' ⟨rfl, rfl⟩
  refine (gate_agree hw hg).bind ?_
  rintro g _ rfl
  cases g with
  | error e => exact .pure ⟨.error e, rfl, rfl⟩
  | ok u => exact .pure ⟨.ok u, rfl, rfl⟩

end Readiness

theorem Category.arguments_injective {c d : Category} (h : c.arguments = d.arguments) : c = d := by
  cases c <;> cases d <;> first | rfl | exact absurd h (by decide)

theorem Category.recordClass_injective {c d : Category} (h : c.recordClass = d.recordClass) :
    c = d := by
  cases c <;> cases d <;> first | rfl | cases h

/-- The request of a category is made for no other part. -/
theorem Engine.eq_of_asksFor_request {engine : Engine} {part : Part} {strategy : Strategy}
    {c : Category}
    (h : engine.AsksFor part (Source.request ⟨strategy, engine.config.command⟩ c)) :
    part = .category c := by
  cases part with
  | category d =>
    -- The part may be asked for under the other strategy, but no command line is a query.
    obtain ⟨strategy', h⟩ := h
    cases strategy <;> cases strategy' <;> simp only [Source.request] at h <;> try cases h
    · exact congrArg _ (Category.arguments_injective (Call.run.inj h).2).symm
    · exact congrArg _ (Category.recordClass_injective (Call.queryFirst.inj h)).symm
  | fact f => cases strategy <;> cases f <;> cases h

theorem Engine.not_asksFor_lookup (engine : Engine) (p : PlatformSource) (part : Part) :
    ¬ engine.AsksFor part p.lookup := by
  intro h
  cases part with
  | category c =>
    obtain ⟨strategy, h⟩ := h
    cases p <;> cases strategy <;> cases c <;> cases h
  | fact f => cases p <;> cases f <;> cases h

theorem Engine.not_asksFor_gate (engine : Engine) {p : Policy} (part : Part) {c : Call}
    (hc : c ∈ Readiness.calls p) : ¬ engine.AsksFor part c := by
  intro h
  simp only [Readiness.calls, List.mem_cons, List.not_mem_nil, or_false] at hc
  rcases hc with rfl | rfl | rfl | rfl
  all_goals
    cases part with
    | category c =>
      obtain ⟨strategy, h⟩ := h
      cases strategy <;> cases h
    | fact f => cases f <;> cases h

theorem HostFact.call_injective {f g : HostFact} (h : f.call = g.call) : f = g := by
  cases f <;> cases g <;> first | rfl | cases h

/-- The call of a fact is made for no other part. -/
theorem Engine.eq_of_asksFor_call {engine : Engine} {part : Part} {f : HostFact}
    (h : engine.AsksFor part f.call) : part = .fact f := by
  cases part with
  | category c =>
    obtain ⟨strategy, h⟩ := h
    cases strategy <;> cases f <;> cases h
  | fact g => exact congrArg Part.fact (HostFact.call_injective h).symm

section Agreement

variable {engine : Engine} {apart : Part → Prop}

/-- The strategies are the same, since the lookup is asked for no part. -/
theorem Selector.select_agree (hw : s₁.world.InStep s₂.world (engine.AsksForAny apart) R)
    (sel : Selector) (p : PlatformSource) :
    Session.Agree R s₁ s₂ (sel.select p) (sel.select p) Eq := by
  rw [Selector.select, Selector.select]
  split
  · exact .tell_bind hw (.pure rfl)
  · have versions : Session.Agree R s₁ s₂ p.version p.version Eq := by
      refine .of_does_ask hw (p.version_does s₁) (p.version_does s₂) fun r r' hr => ?_
      rw [hr]
      rintro ⟨part, _, h⟩
      exact engine.not_asksFor_lookup p part h
    refine versions.bind ?_
    rintro version _ rfl
    split
    · exact .tell_bind hw (.pure rfl)
    · split
      · exact .tell_bind hw (.pure rfl)
      · exact .tell_bind hw (.pure rfl)

theorem Engine.collectCategory_agree
    (hw : s₁.world.InStep s₂.world (engine.AsksForAny apart) R) (strategy : Strategy)
    (c : Category) :
    Session.Agree R s₁ s₂ (collectCategory ⟨strategy, engine.config.command⟩ c)
      (collectCategory ⟨strategy, engine.config.command⟩ c) (Outcome.Matches apart) := by
  refine .of_does_ask hw (collectCategory_does s₁ _ c) (collectCategory_does s₂ _ c)
    fun r r' hr => ⟨rfl, fun hc => ?_⟩
  rw [hr]
  rintro ⟨part, hpart, h⟩
  rw [eq_of_asksFor_request h] at hpart
  exact hc hpart

theorem Engine.collectCategories_agree
    (hw : s₁.world.InStep s₂.world (engine.AsksForAny apart) R) (strategy : Strategy)
    (cs : List Category) :
    Session.Agree R s₁ s₂ (collectCategories ⟨strategy, engine.config.command⟩ cs)
      (collectCategories ⟨strategy, engine.config.command⟩ cs)
      (List.Forall₂ (Outcome.Matches apart)) := by
  induction cs with
  | nil => exact .pure .nil
  | cons c cs ih =>
    exact (collectCategory_agree hw strategy c).bind fun o o' ho =>
      ih.bind fun os os' hos => .pure (.cons ho hos)

theorem HostFacts.gather_agree (hw : s₁.world.InStep s₂.world (engine.AsksForAny apart) R)
    (h : HostSource) :
    Session.Agree R s₁ s₂ (gather h) (gather h)
      fun facts facts' => ∀ f, ¬ apart (.fact f) → facts.get f = facts'.get f := by
  cases h with
  | asked =>
    have same : ∀ f : HostFact, ¬ apart (.fact f) → ¬ engine.AsksForAny apart f.call := by
      rintro f hf ⟨part, hpart, h⟩
      rw [Engine.eq_of_asksFor_call h] at hpart
      exact hf hpart
    refine (Session.Agree.ask hw .hostname).bind fun n n' hn => ?_
    refine (Session.Agree.ask hw .primaryIp).bind fun i i' hi => ?_
    refine (Session.Agree.ask hw .macAddress).bind fun m m' hm => .pure fun f hf => ?_
    cases f with
    | hostname => exact hn (same _ hf)
    | primaryIp => exact hi (same _ hf)
    | macAddress => exact hm (same _ hf)
  | system r =>
    apply Session.Agree.of_does hw (gather_does s₁ (.system r)) (gather_does s₂ (.system r))
    · rintro xs es a ys fs b ⟨⟩ ⟨⟩
      rfl
    · rintro xs es a ys fs b ⟨⟩ ⟨⟩ _ f _
      rfl

theorem Engine.gather_agree (hw : s₁.world.InStep s₂.world (engine.AsksForAny apart) R) :
    Session.Agree R s₁ s₂ (gather engine) (gather engine) (Collection.Matches apart) := by
  refine (Selector.select_agree hw engine.config.selector engine.platform).bind ?_
  rintro strategy _ rfl
  refine (collectCategories_agree hw strategy Category.all).bind fun os os' hos => ?_
  refine (HostFacts.gather_agree hw engine.host).bind fun facts facts' hf => ?_
  -- The log may be told of other facts on either side, which nobody is asked for.
  have told : Session.Agree R s₁ s₂ (tellFacts facts.entries) (tellFacts facts'.entries)
      fun _ _ => True ∧ True :=
    .of_silent hw ((tellFacts_does s₁ facts.entries).mono fun _ _ _ h => ⟨h, trivial⟩)
      ((tellFacts_does s₂ facts'.entries).mono fun _ _ _ h => ⟨h, trivial⟩)
  exact told.bind fun _ _ _ => .tell_bind hw (.pure ⟨rfl, hos, hf⟩)

theorem Engine.collect_agree (hw : s₁.world.InStep s₂.world (engine.AsksForAny apart) R)
    (h₁ : Readiness.Announces s₁ engine.config.readiness)
    (h₂ : Readiness.Announces s₂ engine.config.readiness) :
    Session.Agree R s₁ s₂ (collect engine) (collect engine) (Alike apart) := by
  have hg : ∀ c ∈ Readiness.calls engine.config.readiness, ¬ engine.AsksForAny apart c := by
    rintro c hc ⟨part, _, h⟩
    exact engine.not_asksFor_gate part hc h
  refine (Readiness.waitForService_agree hw hg h₁ h₂).bind ?_
  rintro r _ ⟨g, rfl, rfl⟩
  cases g with
  | error e => exact .tell_bind hw (.pure (.stopped e))
  | ok _ => exact (gather_agree hw).bind fun k k' hk => .pure (.finished hk)

end Agreement

namespace Fingerprint

variable {apart : Part → Prop}

theorem Matches.refl (apart : Part → Prop) (f : Fingerprint) : f.Matches apart f :=
  fun _ _ => rfl

theorem Matches.set {f f' : Fingerprint} (h : f.Matches apart f') (key value : String) :
    (f.set key value).Matches apart (f'.set key value) := by
  intro k hk
  rw [get?_set, get?_set, h k hk]

/-- What stands under the key of a part that is set apart does not count. -/
theorem Matches.setIfOk_apart {ε : Type} {f f' : Fingerprint} (h : f.Matches apart f') {part : Part}
    (hp : apart part) (r r' : Except ε String) :
    (f.setIfOk part.key r).Matches apart (f'.setIfOk part.key r') := by
  intro k hk
  have hne := hk part hp
  have unset : ∀ (g : Fingerprint) (r : Except ε String),
      (g.setIfOk part.key r).get? k = g.get? k := by
    intro g r
    cases r with
    | error e => rfl
    | ok value => rw [setIfOk, get?_set, if_neg hne]
  rw [unset, unset, h k hk]

theorem Matches.setIfOk {ε : Type} {f f' : Fingerprint} (h : f.Matches apart f') (part : Part)
    {r r' : Except ε String} (hr : ¬ apart part → r = r') :
    (f.setIfOk part.key r).Matches apart (f'.setIfOk part.key r') := by
  by_cases hp : apart part
  · exact h.setIfOk_apart hp r r'
  · rw [hr hp]
    cases r' with
    | error e => exact h
    | ok value => exact h.set part.key value

end Fingerprint

theorem Fingerprint.Matches.fill {apart : Part → Prop} {os os' : List Outcome}
    (ho : List.Forall₂ (Outcome.Matches apart) os os') {f f' : Fingerprint}
    (hf : f.Matches apart f') :
    (os.foldl (fun f o => f.setIfOk o.category.key o.result) f).Matches apart
      (os'.foldl (fun f o => f.setIfOk o.category.key o.result) f') := by
  induction ho generalizing f f' with
  | nil => exact hf
  | @cons o o' os os' h _ ih =>
    apply ih
    change Matches apart (f.setIfOk o.category.key o.result) (f'.setIfOk o'.category.key o'.result)
    rw [← h.category]
    exact hf.setIfOk (.category o.category) h.result

theorem Collection.Matches.fingerprint {apart : Part → Prop} {k k' : Collection}
    (h : k.Matches apart k') : k.fingerprint.Matches apart k'.fingerprint := by
  have hf := Fingerprint.Matches.fill h.outcomes (.refl apart .empty)
  have hn := hf.setIfOk (.fact .hostname) (h.facts .hostname)
  have hi := hn.setIfOk (.fact .primaryIp) (h.facts .primaryIp)
  exact hi.setIfOk (.fact .macAddress) (h.facts .macAddress)

theorem Engine.compute_apply (engine : Engine) {σ : Type} (s : Surroundings σ) (j : Journal σ) :
    (engine.compute s j).1 = (engine.collect s j).1.map Collection.fingerprint := rfl

/-- Outsides that differ in what they answer for one part stop a run at the gate alike, or give
collections that differ in that part at most and fingerprints that differ under its key at most. -/
theorem Engine.run_isolates (engine : Engine) (part : Part) {w₁ : World σ₁} {w₂ : World σ₂}
    {made₁ : σ₁ → Call → Nat} {made₂ : σ₂ → Call → Nat}
    {answers₁ answers₂ : (c : Call) → Nat → c.Reply} (h₁ : w₁.Counts made₁ answers₁)
    (h₂ : w₂.Counts made₂ answers₂)
    (hsame : ∀ c n, ¬ engine.AsksFor part c → answers₁ c n = answers₂ c n)
    (hbudget : engine.config.readiness.budgetSecs? ≠ none) (upTo₁ upTo₂ : Option Level)
    {t₁ : σ₁} {t₂ : σ₂} (ht : made₁ t₁ = made₂ t₂) :
    (∃ e, (engine.collect ⟨w₁, upTo₁⟩ (.start t₁)).1 = .error (.failed e) ∧
      (engine.collect ⟨w₂, upTo₂⟩ (.start t₂)).1 = .error (.failed e)) ∨
    ∃ k₁ k₂, (engine.collect ⟨w₁, upTo₁⟩ (.start t₁)).1 = .ok k₁ ∧
      (engine.collect ⟨w₂, upTo₂⟩ (.start t₂)).1 = .ok k₂ ∧ k₁.Matches (· = part) k₂ ∧
      ∃ f₁ f₂, (engine.compute ⟨w₁, upTo₁⟩ (.start t₁)).1 = .ok f₁ ∧
        (engine.compute ⟨w₂, upTo₂⟩ (.start t₂)).1 = .ok f₂ ∧
        ∀ key, key ≠ part.key → f₁.get? key = f₂.get? key := by
  have hw : w₁.InStep w₂ (engine.AsksForAny (· = part)) fun t₁ t₂ => made₁ t₁ = made₂ t₂ :=
    h₁.inStep h₂ fun c n hc => hsame c n fun ha => hc ⟨part, rfl, ha⟩
  have agree : Session.Agree (fun t₁ t₂ => made₁ t₁ = made₂ t₂) ⟨w₁, upTo₁⟩ ⟨w₂, upTo₂⟩
      engine.collect engine.collect (Alike (· = part)) :=
    collect_agree hw (fun _ => hbudget) fun _ => hbudget
  obtain ⟨alike, _⟩ := agree (.start t₁) (.start t₂) ⟨ht, rfl⟩
  rw [compute_apply, compute_apply]
  generalize (engine.collect ⟨w₁, upTo₁⟩ (.start t₁)).1 = r₁ at alike ⊢
  generalize (engine.collect ⟨w₂, upTo₂⟩ (.start t₂)).1 = r₂ at alike ⊢
  cases alike with
  | stopped e => exact .inl ⟨e, rfl, rfl⟩
  | @finished k₁ k₂ hk =>
    refine .inr ⟨k₁, k₂, rfl, rfl, hk, k₁.fingerprint, k₂.fingerprint, rfl, rfl, fun key hne => ?_⟩
    apply hk.fingerprint key
    rintro _ rfl
    exact hne

/-- The service runs, the host is known, and of the records only that of the BIOS may be had. -/
def answersWithBios (bios : Except Failure Record) : (c : Call) → Nat → c.Reply
  | .connect, _ | .openService _, _ => .ok ()
  | .queryStatus, _ => .ok .running
  | .pause _, _ => ()
  | .platformDetails, _ => .ok ⟨"Microsoft Windows", "10.0.26100", "windows"⟩
  | .run program _, _ => .error (.commandFailed program "not found")
  | .queryFirst .bios, _ => bios
  | .queryFirst cls, _ => .error (.noRecords cls.name)
  | .hostname, _ => .ok "host1"
  | .primaryIp, _ => .ok "10.0.0.5"
  | .macAddress, _ => .ok "aa:bb:cc:dd:ee:ff"

/-- Without a BIOS record the run goes on as with one, but for the BIOS. -/
theorem Engine.bios_isolated :
    let engine : Engine := ⟨EngineConfig.byDefault none, .asked, .asked⟩
    let without := World.counting (answersWithBios (.error (.noRecords "Win32_BIOS")))
    let found := World.counting (answersWithBios (.ok ⟨.bios, ("a", "b", "c", "d", "e", ())⟩))
    let unasked : Journal (Call → Nat) := .start fun _ => 0
    engine.config.readiness.budgetSecs? ≠ none ∧
    ((∃ e, (engine.collect ⟨without, none⟩ unasked).1 = .error (.failed e) ∧
      (engine.collect ⟨found, some .trace⟩ unasked).1 = .error (.failed e)) ∨
    ∃ k₁ k₂, (engine.collect ⟨without, none⟩ unasked).1 = .ok k₁ ∧
      (engine.collect ⟨found, some .trace⟩ unasked).1 = .ok k₂ ∧
      k₁.Matches (· = .category .bios) k₂ ∧
      ∃ f₁ f₂, (engine.compute ⟨without, none⟩ unasked).1 = .ok f₁ ∧
        (engine.compute ⟨found, some .trace⟩ unasked).1 = .ok f₂ ∧
        ∀ key, key ≠ Key.bios → f₁.get? key = f₂.get? key) := by
  intro engine without found unasked
  have hbudget : engine.config.readiness.budgetSecs? ≠ none := by decide
  refine ⟨hbudget, ?_⟩
  refine engine.run_isolates (.category .bios) (World.counts_counting _) (World.counts_counting _)
    (fun c n hc => ?_) hbudget none (some .trace) rfl
  cases c with
  | queryFirst cls =>
    cases cls with
    | bios => exact absurd ⟨.structuredQuery, rfl⟩ hc
    | _ => rfl
  | _ => rfl

end HardwareFingerprint
