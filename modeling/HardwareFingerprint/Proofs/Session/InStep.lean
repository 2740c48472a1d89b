import HardwareFingerprint.Proofs.Session.Transcript

/-!
# Two sessions in step

Two outsides are in step when related states answer alike, except for some calls that are set apart,
and lead on to related states. Two sessions agree when they make the same calls, wherever they start
in step, and have results that are related. What the sessions record is not compared, so that the
outsides may keep their logs up to different levels.
-/
namespace HardwareFingerprint

set_option autoImplicit false

/-- Related states answer alike but for calls set apart, and lead on to related states. -/
structure World.InStep {σ₁ σ₂ : Type} (w₁ : World σ₁) (w₂ : World σ₂) (apart : Call → Prop)
    (R : σ₁ → σ₂ → Prop) : Prop where
  reply : ∀ {c : Call} {t₁ : σ₁} {t₂ : σ₂}, R t₁ t₂ → ¬ apart c → (w₁ c t₁).1 = (w₂ c t₂).1
  next : ∀ {c : Call} {t₁ : σ₁} {t₂ : σ₂}, R t₁ t₂ → R (w₁ c t₁).2 (w₂ c t₂).2

/-- What is answered depends only on the call and on how often it was made before. -/
structure World.Counts {σ : Type} (w : World σ) (made : σ → Call → Nat)
    (answers : (c : Call) → Nat → c.Reply) : Prop where
  reply : ∀ c t, (w c t).1 = answers c (made t c)
  next : ∀ c t, made (w c t).2 = fun d => if d = c then made t d + 1 else made t d

/-- The outside that only counts. -/
def World.counting (answers : (c : Call) → Nat → c.Reply) : World (Call → Nat) := fun c made =>
  (answers c (made c), fun d => if d = c then made d + 1 else made d)

/-- The states are related, and the same calls were made. -/
structure Journal.InStep {σ₁ σ₂ : Type} (R : σ₁ → σ₂ → Prop) (j₁ : Journal σ₁)
    (j₂ : Journal σ₂) : Prop where
  state : R j₁.state j₂.state
  calls : j₁.calls = j₂.calls

/-- The same calls, with answers that are the same unless the call is set apart. -/
inductive Exchange.Aligned (apart : Call → Prop) : List Exchange → List Exchange → Prop
  | nil : Aligned apart [] []
  | cons {c : Call} {r₁ r₂ : c.Reply} {xs ys : List Exchange} : (¬ apart c → r₁ = r₂) →
      Aligned apart xs ys → Aligned apart (⟨c, r₁⟩ :: xs) (⟨c, r₂⟩ :: ys)

/-- Started in step, the sessions have related results and stay in step. -/
def Session.Agree {σ₁ σ₂ α β : Type} (R : σ₁ → σ₂ → Prop) (s₁ : Surroundings σ₁)
    (s₂ : Surroundings σ₂) (m₁ : Session σ₁ α) (m₂ : Session σ₂ β) (Q : α → β → Prop) : Prop :=
  ∀ (j₁ : Journal σ₁) (j₂ : Journal σ₂), j₁.InStep R j₂ →
    Q (m₁ s₁ j₁).1 (m₂ s₂ j₂).1 ∧ (m₁ s₁ j₁).2.InStep R (m₂ s₂ j₂).2

variable {σ₁ σ₂ α β γ δ : Type} {R : σ₁ → σ₂ → Prop} {apart : Call → Prop}
  {w₁ : World σ₁} {w₂ : World σ₂}

theorem World.counts_counting (answers : (c : Call) → Nat → c.Reply) :
    (World.counting answers).Counts id answers :=
  ⟨fun _ _ => rfl, fun _ _ => rfl⟩

/-- Outsides that count are in step while the same calls were made as often. -/
theorem World.Counts.inStep {made₁ : σ₁ → Call → Nat} {made₂ : σ₂ → Call → Nat}
    {answers₁ answers₂ : (c : Call) → Nat → c.Reply} (h₁ : w₁.Counts made₁ answers₁)
    (h₂ : w₂.Counts made₂ answers₂)
    (hsame : ∀ c n, ¬ apart c → answers₁ c n = answers₂ c n) :
    w₁.InStep w₂ apart fun t₁ t₂ => made₁ t₁ = made₂ t₂ := by
  refine ⟨?_, ?_⟩
  · intro c t₁ t₂ ht hc
    rw [h₁.reply, h₂.reply, ht, hsame c _ hc]
  · intro c t₁ t₂ ht
    rw [h₁.next, h₂.next, ht]

theorem World.InStep.align (h : w₁.InStep w₂ apart R) {xs ys : List Exchange} {t₁ t₁' : σ₁}
    {t₂ t₂' : σ₂} (ht : R t₁ t₂) (hx : w₁.Answers t₁ xs t₁') (hy : w₂.Answers t₂ ys t₂')
    (hc : xs.map Exchange.call = ys.map Exchange.call) :
    Exchange.Aligned apart xs ys ∧ R t₁' t₂' := by
  induction xs generalizing ys t₁ t₂ with
  | nil =>
    obtain rfl : ys = [] := List.map_eq_nil_iff.mp hc.symm
    obtain rfl : t₁' = t₁ := hx
    obtain rfl : t₂' = t₂ := hy
    exact ⟨.nil, ht⟩
  | cons x xs ih =>
    cases ys with
    | nil => cases hc
    | cons y ys =>
      obtain ⟨c, r₁⟩ := x
      obtain ⟨d, r₂⟩ := y
      obtain ⟨rfl, hcs⟩ : c = d ∧ xs.map Exchange.call = ys.map Exchange.call := List.cons.inj hc
      obtain ⟨h₁, hx⟩ := hx
      obtain ⟨h₂, hy⟩ := hy
      obtain ⟨ha, ht'⟩ := ih (h.next ht) hx hy hcs
      refine ⟨.cons (fun hd => ?_) ha, ht'⟩
      exact h₁.trans ((h.reply ht hd).trans h₂.symm)

namespace Session.Agree

variable {s₁ : Surroundings σ₁} {s₂ : Surroundings σ₂}

theorem pure {a : α} {b : β} {Q : α → β → Prop} (h : Q a b) :
    Agree R s₁ s₂ (Pure.pure a) (Pure.pure b) Q :=
  fun _ _ hj => ⟨h, hj⟩

theorem bind {m₁ : Session σ₁ α} {m₂ : Session σ₂ β} {P : α → β → Prop}
    {f : α → Session σ₁ γ} {g : β → Session σ₂ δ} {Q : γ → δ → Prop}
    (h : Agree R s₁ s₂ m₁ m₂ P) (hf : ∀ a b, P a b → Agree R s₁ s₂ (f a) (g b) Q) :
    Agree R s₁ s₂ (m₁ >>= f) (m₂ >>= g) Q := by
  intro j₁ j₂ hj
  obtain ⟨hp, hj'⟩ := h j₁ j₂ hj
  exact hf _ _ hp _ _ hj'

/-- Sessions that make the same calls whatever they are answered: what is known of the exchanges of
both, side by side, gives the relation of their results. -/
theorem of_does (hw : s₁.world.InStep s₂.world apart R) {m₁ : Session σ₁ α} {m₂ : Session σ₂ β}
    {P₁ : List Exchange → List Event → α → Prop} {P₂ : List Exchange → List Event → β → Prop}
    {Q : α → β → Prop} (h₁ : m₁.Does s₁ P₁) (h₂ : m₂.Does s₂ P₂)
    (hc : ∀ xs es a ys fs b, P₁ xs es a → P₂ ys fs b →
      xs.map Exchange.call = ys.map Exchange.call)
    (hQ : ∀ xs es a ys fs b, P₁ xs es a → P₂ ys fs b → Exchange.Aligned apart xs ys → Q a b) :
    Agree R s₁ s₂ m₁ m₂ Q := by
  intro j₁ j₂ hj
  obtain ⟨xs, es, hx, hp₁⟩ := h₁ j₁
  obtain ⟨ys, fs, hy, hp₂⟩ := h₂ j₂
  have hcalls := hc _ _ _ _ _ _ hp₁ hp₂
  obtain ⟨ha, hs⟩ := hw.align hj.state hx.answered hy.answered hcalls
  refine ⟨hQ _ _ _ _ _ _ hp₁ hp₂ ha, hs, ?_⟩
  apply Array.toList_inj.mp
  rw [hx.calls, hy.calls, hj.calls, hcalls]

/-- The same single call, and results that are the same function of the answer. -/
theorem of_does_ask (hw : s₁.world.InStep s₂.world apart R) {m₁ : Session σ₁ α}
    {m₂ : Session σ₂ α} {c : Call} {f : c.Reply → α} {Q : α → α → Prop}
    (h₁ : m₁.Does s₁ fun xs _ a => ∃ r, xs = [⟨c, r⟩] ∧ a = f r)
    (h₂ : m₂.Does s₂ fun xs _ a => ∃ r, xs = [⟨c, r⟩] ∧ a = f r)
    (hQ : ∀ r₁ r₂, (¬ apart c → r₁ = r₂) → Q (f r₁) (f r₂)) : Agree R s₁ s₂ m₁ m₂ Q := by
  apply of_does hw h₁ h₂
  · rintro xs es a ys fs b ⟨r₁, rfl, rfl⟩ ⟨r₂, rfl, rfl⟩
    rfl
  · rintro xs es a ys fs b ⟨r₁, rfl, rfl⟩ ⟨r₂, rfl, rfl⟩ ha
    cases ha with
    | cons hr _ => exact hQ r₁ r₂ hr

theorem ask (hw : s₁.world.InStep s₂.world apart R) (c : Call) :
    Agree R s₁ s₂ (ask c) (ask c) fun r₁ r₂ => ¬ apart c → r₁ = r₂ :=
  of_does_ask (f := id) hw (fun j => ⟨_, _, ask_leads c s₁ j, _, rfl, rfl⟩)
    (fun j => ⟨_, _, ask_leads c s₂ j, _, rfl, rfl⟩) fun _ _ h => h

/-- A call that is not set apart, and then the same answer on both sides. -/
theorem ask_bind (hw : s₁.world.InStep s₂.world apart R) {c : Call} (hc : ¬ apart c)
    {f : c.Reply → Session σ₁ α} {g : c.Reply → Session σ₂ β} {Q : α → β → Prop}
    (hf : ∀ r, Agree R s₁ s₂ (f r) (g r) Q) :
    Agree R s₁ s₂ (Session.ask c >>= f) (Session.ask c >>= g) Q := by
  refine (ask hw c).bind fun r₁ r₂ hr => ?_
  rw [hr hc]
  exact hf r₂

/-- Sessions that call nobody. -/
theorem of_silent (hw : s₁.world.InStep s₂.world apart R) {m₁ : Session σ₁ α}
    {m₂ : Session σ₂ β} {P : α → Prop} {P' : β → Prop} (h₁ : m₁.Does s₁ fun xs _ a => xs = [] ∧ P a)
    (h₂ : m₂.Does s₂ fun xs _ b => xs = [] ∧ P' b) :
    Agree R s₁ s₂ m₁ m₂ fun a b => P a ∧ P' b := by
  apply of_does hw h₁ h₂
  · rintro xs es a ys fs b ⟨rfl, _⟩ ⟨rfl, _⟩
    rfl
  · rintro xs es a ys fs b ⟨_, ha⟩ ⟨_, hb⟩ _
    exact ⟨ha, hb⟩

/-- Events on both sides, not necessarily the same. -/
theorem tell_bind (hw : s₁.world.InStep s₂.world apart R) {e e' : Event}
    {f : Unit → Session σ₁ α} {g : Unit → Session σ₂ β} {Q : α → β → Prop}
    (hf : Agree R s₁ s₂ (f ()) (g ()) Q) : Agree R s₁ s₂ (tell e >>= f) (tell e' >>= g) Q := by
  have silent : Agree R s₁ s₂ (tell e) (tell e') fun _ _ => True ∧ True :=
    of_silent hw (fun j => ⟨_, _, tell_leads e s₁ j, rfl, trivial⟩)
      (fun j => ⟨_, _, tell_leads e' s₂ j, rfl, trivial⟩)
  exact silent.bind fun _ _ _ => hf

end Session.Agree

end HardwareFingerprint
