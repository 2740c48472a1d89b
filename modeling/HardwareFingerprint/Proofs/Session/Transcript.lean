import HardwareFingerprint.Session

/-!
# What a session does, seen from outside

A session makes calls and records events. `Session.Does` states, for every journal that a session
may start from, which exchanges with the outside it has, which events it records and what it
results in. The rules below follow the ways in which sessions are built, so that one lemma for each
function is enough for whole runs. Nothing is assumed of the outside.
-/
namespace HardwareFingerprint

set_option autoImplicit false

/-- A call with its answer. -/
structure Exchange where
  call : Call
  reply : call.Reply

/-- The outside has these exchanges, one after the other, on its way between two states. -/
def World.Answers {σ : Type} (w : World σ) : σ → List Exchange → σ → Prop
  | t, [], t' => t' = t
  | t, x :: xs, t' => x.reply = (w x.call t).1 ∧ World.Answers w (w x.call t).2 xs t'

/-- The events that are kept when the log is kept up to a level. -/
def Event.kept (upTo : Option Level) (e : Event) : List Event :=
  if e.level.isRecorded upTo then [e] else []

theorem Event.mem_kept {upTo : Option Level} {e e' : Event} (h : e' ∈ e.kept upTo) : e' = e := by
  rw [kept] at h
  split at h
  · exact List.mem_singleton.mp h
  · cases h

/-- From one journal to another the exchanges `xs` are had and the events `es` recorded. -/
structure Journal.Leads {σ : Type} (w : World σ) (j : Journal σ) (xs : List Exchange)
    (es : List Event) (j' : Journal σ) : Prop where
  answered : w.Answers j.state xs j'.state
  calls : j'.calls.toList = j.calls.toList ++ xs.map Exchange.call
  events : j'.events.toList = j.events.toList ++ es

/-- Wherever it starts, the session has exchanges, records events and has a result that satisfy the
property together. -/
def Session.Does {σ α : Type} (s : Surroundings σ) (m : Session σ α)
    (P : List Exchange → List Event → α → Prop) : Prop :=
  ∀ j : Journal σ, ∃ xs es, j.Leads s.world xs es (m s j).2 ∧ P xs es (m s j).1

/-- Wherever it starts, the session records only events with the property. -/
def Session.TellsOnly {σ α : Type} (s : Surroundings σ) (m : Session σ α) (p : Event → Prop) :
    Prop :=
  m.Does s fun _ es _ => ∀ e ∈ es, p e

variable {σ α β : Type}

theorem World.Answers.append {w : World σ} {t t' t'' : σ} {xs ys : List Exchange}
    (hx : w.Answers t xs t') (hy : w.Answers t' ys t'') : w.Answers t (xs ++ ys) t'' := by
  induction xs generalizing t with
  | nil =>
    have ht : t' = t := hx
    rwa [ht] at hy
  | cons x xs ih => exact ⟨hx.1, ih hx.2⟩

namespace Journal.Leads

theorem refl (w : World σ) (j : Journal σ) : j.Leads w [] [] j :=
  ⟨rfl, by simp, by simp⟩

theorem trans {w : World σ} {j j' j'' : Journal σ} {xs ys : List Exchange} {es fs : List Event}
    (h : j.Leads w xs es j') (h' : j'.Leads w ys fs j'') :
    j.Leads w (xs ++ ys) (es ++ fs) j'' := by
  refine ⟨h.answered.append h'.answered, ?_, ?_⟩
  · rw [h'.calls, h.calls, List.map_append, List.append_assoc]
  · rw [h'.events, h.events, List.append_assoc]

end Journal.Leads

namespace Session

variable {s : Surroundings σ}

theorem bind_apply (m : Session σ α) (f : α → Session σ β) (s : Surroundings σ) (j : Journal σ) :
    (m >>= f) s j = f (m s j).1 s (m s j).2 := rfl

theorem ask_apply (c : Call) (s : Surroundings σ) (j : Journal σ) :
    ask c s j =
      ((s.world c j.state).1, { j with state := (s.world c j.state).2, calls := j.calls.push c }) :=
  rfl

theorem tell_apply (e : Event) (s : Surroundings σ) (j : Journal σ) :
    tell e s j =
      ((), if e.level.isRecorded s.upTo then { j with events := j.events.push e } else j) := rfl

theorem ask_leads (c : Call) (s : Surroundings σ) (j : Journal σ) :
    j.Leads s.world [⟨c, (ask c s j).1⟩] [] (ask c s j).2 := by
  rw [ask_apply]
  exact ⟨⟨rfl, rfl⟩, by simp, by simp⟩

theorem tell_leads (e : Event) (s : Surroundings σ) (j : Journal σ) :
    j.Leads s.world [] (e.kept s.upTo) (tell e s j).2 := by
  rw [tell_apply, Event.kept]
  by_cases h : e.level.isRecorded s.upTo
  · rw [if_pos h, if_pos h]
    exact ⟨rfl, by simp, by simp⟩
  · rw [if_neg h, if_neg h]
    exact Journal.Leads.refl s.world j

namespace Does

variable {P : List Exchange → List Event → α → Prop} {Q : List Exchange → List Event → β → Prop}

theorem pure {a : α} (h : P [] [] a) : Does s (Pure.pure a) P :=
  fun j => ⟨[], [], Journal.Leads.refl s.world j, h⟩

theorem mono {m : Session σ α} {P' : List Exchange → List Event → α → Prop} (h : Does s m P)
    (hP : ∀ xs es a, P xs es a → P' xs es a) : Does s m P' := by
  intro j
  obtain ⟨xs, es, hl, hp⟩ := h j
  exact ⟨xs, es, hl, hP xs es _ hp⟩

theorem bind {m : Session σ α} {f : α → Session σ β} (h : Does s m P)
    (hf : ∀ xs es a, P xs es a → Does s (f a) fun ys fs b => Q (xs ++ ys) (es ++ fs) b) :
    Does s (m >>= f) Q := by
  intro j
  obtain ⟨xs, es, hl, hp⟩ := h j
  obtain ⟨ys, fs, hl', hq⟩ := hf xs es _ hp (m s j).2
  exact ⟨xs ++ ys, es ++ fs, hl.trans hl', hq⟩

/-- A call first: whatever the answer, the rest does what is left of the property. -/
theorem ask_bind {c : Call} {f : c.Reply → Session σ β}
    (hf : ∀ r, Does s (f r) fun ys fs b => Q (⟨c, r⟩ :: ys) fs b) : Does s (ask c >>= f) Q := by
  intro j
  obtain ⟨ys, fs, hl, hq⟩ := hf (ask c s j).1 (ask c s j).2
  exact ⟨_, _, (ask_leads c s j).trans hl, hq⟩

/-- An event first. -/
theorem tell_bind {e : Event} {f : Unit → Session σ β}
    (hf : Does s (f ()) fun ys fs b => Q ys (e.kept s.upTo ++ fs) b) :
    Does s (tell e >>= f) Q := by
  intro j
  obtain ⟨ys, fs, hl, hq⟩ := hf (tell e s j).2
  exact ⟨_, _, (tell_leads e s j).trans hl, hq⟩

/-- What a session does and what it records are the same events. -/
theorem and_tellsOnly {m : Session σ α} {p : Event → Prop} (h : Does s m P)
    (ht : TellsOnly s m p) : Does s m fun xs es a => P xs es a ∧ ∀ e ∈ es, p e := by
  intro j
  obtain ⟨xs, es, hl, hp⟩ := h j
  obtain ⟨_, fs, hl', hes⟩ := ht j
  have hsame : es = fs := List.append_cancel_left (hl.events.symm.trans hl'.events)
  exact ⟨xs, es, hl, hp, hsame ▸ hes⟩

end Does

namespace TellsOnly

variable {p : Event → Prop}

theorem pure {a : α} : TellsOnly s (Pure.pure a) p :=
  Does.pure fun _ he => absurd he List.not_mem_nil

theorem bind {m : Session σ α} {f : α → Session σ β} (h : TellsOnly s m p)
    (hf : ∀ a, TellsOnly s (f a) p) : TellsOnly s (m >>= f) p := by
  refine Does.bind h fun xs es a hes => (hf a).mono fun ys fs b hfs e he => ?_
  rcases List.mem_append.mp he with he | he
  · exact hes e he
  · exact hfs e he

theorem ask (c : Call) : TellsOnly s (ask c) p :=
  fun j => ⟨_, _, ask_leads c s j, fun _ he => absurd he List.not_mem_nil⟩

theorem ask_bind {c : Call} {f : c.Reply → Session σ β} (hf : ∀ r, TellsOnly s (f r) p) :
    TellsOnly s (Session.ask c >>= f) p :=
  Does.ask_bind hf

theorem tell_bind {e : Event} {f : Unit → Session σ β} (he : p e) (hf : TellsOnly s (f ()) p) :
    TellsOnly s (tell e >>= f) p := by
  refine Does.tell_bind (hf.mono fun ys fs b hfs e' he' => ?_)
  rcases List.mem_append.mp he' with hkept | hrest
  · rw [Event.mem_kept hkept]
    exact he
  · exact hfs e' hrest

theorem isRecorded_bind {l : Level} {f : Bool → Session σ β} (hf : ∀ b, TellsOnly s (f b) p) :
    TellsOnly s (isRecorded l >>= f) p :=
  fun j => hf (l.isRecorded s.upTo) j

end TellsOnly

end Session

end HardwareFingerprint
