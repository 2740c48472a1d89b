import HardwareFingerprint.Proofs.Run.Gate
import HardwareFingerprint.Proofs.Run.Parts

/-!
# The order of a run's calls

A run passes the gate and then makes its remaining calls, all of them, whatever it is answered; or
it is stopped at the gate and makes no other call. This holds for every outside exactly when the
announcement of the wait does not need a budget that is no duration. Otherwise the run ends in that
announcement, before its first call.
-/
namespace HardwareFingerprint

set_option autoImplicit false

/-- The wait can be announced: its budget is a duration, or nobody is told of it. -/
def Readiness.Announces {σ : Type} (s : Surroundings σ) (p : Policy) : Prop :=
  Level.debug.isRecorded s.upTo = true → p.budgetSecs? ≠ none

/-- After the gate: the choice, the categories under the source chosen, and the host facts. -/
inductive Engine.Filled (engine : Engine) : List Exchange → Collection → Prop
  | mk {ps cs hs : List Exchange} {strategy : Strategy} {outcomes : List Outcome}
      {host : HostFacts} : engine.config.selector.Chose engine.platform ps strategy →
      Source.Collected ⟨strategy, engine.config.command⟩ Category.all cs outcomes →
      engine.host.Gathered hs host → Filled engine (ps ++ (cs ++ hs)) ⟨strategy, outcomes, host⟩

/-- The dialogue of a run and its result. A gate that fails is all there is. -/
inductive Engine.Ran (engine : Engine) : List Exchange → Except Stop Collection → Prop
  | stopped {xs : List Exchange} {e : Failure} :
      Readiness.Gated engine.config.readiness xs (.error e) → Ran engine xs (.error (.failed e))
  | finished {gs xs : List Exchange} {k : Collection} :
      Readiness.Gated engine.config.readiness gs (.ok ()) → engine.Filled xs k →
      Ran engine (gs ++ xs) (.ok k)

variable {σ : Type}

theorem Readiness.announce_apply (p : Policy) (s : Surroundings σ) (j : Journal σ) :
    announce p s j =
      if Level.debug.isRecorded s.upTo then
        match p.budgetSecs? with
        | none => (.error .budgetOverflow, j)
        | some secs => (.ok (), (Session.tell (.waiting p.service secs) s j).2)
      else (.ok (), j) := by
  rw [announce, Session.bind_apply]
  change (if Level.debug.isRecorded s.upTo = true then _ else _ : Session σ _) s j = _
  split
  · cases p.budgetSecs? <;> rfl
  · rfl

theorem Readiness.announce_does {s : Surroundings σ} {p : Policy} (h : Announces s p) :
    (announce p).Does s fun xs _ r => xs = [] ∧ r = .ok () := by
  intro j
  rw [announce_apply]
  split
  · next hd =>
    obtain ⟨secs, hs⟩ := Option.ne_none_iff_exists'.mp (h hd)
    rw [hs]
    exact ⟨[], _, Session.tell_leads (.waiting p.service secs) s j, rfl, rfl⟩
  · exact ⟨[], [], Journal.Leads.refl s.world j, rfl, rfl⟩

theorem Readiness.announce_overflows {s : Surroundings σ} {p : Policy} (h : ¬ Announces s p)
    (j : Journal σ) : announce p s j = (.error .budgetOverflow, j) := by
  obtain ⟨hd, hb⟩ := Classical.not_imp.mp h
  rw [announce_apply, if_pos hd, Classical.not_not.mp hb]

theorem Readiness.waitForService_does {s : Surroundings σ} {p : Policy} (h : Announces s p) :
    (waitForService p).Does s fun xs _ r => ∃ g, Gated p xs g ∧ r = g.mapError Stop.failed := by
  refine (announce_does h).bind ?_
  rintro xs es r ⟨rfl, rfl⟩
  refine (gate_does s p).bind fun xs es g hg => ?_
  cases g with
  | error e => exact .pure ⟨.error e, by simpa using hg, rfl⟩
  | ok _ => exact .pure ⟨.ok (), by simpa using hg, rfl⟩

theorem Engine.gather_does (s : Surroundings σ) (engine : Engine) :
    (gather engine).Does s fun xs _ k => engine.Filled xs k := by
  refine (engine.config.selector.select_does s engine.platform).bind fun ps _ strategy hp => ?_
  refine (collectCategories_does s ⟨strategy, engine.config.command⟩ Category.all).bind
    fun cs _ outcomes hc => ?_
  refine (HostFacts.gather_does s engine.host).bind fun hs _ host hh => ?_
  refine (tellFacts_does s host.entries).bind ?_
  rintro xs es u rfl
  exact .tell_bind (.pure (by simpa using .mk hp hc hh))

theorem Engine.collect_does {s : Surroundings σ} {engine : Engine}
    (h : Readiness.Announces s engine.config.readiness) :
    (collect engine).Does s fun xs _ r => engine.Ran xs r := by
  refine (Readiness.waitForService_does h).bind ?_
  rintro gs es r ⟨g, hg, rfl⟩
  cases g with
  | error e => exact .tell_bind (.pure (by simpa using .stopped hg))
  | ok _ =>
    exact (engine.gather_does s).bind fun xs _ k hk => .pure (by simpa using .finished hg hk)

theorem Engine.collect_overflows {s : Surroundings σ} {engine : Engine}
    (h : ¬ Readiness.Announces s engine.config.readiness) (j : Journal σ) :
    engine.collect s j = (.error .budgetOverflow, j) := by
  have hw : Readiness.waitForService engine.config.readiness s j = (.error .budgetOverflow, j) := by
    rw [Readiness.waitForService, Session.bind_apply, Readiness.announce_overflows h]
    rfl
  rw [collect, Session.bind_apply, hw]
  rfl

/-- Runs are ordered exactly when the wait can be announced; the others do nothing. -/
theorem Engine.collect_ordered_iff (engine : Engine) (s : Surroundings σ) (j : Journal σ) :
    ((∃ xs es, j.Leads s.world xs es (engine.collect s j).2 ∧
        engine.Ran xs (engine.collect s j).1) ↔
      Readiness.Announces s engine.config.readiness) ∧
    (¬ Readiness.Announces s engine.config.readiness →
      engine.collect s j = (.error .budgetOverflow, j)) := by
  refine ⟨⟨?_, fun h => collect_does h j⟩, fun h => collect_overflows h j⟩
  rintro ⟨xs, es, _, hr⟩
  apply Classical.byContradiction
  intro h
  rw [collect_overflows h] at hr
  cases hr

/-- Nothing is configured but the interval, which is the longest that settings can ask for. -/
def Engine.longestInterval : Engine where
  config := ⟨⟨Policy.defaultService, Policy.defaultAttempts, 1000 * (Policy.secsBound - 1)⟩,
    Selector.byDefault, Path.command none⟩
  platform := .asked
  host := .asked

/-- With the longest interval and the log kept to the last debug event, not even a connection is
tried. -/
theorem Engine.longestInterval_unordered :
    ¬ ∃ xs es,
      (Journal.start ()).Leads World.unreachable xs es
        (Engine.longestInterval.collect ⟨World.unreachable, some .debug⟩ (.start ())).2 ∧
      Engine.longestInterval.Ran xs
        (Engine.longestInterval.collect ⟨World.unreachable, some .debug⟩ (.start ())).1 := by
  rintro ⟨xs, es, _, hr⟩
  have h : ¬ Readiness.Announces ⟨World.unreachable, some .debug⟩
      Engine.longestInterval.config.readiness := by
    intro ha
    exact ha (by decide) (by decide)
  rw [collect_overflows h] at hr
  cases hr

end HardwareFingerprint
