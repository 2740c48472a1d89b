import HardwareFingerprint.Proofs.Run.Gate
import HardwareFingerprint.Scripted

/-!
# How long a wait lasts

Whatever there is to be answered, a wait polls and pauses in turn and stops at the first answer
that says running, or when the attempts are used up. The answers decide everything that can be
observed of it. Durations are only compared and added up here, so nothing depends on their unit.
-/
namespace HardwareFingerprint.Readiness

set_option autoImplicit false

/-- So many rounds, each a poll and a pause. -/
def rounds (p : Policy) (n : Nat) : List Call :=
  (List.replicate n [Call.queryStatus, Call.pause p.interval]).flatten

/-- How often the state is asked. -/
def polls (calls : List Call) : Nat :=
  calls.count .queryStatus

/-- The durations of the pauses, in order. -/
def pauses (calls : List Call) : List Nat :=
  calls.filterMap fun
    | .pause duration => some duration
    | _ => none

def timePaused (calls : List Call) : Nat :=
  (pauses calls).foldr (· + ·) 0

/-- The calls and the result of a wait, by what there is to be answered to each of its polls. -/
structure Settled (p : Policy) (answers : Nat → Except Failure ServiceState) (calls : List Call)
    (result : Except Failure Unit) : Prop where
  ok_iff : result = .ok () ↔ ∃ k < p.attempts, answers k = .ok .running
  found : ∀ k < p.attempts, (∀ i < k, answers i ≠ .ok .running) → answers k = .ok .running →
    polls calls = k + 1 ∧ (pauses calls).length = k
  gaveUp : (∀ k < p.attempts, answers k ≠ .ok .running) →
    polls calls = p.attempts ∧ (pauses calls).length = p.attempts ∧
      result = .error (.serviceUnavailable p.service p.attempts)
  alternating : calls <+: rounds p p.attempts
  interval : ∀ duration ∈ pauses calls, duration = p.interval
  -- A failure to answer is never passed on.
  failure : ∀ e, result = .error e → e = .serviceUnavailable p.service p.attempts
  paused_le : timePaused calls ≤ p.budget
  paused_of_failure : ∀ e, result = .error e → timePaused calls = p.budget
  failure_of_paused : 0 < p.interval → timePaused calls = p.budget → ∃ e, result = .error e

/-! ## Rounds -/

theorem rounds_succ (p : Policy) (n : Nat) :
    rounds p (n + 1) = .queryStatus :: .pause p.interval :: rounds p n := rfl

@[simp] theorem polls_rounds (p : Policy) (n : Nat) : polls (rounds p n) = n := by
  induction n with
  | zero => rfl
  | succ n ih =>
    rw [rounds_succ, polls, List.count_cons_self, List.count_cons_of_ne (by simp)]
    exact congrArg Nat.succ ih

@[simp] theorem pauses_rounds (p : Policy) (n : Nat) :
    pauses (rounds p n) = List.replicate n p.interval := by
  induction n with
  | zero => rfl
  | succ n ih =>
    rw [rounds_succ, List.replicate_succ, ← ih]
    rfl

theorem timePaused_of_pauses {calls : List Call} {duration n : Nat}
    (h : pauses calls = List.replicate n duration) : timePaused calls = duration * n := by
  rw [timePaused, h]
  clear h
  induction n with
  | zero => rfl
  | succ n ih => rw [List.replicate_succ, List.foldr_cons, ih, Nat.mul_succ, Nat.add_comm]

@[simp] theorem polls_append (xs ys : List Call) : polls (xs ++ ys) = polls xs + polls ys :=
  List.count_append

@[simp] theorem pauses_append (xs ys : List Call) : pauses (xs ++ ys) = pauses xs ++ pauses ys :=
  List.filterMap_append

theorem rounds_add (p : Policy) (m n : Nat) : rounds p (m + n) = rounds p m ++ rounds p n := by
  rw [rounds, ← List.replicate_append_replicate, List.flatten_append, rounds, rounds]

/-- A poll after some rounds is a prefix of more rounds. -/
theorem rounds_poll_prefix (p : Policy) {k n : Nat} (h : k < n) :
    rounds p k ++ [.queryStatus] <+: rounds p n := by
  obtain ⟨m, rfl⟩ := Nat.exists_eq_add_of_lt h
  refine ⟨.pause p.interval :: rounds p m, ?_⟩
  rw [Nat.add_assoc, rounds_add, rounds_succ]
  simp

theorem map_call_missed (p : Policy) (misses : List (Except Failure ServiceState)) :
    (misses.flatMap (missed p)).map Exchange.call = rounds p misses.length := by
  induction misses with
  | nil => rfl
  | cons miss misses ih =>
    rw [List.flatMap_cons, List.map_append, ih, List.length_cons, rounds_succ]
    rfl

/-! ## Answers -/

variable {σ : Type}

/-- The answer that there is to the poll after `k` rounds. The outside goes on with each call, also
with a pause. -/
def answerAfter (w : World σ) (p : Policy) : Nat → σ → Except Failure ServiceState
  | 0, t => (w .queryStatus t).1
  | k + 1, t => answerAfter w p k (w (.pause p.interval) (w .queryStatus t).2).2

/-- Every list of answers is one that some outside has for a wait. -/
theorem answerAfter_script (p : Policy) (script : Script) (k : Nat) :
    answerAfter Script.world p k script = script.states.getD k (.ok .stopped) := by
  induction k generalizing script with
  | zero => cases hstates : script.states <;> simp [answerAfter, Script.world, hstates]
  | succ k ih =>
    rw [answerAfter, ih]
    cases hstates : script.states <;> simp [Script.world, hstates]

theorem answerAfter_of_answers {w : World σ} {p : Policy}
    {misses : List (Except Failure ServiceState)} {xs : List Exchange} {t t' : σ}
    (h : w.Answers t (misses.flatMap (missed p) ++ xs) t') :
    (∀ i, (hi : i < misses.length) → answerAfter w p i t = misses[i]) ∧
      ∀ answer, xs = [⟨.queryStatus, answer⟩] → answerAfter w p misses.length t = answer := by
  induction misses generalizing t with
  | nil =>
    refine ⟨fun i hi => absurd hi (Nat.not_lt_zero i), ?_⟩
    rintro answer rfl
    exact h.1.symm
  | cons miss misses ih =>
    obtain ⟨hmiss, _, hrest⟩ := h
    obtain ⟨hmisses, hlast⟩ := ih hrest
    refine ⟨?_, hlast⟩
    intro i hi
    cases i with
    | zero => exact hmiss.symm
    | succ i => exact hmisses i (Nat.lt_of_succ_lt_succ hi)

/-- The first answer that says running ends the wait if it is among the attempts. -/
theorem wait_cases (s : Surroundings σ) (p : Policy) (j : Journal σ) :
    (∃ k < p.attempts, (∀ i < k, answerAfter s.world p i j.state ≠ .ok .running) ∧
      answerAfter s.world p k j.state = .ok .running ∧ (wait p s j).1 = .ok () ∧
      (wait p s j).2.calls.toList = j.calls.toList ++ (rounds p k ++ [.queryStatus])) ∨
    ((∀ i < p.attempts, answerAfter s.world p i j.state ≠ .ok .running) ∧
      (wait p s j).1 = .error (unavailable p) ∧
      (wait p s j).2.calls.toList = j.calls.toList ++ rounds p p.attempts) := by
  obtain ⟨xs, es, hleads, hwaited⟩ := poll_does s p p.attempts 1 j
  have hanswered := hleads.answered
  have hcalls := hleads.calls
  rw [← wait] at hwaited hanswered hcalls
  generalize (wait p s j).1 = result at hwaited ⊢
  cases hwaited with
  | found misses hmisses hlength =>
    obtain ⟨hbefore, hlast⟩ := answerAfter_of_answers hanswered
    refine .inl ⟨misses.length, hlength, ?_, hlast _ rfl, rfl, ?_⟩
    · intro i hi hrunning
      exact hmisses (hrunning ▸ hbefore i hi ▸ List.getElem_mem hi)
    · rw [hcalls, List.map_append, map_call_missed]
      rfl
  | gaveUp misses hmisses hlength =>
    rw [← List.append_nil (misses.flatMap _)] at hanswered
    obtain ⟨hbefore, _⟩ := answerAfter_of_answers hanswered
    refine .inr ⟨?_, rfl, ?_⟩
    · intro i hi hrunning
      rw [← hlength] at hi
      exact hmisses (hrunning ▸ hbefore i hi ▸ List.getElem_mem hi)
    · rw [hcalls, map_call_missed, hlength]

theorem Settled.of_found {p : Policy} {answers : Nat → Except Failure ServiceState} {k : Nat}
    (hk : k < p.attempts) (hbefore : ∀ i < k, answers i ≠ .ok .running)
    (hrunning : answers k = .ok .running) :
    Settled p answers (rounds p k ++ [.queryStatus]) (.ok ()) := by
  have hpolls : polls (rounds p k ++ [.queryStatus]) = k + 1 := by
    rw [polls_append, polls_rounds]
    rfl
  have hpauses : pauses (rounds p k ++ [.queryStatus]) = List.replicate k p.interval := by
    rw [pauses_append, pauses_rounds]
    exact List.append_nil _
  have htime : timePaused (rounds p k ++ [.queryStatus]) = p.interval * k :=
    timePaused_of_pauses hpauses
  refine
    { ok_iff := ⟨fun _ => ⟨k, hk, hrunning⟩, fun _ => rfl⟩
      found := ?_
      gaveUp := fun hnone => absurd hrunning (hnone k hk)
      alternating := rounds_poll_prefix p hk
      interval := fun duration hd => List.eq_of_mem_replicate (hpauses ▸ hd)
      failure := nofun
      paused_le := ?_
      paused_of_failure := nofun
      failure_of_paused := ?_ }
  · intro i _ hi hfirst
    -- There is only one first answer that says running.
    have hik : i = k := by
      rcases Nat.lt_trichotomy i k with h | h | h
      · exact absurd hfirst (hbefore i h)
      · exact h
      · exact absurd hrunning (hi k h)
    rw [hik, hpolls, hpauses, List.length_replicate]
    exact ⟨rfl, rfl⟩
  · rw [htime]
    exact Nat.mul_le_mul_left p.interval (Nat.le_of_lt hk)
  · intro hpos hpaused
    have hless : p.interval * k < p.budget := Nat.mul_lt_mul_of_pos_left hk hpos
    exact absurd (htime.symm.trans hpaused) (Nat.ne_of_lt hless)

theorem Settled.of_gaveUp {p : Policy} {answers : Nat → Except Failure ServiceState}
    (hnone : ∀ k < p.attempts, answers k ≠ .ok .running) :
    Settled p answers (rounds p p.attempts) (.error (unavailable p)) := by
  have htime : timePaused (rounds p p.attempts) = p.budget :=
    timePaused_of_pauses (pauses_rounds p p.attempts)
  refine
    { ok_iff := ⟨nofun, fun ⟨k, hk, hrunning⟩ => absurd hrunning (hnone k hk)⟩
      found := fun k hk _ hrunning => absurd hrunning (hnone k hk)
      gaveUp := fun _ => ⟨polls_rounds p _, ?_, rfl⟩
      alternating := List.prefix_rfl
      interval := fun duration hd => List.eq_of_mem_replicate (pauses_rounds p _ ▸ hd)
      failure := fun _ h => (Except.error.inj h).symm
      paused_le := Nat.le_of_eq htime
      paused_of_failure := fun _ _ => htime
      failure_of_paused := fun _ _ => ⟨_, rfl⟩ }
  rw [pauses_rounds, List.length_replicate]

/-- A wait is settled by the answers to its polls: it succeeds exactly if one of the attempts is
answered with running, the first such answer is its last call, and otherwise it goes through all of
its attempts and says that the service is unavailable. What the other answers are makes no
difference, and no failure among them is passed on. -/
theorem wait_settled {σ : Type} (s : Surroundings σ) (p : Policy) (j : Journal σ) :
    ∃ calls, (wait p s j).2.calls.toList = j.calls.toList ++ calls ∧
      Settled p (fun k => answerAfter s.world p k j.state) calls (wait p s j).1 := by
  rcases wait_cases s p j with ⟨k, hk, hbefore, hrunning, hok, hcalls⟩ | ⟨hnone, herror, hcalls⟩
  · exact ⟨_, hcalls, hok ▸ .of_found hk hbefore hrunning⟩
  · exact ⟨_, hcalls, herror ▸ .of_gaveUp hnone⟩

end HardwareFingerprint.Readiness
