import HardwareFingerprint.Proofs.Session.Transcript
import HardwareFingerprint.Readiness

/-!
# The calls of the readiness gate

The gate connects, opens the service of its policy and asks for its state in rounds. A round that
does not find the service running, for whatever reason, ends with one pause. The first answer that
says running ends the gate, and so does the last of the attempts. `Gated` holds of exactly these
dialogues and of the result that each of them has.
-/
namespace HardwareFingerprint.Readiness

set_option autoImplicit false

/-- A round in which the service is not found running: the answer, and the pause after it. -/
def missed (p : Policy) (answer : Except Failure ServiceState) : List Exchange :=
  [⟨.queryStatus, answer⟩, ⟨.pause p.interval, ()⟩]

/-- The rounds of a wait of so many attempts, and its result. No miss says running. -/
inductive Waited (p : Policy) (attempts : Nat) : List Exchange → Except Failure Unit → Prop
  | found (misses : List (Except Failure ServiceState)) :
      .ok .running ∉ misses → misses.length < attempts →
      Waited p attempts (misses.flatMap (missed p) ++ [⟨.queryStatus, .ok .running⟩]) (.ok ())
  | gaveUp (misses : List (Except Failure ServiceState)) :
      .ok .running ∉ misses → misses.length = attempts →
      Waited p attempts (misses.flatMap (missed p)) (.error (unavailable p))

/-- The dialogue of the gate, and its result. -/
inductive Gated (p : Policy) : List Exchange → Except Failure Unit → Prop
  | unconnected (e : Failure) : Gated p [⟨.connect, .error e⟩] (.error e)
  | unopened (e : Failure) :
      Gated p [⟨.connect, .ok ()⟩, ⟨.openService p.service, .error e⟩] (.error e)
  | waited {xs : List Exchange} {r : Except Failure Unit} : Waited p p.attempts xs r →
      Gated p (⟨.connect, .ok ()⟩ :: ⟨.openService p.service, .ok ()⟩ :: xs) r

/-- A miss before a wait uses up one of the attempts. -/
theorem Waited.miss {p : Policy} {left : Nat} {xs : List Exchange} {r : Except Failure Unit}
    {answer : Except Failure ServiceState} (ha : answer ≠ .ok .running)
    (h : Waited p left xs r) :
    Waited p (left + 1) (⟨.queryStatus, answer⟩ :: ⟨.pause p.interval, ()⟩ :: xs) r := by
  cases h with
  | found misses hm hl =>
    refine Waited.found (answer :: misses) ?_ (Nat.succ_lt_succ hl)
    simp [hm, Ne.symm ha]
  | gaveUp misses hm hl =>
    refine Waited.gaveUp (answer :: misses) ?_ (congrArg Nat.succ hl)
    simp [hm, Ne.symm ha]

variable {σ : Type} (s : Surroundings σ)

theorem poll_does (p : Policy) (left attempt : Nat) :
    (poll p left attempt).Does s fun xs _ r => Waited p left xs r := by
  -- The number of the attempt goes into events only, so the induction is for all of them.
  induction left generalizing attempt with
  | zero => exact .pure (.gaveUp [] (by simp) rfl)
  | succ left ih =>
    refine .ask_bind fun answer => ?_
    split
    · exact .pure (.found [] (by simp) (Nat.succ_pos left))
    · next state hs =>
      refine .tell_bind (.ask_bind fun _ => (ih (attempt + 1)).mono fun xs _ r h => ?_)
      exact h.miss (by simpa using hs)
    · exact .tell_bind (.ask_bind fun _ => (ih (attempt + 1)).mono fun xs _ r h => h.miss (by simp))

theorem gate_does (p : Policy) : (gate p).Does s fun xs _ r => Gated p xs r := by
  refine .ask_bind fun connected => ?_
  split
  · next e => exact .pure (.unconnected e)
  · refine .ask_bind fun opened => ?_
    split
    · next e => exact .pure (.unopened e)
    · refine (poll_does s p p.attempts 1).bind fun xs _ r h => ?_
      split
      · exact .pure (by simpa using .waited h)
      · exact .tell_bind (.pure (by simpa using .waited h))

end HardwareFingerprint.Readiness
