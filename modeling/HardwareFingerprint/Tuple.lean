/-!
# Tuples over a list of names

A tuple holds one value for each entry of a list, each of the type that belongs to its entry. A pass
over a tuple, or over the entries alone, may fail at an entry and then gives no tuple. What an entry
gives depends on no other entry, so passes can be joined and their entries looked at one by one.
-/
namespace HardwareFingerprint

set_option autoImplicit false

/-- One value for each entry of the list. -/
def Tuple {Key : Type} (Value : Key → Type) : List Key → Type
  | [] => Unit
  | k :: ks => Value k × Tuple Value ks

namespace Tuple

variable {Key : Type} {Value A B C : Key → Type}

/-- The values by a function of the entry and the value, in the order of the list. -/
def toList {α : Type} (f : (k : Key) → Value k → α) : (ks : List Key) → Tuple Value ks → List α
  | [], _ => []
  | k :: ks, (v, vs) => f k v :: toList f ks vs

/-- The values that a function makes of those of a tuple, if it makes one of each. -/
def traverse (f : (k : Key) → A k → Option (B k)) :
    (ks : List Key) → Tuple A ks → Option (Tuple B ks)
  | [], _ => some ()
  | k :: ks, (a, as) => do
    let b ← f k a
    let bs ← traverse f ks as
    some (b, bs)

/-- One value for each entry, if there is one for all of them. -/
def collect (g : (k : Key) → Option (B k)) : (ks : List Key) → Option (Tuple B ks)
  | [] => some ()
  | k :: ks => do
    let b ← g k
    let bs ← collect g ks
    some (b, bs)

/-- A tuple is given if its first value and its rest are. -/
theorem cons_eq_some_iff {k : Key} {ks : List Key} {x : Option (B k)} {y : Option (Tuple B ks)}
    {b : B k} {bs : Tuple B ks} :
    (do let b ← x; let bs ← y; some (b, bs)) = (some (b, bs) : Option (Tuple B (k :: ks))) ↔
      x = some b ∧ y = some bs := by
  constructor
  · intro h
    obtain ⟨_, hx, h⟩ := Option.bind_eq_some_iff.mp h
    obtain ⟨_, hy, h⟩ := Option.bind_eq_some_iff.mp h
    cases h
    exact ⟨hx, hy⟩
  · rintro ⟨rfl, rfl⟩
    rfl

theorem collect_cons_eq_some_iff {g : (k : Key) → Option (B k)} {k : Key} {ks : List Key} {b : B k}
    {bs : Tuple B ks} :
    collect g (k :: ks) = some (b, bs) ↔ g k = some b ∧ collect g ks = some bs :=
  cons_eq_some_iff

theorem collect_congr {g g' : (k : Key) → Option (B k)} {ks : List Key}
    (h : ∀ k ∈ ks, g k = g' k) : collect g ks = collect g' ks := by
  induction ks with
  | nil => rfl
  | cons k ks ih =>
    obtain ⟨hk, hks⟩ := List.forall_mem_cons.mp h
    rw [collect, collect, hk, ih hks]

theorem collect_eq_none {g : (k : Key) → Option (B k)} {k : Key} {ks : List Key} (hk : k ∈ ks)
    (h : g k = none) : collect g ks = none := by
  induction ks with
  | nil => cases hk
  | cons k' ks ih =>
    rw [collect]
    rcases List.mem_cons.mp hk with rfl | hk
    · rw [h]
      rfl
    · rw [ih hk]
      cases g k' <;> rfl

/-- Entries that a function leaves alone stay as they are. -/
theorem traverse_eq_some {f : (k : Key) → A k → Option (A k)} {ks : List Key}
    (h : ∀ k ∈ ks, ∀ a, f k a = some a) (as : Tuple A ks) : traverse f ks as = some as := by
  induction ks with
  | nil => rfl
  | cons k ks ih =>
    obtain ⟨a, as⟩ := as
    obtain ⟨hk, hks⟩ := List.forall_mem_cons.mp h
    rw [traverse, hk a, ih hks as]
    rfl

/-- Two passes over a tuple are one, since no entry's failure depends on another entry. -/
theorem traverse_bind (f : (k : Key) → A k → Option (B k)) (g : (k : Key) → B k → Option (C k))
    (ks : List Key) (as : Tuple A ks) :
    (traverse f ks as >>= traverse g ks) = traverse (fun k a => f k a >>= g k) ks as := by
  induction ks with
  | nil => rfl
  | cons k ks ih =>
    obtain ⟨a, as⟩ := as
    -- The entries after the first may fail before the first entry's second pass does.
    have first : ∀ (x : Option (B k)) (y : Option (Tuple B ks)),
        ((do let b ← x; let bs ← y; some (b, bs)) >>= traverse g (k :: ks)) =
          (do let c ← x >>= g k; let cs ← y >>= traverse g ks; some (c, cs)) := by
      intro x y
      cases x with
      | none => rfl
      | some b =>
        cases y with
        | none => cases h : g k b <;> simp [h]
        | some bs => rfl
    exact (first (f k a) (traverse f ks as)).trans (by rw [ih]; rfl)

end Tuple

end HardwareFingerprint
