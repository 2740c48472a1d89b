import HardwareFingerprint.Version
import Mathlib.Data.List.DropRight

/-!
# The order of versions

The first place at which two versions have different numbers decides which of them comes first, and
a version counts as zero at the places beyond its end. Zeros at the end are therefore of no account:
the order is the lexicographic order of the numbers up to the last one that is not zero, and has
from there that it is total and transitive. Versions that are the same in it may still have
different texts, which the order never looks at.
-/
namespace HardwareFingerprint.Version

set_option autoImplicit false

/-- The number at a place, which is zero beyond the end. -/
def numberAt (v : Version) (i : Nat) : Nat :=
  v.components.getD i 0

/-- Some numbers without the zeros at their end. -/
def dropZeros (ns : List Nat) : List Nat :=
  ns.rdropWhile (· == 0)

/-- The numbers up to the last that is not zero. -/
def significant (v : Version) : List Nat :=
  dropZeros v.components

/-- Two lists are taken apart together, place by place, also when one of them has ended. -/
theorem tails_induction {motive : List Nat → List Nat → Prop} (nil : motive [] [])
    (step : ∀ as bs, motive as.tail bs.tail → motive as bs) (as bs : List Nat) : motive as bs := by
  generalize hn : max as.length bs.length = n
  induction n generalizing as bs with
  | zero =>
    obtain rfl : as = [] := List.eq_nil_of_length_eq_zero (by omega)
    obtain rfl : bs = [] := List.eq_nil_of_length_eq_zero (by omega)
    exact nil
  | succ n ih =>
    refine step as bs (ih as.tail bs.tail ?_)
    rw [List.length_tail, List.length_tail]
    omega

/-! ## The place that decides -/

/-- A list that has ended goes on with zeros. -/
theorem compareComponents_step (as bs : List Nat) :
    compareComponents as bs =
      (compare (as.headD 0) (bs.headD 0)).then (compareComponents as.tail bs.tail) := by
  cases as with
  | nil =>
    cases bs with
    | nil => rfl
    | cons b bs =>
      cases b with
      | zero => simp [compareComponents]
      | succ b => simp [compareComponents, Nat.compare_eq_lt.mpr (Nat.succ_pos b)]
  | cons a as =>
    cases bs with
    | cons b bs => rfl
    | nil =>
      cases a with
      | zero => cases as <;> simp [compareComponents]
      | succ a => simp [compareComponents, Nat.compare_eq_gt.mpr (Nat.succ_pos a)]

theorem getD_zero_eq_headD (ns : List Nat) : ns.getD 0 0 = ns.headD 0 := by
  cases ns <;> rfl

theorem getD_succ_eq_tail (ns : List Nat) (i : Nat) : ns.getD (i + 1) 0 = ns.tail.getD i 0 := by
  cases ns <;> rfl

/-- The numbers agree at all places, or the first place at which they do not decides. -/
theorem compareComponents_cases (as bs : List Nat) :
    ((∀ i, as.getD i 0 = bs.getD i 0) ∧ compareComponents as bs = .eq) ∨
    ∃ i, (∀ k < i, as.getD k 0 = bs.getD k 0) ∧ as.getD i 0 ≠ bs.getD i 0 ∧
      compareComponents as bs = compare (as.getD i 0) (bs.getD i 0) := by
  induction as, bs using tails_induction with
  | nil => exact .inl ⟨fun _ => rfl, rfl⟩
  | step as bs ih =>
    rw [compareComponents_step]
    by_cases hhead : as.headD 0 = bs.headD 0
    · rw [hhead, Nat.compare_eq_eq.mpr rfl, Ordering.eq_then]
      rcases ih with ⟨hall, heq⟩ | ⟨i, hbefore, hne, heq⟩
      · refine .inl ⟨?_, heq⟩
        intro i
        cases i with
        | zero => rw [getD_zero_eq_headD, getD_zero_eq_headD, hhead]
        | succ i => rw [getD_succ_eq_tail, getD_succ_eq_tail, hall]
      · refine .inr ⟨i + 1, ?_, ?_, ?_⟩
        · intro k hk
          cases k with
          | zero => rw [getD_zero_eq_headD, getD_zero_eq_headD, hhead]
          | succ k =>
            rw [getD_succ_eq_tail, getD_succ_eq_tail, hbefore k (Nat.lt_of_succ_lt_succ hk)]
        · rwa [getD_succ_eq_tail, getD_succ_eq_tail]
        · rwa [getD_succ_eq_tail, getD_succ_eq_tail]
    · refine .inr ⟨0, fun k hk => absurd hk (Nat.not_lt_zero k), ?_, ?_⟩
      · rwa [getD_zero_eq_headD, getD_zero_eq_headD]
      · rw [getD_zero_eq_headD, getD_zero_eq_headD]
        rcases Nat.lt_or_gt_of_ne hhead with h | h
        · rw [Nat.compare_eq_lt.mpr h, Ordering.lt_then]
        · rw [Nat.compare_eq_gt.mpr h, Ordering.gt_then]

theorem order_eq_lt_iff {a b : Version} :
    order a b = .lt ↔
      ∃ i, (∀ k < i, a.numberAt k = b.numberAt k) ∧ a.numberAt i < b.numberAt i := by
  rw [order]
  rcases compareComponents_cases a.components b.components with
    ⟨hall, heq⟩ | ⟨i, hbefore, hne, heq⟩
  · rw [heq]
    constructor
    · intro h
      cases h
    · rintro ⟨i, _, hlt⟩
      exact absurd (hall i) (Nat.ne_of_lt hlt)
  · rw [heq, Nat.compare_eq_lt]
    refine ⟨fun h => ⟨i, hbefore, h⟩, ?_⟩
    rintro ⟨k, hbefore', hlt⟩
    -- There is only one first place at which they differ.
    rcases Nat.lt_trichotomy i k with h | rfl | h
    · exact absurd (hbefore' i h) hne
    · exact hlt
    · exact absurd (hbefore k h) (Nat.ne_of_lt hlt)

/-! ## Without the zeros at the end -/

theorem dropZeros_cons (n : Nat) (ns : List Nat) :
    dropZeros (n :: ns) = if n = 0 ∧ dropZeros ns = [] then [] else n :: dropZeros ns := by
  induction ns using List.reverseRecOn with
  | nil => simp [dropZeros, List.rdropWhile_singleton]
  | append_singleton ns last ih =>
    rw [dropZeros, dropZeros, ← List.cons_append, List.rdropWhile_concat, List.rdropWhile_concat]
    split
    · exact ih
    · simp

theorem dropZeros_cons_of_ne {n : Nat} (h : n ≠ 0) (ns : List Nat) :
    dropZeros (n :: ns) = n :: dropZeros ns := by
  rw [dropZeros_cons, if_neg fun hn => h hn.1]

theorem compare_dropZeros_cons (a b : Nat) (as bs : List Nat) :
    compare (dropZeros (a :: as)) (dropZeros (b :: bs)) =
      (compare a b).then (compare (dropZeros as) (dropZeros bs)) := by
  rcases Nat.lt_trichotomy a b with h | rfl | h
  · rw [Nat.compare_eq_lt.mpr h, Ordering.lt_then, dropZeros_cons_of_ne (Nat.ne_zero_of_lt h),
      dropZeros_cons]
    split
    · exact List.compare_nil_cons
    · rw [List.compare_cons_cons, Nat.compare_eq_lt.mpr h, Ordering.lt_then]
  · rw [Nat.compare_eq_eq.mpr rfl, Ordering.eq_then]
    cases a with
    | zero =>
      rw [dropZeros_cons, dropZeros_cons]
      cases dropZeros as <;> cases dropZeros bs <;> simp
    | succ n =>
      rw [dropZeros_cons_of_ne (Nat.succ_ne_zero n), dropZeros_cons_of_ne (Nat.succ_ne_zero n),
        List.compare_cons_cons, Nat.compare_eq_eq.mpr rfl, Ordering.eq_then]
  · rw [Nat.compare_eq_gt.mpr h, Ordering.gt_then, dropZeros_cons_of_ne (Nat.ne_zero_of_lt h),
      dropZeros_cons]
    split
    · exact List.compare_cons_nil
    · rw [List.compare_cons_cons, Nat.compare_eq_gt.mpr h, Ordering.gt_then]

/-- An end is no different from a zero at the end. -/
theorem dropZeros_eq_cons (ns : List Nat) : dropZeros ns = dropZeros (ns.headD 0 :: ns.tail) := by
  cases ns <;> rfl

theorem compareComponents_eq_compare (as bs : List Nat) :
    compareComponents as bs = compare (dropZeros as) (dropZeros bs) := by
  induction as, bs using tails_induction with
  | nil => rfl
  | step as bs ih =>
    rw [compareComponents_step, ih, dropZeros_eq_cons as, dropZeros_eq_cons bs,
      compare_dropZeros_cons]

theorem order_eq_compare (a b : Version) : order a b = compare a.significant b.significant :=
  compareComponents_eq_compare a.components b.components

/-! ## Laws of the order -/

instance : Std.TransCmp order where
  eq_swap {a b} := by
    rw [order_eq_compare, order_eq_compare]
    exact Std.OrientedOrd.eq_swap
  isLE_trans {a b c} hab hbc := by
    rw [order_eq_compare] at hab hbc ⊢
    exact Std.TransOrd.isLE_trans hab hbc

theorem le_iff_isLE {a b : Version} : a ≤ b ↔ (order a b).isLE = true := by
  rw [Ordering.isLE_iff_ne_gt]
  exact Iff.rfl

theorem same_iff {a b : Version} : same a b = true ↔ order a b = .eq :=
  beq_iff_eq

/-- Any two versions compare, in one way only, and comparisons chain; a version can be exchanged for
one that is the same. The order is the lexicographic one of the numbers without the zeros at the
end, so the versions that are the same are those with the same numbers up to such zeros, and the
earlier version has the smaller number at the first place at which the two differ. -/
theorem order_lawful (a b c : Version) :
    order b a = (order a b).swap ∧
    (∀ o, order a b = o → order b c = o → order a c = o) ∧
    (a ≤ b ∨ b ≤ a) ∧ (a ≤ b → b ≤ c → a ≤ c) ∧
    (order a b = .eq → order a c = order b c) ∧
    compare? a b = some (order a b) ∧ (same a b = true ↔ order a b = .eq) ∧
    order a b = compare a.significant b.significant ∧
    (same a b = true ↔ a.significant = b.significant) ∧
    (order a b = .lt ↔
      ∃ i, (∀ k < i, a.numberAt k = b.numberAt k) ∧ a.numberAt i < b.numberAt i) := by
  have hswap : order b a = (order a b).swap := Std.OrientedCmp.eq_swap
  refine ⟨hswap, ?_, ?_, ?_, Std.TransCmp.congr_left, rfl, same_iff, order_eq_compare a b, ?_,
    order_eq_lt_iff⟩
  · intro o hab hbc
    cases o with
    | lt => exact Std.TransCmp.lt_trans hab hbc
    | eq => exact Std.TransCmp.eq_trans hab hbc
    | gt => exact Std.TransCmp.gt_trans hab hbc
  · rw [le_iff_isLE, le_iff_isLE, hswap]
    cases order a b <;> decide
  · rw [le_iff_isLE, le_iff_isLE, le_iff_isLE]
    exact Std.TransCmp.isLE_trans
  · rw [same_iff, order_eq_compare, Std.LawfulEqOrd.compare_eq_iff_eq]

end HardwareFingerprint.Version
