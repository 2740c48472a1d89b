import HardwareFingerprint.Numeral.Decimal

/-!
# Reading decimal digits

A run of digits is read as the number that it denotes, however long the run is and however many
zeros it starts with, if that number is below the bound. Otherwise the number is too large, and
nothing else can be wrong with digits. Only digits are read, but for a plus sign before them.
-/
namespace HardwareFingerprint.Numeral

set_option autoImplicit false

theorem le_ofDigitChars (ds : List Char) (n : Nat) : n ≤ Nat.ofDigitChars 10 ds n := by
  have hpos : 1 ≤ 10 ^ ds.length := Nat.one_le_pow _ _ (by decide)
  have hle : 1 * n ≤ 10 ^ ds.length * n := Nat.mul_le_mul_right n hpos
  rw [Nat.ofDigitChars_eq_ofDigitChars_zero]
  omega

/-- The bound is looked at after each digit, and only the whole number counts. -/
theorem digitsFrom_eq {bound : Nat} {ds : List Char} (hds : ∀ c ∈ ds, c.isDigit = true) {n : Nat}
    (hn : n < bound) :
    digitsFrom bound n ds =
      if Nat.ofDigitChars 10 ds n < bound then .ok (Nat.ofDigitChars 10 ds n)
      else .error .tooLarge := by
  induction ds generalizing n with
  | nil => rw [digitsFrom, Nat.ofDigitChars_nil, if_pos hn]
  | cons c ds ih =>
    obtain ⟨hc, hds⟩ := List.forall_mem_cons.mp hds
    have hnext : n * 10 + (c.toNat - '0'.toNat) = 10 * n + (c.toNat - '0'.toNat) := by omega
    rw [digitsFrom, Text.digitValue?_eq (by rwa [Text.isDigit_eq]), Nat.ofDigitChars_cons]
    simp only [hnext]
    by_cases hlt : 10 * n + (c.toNat - '0'.toNat) < bound
    · rw [if_pos hlt, ih hds hlt]
    · -- Further digits only make the number larger.
      have hle := le_ofDigitChars ds (10 * n + (c.toNat - '0'.toNat))
      rw [if_neg hlt, if_neg (by omega)]

theorem readBelow_cons {bound : Nat} {c : Char} (h : c ≠ '+') (cs : List Char) :
    readBelow bound (c :: cs) = digitsFrom bound 0 (c :: cs) := by
  rw [readBelow]
  · exact fun hc _ => h hc
  · exact fun c' cs' hc _ => h hc

theorem readBelow_digits {bound : Nat} (hbound : 0 < bound) {ds : List Char} (hne : ds ≠ [])
    (hds : ∀ c ∈ ds, c.isDigit = true) :
    readBelow bound ds =
      if Nat.ofDigitChars 10 ds 0 < bound then .ok (Nat.ofDigitChars 10 ds 0)
      else .error .tooLarge := by
  rw [← digitsFrom_eq hds hbound]
  cases ds with
  | nil => exact absurd rfl hne
  | cons c ds =>
    have hplus : c ≠ '+' := by
      rintro rfl
      exact absurd (hds '+' List.mem_cons_self) (by decide)
    rw [readBelow_cons hplus]

/-- The text is an optional plus sign and one or more digits that denote the number. -/
inductive Denotes : List Char → Nat → Prop
  | digits {ds : List Char} : ds ≠ [] → (∀ c ∈ ds, c.isDigit = true) →
      Denotes ds (Nat.ofDigitChars 10 ds 0)
  | plus {ds : List Char} : ds ≠ [] → (∀ c ∈ ds, c.isDigit = true) →
      Denotes ('+' :: ds) (Nat.ofDigitChars 10 ds 0)

theorem Denotes.ne_nil {cs : List Char} {n : Nat} (h : Denotes cs n) : cs ≠ [] := by
  cases h with
  | digits hne _ => exact hne
  | plus _ _ => exact List.cons_ne_nil _ _

/-- No character that is not a digit is read over. -/
theorem isDigit_of_digitsFrom {bound acc n : Nat} {cs : List Char}
    (h : digitsFrom bound acc cs = .ok n) : ∀ c ∈ cs, c.isDigit = true := by
  induction cs generalizing acc with
  | nil => exact List.forall_mem_nil _
  | cons c cs ih =>
    rw [digitsFrom] at h
    cases hc : Text.digitValue? c with
    | none =>
      rw [hc] at h
      cases h
    | some d =>
      have hdigit : c.isDigit = true := by
        rw [← Text.isDigit_eq, Text.isDigit, hc]
        rfl
      simp only [hc] at h
      split at h
      · exact List.forall_mem_cons.mpr ⟨hdigit, ih h⟩
      · cases h

theorem denotes_of_digitsFrom {bound n : Nat} (hbound : 0 < bound) {cs : List Char}
    (h : digitsFrom bound 0 cs = .ok n) :
    (∀ c ∈ cs, c.isDigit = true) ∧ n = Nat.ofDigitChars 10 cs 0 ∧ n < bound := by
  have hdigits := isDigit_of_digitsFrom h
  rw [digitsFrom_eq hdigits hbound] at h
  split at h
  · next hlt =>
    obtain rfl := Except.ok.inj h
    exact ⟨hdigits, rfl, hlt⟩
  · cases h

/-- What is read is what the text denotes, if that is below the bound. -/
theorem readBelow_eq_ok_iff {bound : Nat} (hbound : 0 < bound) {cs : List Char} {n : Nat} :
    readBelow bound cs = .ok n ↔ Denotes cs n ∧ n < bound := by
  constructor
  · intro h
    cases cs with
    | nil => cases h
    | cons c cs =>
      by_cases hplus : c = '+'
      · subst hplus
        cases cs with
        | nil => cases h
        | cons c cs =>
          obtain ⟨hdigits, rfl, hlt⟩ := denotes_of_digitsFrom hbound h
          exact ⟨.plus (List.cons_ne_nil c cs) hdigits, hlt⟩
      · rw [readBelow_cons hplus] at h
        obtain ⟨hdigits, rfl, hlt⟩ := denotes_of_digitsFrom hbound h
        exact ⟨.digits (List.cons_ne_nil c cs) hdigits, hlt⟩
  · rintro ⟨hn, hlt⟩
    cases hn with
    | digits hne hdigits => rw [readBelow_digits hbound hne hdigits, if_pos hlt]
    | @plus ds hne hdigits =>
      obtain ⟨c, cs, rfl⟩ := List.exists_cons_of_ne_nil hne
      rw [readBelow, digitsFrom_eq hdigits hbound, if_pos hlt]

theorem isDigit_of_mem_digits {n : Nat} {c : Char} (h : c ∈ digits n) : c.isDigit = true :=
  Nat.isDigit_of_mem_toDigits (by decide) (by decide) h

/-- The digits of a number denote it alone. -/
theorem denotes_digits_iff {n m : Nat} : Denotes (digits n) m ↔ m = n := by
  have hvalue : Nat.ofDigitChars 10 (digits n) 0 = n := Nat.ofDigitChars_ten_toDigits
  constructor
  · intro h
    generalize hds : digits n = ds at h
    cases h with
    | digits _ _ => rw [← hds, hvalue]
    | plus _ _ =>
      have hplus : '+' ∈ digits n := hds ▸ List.mem_cons_self
      exact absurd (isDigit_of_mem_digits hplus) (by decide)
  · rintro rfl
    have hne : digits m ≠ [] := Nat.toDigits_ne_nil
    have h := Denotes.digits hne fun c hc => isDigit_of_mem_digits hc
    rwa [hvalue] at h

end HardwareFingerprint.Numeral
