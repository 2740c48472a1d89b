import HardwareFingerprint.Json.Writer
import HardwareFingerprint.Proofs.Json.Reading
import HardwareFingerprint.Proofs.Numeral.Decimal

/-!
# Written numbers and texts

The digits of a number are a number of the grammar, and a number below `2 ^ 64` is read back from
them. Every character of a text is written as a piece that stands for it, so a text is read back
whatever its characters are. Neither form has control characters.
-/
namespace HardwareFingerprint.Json

set_option autoImplicit false

/-! ## Digits -/

theorem allDigits_digits (n : Nat) : AllDigits (Numeral.digits n) := by
  intro c hc
  rw [Text.isDigit_eq]
  exact Numeral.isDigit_of_mem_digits hc

theorem exists_digitChar {c : Char} (h : Text.isDigit c = true) :
    ∃ d < 10, Nat.digitChar d = c := by
  rw [Text.isDigit_eq, Char.isDigit, Bool.and_eq_true, decide_eq_true_eq, decide_eq_true_eq] at h
  have hlow : 48 ≤ c.toNat := h.1
  have hhigh : c.toNat ≤ 57 := h.2
  refine ⟨c.toNat - 48, by omega, Char.toNat_inj.mp ?_⟩
  rw [Nat.toNat_digitChar_of_lt_ten (by omega)]
  omega

/-- Only zero is written with a leading zero. -/
theorem exists_digits_eq_cons {n : Nat} (hn : n ≠ 0) :
    ∃ c ds, Numeral.digits n = c :: ds ∧ c ≠ '0' := by
  induction n using Nat.strongRecOn with
  | ind n ih =>
    by_cases hlt : n < 10
    · refine ⟨Nat.digitChar n, [], Nat.toDigits_of_lt_base hlt, ?_⟩
      rwa [Ne, Nat.digitChar_eq_zero]
    · have hle : 10 ≤ n := by omega
      -- The first digit is that of the number without its last digit, which is smaller.
      obtain ⟨c, ds, hds, hc⟩ := ih (n / 10) (by omega) (by omega)
      refine ⟨c, ds ++ [Nat.digitChar (n % 10)], ?_, hc⟩
      rw [Numeral.digits] at hds ⊢
      rw [Nat.toDigits_of_base_le (by decide) hle, hds]
      rfl

theorem wholePart_digits (n : Nat) : WholePart (Numeral.digits n) := by
  have hall := allDigits_digits n
  by_cases hn : n = 0
  · rw [hn]
    exact .zero
  · obtain ⟨c, ds, hds, hc⟩ := exists_digits_eq_cons hn
    rw [hds] at hall ⊢
    obtain ⟨hd, hall⟩ := List.forall_mem_cons.mp hall
    exact .digits hd hc hall

theorem unsigned_digits (n : Nat) : Unsigned (Numeral.digits n) := by
  have h := Unsigned.mk (wholePart_digits n) .absent .absent
  rwa [List.append_nil, List.append_nil] at h

/-- Digits after those of a number that is not zero are digits of a larger number. -/
theorem digits_append {n : Nat} (hn : 0 < n) {ds : List Char} (hds : AllDigits ds) :
    Numeral.digits n ++ ds = Numeral.digits (Nat.ofDigitChars 10 ds n) := by
  induction ds generalizing n with
  | nil => rw [List.append_nil, Nat.ofDigitChars_nil]
  | cons c ds ih =>
    obtain ⟨hc, hrest⟩ := List.forall_mem_cons.mp hds
    obtain ⟨d, hd, rfl⟩ := exists_digitChar hc
    have hnext : Numeral.digits n ++ [Nat.digitChar d] = Numeral.digits (10 * n + d) := by
      rw [Numeral.digits, ← Nat.toDigits_of_lt_base hd,
        Nat.toDigits_append_toDigits (by decide) hn hd]
      rfl
    rw [List.append_cons, hnext, ih (by omega) hrest,
      Nat.ofDigitChars_cons_digitChar_of_lt_ten hd]

/-- A whole part is how its number is written. -/
theorem WholePart.digits_value {ds : List Char} (h : WholePart ds) :
    Numeral.digits (Nat.ofDigitChars 10 ds 0) = ds := by
  cases h with
  | zero => rfl
  | @digits c ds hc hz hds =>
    obtain ⟨d, hd, rfl⟩ := exists_digitChar hc
    have hpos : 0 < d := Nat.pos_of_ne_zero (mt Nat.digitChar_eq_zero.mpr hz)
    rw [Nat.ofDigitChars_cons_digitChar_of_lt_ten hd, Nat.mul_zero, Nat.zero_add,
      ← digits_append hpos hds, Numeral.digits, Nat.toDigits_of_lt_base hd]
    rfl

theorem appendDigits_cons {c : Char} (h : Text.isDigit c = true) (n : Nat) (ds : List Char) :
    appendDigits n (c :: ds) =
      if 10 * n + (c.toNat - '0'.toNat) < Numeral.countOf 64 then
        ((appendDigits (10 * n + (c.toNat - '0'.toNat)) ds).1,
          (appendDigits (10 * n + (c.toNat - '0'.toNat)) ds).2 + 1)
      else (n, 0) := by
  have hnext : n * 10 + (Text.digitValue? c).getD 0 = 10 * n + (c.toNat - '0'.toNat) := by
    rw [Text.digitValue?_eq h, Option.getD_some]
    omega
  rw [appendDigits, hnext]

/-- A significand that stays below the bound takes all digits. -/
theorem appendDigits_of_lt {ds : List Char} (hds : AllDigits ds) {n : Nat}
    (h : Nat.ofDigitChars 10 ds n < Numeral.countOf 64) :
    appendDigits n ds = (Nat.ofDigitChars 10 ds n, ds.length) := by
  induction ds generalizing n with
  | nil => rfl
  | cons c ds ih =>
    obtain ⟨hc, hds⟩ := List.forall_mem_cons.mp hds
    rw [Nat.ofDigitChars_cons] at h ⊢
    -- Further digits only make the number larger, so it was below the bound before them.
    have hlt : 10 * n + (c.toNat - '0'.toNat) < Numeral.countOf 64 :=
      Nat.lt_of_le_of_lt (Numeral.le_ofDigitChars ds _) h
    rw [appendDigits_cons hc, if_pos hlt, ih hds h, List.length_cons]

/-- A significand that would leave the bound takes fewer. -/
theorem appendDigits_of_le {ds : List Char} (hds : AllDigits ds) {n : Nat}
    (hn : n < Numeral.countOf 64) (h : Numeral.countOf 64 ≤ Nat.ofDigitChars 10 ds n) :
    (appendDigits n ds).2 < ds.length := by
  induction ds generalizing n with
  | nil => exact absurd hn (Nat.not_lt.mpr h)
  | cons c ds ih =>
    obtain ⟨hc, hds⟩ := List.forall_mem_cons.mp hds
    rw [Nat.ofDigitChars_cons] at h
    rw [appendDigits_cons hc, List.length_cons]
    split
    · next hlt => exact Nat.succ_lt_succ (ih hds hlt h)
    · exact Nat.succ_pos _

theorem appendDigits_digits {n : Nat} (hn : n < Numeral.countOf 64) :
    appendDigits 0 (Numeral.digits n) = (n, (Numeral.digits n).length) := by
  have hvalue : Nat.ofDigitChars 10 (Numeral.digits n) 0 = n := Nat.ofDigitChars_ten_toDigits
  have h := appendDigits_of_lt (allDigits_digits n) (by rwa [hvalue])
  rwa [hvalue] at h

/-- A number below `2 ^ 64` is read back from its digits. -/
theorem readNumber_digits (minus : Bool) {n : Nat} (hn : n < Numeral.countOf 64)
    {after : List Char} (ha : Ends after) :
    readNumber minus (Numeral.digits n ++ after) = .ok (whole minus n, after) := by
  rw [readNumber_append minus (wholePart_digits n) ha.noDigit,
    afterWhole_of_ends minus n (appendDigits_digits hn) ha, if_pos (by omega)]

/-! ## Texts -/

theorem hexValue?_digitChar {d : Nat} (h : d < 16) : Text.hexValue? (Nat.digitChar d) = some d := by
  revert d
  decide

theorem toNat_lt_of_lt_space {c : Char} (h : c < ' ') : c.toNat < 32 :=
  h

theorem mem_escapes_of_escapeLetter? {c letter : Char} (h : escapeLetter? c = some letter) :
    (letter, c) ∈ escapes := by
  rw [escapeLetter?] at h
  by_cases hself : c = '"' ∨ c = '\\'
  · rw [if_pos hself] at h
    obtain rfl := Option.some.inj h
    rcases hself with rfl | rfl <;> decide
  · rw [if_neg hself] at h
    repeat
      split at h
      · next hc =>
        obtain rfl := hc
        obtain rfl := Option.some.inj h
        decide
    cases h

/-- The written form of a character stands for it. -/
theorem piece_writeChar (c : Char) : Piece (writeChar c) c := by
  rw [writeChar]
  cases he : escapeLetter? c with
  | some letter => exact .escape (mem_escapes_of_escapeLetter? he)
  | none =>
    by_cases hc : c < ' '
    · have hlt := toNat_lt_of_lt_space hc
      have hunit : unit? '0' '0' (Nat.digitChar (c.toNat / 16)) (Nat.digitChar (c.toNat % 16)) =
          some c.toNat := by
        have hzero : Text.hexValue? '0' = some 0 := rfl
        rw [unit?, hzero, hexValue?_digitChar (by omega), hexValue?_digitChar (by omega)]
        simp only [Option.bind_eq_bind, Option.bind_some]
        exact congrArg some (by omega)
      have hopens : opensPair c.toNat = false := by
        simp only [opensPair, Bool.and_eq_false_iff, decide_eq_false_iff_not]
        omega
      have hcloses : closesPair c.toNat = false := by
        simp only [closesPair, Bool.and_eq_false_iff, decide_eq_false_iff_not]
        omega
      have hpiece := Piece.unit hunit hopens hcloses
      rw [Char.ofNat_toNat] at hpiece
      simpa only [if_pos hc] using hpiece
    · have hplain : IsPlain c := by
        refine ⟨?_, ?_, hc⟩
        · rintro rfl
          cases he
        · rintro rfl
          cases he
      simpa only [if_neg hc] using Piece.plain hplain

theorem spells_writeChars (cs : List Char) : Spells (cs.flatMap writeChar) cs := by
  induction cs with
  | nil => exact .nil
  | cons c cs ih =>
    rw [List.flatMap_cons]
    exact .cons (piece_writeChar c) ih

theorem writeText_append (s : String) (rest : List Char) :
    writeText s ++ rest = '"' :: (s.toList.flatMap writeChar ++ '"' :: rest) := by
  rw [writeText, List.cons_append, List.append_assoc]
  rfl

theorem wellFormed_writeText (s : String) : WellFormed (writeText s) :=
  .text (spells_writeChars s.toList).textBody

/-- A text is read back, whatever its characters are and whatever comes after it. -/
theorem readText_written (s : String) (rest : List Char) :
    readText (s.toList.flatMap writeChar ++ '"' :: rest) = .ok (s, rest) :=
  readText_of_spells (spells_writeChars s.toList) rest

/-! ## Control characters -/

/-- No character below the space. -/
def NoControl (cs : List Char) : Prop :=
  ∀ c ∈ cs, ¬ c < ' '

instance (cs : List Char) : Decidable (NoControl cs) :=
  List.decidableBAll _ cs

theorem NoControl.append {cs cs' : List Char} (h : NoControl cs) (h' : NoControl cs') :
    NoControl (cs ++ cs') :=
  List.forall_mem_append.mpr ⟨h, h'⟩

theorem NoControl.cons {c : Char} {cs : List Char} (hc : ¬ c < ' ') (h : NoControl cs) :
    NoControl (c :: cs) :=
  List.forall_mem_cons.mpr ⟨hc, h⟩

theorem noControl_of_allDigits {ds : List Char} (h : AllDigits ds) : NoControl ds := by
  intro c hc hlt
  have hd := h c hc
  have hval := toNat_lt_of_lt_space hlt
  rw [Text.isDigit_eq, Char.isDigit, Bool.and_eq_true, decide_eq_true_eq] at hd
  have hle : 48 ≤ c.toNat := hd.1
  omega

theorem noControl_writeChar (c : Char) : NoControl (writeChar c) := by
  rw [writeChar]
  cases he : escapeLetter? c with
  | some letter =>
    have hletter : ∀ e ∈ escapes, ¬ e.1 < ' ' := by decide
    have h := hletter _ (mem_escapes_of_escapeLetter? he)
    exact .cons (by decide) (.cons h (by decide))
  | none =>
    by_cases hc : c < ' '
    · have hlt := toNat_lt_of_lt_space hc
      have hdigit : ∀ d < 16, ¬ Nat.digitChar d < ' ' := by decide
      rw [if_pos hc]
      have hends : NoControl [Nat.digitChar (c.toNat / 16), Nat.digitChar (c.toNat % 16)] :=
        .cons (hdigit _ (by omega)) (.cons (hdigit _ (by omega)) (by decide))
      have hstart : NoControl ['\\', 'u', '0', '0'] := by decide
      exact hstart.append hends
    · rw [if_neg hc]
      exact .cons hc (by decide)

theorem noControl_writeText (s : String) : NoControl (writeText s) := by
  refine .cons (by decide) (.append ?_ (by decide))
  intro c hc
  obtain ⟨d, _, hd⟩ := List.mem_flatMap.mp hc
  exact noControl_writeChar d c hd

end HardwareFingerprint.Json
