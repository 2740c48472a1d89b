import HardwareFingerprint.Proofs.Json.Writing

/-!
# What values stand for

A value may denote null, a truth value, a whole number within its bounds or a text; then it is read
as that, wherever it stands. Of every other value nothing but a float, a list or an object is read,
if anything is: a number is a float with a fraction, with an exponent or out of the bounds, and so
is negative zero, and a text with a lone surrogate is refused.
-/
namespace HardwareFingerprint.Json

set_option autoImplicit false

/-- The text is a value, with blanks around it, and stands for null, a truth value, a whole number
within its bounds or a text. -/
inductive Denotes : List Char → Json → Prop
  | null : Denotes "null".toList .null
  | bool (b : Bool) : Denotes (write (.bool b)) (.bool b)
  | natural {ds : List Char} : WholePart ds → Nat.ofDigitChars 10 ds 0 < Numeral.countOf 64 →
      Denotes ds (.number (.natural (Nat.ofDigitChars 10 ds 0)))
  | negative {ds : List Char} : WholePart ds → 0 < Nat.ofDigitChars 10 ds 0 →
      Nat.ofDigitChars 10 ds 0 ≤ Numeral.countOf 63 →
      Denotes ('-' :: ds) (.number (.negative (Nat.ofDigitChars 10 ds 0)))
  | text {body : List Char} {s : String} : Spells body s.toList →
      Denotes ('"' :: (body ++ ['"'])) (.text s)
  | spaced {before t trailing : List Char} {j : Json} : Spaces before → Denotes t j →
      Spaces trailing → Denotes (before ++ (t ++ trailing)) j

/-- What a value denotes is read of it, wherever the value stands. -/
theorem Denotes.takes {t : List Char} {j : Json} (h : Denotes t j) (depth : Nat) :
    Takes (readValue depth) t j := by
  induction h with
  | null => exact .null
  | bool b => exact .bool b
  | natural hw hlt =>
    have htakes : Takes (readValue depth) _ _ := .natural hlt
    rwa [hw.digits_value] at htakes
  | negative hw hpos hle =>
    have htakes : Takes (readValue depth) _ _ := .negative hpos hle
    rwa [hw.digits_value] at htakes
  | text hs =>
    refine ⟨.text hs.textBody, fun after _ => ?_⟩
    rw [List.cons_append, List.append_assoc, readValue_quote]
    exact (readText_of_spells hs after) ▸ .some rfl
  | spaced hb _ ht ih => exact ih.spaced (readValue_skipSpaces depth) hb ht

/-! ## Floats -/

/-- Nothing but a float comes of it. -/
def OnlyReal (x : Except Fault (Number × List Char)) : Prop :=
  ∀ r, x = .ok r → ∃ y, r.1 = .real y

theorem onlyReal_ok (y : Float) (rest : List Char) : OnlyReal (.ok (.real y, rest)) := by
  rintro r ⟨⟩
  exact ⟨y, rfl⟩

theorem onlyReal_error (f : Fault) : OnlyReal (.error f) := by
  rintro r ⟨⟩

section Number

variable (minus : Bool) (significand : Nat) (power : Int) {after : List Char}

theorem onlyReal_real : OnlyReal (real minus significand power after) := by
  rw [real]
  split
  · exact onlyReal_error _
  · exact onlyReal_ok _ _

theorem onlyReal_readExponent {sign ds : List Char} (hs : sign ∈ [[], ['+'], ['-']]) (hne : ds ≠ [])
    (hds : AllDigits ds) (ha : Ends after) :
    OnlyReal (readExponent minus significand power (sign ++ (ds ++ after))) := by
  rw [readExponent_append minus significand power hs hne hds ha]
  split
  · exact onlyReal_real _ _ _
  · split
    · exact onlyReal_error _
    · exact onlyReal_ok _ _

theorem onlyReal_afterFraction {exponent : List Char} (h : ExponentPart exponent)
    (ha : Ends after) : OnlyReal (afterFraction minus significand power (exponent ++ after)) := by
  cases h with
  | absent =>
    cases after with
    | nil => exact onlyReal_real _ _ _
    | cons c cs =>
      rw [List.nil_append, afterFraction, if_neg ha.not_exponent]
      exact onlyReal_real _ _ _
  | digits hl hs hne hds =>
    rw [List.cons_append, List.append_assoc, afterFraction, if_pos hl]
    exact onlyReal_readExponent _ _ _ hs hne hds ha

theorem onlyReal_readFraction {ds exponent : List Char} (hne : ds ≠ []) (hds : AllDigits ds)
    (he : ExponentPart exponent) (ha : Ends after) :
    OnlyReal (readFraction minus significand power (ds ++ (exponent ++ after))) := by
  have hnd := he.noDigit ha.noDigit
  obtain ⟨c, ds, rfl⟩ := List.exists_cons_of_ne_nil hne
  simp only [readFraction, leadingDigits_append hds hnd, afterDigits_append hds hnd]
  exact onlyReal_afterFraction _ _ _ he ha

/-- A fraction and an exponent make a number a float. -/
theorem onlyReal_afterWhole (ds : List Char) {fraction exponent : List Char}
    (hf : FractionPart fraction) (he : ExponentPart exponent) (hne : fraction ++ exponent ≠ [])
    (ha : Ends after) : OnlyReal (afterWhole minus ds (fraction ++ (exponent ++ after))) := by
  cases hf with
  | digits hds hdigits =>
    rw [List.cons_append, afterWhole]
    exact onlyReal_readFraction _ _ _ hds hdigits he ha
  | absent =>
    cases he with
    | absent => exact absurd rfl hne
    | digits hl hs hds hdigits =>
      have hexponent := onlyReal_readExponent minus (appendDigits 0 ds).1
        (ds.length - (appendDigits 0 ds).2) hs hds hdigits ha
      rw [List.nil_append, List.cons_append, List.append_assoc]
      rcases hl with rfl | rfl <;> simpa [afterWhole] using hexponent

end Number

/-- A number is a whole number below `2 ^ 64` after its sign, or a float. -/
theorem Unsigned.whole_or_real {n : List Char} (h : Unsigned n) :
    (WholePart n ∧ Nat.ofDigitChars 10 n 0 < Numeral.countOf 64) ∨
      ∀ minus after, Ends after → OnlyReal (readNumber minus (n ++ after)) := by
  obtain @⟨ds, fraction, exponent, hw, hf, he⟩ := h
  by_cases hne : fraction ++ exponent = []
  · by_cases hlt : Nat.ofDigitChars 10 ds 0 < Numeral.countOf 64
    · left
      rw [hne, List.append_nil]
      exact ⟨hw, hlt⟩
    · right
      intro minus after ha
      -- Not all digits of the whole part are taken, so the number has to be scaled.
      have hcount := appendDigits_of_le hw.allDigits (Nat.two_pow_pos 64) (Nat.not_lt.mp hlt)
      rw [hne, List.append_nil, readNumber_append minus hw ha.noDigit,
        afterWhole_of_ends minus _ rfl ha, if_neg (by omega)]
      exact onlyReal_real _ _ _
  · right
    intro minus after ha
    have hnd := hf.noDigit (he.noDigit ha.noDigit)
    rw [List.append_assoc, List.append_assoc, readNumber_append minus hw hnd]
    exact onlyReal_afterWhole minus ds hf he hne ha

/-- After a minus sign, zero and what lies below `-2 ^ 63` are floats, too. -/
theorem Unsigned.negative_or_real {n : List Char} (h : Unsigned n) :
    (WholePart n ∧ 0 < Nat.ofDigitChars 10 n 0 ∧ Nat.ofDigitChars 10 n 0 ≤ Numeral.countOf 63) ∨
      ∀ after, Ends after → OnlyReal (readNumber true (n ++ after)) := by
  rcases h.whole_or_real with ⟨hw, hlt⟩ | hreal
  · have hread : ∀ after, Ends after → readNumber true (n ++ after) =
        .ok (whole true (Nat.ofDigitChars 10 n 0), after) := by
      intro after ha
      have hdigits := readNumber_digits true hlt ha
      rwa [hw.digits_value] at hdigits
    by_cases hzero : Nat.ofDigitChars 10 n 0 = 0
    · right
      intro after ha
      rw [hread after ha, whole, if_pos rfl, if_pos hzero]
      exact onlyReal_ok _ _
    · by_cases hle : Nat.ofDigitChars 10 n 0 ≤ Numeral.countOf 63
      · exact .inl ⟨hw, Nat.pos_of_ne_zero hzero, hle⟩
      · right
        intro after ha
        rw [hread after ha, whole, if_pos rfl, if_neg hzero, if_neg hle]
        exact onlyReal_ok _ _
  · exact .inr (hreal true)

/-! ## Values -/

/-- Nothing but a list, an object or a float is read of the text, wherever it stands. -/
def Undenoted (t : List Char) : Prop :=
  ∀ depth after, Ends after → ∀ r, readValue depth (t ++ after) = .ok r →
    r.1.IsCompound ∨ ∃ y, r.1 = .number (.real y)

theorem OnlyReal.number {x : Except Fault (Number × List Char)} (h : OnlyReal x)
    {r : Json × List Char} (hr : (do let (m, left) ← x; pure (Json.number m, left)) = .ok r) :
    ∃ y, r.1 = .number (.real y) := by
  obtain ⟨⟨m, left⟩, hread, hr⟩ := Except.bind_eq_ok_iff.mp hr
  obtain rfl := Except.ok.inj hr
  obtain ⟨y, hy⟩ := h _ hread
  exact ⟨y, congrArg Json.number hy⟩

/-- A number literal denotes a whole number below `2 ^ 64`, or nothing. -/
theorem Unsigned.denotes_or {n : List Char} (h : Unsigned n) :
    (WholePart n ∧ Nat.ofDigitChars 10 n 0 < Numeral.countOf 64) ∨ Undenoted n := by
  rcases h.whole_or_real with hwhole | hreal
  · exact .inl hwhole
  · right
    intro depth after ha r hr
    rw [readValue_unsigned h] at hr
    exact .inr ((hreal false after ha).number hr)

theorem undenoted_text {body : List Char}
    (h : ∀ after, ∃ f, textFrom [] (body ++ '"' :: after) = .error f) :
    Undenoted ('"' :: (body ++ ['"'])) := by
  intro depth after _ r hr
  obtain ⟨f, hf⟩ := h after
  rw [List.cons_append, List.append_assoc, List.singleton_append, readValue_quote, readText,
    hf] at hr
  cases hr

theorem Undenoted.spaced {before t trailing : List Char} (hb : Spaces before) (h : Undenoted t)
    (ht : Spaces trailing) : Undenoted (before ++ (t ++ trailing)) := by
  intro depth after ha r hr
  rw [← readValue_skipSpaces, List.append_assoc, List.append_assoc, skipSpaces_append hb,
    readValue_skipSpaces] at hr
  exact h depth _ (ha.spaced ht) r hr

/-- A value denotes something, or nothing but a list, an object or a float is read of it. -/
theorem WellFormed.denotes_or {t : List Char} (h : WellFormed t) :
    (∃ j, Denotes t j) ∨ Undenoted t := by
  induction h with
  | @word w hw =>
    left
    simp only [List.mem_cons, List.not_mem_nil, or_false] at hw
    rcases hw with rfl | rfl | rfl
    · exact ⟨_, .null⟩
    · exact ⟨_, .bool true⟩
    · exact ⟨_, .bool false⟩
  | positive hn => exact hn.denotes_or.imp_left fun ⟨hw, hlt⟩ => ⟨_, .natural hw hlt⟩
  | negative hn =>
    rcases hn.negative_or_real with ⟨hw, hpos, hle⟩ | hreal
    · exact .inl ⟨_, .negative hw hpos hle⟩
    · right
      intro depth after ha r hr
      rw [List.cons_append, readValue_minus] at hr
      exact .inr ((hreal after ha).number hr)
  | @text body hb =>
    obtain ⟨expected, hspells, hread⟩ := hb.settles_and.1
    cases expected with
    | some cs =>
      have hs : Spells body (String.ofList cs).toList := by
        rw [String.toList_ofList]
        exact hspells cs rfl
      exact .inl ⟨_, .text hs⟩
    | none => exact .inr (undenoted_text fun after => (hread [] after).exists_error)
  | list _ _ _ =>
    right
    intro depth after _ r hr
    rw [listText, List.cons_append] at hr
    exact .inl (isCompound_of_readValue (.inl rfl) hr)
  | object _ _ _ _ =>
    right
    intro depth after _ r hr
    rw [objectText, List.cons_append] at hr
    exact .inl (isCompound_of_readValue (.inr rfl) hr)
  | spaced hb _ ht ih =>
    rcases ih with ⟨j, hj⟩ | hread
    · exact .inl ⟨j, .spaced hb hj ht⟩
    · exact .inr (hread.spaced hb ht)

end HardwareFingerprint.Json
