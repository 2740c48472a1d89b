import HardwareFingerprint.Json.Value
import HardwareFingerprint.Proofs.Json.Grammar
import HardwareFingerprint.Proofs.Result

/-!
# What readers make of values

What a reader makes of a value depends neither on what comes after the value nor on how many
brackets may still be opened, and it leaves what comes after. This holds of every value that is no
list and no object; a list and an object are read as such, or refused.
-/
namespace HardwareFingerprint.Json

set_option autoImplicit false

variable {α β : Type}

/-- A result that is the expected value, or a refusal where none is expected. What is left is what
comes after, up to blanks. -/
inductive Agrees : Except Fault (α × List Char) → Option α → List Char → Prop
  | some {a : α} {left after : List Char} : skipSpaces left = skipSpaces after →
      Agrees (.ok (a, left)) (some a) after
  | none {f : Fault} {after : List Char} : Agrees (.error f) none after

/-- The result is the same before whatever comes after a value, at any depth. -/
def Settles (f : Nat → List Char → Except Fault (α × List Char)) : Prop :=
  ∃ expected, ∀ depth after, Ends after → Agrees (f depth after) expected after

namespace Agrees

variable {x : Except Fault (α × List Char)} {expected : Option α} {after after' : List Char}

theorem bind {f : α × List Char → Except Fault (β × List Char)} {g : α → Option β}
    (h : Agrees x expected after)
    (hf : ∀ a left, skipSpaces left = skipSpaces after → Agrees (f (a, left)) (g a) after') :
    Agrees (x >>= f) (expected >>= g) after' := by
  cases h with
  | some hl => exact hf _ _ hl
  | none => exact .none

theorem map (h : Agrees x expected after) (g : α → β) :
    Agrees (do let (a, left) ← x; pure (g a, left)) (expected.map g) after := by
  cases h with
  | some hl => exact .some hl
  | none => exact .none

theorem exists_error (h : Agrees x Option.none after) : ∃ f, x = .error f := by
  cases h
  exact ⟨_, rfl⟩

theorem congr (h : Agrees x expected after) (hs : skipSpaces after = skipSpaces after') :
    Agrees x expected after' := by
  cases h with
  | some hl => exact .some (hl.trans hs)
  | none => exact .none

end Agrees

namespace Settles

variable {f : Nat → List Char → Except Fault (α × List Char)}

theorem intro (expected : Option α)
    (h : ∀ depth after, Ends after → Agrees (f depth after) expected after) : Settles f :=
  ⟨expected, h⟩

theorem congr {f' : Nat → List Char → Except Fault (α × List Char)} (h : Settles f')
    (he : ∀ depth after, Ends after → f depth after = f' depth after) : Settles f := by
  obtain ⟨expected, h⟩ := h
  refine intro expected fun depth after ha => ?_
  rw [he depth after ha]
  exact h depth after ha

theorem map (h : Settles f) (g : α → β) :
    Settles (fun depth after => do let (a, left) ← f depth after; pure (g a, left)) := by
  obtain ⟨expected, h⟩ := h
  exact intro (expected.map g) fun depth after ha => (h depth after ha).map g

end Settles

/-! ## Numbers -/

section Number

variable (minus : Bool) (significand : Nat) (power : Int)

theorem settles_real : Settles fun _ after => real minus significand power after := by
  refine .intro ((floatOf? significand power).map fun x => .real (if minus then -x else x))
    fun _ after _ => ?_
  rw [real]
  cases floatOf? significand power with
  | none => exact .none
  | some x => exact .some rfl

theorem readExponent_append {sign ds after : List Char} (hs : sign ∈ [[], ['+'], ['-']])
    (hne : ds ≠ []) (hds : AllDigits ds) (ha : Ends after) :
    readExponent minus significand power (sign ++ (ds ++ after)) =
      if exponentValue ds < Numeral.countOf 31 then
        real minus significand
          (if sign = ['-'] then power - exponentValue ds else power + exponentValue ds) after
      else if significand ≠ 0 ∧ sign ≠ ['-'] then
        .error (.before .numberOutOfRange (digitsPastRange 0 (ds ++ after)))
      else .ok (.real (if minus then -0.0 else 0.0), after) := by
  obtain ⟨c, ds, rfl⟩ := List.exists_cons_of_ne_nil hne
  have hc : Text.isDigit c = true := hds c (by simp)
  have hl := leadingDigits_append hds ha.noDigit
  have hr := afterDigits_append hds ha.noDigit
  rw [List.cons_append] at hl hr ⊢
  simp only [List.mem_cons, List.not_mem_nil, or_false] at hs
  rcases hs with rfl | rfl | rfl
  · -- Without a sign, the first digit must not be taken for one.
    have hp : c ≠ '+' := ne_of_isDigit hc (by decide)
    have hm : c ≠ '-' := ne_of_isDigit hc (by decide)
    simp [readExponent, hp, hm, hc, hl, hr]
  · simp [readExponent, hc, hl, hr]
  · simp [readExponent, hc, hl, hr]

theorem settles_readExponent {sign ds : List Char} (hs : sign ∈ [[], ['+'], ['-']]) (hne : ds ≠ [])
    (hds : AllDigits ds) :
    Settles fun _ after => readExponent minus significand power (sign ++ (ds ++ after)) := by
  have hread := fun after (ha : Ends after) =>
    readExponent_append minus significand power hs hne hds ha
  by_cases hv : exponentValue ds < Numeral.countOf 31
  · refine (settles_real minus significand
      (if sign = ['-'] then power - exponentValue ds else power + exponentValue ds)).congr
      fun _ after ha => ?_
    rw [hread after ha, if_pos hv]
  · by_cases hp : significand ≠ 0 ∧ sign ≠ ['-']
    · refine .intro none fun _ after ha => ?_
      rw [hread after ha, if_neg hv, if_pos hp]
      exact .none
    · refine .intro (some (.real (if minus then -0.0 else 0.0))) fun _ after ha => ?_
      rw [hread after ha, if_neg hv, if_neg hp]
      exact .some rfl

theorem settles_afterFraction {exponent : List Char} (h : ExponentPart exponent) :
    Settles fun _ after => afterFraction minus significand power (exponent ++ after) := by
  cases h with
  | absent =>
    refine (settles_real minus significand power).congr fun _ after ha => ?_
    cases after with
    | nil => rfl
    | cons c cs => exact if_neg ha.not_exponent
  | @digits letter sign ds hl hs hne hds =>
    refine (settles_readExponent minus significand power hs hne hds).congr fun _ after _ => ?_
    rw [List.cons_append, List.append_assoc]
    exact if_pos hl

theorem settles_readFraction {ds exponent : List Char} (hne : ds ≠ []) (hds : AllDigits ds)
    (he : ExponentPart exponent) :
    Settles fun _ after => readFraction minus significand power (ds ++ (exponent ++ after)) := by
  rcases hd : appendDigits significand ds with ⟨all, count⟩
  refine (settles_afterFraction minus all (power - count) he).congr fun _ after ha => ?_
  have hnd := he.noDigit ha.noDigit
  obtain ⟨c, ds, rfl⟩ := List.exists_cons_of_ne_nil hne
  simp only [readFraction, leadingDigits_append hds hnd, afterDigits_append hds hnd, hd]

/-- A number that ends with its whole part is whole itself, unless digits of it were left out. -/
theorem afterWhole_of_ends {ds : List Char} {count : Nat}
    (hd : appendDigits 0 ds = (significand, count)) {after : List Char} (ha : Ends after) :
    afterWhole minus ds after =
      if (ds.length : Int) - count = 0 then .ok (whole minus significand, after)
      else real minus significand (ds.length - count) after := by
  cases after with
  | nil => simp only [afterWhole, hd]
  | cons c cs =>
    have hc : c ≠ '.' := by
      rintro rfl
      exact ha.ne (by decide) rfl
    simp [afterWhole, hd, ha.not_exponent]

theorem settles_afterWhole (ds : List Char) {fraction exponent : List Char}
    (hf : FractionPart fraction) (he : ExponentPart exponent) :
    Settles fun _ after => afterWhole minus ds (fraction ++ (exponent ++ after)) := by
  rcases hd : appendDigits 0 ds with ⟨significand, count⟩
  cases hf with
  | @digits ds' hne hds' =>
    refine (settles_readFraction minus significand (ds.length - count) hne hds' he).congr
      fun _ after _ => ?_
    simp only [afterWhole, hd, List.cons_append]
  | absent =>
    cases he with
    | @digits letter sign ds' hl hs hne hds' =>
      refine (settles_readExponent minus significand (ds.length - count) hs hne hds').congr
        fun _ after _ => ?_
      rw [List.nil_append, List.cons_append, List.append_assoc]
      rcases hl with rfl | rfl <;> simp [afterWhole, hd]
    | absent =>
      by_cases hz : (ds.length : Int) - count = 0
      · refine .intro (some (whole minus significand)) fun _ after ha => ?_
        rw [List.nil_append, List.nil_append, afterWhole_of_ends minus significand hd ha, if_pos hz]
        exact .some rfl
      · refine (settles_real minus significand (ds.length - count)).congr fun _ after ha => ?_
        rw [List.nil_append, List.nil_append, afterWhole_of_ends minus significand hd ha, if_neg hz]

/-- The whole part of a number is taken whole. -/
theorem readNumber_append {ds : List Char} (hw : WholePart ds) {tail : List Char}
    (ht : NoDigit tail) : readNumber minus (ds ++ tail) = afterWhole minus ds tail := by
  cases hw with
  | zero =>
    cases tail with
    | nil => rfl
    | cons c cs => simp [readNumber, ht c rfl]
  | @digits c ds hc hz hds =>
    have hall : AllDigits (c :: ds) := List.forall_mem_cons.mpr ⟨hc, hds⟩
    have hl := leadingDigits_append hall ht
    have hr := afterDigits_append hall ht
    rw [List.cons_append] at hl hr ⊢
    simp only [readNumber, hz, hc, hl, hr, ↓reduceIte]

theorem settles_readNumber {n : List Char} (h : Unsigned n) :
    Settles fun _ after => readNumber minus (n ++ after) := by
  obtain @⟨ds, _, _, hw, hf, he⟩ := h
  refine (settles_afterWhole minus ds hf he).congr fun _ after ha => ?_
  have hnd := hf.noDigit (he.noDigit ha.noDigit)
  rw [List.append_assoc, List.append_assoc, readNumber_append minus hw hnd]

end Number

/-! ## Texts -/

theorem closesPair_of_opensPair {n : Nat} (h : opensPair n = true) : closesPair n = false := by
  simp only [opensPair, Bool.and_eq_true, decide_eq_true_eq] at h
  simp only [closesPair, Bool.and_eq_false_iff, decide_eq_false_iff_not]
  omega

theorem textFrom_piece {start : List Char} {c : Char} (h : Piece start c) (acc rest : List Char) :
    textFrom acc (start ++ rest) = textFrom (c :: acc) rest := by
  rw [textFrom.eq_def]
  cases h with
  | plain hc =>
    obtain ⟨hq, hb, hs⟩ := hc
    simp [hq, hb, hs]
  | escape hl =>
    obtain ⟨hu, hne⟩ := unescape?_of_mem hl
    simp [hu, hne]
  | unit hu ho hc => simp [hu, ho, hc]
  | pair hu ho hu' hc =>
    have hno := closesPair_of_opensPair ho
    simp [hu, ho, hno, hu', hc]

/-- The body of a text is read as what it stands for. -/
theorem textFrom_of_spells {body cs : List Char} (h : Spells body cs) (acc rest : List Char) :
    textFrom acc (body ++ '"' :: rest) = .ok (acc.reverse ++ cs, rest) := by
  induction h generalizing acc with
  | nil => simp
  | cons hp _ ih => rw [List.append_assoc, textFrom_piece hp, ih]; simp

theorem readText_of_spells {body : List Char} {s : String} (h : Spells body s.toList)
    (rest : List Char) : readText (body ++ '"' :: rest) = .ok (s, rest) := by
  rw [readText, textFrom_of_spells h]
  exact congrArg (fun s => Except.ok (s, rest)) String.ofList_toList

/-- What is made of the body of a text is what it spells, or nothing, and is the same before any
rest. What was read before the body stays in front. -/
def TextSettles (body : List Char) : Prop :=
  ∃ expected : Option (List Char), (∀ cs ∈ expected, Spells body cs) ∧
    ∀ acc rest, Agrees (textFrom acc (body ++ '"' :: rest)) (expected.map (acc.reverse ++ ·)) rest

namespace TextSettles

variable {body : List Char}

theorem nil : TextSettles [] := by
  refine ⟨some [], fun cs hcs => ?_, fun acc rest => ?_⟩
  · obtain rfl := Option.mem_some.mp hcs
    exact .nil
  · simpa using Agrees.some rfl

theorem prepend {start : List Char} {c : Char} (hp : Piece start c) (h : TextSettles body) :
    TextSettles (start ++ body) := by
  obtain ⟨expected, hspells, h⟩ := h
  refine ⟨expected.map (c :: ·), fun cs hcs => ?_, fun acc rest => ?_⟩
  · obtain ⟨cs, hmem, rfl⟩ := Option.map_eq_some_iff.mp hcs
    exact .cons hp (hspells cs hmem)
  · rw [List.append_assoc, textFrom_piece hp, Option.map_map]
    simpa [Function.comp_def] using h (c :: acc) rest

theorem refused (h : ∀ acc rest, ∃ f, textFrom acc (body ++ '"' :: rest) = .error f) :
    TextSettles body := by
  refine ⟨none, (fun cs hcs => by cases hcs), fun acc rest => ?_⟩
  obtain ⟨f, hf⟩ := h acc rest
  rw [hf]
  exact .none

end TextSettles

/-- The body settles, and so it does after an opening unit, which asks for a closing one next. -/
theorem TextBody.settles_and {body : List Char} (h : TextBody body) :
    TextSettles body ∧ ∀ {a b c d : Char} {high : Nat}, unit? a b c d = some high →
      opensPair high = true → TextSettles ('\\' :: 'u' :: a :: b :: c :: d :: body) := by
  -- Both at once, since a unit of the body may be the one that an opening unit before it asks for.
  induction h with
  | nil =>
    refine ⟨.nil, fun hu ho => .refused fun acc rest => ?_⟩
    have hno := closesPair_of_opensPair ho
    rw [textFrom.eq_def]
    simp [hu, ho, hno]
  | @plain c body hc _ ih =>
    refine ⟨.prepend (.plain hc) ih.1, fun hu ho => .refused fun acc rest => ?_⟩
    have hno := closesPair_of_opensPair ho
    rw [textFrom.eq_def]
    simp [hu, ho, hno, hc.2.1]
  | @escape letter c body hl _ ih =>
    refine ⟨.prepend (.escape hl) ih.1, fun hu ho => .refused fun acc rest => ?_⟩
    have hno := closesPair_of_opensPair ho
    rw [textFrom.eq_def]
    simp [hu, ho, hno, (unescape?_of_mem hl).2]
  | @unit a b c d n body hn _ ih =>
    constructor
    · cases hc : closesPair n with
      | true =>
        refine .refused fun acc rest => ?_
        rw [textFrom.eq_def]
        simp [hn, hc]
      | false =>
        cases ho : opensPair n with
        | true => exact ih.2 hn ho
        | false => exact .prepend (.unit hn ho hc) ih.1
    · intro a' b' c' d' high hu ho
      cases hc : closesPair n with
      | true => exact .prepend (.pair hu ho hn hc) ih.1
      | false =>
        refine .refused fun acc rest => ?_
        have hno := closesPair_of_opensPair ho
        rw [textFrom.eq_def]
        simp [hu, ho, hno, hn, hc]

theorem settles_readText {body : List Char} (h : TextBody body) :
    Settles fun _ after => readText (body ++ '"' :: after) := by
  obtain ⟨expected, _, h⟩ := h.settles_and.1
  exact .intro _ fun _ after _ => (h [] after).map String.ofList

/-! ## Values -/

/-- A list or an object. -/
def IsCompound : Json → Prop
  | .array _ => True
  | .object _ => True
  | _ => False

@[simp] theorem readValue_skipSpaces (depth : Nat) (cs : List Char) :
    readValue depth (skipSpaces cs) = readValue depth cs := by
  rw [readValue.eq_def, readValue.eq_def, skipSpaces_skipSpaces]

theorem readValue_unsigned {n : List Char} (h : Unsigned n) (depth : Nat) (after : List Char) :
    readValue depth (n ++ after) = (do
      let (m, left) ← readNumber false (n ++ after)
      pure (.number m, left)) := by
  obtain ⟨c, cs, rfl, hc⟩ := h.exists_digit
  have hs := isSpace_of_isDigit hc
  have ne := fun {d : Char} (hd : Text.isDigit d = false) => ne_of_isDigit hc hd
  rw [readValue.eq_def]
  simp [skipSpaces_cons hs, ne (d := 'n') (by decide), ne (d := 't') (by decide),
    ne (d := 'f') (by decide), ne (d := '-') (by decide), hc]

/-- A list and an object are not taken for anything else. -/
theorem isCompound_of_readValue {c : Char} (hc : c = '[' ∨ c = '\x7b') {depth : Nat}
    {rest : List Char} {r : Json × List Char} (h : readValue depth (c :: rest) = .ok r) :
    r.1.IsCompound := by
  cases depth with
  | zero => rcases hc with rfl | rfl <;> cases h
  | succ depth =>
    rcases hc with rfl | rfl
    · obtain ⟨items, _, h⟩ := Except.bind_eq_ok_iff.mp h
      obtain ⟨left, _, h⟩ := Except.bind_eq_ok_iff.mp h
      cases h
      trivial
    · obtain ⟨members, _, h⟩ := Except.bind_eq_ok_iff.mp h
      obtain ⟨left, _, h⟩ := Except.bind_eq_ok_iff.mp h
      cases h
      trivial

/-- A value that is no list and no object is read alike everywhere. -/
theorem WellFormed.settles_readValue {t : List Char} (h : WellFormed t) :
    (Settles fun depth after => readValue depth (t ++ after)) ∨
      ∀ depth after r, readValue depth (t ++ after) = .ok r → r.1.IsCompound := by
  induction h with
  | @word w hw =>
    left
    simp only [List.mem_cons, List.not_mem_nil, or_false] at hw
    rcases hw with rfl | rfl | rfl
    · refine .intro (some .null) fun depth after _ => ?_
      rw [readValue.eq_def]
      exact .some rfl
    · refine .intro (some (.bool true)) fun depth after _ => ?_
      rw [readValue.eq_def]
      exact .some rfl
    · refine .intro (some (.bool false)) fun depth after _ => ?_
      rw [readValue.eq_def]
      exact .some rfl
  | positive hn =>
    left
    exact ((settles_readNumber false hn).map Json.number).congr fun depth after _ =>
      readValue_unsigned hn depth after
  | negative hn =>
    left
    refine ((settles_readNumber true hn).map Json.number).congr fun depth after _ => ?_
    rw [readValue.eq_def]
    rfl
  | @text body hb =>
    left
    refine ((settles_readText hb).map Json.text).congr fun depth after _ => ?_
    rw [List.cons_append, List.append_assoc]
    exact readValue_quote depth _
  | list _ _ _ =>
    right
    intro depth after r h
    rw [listText, List.cons_append] at h
    exact isCompound_of_readValue (.inl rfl) h
  | object _ _ _ _ =>
    right
    intro depth after r h
    rw [objectText, List.cons_append] at h
    exact isCompound_of_readValue (.inr rfl) h
  | @spaced before t trailing hb _ ha ih =>
    have hread : ∀ depth after, readValue depth (before ++ (t ++ trailing) ++ after) =
        readValue depth (t ++ (trailing ++ after)) := by
      intro depth after
      rw [← readValue_skipSpaces, List.append_assoc, List.append_assoc, skipSpaces_append hb,
        readValue_skipSpaces]
    rcases ih with ⟨expected, h⟩ | h
    · left
      refine .intro expected fun depth after hafter => ?_
      rw [hread]
      exact (h depth (trailing ++ after) (hafter.spaced ha)).congr (skipSpaces_append ha after)
    · right
      intro depth after r hr
      rw [hread] at hr
      exact h depth (trailing ++ after) r hr

/-- A document that is read up to blanks is read whole. -/
theorem Agrees.toOption_readDocument {read : Reader α} {document : String} {expected : Option α}
    (h : Agrees (read document.toList) expected []) :
    (readDocument read document).toOption = expected := by
  rw [readDocument]
  generalize read document.toList = x at h
  cases h with
  | some hl =>
    rw [skipSpaces_nil] at hl
    simp only [hl]
    rfl
  | none => rfl

end HardwareFingerprint.Json
