import HardwareFingerprint.Json.Number
import HardwareFingerprint.Json.Text
import Mathlib.Data.List.DropRight
import Mathlib.Data.List.TakeWhile

/-!
# The grammar of documents

Which texts are values, with blanks around them and between their tokens. The grammar knows nothing
of how values are read: it does not limit how deep values nest or how large numbers are, and the
number of a lone surrogate is a part of a text like any other. What the body of a text stands for is
a relation beside it, which lone surrogates do not enter.
-/
namespace HardwareFingerprint.Json

set_option autoImplicit false

/-- Nothing but blanks. -/
def Spaces (w : List Char) : Prop :=
  ∀ c ∈ w, isSpace c = true

instance (w : List Char) : Decidable (Spaces w) :=
  List.decidableBAll _ w

/-- Nothing but digits. -/
def AllDigits (ds : List Char) : Prop :=
  ∀ c ∈ ds, Text.isDigit c = true

instance (ds : List Char) : Decidable (AllDigits ds) :=
  List.decidableBAll _ ds

/-- Zero alone, or digits that do not start with zero. -/
inductive WholePart : List Char → Prop
  | zero : WholePart ['0']
  | digits {c : Char} {ds : List Char} : Text.isDigit c = true → c ≠ '0' → AllDigits ds →
      WholePart (c :: ds)

/-- A point and digits, or nothing. -/
inductive FractionPart : List Char → Prop
  | absent : FractionPart []
  | digits {ds : List Char} : ds ≠ [] → AllDigits ds → FractionPart ('.' :: ds)

/-- The letter of an exponent with its sign and digits, or nothing. -/
inductive ExponentPart : List Char → Prop
  | absent : ExponentPart []
  | digits {letter : Char} {sign ds : List Char} : letter = 'e' ∨ letter = 'E' →
      sign ∈ [[], ['+'], ['-']] → ds ≠ [] → AllDigits ds → ExponentPart (letter :: (sign ++ ds))

/-- A number after its sign. -/
inductive Unsigned : List Char → Prop
  | mk {whole fraction exponent : List Char} : WholePart whole → FractionPart fraction →
      ExponentPart exponent → Unsigned (whole ++ (fraction ++ exponent))

/-- A character that stands for itself between quotes. -/
def IsPlain (c : Char) : Prop :=
  c ≠ '"' ∧ c ≠ '\\' ∧ ¬ c < ' '

instance (c : Char) : Decidable (IsPlain c) :=
  inferInstanceAs (Decidable (_ ∧ _ ∧ _))

/-- Nothing but characters that stand for themselves. -/
def AllPlain (cs : List Char) : Prop :=
  ∀ c ∈ cs, IsPlain c

instance (cs : List Char) : Decidable (AllPlain cs) :=
  List.decidableBAll _ cs

/-- The letters that may follow a backslash, and what each of them stands for. -/
def escapes : List (Char × Char) :=
  [('"', '"'), ('\\', '\\'), ('/', '/'), ('b', '\x08'), ('f', '\x0c'), ('n', '\n'), ('r', '\r'),
    ('t', '\t')]

/-- What may stand between quotes. -/
inductive TextBody : List Char → Prop
  | nil : TextBody []
  | plain {c : Char} {body : List Char} : IsPlain c → TextBody body → TextBody (c :: body)
  | escape {letter c : Char} {body : List Char} : (letter, c) ∈ escapes → TextBody body →
      TextBody ('\\' :: letter :: body)
  | unit {a b c d : Char} {n : Nat} {body : List Char} : unit? a b c d = some n → TextBody body →
      TextBody ('\\' :: 'u' :: a :: b :: c :: d :: body)

/-- The characters between quotes that stand for one character, with that character. -/
inductive Piece : List Char → Char → Prop
  | plain {c : Char} : IsPlain c → Piece [c] c
  | escape {letter c : Char} : (letter, c) ∈ escapes → Piece ['\\', letter] c
  | unit {a b c d : Char} {n : Nat} : unit? a b c d = some n → opensPair n = false →
      closesPair n = false → Piece ['\\', 'u', a, b, c, d] (Char.ofNat n)
  | pair {a b c d a' b' c' d' : Char} {high low : Nat} : unit? a b c d = some high →
      opensPair high = true → unit? a' b' c' d' = some low → closesPair low = true →
      Piece ['\\', 'u', a, b, c, d, '\\', 'u', a', b', c', d'] (pairChar high low)

/-- What the body of a text stands for. -/
inductive Spells : List Char → List Char → Prop
  | nil : Spells [] []
  | cons {start body : List Char} {c : Char} {cs : List Char} : Piece start c → Spells body cs →
      Spells (start ++ body) (c :: cs)

/-- Parts with a comma between each two of them, and the closing character. -/
def listed (close : Char) : List (List Char) → List Char
  | [] => [close]
  | [part] => part ++ [close]
  | part :: next :: parts => part ++ ',' :: listed close (next :: parts)

/-- A member as it is written: its name between quotes and its value, with the blanks around the
name. Blanks around the value are a part of it. -/
structure MemberText where
  before : List Char
  name : List Char
  after : List Char
  value : List Char

/-- A member from its first blank to its last. -/
def MemberText.text (m : MemberText) : List Char :=
  m.before ++ '"' :: (m.name ++ '"' :: (m.after ++ ':' :: m.value))

/-- A member as the grammar has it, its value left aside. -/
def MemberText.IsMember (m : MemberText) : Prop :=
  Spaces m.before ∧ TextBody m.name ∧ Spaces m.after

/-- A list of values; the blanks after its bracket matter where it is empty. -/
def listText (gap : List Char) (items : List (List Char)) : List Char :=
  '[' :: (gap ++ listed ']' items)

/-- An object of some members. -/
def objectText (gap : List Char) (members : List MemberText) : List Char :=
  '\x7b' :: (gap ++ listed '\x7d' (members.map MemberText.text))

/-- The texts of values, with the blanks around them. -/
inductive WellFormed : List Char → Prop
  | word {w : List Char} : w ∈ ["null".toList, "true".toList, "false".toList] → WellFormed w
  | positive {n : List Char} : Unsigned n → WellFormed n
  | negative {n : List Char} : Unsigned n → WellFormed ('-' :: n)
  | text {body : List Char} : TextBody body → WellFormed ('"' :: (body ++ ['"']))
  | list {gap : List Char} {items : List (List Char)} : Spaces gap →
      (∀ t ∈ items, WellFormed t) → WellFormed (listText gap items)
  | object {gap : List Char} {members : List MemberText} : Spaces gap →
      (∀ m ∈ members, m.IsMember) → (∀ m ∈ members, WellFormed m.value) → WellFormed (objectText gap members)
  | spaced {before t after : List Char} : Spaces before → WellFormed t → Spaces after →
      WellFormed (before ++ (t ++ after))

/-- What may come after a value: the end, a blank, a comma, or a closing character. -/
def Ends (rest : List Char) : Prop :=
  ∀ c ∈ rest.head?, isSpace c = true ∨ c = ',' ∨ c = ']' ∨ c = '\x7d'

theorem spaces_nil : Spaces [] := by
  intro c h
  cases h

theorem skipSpaces_append {w : List Char} (h : Spaces w) (cs : List Char) :
    skipSpaces (w ++ cs) = skipSpaces cs :=
  List.dropWhile_append_of_pos h

theorem skipSpaces_eq_nil {w : List Char} (h : Spaces w) : skipSpaces w = [] :=
  List.dropWhile_eq_nil_iff.mpr h

@[simp] theorem skipSpaces_skipSpaces (cs : List Char) :
    skipSpaces (skipSpaces cs) = skipSpaces cs :=
  List.dropWhile_idempotent ..

theorem MemberText.skipSpaces_text {m : MemberText} (h : Spaces m.before) (rest : List Char) :
    skipSpaces (m.text ++ rest) =
      '"' :: (m.name ++ '"' :: (m.after ++ ':' :: (m.value ++ rest))) := by
  rw [MemberText.text, List.append_assoc, skipSpaces_append h]
  simp [skipSpaces_cons (show isSpace '"' = false by decide)]

/-- Parts after the first, with the comma before them, or the closing character at once. -/
def following (close : Char) : List (List Char) → List Char
  | [] => [close]
  | part :: parts => ',' :: listed close (part :: parts)

theorem listed_cons (close : Char) (part : List Char) (parts : List (List Char)) :
    listed close (part :: parts) = part ++ following close parts := by
  cases parts <;> rfl

/-- There is a character for every part: the comma after it, or the closing character. -/
theorem length_lt_following (close : Char) (parts : List (List Char)) :
    parts.length < (following close parts).length := by
  induction parts with
  | nil => exact Nat.zero_lt_one
  | cons part parts ih =>
    rw [following, listed_cons, List.length_cons, List.length_cons, List.length_append]
    omega

theorem length_le_listed (close : Char) {part : List Char} {parts : List (List Char)}
    (h : part ∈ parts) : part.length ≤ (listed close parts).length := by
  induction parts with
  | nil => cases h
  | cons first parts ih =>
    rw [listed_cons, List.length_append]
    rcases List.mem_cons.mp h with rfl | h
    · omega
    · have hle := ih h
      cases parts with
      | nil => cases h
      | cons next parts =>
        rw [following, List.length_cons]
        omega

theorem length_le_length_listed (close : Char) (parts : List (List Char)) :
    parts.length ≤ (listed close parts).length := by
  cases parts with
  | nil => exact Nat.zero_le _
  | cons part parts =>
    have h := length_lt_following close parts
    rw [listed_cons, List.length_cons, List.length_append]
    omega

theorem ends_nil : Ends [] := by
  intro c h
  cases h

theorem ends_following {close : Char} (h : close = ']' ∨ close = '\x7d')
    (parts : List (List Char)) (rest : List Char) : Ends (following close parts ++ rest) := by
  cases parts with
  | nil =>
    rintro c ⟨⟩
    exact .inr (.inr h)
  | cons part parts =>
    rintro c ⟨⟩
    exact .inr (.inl rfl)

theorem Ends.spaced {w : List Char} (hw : Spaces w) {rest : List Char} (h : Ends rest) :
    Ends (w ++ rest) := by
  cases w with
  | nil => exact h
  | cons c w =>
    rintro _ ⟨⟩
    exact .inl (hw c (by simp))

/-- No digit comes next. -/
def NoDigit (cs : List Char) : Prop :=
  ∀ c ∈ cs.head?, Text.isDigit c = false

theorem noDigit_nil : NoDigit [] := by
  intro c h
  cases h

theorem noDigit_cons {c : Char} (h : Text.isDigit c = false) (cs : List Char) :
    NoDigit (c :: cs) := by
  rintro _ ⟨⟩
  exact h

theorem Ends.ne {rest : List Char} (h : Ends rest) {c : Char} {cs : List Char}
    (hc : isSpace c = false ∧ c ≠ ',' ∧ c ≠ ']' ∧ c ≠ '\x7d') : rest ≠ c :: cs := by
  rintro rfl
  obtain ⟨hs, h₁, h₂, h₃⟩ := hc
  rcases h c rfl with h | h | h | h
  · simp [hs] at h
  · exact h₁ h
  · exact h₂ h
  · exact h₃ h

theorem Ends.not_exponent {c : Char} {cs : List Char} (h : Ends (c :: cs)) :
    ¬ (c = 'e' ∨ c = 'E') := by
  rintro (rfl | rfl) <;> exact h.ne (by decide) rfl

theorem isSpace_of_isDigit {c : Char} (h : Text.isDigit c = true) : isSpace c = false := by
  cases hs : isSpace c with
  | false => rfl
  | true =>
    simp only [isSpace, Bool.or_eq_true, beq_iff_eq] at hs
    rcases hs with ((rfl | rfl) | rfl) | rfl <;> revert h <;> decide

theorem ne_of_isDigit {c d : Char} (h : Text.isDigit c = true) (hd : Text.isDigit d = false) :
    c ≠ d := by
  rintro rfl
  rw [h] at hd
  cases hd

theorem Ends.noDigit {rest : List Char} (h : Ends rest) : NoDigit rest := by
  cases rest with
  | nil => exact noDigit_nil
  | cons c cs =>
    apply noDigit_cons
    cases hd : Text.isDigit c with
    | false => rfl
    | true =>
      have hne : c :: cs ≠ c :: cs := h.ne ⟨isSpace_of_isDigit hd, ne_of_isDigit hd (by decide),
        ne_of_isDigit hd (by decide), ne_of_isDigit hd (by decide)⟩
      exact absurd rfl hne

theorem leadingDigits_append {ds cs : List Char} (hds : AllDigits ds) (hcs : NoDigit cs) :
    leadingDigits (ds ++ cs) = ds := by
  rw [leadingDigits, List.takeWhile_append_of_pos hds]
  cases cs with
  | nil => exact List.append_nil ds
  | cons c cs => rw [List.takeWhile_cons_of_neg (by simp [hcs c rfl]), List.append_nil]

theorem afterDigits_append {ds cs : List Char} (hds : AllDigits ds) (hcs : NoDigit cs) :
    afterDigits (ds ++ cs) = cs := by
  rw [afterDigits, List.dropWhile_append_of_pos hds]
  cases cs with
  | nil => rfl
  | cons c cs => rw [List.dropWhile_cons_of_neg (by simp [hcs c rfl])]

theorem ExponentPart.noDigit {exponent rest : List Char} (h : ExponentPart exponent)
    (hr : NoDigit rest) : NoDigit (exponent ++ rest) := by
  cases h with
  | absent => exact hr
  | digits hl hs _ _ => rcases hl with rfl | rfl <;> exact noDigit_cons (by decide) _

theorem FractionPart.noDigit {fraction rest : List Char} (h : FractionPart fraction)
    (hr : NoDigit rest) : NoDigit (fraction ++ rest) := by
  cases h with
  | absent => exact hr
  | digits _ _ => exact noDigit_cons (by decide) _

theorem WholePart.allDigits {ds : List Char} (h : WholePart ds) : AllDigits ds := by
  cases h with
  | zero => decide
  | digits hc _ hds => exact List.forall_mem_cons.mpr ⟨hc, hds⟩

theorem Unsigned.exists_digit {n : List Char} (h : Unsigned n) :
    ∃ c cs, n = c :: cs ∧ Text.isDigit c = true := by
  obtain ⟨hw, _, _⟩ := h
  cases hw with
  | zero => exact ⟨_, _, rfl, by decide⟩
  | digits hc _ _ => exact ⟨_, _, rfl, hc⟩

/-- Every value starts, after its blanks, with a character that does not close a list. -/
theorem WellFormed.exists_head {t : List Char} (h : WellFormed t) :
    ∃ c cs, c ≠ ']' ∧ ∀ rest, skipSpaces (t ++ rest) = c :: (cs ++ rest) := by
  induction h with
  | word hw =>
    simp only [List.mem_cons, List.not_mem_nil, or_false] at hw
    rcases hw with rfl | rfl | rfl <;>
      exact ⟨_, _, by decide, fun rest => skipSpaces_cons (by decide) _⟩
  | positive hn =>
    obtain ⟨c, cs, rfl, hc⟩ := hn.exists_digit
    exact ⟨c, cs, ne_of_isDigit hc (by decide),
      fun rest => skipSpaces_cons (isSpace_of_isDigit hc) _⟩
  | negative _ => exact ⟨'-', _, by decide, fun rest => skipSpaces_cons (by decide) _⟩
  | text _ => exact ⟨'"', _, by decide, fun rest => skipSpaces_cons (by decide) _⟩
  | list _ _ _ => exact ⟨'[', _, by decide, fun rest => skipSpaces_cons (by decide) _⟩
  | object _ _ _ _ => exact ⟨'\x7b', _, by decide, fun rest => skipSpaces_cons (by decide) _⟩
  | @spaced before t after hb _ _ ih =>
    obtain ⟨c, cs, hc, h⟩ := ih
    refine ⟨c, cs ++ after, hc, fun rest => ?_⟩
    rw [List.append_assoc, List.append_assoc, skipSpaces_append hb, h, List.append_assoc]

theorem unescape?_of_mem {letter c : Char} (h : (letter, c) ∈ escapes) :
    unescape? letter = some c ∧ letter ≠ 'u' := by
  simp only [escapes, List.mem_cons, Prod.mk.injEq, List.not_mem_nil, or_false] at h
  rcases h with ⟨rfl, rfl⟩ | ⟨rfl, rfl⟩ | ⟨rfl, rfl⟩ | ⟨rfl, rfl⟩ | ⟨rfl, rfl⟩ | ⟨rfl, rfl⟩ |
    ⟨rfl, rfl⟩ | ⟨rfl, rfl⟩ <;> decide

theorem Piece.textBody {start : List Char} {c : Char} (h : Piece start c) {body : List Char}
    (hb : TextBody body) : TextBody (start ++ body) := by
  cases h with
  | plain hc => exact .plain hc hb
  | escape hl => exact .escape hl hb
  | unit hu _ _ => exact .unit hu hb
  | pair hu _ hu' _ => exact .unit hu (.unit hu' hb)

/-- What stands for something may stand between quotes. -/
theorem Spells.textBody {body cs : List Char} (h : Spells body cs) : TextBody body := by
  induction h with
  | nil => exact .nil
  | cons hp _ ih => exact hp.textBody ih

/-- Characters that stand for themselves spell themselves. -/
theorem spells_of_allPlain {cs : List Char} (h : AllPlain cs) : Spells cs cs := by
  induction cs with
  | nil => exact .nil
  | cons c cs ih =>
    obtain ⟨hc, hcs⟩ := List.forall_mem_cons.mp h
    exact .cons (.plain hc) (ih hcs)

end HardwareFingerprint.Json
