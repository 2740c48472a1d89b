import HardwareFingerprint.Proofs.Json.Denoting
import HardwareFingerprint.Proofs.Record.Restoring

/-!
# Which values a property takes

What a value says to a property of a number and to one of a text, told by the value's text. Main
statement: a property takes the values that tell it something, and as that, and refuses all others.
So a number and its decimal text are both taken or both refused, and one may stand for the other in
a document.
-/
namespace HardwareFingerprint

set_option autoImplicit false

open Json (WholePart Spells Spaces Denotes Undenoted ValueText Field Layout objectDocument
  listDocument)

/-- The value, with blanks around it, says a number below the bound: null and a blank text say zero,
the truth values zero and one, an integer literal its value, and a text the number that it denotes
without the blanks at its ends. -/
inductive TellsNumber (bound : Nat) : List Char → Nat → Prop
  | null : TellsNumber bound "null".toList 0
  | falsehood : TellsNumber bound "false".toList 0
  | truth : TellsNumber bound "true".toList 1
  | literal {ds : List Char} : WholePart ds → Nat.ofDigitChars 10 ds 0 < bound →
      TellsNumber bound ds (Nat.ofDigitChars 10 ds 0)
  | blank {body : List Char} {s : String} : Spells body s.toList → Text.trim s = "" →
      TellsNumber bound ('"' :: (body ++ ['"'])) 0
  | text {body : List Char} {s : String} {n : Nat} : Spells body s.toList →
      Numeral.Denotes (Text.trim s).toList n → n < bound →
      TellsNumber bound ('"' :: (body ++ ['"'])) n
  | spaced {before t after : List Char} {n : Nat} : Spaces before → TellsNumber bound t n →
      Spaces after → TellsNumber bound (before ++ (t ++ after)) n

/-- The value, with blanks around it, says a text: null says the empty one, a truth value its word,
an integer literal from `-2 ^ 63` up to below `2 ^ 64`, but for negative zero, its digits, and a
text itself. -/
inductive TellsText : List Char → String → Prop
  | null : TellsText "null".toList ""
  | falsehood : TellsText "false".toList "false"
  | truth : TellsText "true".toList "true"
  | literal {ds : List Char} : WholePart ds → Nat.ofDigitChars 10 ds 0 < Numeral.countOf 64 →
      TellsText ds (String.ofList ds)
  | negative {ds : List Char} : WholePart ds → 0 < Nat.ofDigitChars 10 ds 0 →
      Nat.ofDigitChars 10 ds 0 ≤ Numeral.countOf 63 →
      TellsText ('-' :: ds) (String.ofList ('-' :: ds))
  | text {body : List Char} {s : String} : Spells body s.toList →
      TellsText ('"' :: (body ++ ['"'])) s
  | spaced {before t after : List Char} {s : String} : Spaces before → TellsText t s →
      Spaces after → TellsText (before ++ (t ++ after)) s

/-- The digits of a number, with blanks around them. -/
def NumberLiteral (n : Nat) (t : List Char) : Prop :=
  ∃ before after, Spaces before ∧ Spaces after ∧ t = before ++ (Numeral.digits n ++ after)

/-- The digits of a number between quotes, with blanks around the quotes. Escapes may spell the
digits. -/
def NumberText (n : Nat) (t : List Char) : Prop :=
  ∃ before body after, Spaces before ∧ Spells body (Numeral.digits n) ∧ Spaces after ∧
    t = before ++ ('"' :: (body ++ ['"']) ++ after)

/-- Both documents are refused, or both give one record, with one encoding and one digest. -/
inductive SameReading (cls : RecordClass) (document document' : String) : Prop
  | refused {e e' : Json.Error} : cls.read document = .error e → cls.read document' = .error e' →
      SameReading cls document document'
  | given {r r' : Record} : cls.read document = .ok r → cls.read document' = .ok r' → r = r' →
      Canonical.record r = Canonical.record r' → Canonical.digest r = Canonical.digest r' →
      SameReading cls document document'

/-! ## What values denote -/

theorem PropertyKind.ofJson_real (k : PropertyKind) (y : Float) :
    ∃ m, k.ofJson (.number (.real y)) = .error m := by
  cases k <;> exact ⟨_, rfl⟩

namespace Property

variable {p : Property} {t : ValueText}

theorem valueOf?_of_denotes {j : Json} (h : Denotes t.val j) :
    p.valueOf? t = (p.kind.ofJson j).toOption := by
  have hread := p.kind.agrees_read ((h.takes Json.maxDepth).agrees [] Json.ends_nil)
  rw [List.append_nil] at hread
  apply Json.Agrees.toOption_readDocument
  rwa [String.toList_ofList]

/-- Lists, objects and floats are refused. -/
theorem valueOf?_of_undenoted (h : Undenoted t.val) : p.valueOf? t = none := by
  have hrefused : ∀ r, Json.readValue Json.maxDepth t.val = .ok r →
      ∃ m, p.kind.ofJson r.1 = .error m := by
    intro r hr
    rw [← List.append_nil t.val] at hr
    rcases h Json.maxDepth [] Json.ends_nil r hr with hcompound | ⟨y, hy⟩
    · exact p.kind.ofJson_of_isCompound hcompound
    · exact hy ▸ p.kind.ofJson_real y
  obtain ⟨f, hf⟩ := p.kind.read_eq_error hrefused
  apply Json.Agrees.toOption_readDocument
  rw [String.toList_ofList, hf]
  exact .none

/-- A property takes a value as what it makes of what the value denotes. -/
theorem valueOf?_eq_some_iff {v : p.Value} :
    p.valueOf? t = some v ↔ ∃ j, Denotes t.val j ∧ p.kind.ofJson j = .ok v := by
  constructor
  · intro h
    rcases t.property.denotes_or with ⟨j, hj⟩ | hnone
    · rw [valueOf?_of_denotes hj, Except.toOption_eq_some_iff] at h
      exact ⟨j, hj, h⟩
    · rw [valueOf?_of_undenoted hnone] at h
      cases h
  · rintro ⟨j, hj, h⟩
    rw [valueOf?_of_denotes hj, h]
    rfl

end Property

/-! ## Numbers -/

/-- A byte has eight bits. -/
theorem capacity_eq (octets : Nat) : Bytes.capacity octets = Numeral.countOf (8 * octets) :=
  (@Nat.pow_mul 2 8 octets).symm

theorem capacity_le {octets : Nat} (h : octets ≤ 8) : Bytes.capacity octets ≤ Numeral.countOf 64 :=
  Nat.pow_le_pow_right (by decide) h

theorem PropertyKind.ofJson_number_eq_ok {octets : Nat} {j : Json}
    {v : Fin (Bytes.capacity octets)} :
    (PropertyKind.number octets).ofJson j = .ok v ↔ j.asNumber = .ok v.val := by
  refine Iff.trans Except.bind_eq_ok_iff ?_
  constructor
  · rintro ⟨n, hn, h⟩
    split at h
    · obtain rfl := Except.ok.inj h
      exact hn
    · cases h
  · intro h
    exact ⟨v.val, h, dif_pos v.isLt⟩

theorem Json.asNumber_text {s : String} {n : Nat} :
    (Json.text s).asNumber = .ok n ↔ (Text.trim s = "" ∧ n = 0) ∨
      (Numeral.Denotes (Text.trim s).toList n ∧ n < Numeral.countOf 64) := by
  have htrim : Text.trim s = "" ↔ Text.trimChars s.toList = [] := by
    rw [← Text.toList_trim, String.toList_eq_nil_iff]
  rw [htrim, Text.toList_trim, Json.asNumber]
  cases Text.trimChars s.toList with
  | nil =>
    constructor
    · intro h
      obtain rfl := Except.ok.inj h
      exact .inl ⟨rfl, rfl⟩
    · rintro (⟨_, rfl⟩ | ⟨hn, _⟩)
      · rfl
      · exact absurd rfl hn.ne_nil
  | cons c cs =>
    refine Iff.trans Except.mapError_eq_ok_iff ?_
    refine (Numeral.readBelow_eq_ok_iff (Nat.two_pow_pos 64)).trans ?_
    exact ⟨.inr, fun h => h.resolve_left fun hblank => List.cons_ne_nil c cs hblank.1⟩

/-- The numbers that a value says are those that are made of what it denotes. -/
theorem tellsNumber_iff {bound : Nat} (hone : 1 < bound) (hbound : bound ≤ Numeral.countOf 64)
    {t : List Char} {n : Nat} :
    TellsNumber bound t n ↔ ∃ j, Denotes t j ∧ j.asNumber = .ok n ∧ n < bound := by
  constructor
  · intro h
    induction h with
    | null => exact ⟨_, .null, rfl, by omega⟩
    | falsehood => exact ⟨_, .bool false, rfl, by omega⟩
    | truth => exact ⟨_, .bool true, rfl, hone⟩
    | literal hw hlt => exact ⟨_, .natural hw (Nat.lt_of_lt_of_le hlt hbound), rfl, hlt⟩
    | blank hs htrim => exact ⟨_, .text hs, Json.asNumber_text.mpr (.inl ⟨htrim, rfl⟩), by omega⟩
    | text hs hn hlt =>
      exact ⟨_, .text hs,
        Json.asNumber_text.mpr (.inr ⟨hn, Nat.lt_of_lt_of_le hlt hbound⟩), hlt⟩
    | spaced hb _ ha ih =>
      obtain ⟨j, hj, hn⟩ := ih
      exact ⟨j, .spaced hb hj ha, hn⟩
  · rintro ⟨j, hj, hn, hlt⟩
    induction hj with
    | null =>
      obtain rfl := Except.ok.inj hn
      exact .null
    | bool b =>
      obtain rfl := Except.ok.inj hn
      cases b with
      | false => exact .falsehood
      | true => exact .truth
    | natural hw _ =>
      obtain rfl := Except.ok.inj hn
      exact .literal hw hlt
    | negative _ _ _ => cases hn
    | text hs =>
      rcases Json.asNumber_text.mp hn with ⟨htrim, rfl⟩ | ⟨hn, _⟩
      · exact .blank hs htrim
      · exact .text hs hn hlt
    | spaced hb _ ha ih => exact .spaced hb (ih hn) ha

/-! ## Texts -/

/-- The texts that a value says are those that are made of what it denotes. -/
theorem tellsText_iff {t : List Char} {s : String} :
    TellsText t s ↔ ∃ j, Denotes t j ∧ j.asText = .ok s := by
  constructor
  · intro h
    induction h with
    | null => exact ⟨_, .null, rfl⟩
    | falsehood => exact ⟨_, .bool false, rfl⟩
    | truth => exact ⟨_, .bool true, rfl⟩
    | literal hw hlt =>
      refine ⟨_, .natural hw hlt, ?_⟩
      rw [Json.asText, hw.digits_value]
    | negative hw hpos hle =>
      refine ⟨_, .negative hw hpos hle, ?_⟩
      rw [Json.asText, hw.digits_value]
    | text hs => exact ⟨_, .text hs, rfl⟩
    | spaced hb _ ha ih =>
      obtain ⟨j, hj, hs⟩ := ih
      exact ⟨j, .spaced hb hj ha, hs⟩
  · rintro ⟨j, hj, hs⟩
    induction hj with
    | null =>
      obtain rfl := Except.ok.inj hs
      exact .null
    | bool b =>
      obtain rfl := Except.ok.inj hs
      cases b with
      | false => exact .falsehood
      | true => exact .truth
    | natural hw hlt =>
      obtain rfl := Except.ok.inj hs
      rw [hw.digits_value]
      exact .literal hw hlt
    | negative hw hpos hle =>
      obtain rfl := Except.ok.inj hs
      rw [hw.digits_value]
      exact .negative hw hpos hle
    | text hs' =>
      obtain rfl := Except.ok.inj hs
      exact .text hs'
    | spaced hb _ ha ih => exact .spaced hb (ih hs) ha

/-! ## A number and its decimal text -/

/-- Digits are not blank. -/
theorem trim_digits {n : Nat} {s : String} (h : s.toList = Numeral.digits n) :
    (Text.trim s).toList = Numeral.digits n := by
  have hvisible : ∀ c ∈ Numeral.digits n, Text.isBlank c = false := by
    intro c hc
    cases hblank : Text.isBlank c with
    | false => rfl
    | true =>
      have hdigit := Numeral.isDigit_of_mem_digits hc
      rw [Text.not_isDigit_of_isBlank hblank] at hdigit
      cases hdigit
  rw [Text.toList_trim, h]
  exact Text.trimChars_of_visible_ends (fun c hc => hvisible c (List.mem_of_mem_head? hc))
    fun c hc => hvisible c (List.mem_of_mem_getLast? hc)

theorem Json.asNumber_text_digits {n m : Nat} {s : String} (h : s.toList = Numeral.digits n) :
    (Json.text s).asNumber = .ok m ↔ m = n ∧ n < Numeral.countOf 64 := by
  have htrim := trim_digits h
  have hvisible : Text.trim s ≠ "" := by
    intro hblank
    rw [hblank] at htrim
    exact Nat.toDigits_ne_nil htrim.symm
  rw [Json.asNumber_text, htrim, Numeral.denotes_digits_iff]
  constructor
  · rintro (⟨hblank, _⟩ | ⟨rfl, hlt⟩)
    · exact absurd hblank hvisible
    · exact ⟨rfl, hlt⟩
  · rintro ⟨rfl, hlt⟩
    exact .inr ⟨rfl, hlt⟩

/-- A literal denotes its number below `2 ^ 64`, or nothing. -/
theorem NumberLiteral.denotes_or {n : Nat} {t : List Char} (h : NumberLiteral n t) :
    (n < Numeral.countOf 64 ∧ Denotes t (.number (.natural n))) ∨
      (Numeral.countOf 64 ≤ n ∧ Undenoted t) := by
  obtain ⟨before, after, hb, ha, rfl⟩ := h
  have hvalue : Nat.ofDigitChars 10 (Numeral.digits n) 0 = n := Nat.ofDigitChars_ten_toDigits
  have hwhole := Json.wholePart_digits n
  by_cases hlt : n < Numeral.countOf 64
  · have hdenotes := Denotes.natural hwhole (hvalue.symm ▸ hlt)
    rw [hvalue] at hdenotes
    exact .inl ⟨hlt, .spaced hb hdenotes ha⟩
  · rcases (Json.unsigned_digits n).denotes_or with ⟨_, hbelow⟩ | hnone
    · rw [hvalue] at hbelow
      exact absurd hbelow hlt
    · exact .inr ⟨Nat.not_lt.mp hlt, hnone.spaced hb ha⟩

theorem NumberText.denotes {n : Nat} {t : List Char} (h : NumberText n t) :
    Denotes t (.text (String.ofList (Numeral.digits n))) := by
  obtain ⟨before, body, after, hb, hs, ha, rfl⟩ := h
  have hs : Spells body (String.ofList (Numeral.digits n)).toList := by rwa [String.toList_ofList]
  exact .spaced hb (.text hs) ha

namespace Property

variable {name : String} {octets n : Nat} {t : ValueText} {v : Fin (Bytes.capacity octets)}

theorem valueOf?_number_of_denotes {j : Json} (h : Denotes t.val j) :
    valueOf? ⟨name, .number octets⟩ t = some v ↔ j.asNumber = .ok v.val := by
  rw [valueOf?_of_denotes h, Except.toOption_eq_some_iff]
  exact PropertyKind.ofJson_number_eq_ok

theorem valueOf?_literal (hoctets : octets ≤ 8) (h : NumberLiteral n t.val) :
    valueOf? ⟨name, .number octets⟩ t = some v ↔ v.val = n := by
  rcases h.denotes_or with ⟨_, hdenotes⟩ | ⟨hle, hnone⟩
  · rw [valueOf?_number_of_denotes hdenotes]
    exact ⟨fun h => (Except.ok.inj h).symm, fun h => congrArg Except.ok h.symm⟩
  · have hlt := Nat.lt_of_lt_of_le v.isLt (capacity_le hoctets)
    rw [valueOf?_of_undenoted hnone]
    exact ⟨(fun h => nomatch h), fun h => by omega⟩

theorem valueOf?_text (hoctets : octets ≤ 8) (h : NumberText n t.val) :
    valueOf? ⟨name, .number octets⟩ t = some v ↔ v.val = n := by
  have hlt := Nat.lt_of_lt_of_le v.isLt (capacity_le hoctets)
  rw [valueOf?_number_of_denotes h.denotes, Json.asNumber_text_digits String.toList_ofList]
  exact ⟨fun h => h.1, fun h => ⟨h, h ▸ hlt⟩⟩

/-- A number and its decimal text say the same. -/
theorem valueOf?_literal_eq_text (hoctets : octets ≤ 8) {t' : ValueText}
    (h : NumberLiteral n t.val) (h' : NumberText n t'.val) :
    valueOf? ⟨name, .number octets⟩ t = valueOf? ⟨name, .number octets⟩ t' :=
  Option.ext fun _ => (valueOf?_literal hoctets h).trans (valueOf?_text hoctets h').symm

theorem valueOf?_number_iff (hpos : 0 < octets) (hoctets : octets ≤ 8) :
    valueOf? ⟨name, .number octets⟩ t = some v ↔
      TellsNumber (Numeral.countOf (8 * octets)) t.val v.val := by
  have hone : 1 < Numeral.countOf (8 * octets) := Nat.one_lt_two_pow (by omega)
  have hbound : Numeral.countOf (8 * octets) ≤ Numeral.countOf 64 :=
    Nat.pow_le_pow_right (by decide) (by omega)
  have hlt : v.val < Numeral.countOf (8 * octets) := capacity_eq octets ▸ v.isLt
  rw [tellsNumber_iff hone hbound]
  refine valueOf?_eq_some_iff.trans (exists_congr fun j => and_congr_right fun _ => ?_)
  exact PropertyKind.ofJson_number_eq_ok.trans ⟨fun h => ⟨h, hlt⟩, fun h => h.1⟩

theorem valueOf?_text_iff {s : String} :
    valueOf? ⟨name, .text⟩ t = some s ↔ TellsText t.val s :=
  valueOf?_eq_some_iff.trans tellsText_iff.symm

end Property

/-! ## Documents -/

namespace RecordClass

theorem sameReading_of_readDocument (cls : RecordClass) {document document' : String}
    (h : (cls.shape.readDocument document).toOption = (cls.shape.readDocument document').toOption) :
    SameReading cls document document' := by
  have hsame : (cls.read document).toOption = (cls.read document').toOption :=
    cls.toOption_read_congr fun r => by rw [cls.read_eq_ok_iff, h, cls.read_eq_ok_iff]
  cases hread : cls.read document with
  | ok r =>
    rw [hread] at hsame
    exact .given hread (Except.toOption_eq_some_iff.mp hsame.symm) rfl rfl rfl
  | error e =>
    rw [hread] at hsame
    obtain ⟨e', he⟩ := Except.toOption_eq_none_iff.mp hsame.symm
    exact .refused hread he

/-- A member may be replaced by one of its name that says the same to each property of that name. -/
theorem objectDocument_replaced (cls : RecordClass) (l l' : Layout) {f f' : Field}
    (hlabel : f.label = f'.label)
    (h : ∀ p ∈ cls.properties, f.label = p.name → p.valueOf? f.valueText = p.valueOf? f'.valueText)
    (before after : List Field) :
    SameReading cls (objectDocument l (before ++ f :: after))
      (objectDocument l' (before ++ f' :: after)) := by
  apply cls.sameReading_of_readDocument
  rw [Json.Shape.readDocument_object (cls.readsAs_valueOf? _) cls.nodup_names,
    Json.Shape.readDocument_object (cls.readsAs_valueOf? _) cls.nodup_names]
  exact Tuple.collect_congr fun p hp => Json.Members.given_replaced hlabel (h p hp) before after

theorem listDocument_replaced (cls : RecordClass) (l l' : Layout) {before : List ValueText}
    {t t' : ValueText}
    (h : ∀ p, cls.properties[before.length]? = some p → p.valueOf? t = p.valueOf? t')
    (after : List ValueText) :
    SameReading cls (listDocument l (before ++ t :: after))
      (listDocument l' (before ++ t' :: after)) := by
  apply cls.sameReading_of_readDocument
  rw [Json.Shape.readDocument_list (cls.readsAs_valueOf? _),
    Json.Shape.readDocument_list (cls.readsAs_valueOf? _)]
  exact Json.Members.inOrder_replaced h after

/-- Where a property has a number, a literal and the text of one number say the same. -/
theorem valueOf?_eq_of_number (cls : RecordClass) {p : Property} (hp : p ∈ cls.properties)
    (hkind : p.kind ≠ .text) {n : Nat} {t t' : ValueText} (h : NumberLiteral n t.val)
    (h' : NumberText n t'.val) : p.valueOf? t = p.valueOf? t' := by
  have hnarrow := cls.narrow p hp
  obtain ⟨name, kind⟩ := p
  cases kind with
  | text => exact absurd rfl hkind
  | number octets => exact Property.valueOf?_literal_eq_text hnarrow h h'

end RecordClass

namespace Property

/-- A number of so many bytes is taken of the values that say it, a text of those that say it, and
of no others. A number's literal and its decimal text say the same, so either may stand in a
document for the other, wherever a number belongs. -/
theorem value_exact :
    (∀ (name : String) (octets : Nat), 0 < octets → octets ≤ 8 →
      ∀ (t : ValueText) (v : Fin (Bytes.capacity octets)),
        valueOf? ⟨name, .number octets⟩ t = some v ↔
          TellsNumber (Numeral.countOf (8 * octets)) t.val v.val) ∧
    (∀ (name : String) (t : ValueText) (s : String),
      valueOf? ⟨name, .text⟩ t = some s ↔ TellsText t.val s) ∧
    ∀ (n : Nat) (t t' : ValueText), NumberLiteral n t.val → NumberText n t'.val →
      (∀ (name : String) (octets : Nat), octets ≤ 8 → ∀ v : Fin (Bytes.capacity octets),
        (valueOf? ⟨name, .number octets⟩ t = some v ↔ v.val = n) ∧
        (valueOf? ⟨name, .number octets⟩ t' = some v ↔ v.val = n)) ∧
      ∀ (cls : RecordClass) (l l' : Layout), ∀ p ∈ cls.properties, p.kind ≠ .text →
        (∀ (before after : List Field) (f f' : Field), f.label = p.name → f'.label = p.name →
          f.valueText = t → f'.valueText = t' →
          SameReading cls (objectDocument l (before ++ f :: after))
            (objectDocument l' (before ++ f' :: after))) ∧
        ∀ before after : List ValueText, cls.properties[before.length]? = some p →
          SameReading cls (listDocument l (before ++ t :: after))
            (listDocument l' (before ++ t' :: after)) := by
  refine ⟨fun name octets hpos hle t v => valueOf?_number_iff hpos hle,
    fun name t s => valueOf?_text_iff, fun n t t' h h' => ⟨fun name octets hle v =>
      ⟨valueOf?_literal hle h, valueOf?_text hle h'⟩, fun cls l l' p hp hkind => ?_⟩⟩
  have hsame := cls.valueOf?_eq_of_number hp hkind h h'
  constructor
  · intro before after f f' hf hf' ht ht'
    refine cls.objectDocument_replaced l l' (hf.trans hf'.symm) (fun q hq hname => ?_) before after
    -- Only one property has the name.
    obtain rfl : q = p := List.inj_on_of_nodup_map cls.nodup_names hq hp (hname.symm.trans hf)
    rw [ht, ht', hsame]
  · intro before after hplace
    refine cls.listDocument_replaced l l' (fun q hq => ?_) after
    obtain rfl : p = q := Option.some.inj (hplace.symm.trans hq)
    exact hsame

end Property

/-- The number 48 after a blank. -/
def literal48 : ValueText :=
  ⟨[' '] ++ (Numeral.digits 48 ++ []),
    .spaced (by decide) (.positive (Json.unsigned_digits 48)) (by decide)⟩

/-- An escaped four and an eight. -/
def body48 : List Char :=
  ['\\', 'u', '0', '0', '3', '4'] ++ (['8'] ++ [])

theorem spells_body48 : Spells body48 (Numeral.digits 48) := by
  have hfour : Json.Piece ['\\', 'u', '0', '0', '3', '4'] (Char.ofNat 52) := .unit rfl rfl rfl
  have height : Json.Piece ['8'] '8' := .plain (by decide)
  exact .cons hfour (.cons height .nil)

def text48 : ValueText :=
  ⟨[] ++ ('"' :: (body48 ++ ['"']) ++ []),
    .spaced (by decide) (.text spells_body48.textBody) (by decide)⟩

theorem allPlain_sku : Json.AllPlain "OperatingSystemSKU".toList := by
  decide

def skuField (t : ValueText) : Field :=
  plainField "OperatingSystemSKU" allPlain_sku t

/-- Between a version and a caption that are not set, the number and its escaped text say the
same. -/
theorem sku_literal_or_text :
    let sku : Property := ⟨"OperatingSystemSKU", .number 4⟩
    let caption := plainField "Caption" (by decide) nullText
    NumberLiteral 48 literal48.val ∧ NumberText 48 text48.val ∧
      sku.valueOf? literal48 = some ⟨48, by decide⟩ ∧ sku.valueOf? text48 = some ⟨48, by decide⟩ ∧
      TellsNumber (Numeral.countOf (8 * 4)) text48.val 48 ∧
      sku ∈ RecordClass.operatingSystem.properties ∧ sku.kind ≠ .text ∧
      SameReading .operatingSystem
        (objectDocument tight ([windowsVersion] ++ skuField literal48 :: [caption]))
        (objectDocument tight ([windowsVersion] ++ skuField text48 :: [caption])) := by
  intro sku caption
  have hliteral : NumberLiteral 48 literal48.val := ⟨[' '], [], by decide, by decide, rfl⟩
  have htext : NumberText 48 text48.val :=
    ⟨[], body48, [], by decide, spells_body48, by decide, rfl⟩
  have hmem : sku ∈ RecordClass.operatingSystem.properties := by decide
  have hkind : sku.kind ≠ .text := by decide
  obtain ⟨hnumbers, _, hsame⟩ := Property.value_exact
  obtain ⟨hvalues, hdocuments⟩ := hsame 48 literal48 text48 hliteral htext
  have hgiven := hvalues "OperatingSystemSKU" 4 (by decide) ⟨48, by decide⟩
  have htaken : sku.valueOf? text48 = some ⟨48, by decide⟩ := hgiven.2.mpr rfl
  have htells := hnumbers "OperatingSystemSKU" 4 (by decide) (by decide) text48 ⟨48, by decide⟩
  have hreplaced := (hdocuments .operatingSystem tight tight sku hmem hkind).1
  exact ⟨hliteral, htext, hgiven.1.mpr rfl, htaken, htells.mp htaken, hmem, hkind,
    hreplaced [windowsVersion] [caption] (skuField literal48) (skuField text48) rfl rfl rfl rfl⟩

end HardwareFingerprint
