import HardwareFingerprint.Proofs.Numeral.Decimal
import HardwareFingerprint.Version

/-!
# What a version is written like

A text gives a version exactly if it is not blank and each of its parts between dots starts with a
decimal digit, and with a number below `2 ^ 64`. Nothing is asked of what follows the number in its
part. Where the text gives no version, the failure names the whole text and says what is wrong with
the first part that is at fault.
-/
namespace HardwareFingerprint.Version

set_option autoImplicit false

/-- The number that the leading digits of a part denote. -/
def numberOf (part : List Char) : Nat :=
  Nat.ofDigitChars 10 (part.takeWhile Char.isDigit) 0

/-- A part with a number at its start that is below `bound`, which is `2 ^ 64`. -/
structure Numbered (part : List Char) : Prop where
  digit : part.head?.any Char.isDigit = true
  bounded : numberOf part < bound

instance (part : List Char) : Decidable (Numbered part) :=
  decidable_of_iff (part.head?.any Char.isDigit = true ∧ numberOf part < bound)
    ⟨fun h => ⟨h.1, h.2⟩, fun h => ⟨h.digit, h.bounded⟩⟩

/-- What is said of a part that is at fault. -/
def complaint (part : List Char) : String :=
  "component " ++ Text.quote (String.ofList part) ++
    if part.head?.any Char.isDigit then ": number too large to fit in target type"
    else " is not numeric"

/-- The parts of a text between its dots, without the blanks around the text. -/
def parts (s : String) : List (List Char) :=
  Text.splitAt '.' (Text.trimChars s.toList)

/-- Why a text gives no version. -/
inductive Objection (s : String) : String → Prop
  | blank : Text.trim s = "" → Objection s "empty version string"
  | part {before : List (List Char)} {part : List Char} {after : List (List Char)} :
      Text.trim s ≠ "" → parts s = before ++ part :: after → (∀ p ∈ before, Numbered p) →
      ¬ Numbered part → Objection s (complaint part)

/-! ## Parts -/

theorem takeWhile_of_undigited {cs : List Char} (h : cs.head?.any Char.isDigit = false) :
    cs.takeWhile Char.isDigit = [] := by
  cases cs with
  | nil => rfl
  | cons c rest =>
    have hc : c.isDigit = false := h
    rw [List.takeWhile_cons, hc]
    rfl

theorem takeWhile_isDigit (part : List Char) :
    part.takeWhile Text.isDigit = part.takeWhile Char.isDigit :=
  congrArg part.takeWhile (funext Text.isDigit_eq)

theorem component_undigited {part : List Char} (h : part.head?.any Char.isDigit = false) :
    component part = .error (complaint part) := by
  rw [component, takeWhile_isDigit, takeWhile_of_undigited h, complaint, h]
  simp only [Bool.false_eq_true, if_false]

/-- A part that starts with a digit is read as far as the digits go. -/
theorem readBelow_leading {part : List Char} (h : part.head?.any Char.isDigit = true) :
    part.takeWhile Text.isDigit ≠ [] ∧
      Numeral.readBelow bound (part.takeWhile Text.isDigit) =
        if numberOf part < bound then .ok (numberOf part) else .error .tooLarge := by
  have hdigits : ∀ c ∈ part.takeWhile Char.isDigit, c.isDigit = true :=
    List.all_eq_true.mp List.all_takeWhile
  have hne : part.takeWhile Char.isDigit ≠ [] := by
    cases part with
    | nil => cases h
    | cons c rest =>
      have hc : c.isDigit = true := h
      rw [List.takeWhile_cons, if_pos hc]
      exact List.cons_ne_nil _ _
  rw [takeWhile_isDigit]
  exact ⟨hne, Numeral.readBelow_digits (Nat.two_pow_pos 64) hne hdigits⟩

theorem component_of_numbered {part : List Char} (h : Numbered part) :
    component part = .ok (numberOf part) := by
  obtain ⟨hne, hread⟩ := readBelow_leading h.digit
  rw [if_pos h.bounded] at hread
  rw [component]
  split
  · next hnone => exact absurd hnone hne
  · rw [hread]

theorem component_of_not_numbered {part : List Char} (h : ¬ Numbered part) :
    component part = .error (complaint part) := by
  cases hdigit : part.head?.any Char.isDigit with
  | false => exact component_undigited hdigit
  | true =>
    obtain ⟨hne, hread⟩ := readBelow_leading hdigit
    rw [if_neg fun hbound => h ⟨hdigit, hbound⟩] at hread
    have hmessage : ": " ++ Numeral.DecimalFault.message .tooLarge =
        ": number too large to fit in target type" := by decide
    rw [component]
    split
    · next hnone => exact absurd hnone hne
    · simp only [hread]
      rw [complaint, hdigit, if_pos rfl, String.append_assoc, hmessage]

/-! ## Texts -/

/-- The first part that is at fault decides, and if there is none the numbers are listed. -/
theorem componentList_eq (ps : List (List Char)) :
    componentList ps =
      match ps.find? fun p => ¬ Numbered p with
      | none => .ok (ps.map numberOf)
      | some part => .error (complaint part) := by
  induction ps with
  | nil => rfl
  | cons p ps ih =>
    by_cases hp : Numbered p
    · rw [componentList, component_of_numbered hp, ih, List.find?_cons_of_neg (by simpa using hp)]
      cases ps.find? fun p => ¬ Numbered p <;> rfl
    · rw [componentList, component_of_not_numbered hp, List.find?_cons_of_pos (by simpa using hp)]
      rfl

theorem parse_eq (s : String) :
    parse s =
      if Text.trim s = "" then .error (.invalidVersion s "empty version string")
      else match (parts s).find? fun p => ¬ Numbered p with
        | none => .ok ⟨(parts s).map numberOf, Text.trim s⟩
        | some part => .error (.invalidVersion s (complaint part)) := by
  rw [parse]
  split
  · next hempty => rw [if_pos (by rw [Text.trim, hempty])]
  · next hne =>
    have hvisible : Text.trim s ≠ "" := fun hblank =>
      hne (by rw [← Text.toList_trim, hblank, String.toList_empty])
    rw [if_neg hvisible, ← parts, componentList_eq]
    cases (parts s).find? fun p => ¬ Numbered p <;> rfl

theorem parse_of_numbered {s : String} (hvisible : Text.trim s ≠ "")
    (hall : ∀ part ∈ parts s, Numbered part) :
    parse s = .ok ⟨(parts s).map numberOf, Text.trim s⟩ := by
  have hnone : (parts s).find? (fun p => ¬ Numbered p) = none := by simpa using hall
  rw [parse_eq, if_neg hvisible, hnone]

theorem Objection.parse {s reason : String} (h : Objection s reason) :
    Version.parse s = .error (.invalidVersion s reason) := by
  rw [parse_eq]
  cases h with
  | blank hblank => rw [if_pos hblank]
  | part hvisible hsplit hbefore hpart =>
    have hfind : (parts s).find? (fun p => ¬ Numbered p) = some _ :=
      List.find?_eq_some_iff_append.mpr
        ⟨by simpa using hpart, _, _, hsplit, by simpa using hbefore⟩
    rw [if_neg hvisible, hfind]

theorem exists_objection {s : String}
    (h : ¬ (Text.trim s ≠ "" ∧ ∀ part ∈ parts s, Numbered part)) :
    ∃ reason, Objection s reason := by
  by_cases hblank : Text.trim s = ""
  · exact ⟨_, .blank hblank⟩
  · cases hfind : (parts s).find? fun p => ¬ Numbered p with
    | none => exact absurd ⟨hblank, by simpa using hfind⟩ h
    | some part =>
      obtain ⟨hpart, before, after, hsplit, hbefore⟩ := List.find?_eq_some_iff_append.mp hfind
      exact ⟨_, .part hblank hsplit (by simpa using hbefore) (by simpa using hpart)⟩

theorem parse_eq_ok_iff {s : String} {v : Version} :
    parse s = .ok v ↔
      (Text.trim s ≠ "" ∧ ∀ part ∈ parts s, Numbered part) ∧
        v.components = (parts s).map numberOf ∧ v.text = Text.trim s := by
  constructor
  · intro h
    have hgiven : Text.trim s ≠ "" ∧ ∀ part ∈ parts s, Numbered part := by
      apply Classical.byContradiction
      intro hnot
      obtain ⟨reason, hobjection⟩ := exists_objection hnot
      rw [hobjection.parse] at h
      cases h
    rw [parse_of_numbered hgiven.1 hgiven.2] at h
    cases h
    exact ⟨hgiven, rfl, rfl⟩
  · rintro ⟨⟨hvisible, hall⟩, hcomponents, htext⟩
    rw [parse_of_numbered hvisible hall, ← hcomponents, ← htext]

theorem parse_eq_error_iff {s : String} {e : Failure} :
    parse s = .error e ↔ ∃ reason, Objection s reason ∧ e = .invalidVersion s reason := by
  constructor
  · intro h
    have hnot : ¬ (Text.trim s ≠ "" ∧ ∀ part ∈ parts s, Numbered part) := by
      rintro ⟨hvisible, hall⟩
      rw [parse_of_numbered hvisible hall] at h
      cases h
    obtain ⟨reason, hobjection⟩ := exists_objection hnot
    rw [hobjection.parse] at h
    exact ⟨reason, hobjection, (Except.error.inj h).symm⟩
  · rintro ⟨reason, hobjection, rfl⟩
    exact hobjection.parse

/-- The text that a version keeps gives the same version again. -/
theorem parse_text {s : String} {v : Version} (h : parse s = .ok v) : parse v.text = .ok v := by
  have hparts : parts (Text.trim s) = parts s := by
    rw [parts, Text.toList_trim, Text.trimChars_trimChars, parts]
  obtain ⟨hgiven, hcomponents, htext⟩ := parse_eq_ok_iff.mp h
  rw [parse_eq_ok_iff, htext, hparts, Text.trim_trim]
  exact ⟨hgiven, hcomponents, rfl⟩

/-- Exactly the texts that are not blank and have a number at the start of each part between dots
give versions. The numbers of the parts are the components, one more than the text has dots, and the
version keeps the text without the blanks around it. Every other text is refused for the first
objection there is to it, and the failure holds the text as it was given. -/
theorem parse_exact (s : String) :
    (Text.joinChars ['.'] (parts s) = (Text.trim s).toList ∧ ∀ part ∈ parts s, '.' ∉ part) ∧
    ((∃ v, parse s = .ok v) ↔ Text.trim s ≠ "" ∧ ∀ part ∈ parts s, Numbered part) ∧
    (∀ v, parse s = .ok v →
      v.components = (parts s).map numberOf ∧
      1 ≤ v.components.length ∧
      v.components.length = (Text.trim s).toList.count '.' + 1 ∧
      v.text = Text.trim s ∧ parse v.text = .ok v) ∧
    (∀ e, parse s = .error e ↔ ∃ reason, Objection s reason ∧ e = .invalidVersion s reason) := by
  refine ⟨⟨?_, ?_⟩, ⟨?_, ?_⟩, ?_, fun e => parse_eq_error_iff⟩
  · rw [parts, Text.joinChars_splitAt, Text.toList_trim]
  · exact fun part => Text.not_mem_of_mem_splitAt
  · rintro ⟨v, h⟩
    exact (parse_eq_ok_iff.mp h).1
  · rintro ⟨hvisible, hall⟩
    exact ⟨_, parse_of_numbered hvisible hall⟩
  · intro v h
    obtain ⟨_, hcomponents, htext⟩ := parse_eq_ok_iff.mp h
    have hlength : v.components.length = (Text.trim s).toList.count '.' + 1 := by
      rw [hcomponents, List.length_map, parts, Text.length_splitAt, Text.toList_trim]
    refine ⟨hcomponents, ?_, hlength, htext, parse_text h⟩
    omega

end HardwareFingerprint.Version
