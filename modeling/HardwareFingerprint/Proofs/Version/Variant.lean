import HardwareFingerprint.Proofs.Version.Grammar
import HardwareFingerprint.Proofs.Version.Order

/-!
# Texts that order alike

A version has many texts. There may be blanks around them, a number may have a suffix, and zeros may
come at the end, none of which matters to the order. A suffix must not become a number itself, as it
can where it is put into a first part that was empty: the blanks that it starts with are then blanks
around the text.
-/
namespace HardwareFingerprint.Version

set_option autoImplicit false

/-- The numbers of some parts, if each of them has one. -/
def numbers? (ps : List (List Char)) : Option (List Nat) :=
  if ∀ part ∈ ps, Numbered part then some (ps.map numberOf) else none

/-- The numbers of a text up to the last that is not zero, if the text gives a version. -/
def reading? (cs : List Char) : Option (List Nat) :=
  (numbers? (Text.splitAt '.' (cs.dropWhile Text.isBlank))).map dropZeros

/-- A suffix for the part that ends before `back`. -/
structure Suffix (front suffix back : List Char) : Prop where
  place : back = [] ∨ ∃ rest, back = '.' :: rest
  undotted : '.' ∉ suffix
  undigited : suffix.head?.any Char.isDigit = false
  apart : (∀ c ∈ front, Text.isBlank c = true) →
    (suffix.dropWhile Text.isBlank).head?.any Char.isDigit = false

/-- A text, and what it becomes with blanks around it, suffixes to its parts and zeros at its end. -/
inductive Variant (cs : List Char) : List Char → Prop
  | same : Variant cs cs
  | spaced {before t after : List Char} : (∀ c ∈ before, Text.isBlank c = true) → Variant cs t →
      (∀ c ∈ after, Text.isBlank c = true) → Variant cs (before ++ (t ++ after))
  | suffixed {front suffix back : List Char} : Suffix front suffix back →
      Variant cs (front ++ back) → Variant cs (front ++ (suffix ++ back))
  | extended {t : List Char} : Variant cs t → Variant cs (t ++ ['.', '0'])

/-! ## Numbers of parts -/

theorem numberOf_append {suffix : List Char} (h : suffix.head?.any Char.isDigit = false)
    (part : List Char) : numberOf (part ++ suffix) = numberOf part := by
  have hrun : (part ++ suffix).takeWhile Char.isDigit = part.takeWhile Char.isDigit := by
    induction part with
    | nil => exact takeWhile_of_undigited h
    | cons c part ih => rw [List.cons_append, List.takeWhile_cons, List.takeWhile_cons, ih]
  rw [numberOf, hrun, numberOf]

theorem numbered_append_iff {suffix : List Char} (h : suffix.head?.any Char.isDigit = false)
    {part : List Char} : Numbered (part ++ suffix) ↔ Numbered part := by
  have hdigit : (part ++ suffix).head?.any Char.isDigit = part.head?.any Char.isDigit := by
    cases part with
    | nil => exact h
    | cons c part => rfl
  constructor
  · rintro ⟨hd, hb⟩
    exact ⟨hdigit ▸ hd, numberOf_append h part ▸ hb⟩
  · rintro ⟨hd, hb⟩
    exact ⟨hdigit ▸ hd, (numberOf_append h part).symm ▸ hb⟩

theorem numbers?_append (ps qs : List (List Char)) :
    numbers? (ps ++ qs) = (numbers? ps).bind fun ns => (numbers? qs).map (ns ++ ·) := by
  by_cases hps : ∀ part ∈ ps, Numbered part
  · by_cases hqs : ∀ part ∈ qs, Numbered part
    · rw [numbers?, numbers?, numbers?, if_pos (List.forall_mem_append.mpr ⟨hps, hqs⟩), if_pos hps,
        if_pos hqs, List.map_append]
      rfl
    · rw [numbers?, numbers?, numbers?, if_neg fun h => hqs (List.forall_mem_append.mp h).2,
        if_pos hps, if_neg hqs]
      rfl
  · rw [numbers?, numbers?, if_neg fun h => hps (List.forall_mem_append.mp h).1, if_neg hps]
    rfl

/-- The first part has no number. -/
theorem numbers?_cons_of_undigited {part : List Char} (h : part.head?.any Char.isDigit = false)
    (ps : List (List Char)) : numbers? (part :: ps) = none := by
  rw [numbers?, if_neg]
  intro hall
  have hdigit := (hall part List.mem_cons_self).digit
  rw [h] at hdigit
  cases hdigit

/-- A text whose first character is no digit gives no version. -/
theorem numbers?_splitAt_of_undigited {cs : List Char} (h : cs.head?.any Char.isDigit = false) :
    numbers? (Text.splitAt '.' cs) = none := by
  cases cs with
  | nil => exact numbers?_cons_of_undigited rfl []
  | cons c cs =>
    have hstart : ∀ part, (c :: part).head?.any Char.isDigit = false := fun _ => h
    rw [Text.splitAt]
    split
    · exact numbers?_cons_of_undigited rfl _
    · split
      · exact numbers?_cons_of_undigited (hstart _) _
      · exact numbers?_cons_of_undigited (hstart _) _

theorem numbers?_splitAt_append {suffix : List Char} (hdot : '.' ∉ suffix)
    (hdigit : suffix.head?.any Char.isDigit = false) (cs : List Char) :
    numbers? (Text.splitAt '.' (cs ++ suffix)) = numbers? (Text.splitAt '.' cs) := by
  obtain ⟨before, last, hparts, hsuffix⟩ := Text.splitAt_append '.' cs
  have hlast : numbers? [last ++ suffix] = numbers? [last] := by
    simp only [numbers?, List.forall_mem_singleton, List.map_singleton, numbered_append_iff hdigit,
      numberOf_append hdigit]
  rw [hsuffix suffix hdot, hparts, numbers?_append, numbers?_append, hlast]

/-! ## Readings -/

theorem undigited_of_blank {cs : List Char} (h : ∀ c ∈ cs, Text.isBlank c = true) :
    cs.head?.any Char.isDigit = false := by
  cases cs with
  | nil => rfl
  | cons c cs => exact Text.not_isDigit_of_isBlank (h c List.mem_cons_self)

theorem undotted_of_blank {cs : List Char} (h : ∀ c ∈ cs, Text.isBlank c = true) : '.' ∉ cs := by
  intro hdot
  exact absurd (h '.' hdot) (by decide)

/-- Blanks at the end belong to the last part, as a suffix. -/
theorem numbers?_splitAt_trimChars (cs : List Char) :
    numbers? (Text.splitAt '.' (Text.trimChars cs)) =
      numbers? (Text.splitAt '.' (cs.dropWhile Text.isBlank)) := by
  have htrim : Text.trimChars cs = (cs.dropWhile Text.isBlank).rdropWhile Text.isBlank := rfl
  have hends : (cs.dropWhile Text.isBlank).rdropWhile Text.isBlank ++
      (cs.dropWhile Text.isBlank).rtakeWhile Text.isBlank = cs.dropWhile Text.isBlank :=
    List.rdropWhile_append_rtakeWhile
  have hblank : ∀ c ∈ (cs.dropWhile Text.isBlank).rtakeWhile Text.isBlank, Text.isBlank c = true :=
    fun c hc => List.mem_rtakeWhile_imp hc
  rw [htrim, ← numbers?_splitAt_append (undotted_of_blank hblank) (undigited_of_blank hblank), hends]

/-- A blank text needs no case of its own, because its only part has no number. -/
theorem components_parse (s : String) :
    (parse s).toOption.map components = numbers? (parts s) := by
  rw [numbers?]
  by_cases hall : ∀ part ∈ parts s, Numbered part
  · have hvisible : Text.trim s ≠ "" := by
      intro hblank
      have hparts : parts s = [[]] := by rw [parts, ← Text.toList_trim, hblank]; rfl
      have hempty : Numbered [] := hall [] (hparts ▸ List.mem_singleton_self [])
      cases hempty.digit
    rw [if_pos hall, parse_of_numbered hvisible hall]
    rfl
  · obtain ⟨reason, hobjection⟩ := exists_objection fun hgiven => hall hgiven.2
    rw [if_neg hall, hobjection.parse]
    rfl

theorem significant_parse (s : String) :
    (parse s).toOption.map significant = reading? s.toList := by
  have hsignificant : (significant : Version → List Nat) = dropZeros ∘ components := rfl
  rw [hsignificant, ← Option.map_map, components_parse, parts, numbers?_splitAt_trimChars]
  rfl

theorem reading?_of_undigited {cs : List Char}
    (h : (cs.dropWhile Text.isBlank).head?.any Char.isDigit = false) : reading? cs = none := by
  rw [reading?, numbers?_splitAt_of_undigited h]
  rfl

/-- Blanks at the start of a text are passed over. -/
theorem reading?_blank_append {front : List Char} (h : ∀ c ∈ front, Text.isBlank c = true)
    (cs : List Char) : reading? (front ++ cs) = reading? cs := by
  rw [reading?, reading?, List.dropWhile_append_of_pos h]

/-- Only the start of a text that is not blank may have blanks to be passed over. -/
theorem reading?_visible_append {front : List Char} (h : ¬ ∀ c ∈ front, Text.isBlank c = true)
    (cs : List Char) :
    reading? (front ++ cs) =
      (numbers? (Text.splitAt '.' (front.dropWhile Text.isBlank ++ cs))).map dropZeros := by
  rw [reading?, List.dropWhile_append, if_neg]
  rwa [List.isEmpty_iff, List.dropWhile_eq_nil_iff]

/-! ## Variants -/

theorem reading?_append_blank {after : List Char} (h : ∀ c ∈ after, Text.isBlank c = true)
    (cs : List Char) : reading? (cs ++ after) = reading? cs := by
  by_cases hcs : ∀ c ∈ cs, Text.isBlank c = true
  · rw [reading?_blank_append hcs, reading?, reading?, List.dropWhile_eq_nil_iff.mpr h,
      List.dropWhile_eq_nil_iff.mpr hcs]
  · rw [reading?_visible_append hcs,
      numbers?_splitAt_append (undotted_of_blank h) (undigited_of_blank h), reading?]

theorem reading?_suffixed {front suffix back : List Char} (h : Suffix front suffix back) :
    reading? (front ++ (suffix ++ back)) = reading? (front ++ back) := by
  by_cases hfront : ∀ c ∈ front, Text.isBlank c = true
  · -- The text has no number at its start, neither without the suffix nor with it.
    have hback : (back.dropWhile Text.isBlank).head?.any Char.isDigit = false := by
      rcases h.place with rfl | ⟨rest, rfl⟩
      · rfl
      · rw [List.dropWhile_cons_of_neg (by decide)]
        rfl
    have hsuffix : ((suffix ++ back).dropWhile Text.isBlank).head?.any Char.isDigit = false := by
      have hapart := h.apart hfront
      rw [List.dropWhile_append]
      cases hs : suffix.dropWhile Text.isBlank with
      | nil => exact hback
      | cons c cs =>
        rw [hs] at hapart
        exact hapart
    rw [reading?_blank_append hfront, reading?_blank_append hfront, reading?_of_undigited hsuffix,
      reading?_of_undigited hback]
  · -- The part has a start of its own, which the suffix comes after.
    rw [reading?_visible_append hfront, reading?_visible_append hfront]
    rcases h.place with rfl | ⟨rest, rfl⟩
    · rw [List.append_nil, List.append_nil, numbers?_splitAt_append h.undotted h.undigited]
    · rw [← List.append_assoc, Text.splitAt_append_cons, Text.splitAt_append_cons, numbers?_append,
        numbers?_append, numbers?_splitAt_append h.undotted h.undigited]

theorem reading?_extended (cs : List Char) : reading? (cs ++ ['.', '0']) = reading? cs := by
  by_cases hcs : ∀ c ∈ cs, Text.isBlank c = true
  · have hzero : reading? ['.', '0'] = none := by decide
    have hblank : (cs.dropWhile Text.isBlank).head?.any Char.isDigit = false := by
      rw [List.dropWhile_eq_nil_iff.mpr hcs]
      rfl
    rw [reading?_blank_append hcs, hzero, reading?_of_undigited hblank]
  · have hzero : numbers? (Text.splitAt '.' ['0']) = some [0] := by decide
    rw [reading?_visible_append hcs, Text.splitAt_append_cons, numbers?_append, hzero, reading?]
    cases numbers? (Text.splitAt '.' (cs.dropWhile Text.isBlank)) with
    | none => rfl
    | some ns =>
      have hdrop : dropZeros (ns ++ [0]) = dropZeros ns := List.rdropWhile_concat_pos _ _ _ rfl
      exact congrArg some hdrop

theorem Variant.reading?_eq {cs t : List Char} (h : Variant cs t) : reading? t = reading? cs := by
  induction h with
  | same => rfl
  | spaced hb _ ha ih => rw [reading?_blank_append hb, reading?_append_blank ha, ih]
  | suffixed hs _ ih => rw [reading?_suffixed hs, ih]
  | extended _ ih => rw [reading?_extended, ih]

/-- A variant of a version's text gives a version that is the same in the order. -/
theorem Variant.parse {s t : String} (h : Variant s.toList t.toList) {v : Version}
    (hs : Version.parse s = .ok v) :
    ∃ v', Version.parse t = .ok v' ∧ v'.significant = v.significant := by
  have hread := h.reading?_eq
  rw [← significant_parse, ← significant_parse, hs] at hread
  cases ht : Version.parse t with
  | error e =>
    rw [ht] at hread
    cases hread
  | ok v' =>
    rw [ht] at hread
    exact ⟨v', rfl, Option.some.inj hread⟩

end HardwareFingerprint.Version
