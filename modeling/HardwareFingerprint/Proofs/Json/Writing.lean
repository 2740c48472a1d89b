import HardwareFingerprint.Proofs.Json.Arrangement
import HardwareFingerprint.Proofs.Json.Spelling
import Mathlib.Data.List.Forall2

/-!
# Written values read back

A value whose numbers are whole is read back from its compact form and from its indented form, on its
own and inside a larger document. The compact form has no control characters: those of its texts are
escaped, and there are no line breaks. Floats are left out, since their shortest digits are not shown
to read back.
-/
namespace HardwareFingerprint.Json

set_option autoImplicit false

variable {α : Type}

/-! ## Texts that a reader takes -/

/-- The reader takes the text as the value, whatever comes after it. -/
structure Takes (read : Reader α) (t : List Char) (a : α) : Prop where
  wellFormed : WellFormed t
  agrees : ∀ after, Ends after → Agrees (read (t ++ after)) (some a) after

/-- The text is a member with the name and a value that the reader takes. -/
def TakesMember (read : Reader α) (t : List Char) (m : String × α) : Prop :=
  ∃ f : Field, f.text = t ∧ f.label = m.1 ∧ Takes read f.value m.2

/-- A member as it is written, after some blanks. -/
def writtenField {before t : List Char} (hb : Spaces before) (name : String) (h : WellFormed t) :
    Field where
  before := before
  name := name.toList.flatMap writeChar
  after := []
  value := t
  label := name
  spaces_before := hb
  spells := spells_writeChars name.toList
  spaces_after := spaces_nil
  wellFormed := h

namespace Takes

variable {read : Reader α} {t : List Char} {a : α}

theorem readDocument (h : Takes read t a) :
    Json.readDocument read (String.ofList t) = .ok a := by
  have hread := h.agrees [] ends_nil
  rw [List.append_nil] at hread
  refine Except.toOption_eq_some_iff.mp (Agrees.toOption_readDocument ?_)
  rwa [String.toList_ofList]

/-- Blanks around a value are passed over. -/
theorem spaced (hskips : ∀ cs, read (skipSpaces cs) = read cs) (h : Takes read t a)
    {before trailing : List Char} (hb : Spaces before) (ht : Spaces trailing) :
    Takes read (before ++ (t ++ trailing)) a where
  wellFormed := .spaced hb h.wellFormed ht
  agrees after ha := by
    have hread : read (before ++ (t ++ trailing) ++ after) = read (t ++ (trailing ++ after)) := by
      rw [← hskips, List.append_assoc, List.append_assoc, skipSpaces_append hb, hskips]
    rw [hread]
    exact (h.agrees _ (ha.spaced ht)).congr (skipSpaces_append ht after)

theorem member (h : Takes read t a) {before : List Char} (hb : Spaces before) (name : String) :
    TakesMember read (before ++ (writeText name ++ ':' :: t)) (name, a) := by
  refine ⟨writtenField hb name h.wellFormed, ?_, rfl, h⟩
  rw [writeText_append]
  rfl

end Takes

theorem wellFormed_of_forall₂ {read : Reader α} {ts : List (List Char)} {xs : List α}
    (h : List.Forall₂ (Takes read) ts xs) : ∀ t ∈ ts, WellFormed t := by
  induction h with
  | nil =>
    intro t ht
    cases ht
  | cons hx _ ih => exact List.forall_mem_cons.mpr ⟨hx.wellFormed, ih⟩

theorem exists_fields_of_forall₂ {read : Reader α} {ts : List (List Char)}
    {ms : List (String × α)} (h : List.Forall₂ (TakesMember read) ts ms) :
    ∃ fields : List Field, fields.map (fun f => f.text) = ts := by
  induction h with
  | nil => exact ⟨[], rfl⟩
  | cons hm _ ih =>
    obtain ⟨f, hf, _, _⟩ := hm
    obtain ⟨fields, hfields⟩ := ih
    exact ⟨f :: fields, by rw [List.map_cons, hf, hfields]⟩

/-! ## Items and members -/

theorem readItems_succ (item : Reader α) (fuel : Nat) (first : Bool) (cs : List Char) :
    readItems item (fuel + 1) first cs = (do
      let (more, cs) ← nextItem first cs
      if more then
        let (x, cs) ← item cs
        let (xs, cs) ← readItems item fuel false cs
        pure (x :: xs, cs)
      else pure ([], cs)) := rfl

theorem readMembers_succ (value : Reader α) (fuel : Nat) (first : Bool) (cs : List Char) :
    readMembers value (fuel + 1) first cs = (do
      let (name, cs) ← nextName first cs
      match name with
      | none => pure ([], cs)
      | some name =>
        let cs ← readColon cs
        let (x, cs) ← value cs
        let (xs, cs) ← readMembers value fuel false cs
        pure ((name, x) :: xs, cs)) := rfl

/-- The items of a list are taken one after the other, up to the bracket. -/
theorem readItems_agrees {item : Reader α} (hskips : ∀ cs, item (skipSpaces cs) = item cs)
    {ts : List (List Char)} {xs : List α} (h : List.Forall₂ (Takes item) ts xs) {fuel : Nat}
    (hf : ts.length < fuel) {first : Bool} {cs after : List Char}
    (hs : skipSpaces cs = skipSpaces (remaining ']' first ts ++ after)) :
    Agrees (readItems item fuel first cs) (some xs) (']' :: after) := by
  induction h generalizing fuel first cs with
  | nil =>
    obtain ⟨fuel, rfl⟩ := Nat.exists_eq_succ_of_ne_zero (Nat.ne_zero_of_lt hf)
    rw [readItems_succ, nextItem_nil hs]
    exact .some rfl
  | @cons t x ts xs ht _ ih =>
    obtain ⟨fuel, rfl⟩ := Nat.exists_eq_succ_of_ne_zero (Nat.ne_zero_of_lt hf)
    have hends : Ends (following ']' ts ++ after) := ends_following (.inl rfl) ts after
    have hnext := nextItem_cons (t := ⟨t, ht.wellFormed⟩) hs
    have hitem := ht.agrees _ hends
    simp only [readItems_succ, hnext, bind, Except.bind, hskips, ↓reduceIte]
    generalize item (t ++ (following ']' ts ++ after)) = r at hitem ⊢
    cases hitem with
    | some hl => exact (ih (Nat.lt_of_succ_lt_succ hf) hl).map (x :: ·)

/-- The members of an object are taken one after the other, up to the brace. -/
theorem readMembers_agrees {value : Reader α} {ts : List (List Char)} {ms : List (String × α)}
    (h : List.Forall₂ (TakesMember value) ts ms) {fuel : Nat} (hf : ts.length < fuel)
    {first : Bool} {cs after : List Char}
    (hs : skipSpaces cs = skipSpaces (remaining '\x7d' first ts ++ after)) :
    Agrees (readMembers value fuel first cs) (some ms) ('\x7d' :: after) := by
  induction h generalizing fuel first cs with
  | nil =>
    obtain ⟨fuel, rfl⟩ := Nat.exists_eq_succ_of_ne_zero (Nat.ne_zero_of_lt hf)
    rw [readMembers_succ, nextName_nil hs]
    exact .some rfl
  | @cons t m ts ms ht _ ih =>
    obtain ⟨fuel, rfl⟩ := Nat.exists_eq_succ_of_ne_zero (Nat.ne_zero_of_lt hf)
    obtain ⟨f, rfl, hlabel, hvalue⟩ := ht
    obtain ⟨name, x⟩ := m
    obtain rfl : f.label = name := hlabel
    have hends : Ends (following '\x7d' ts ++ after) := ends_following (.inr rfl) ts after
    have hread := hvalue.agrees _ hends
    simp only [readMembers_succ, nextName_cons hs, bind, Except.bind,
      readColon_append f.spaces_after]
    generalize value (f.value ++ (following '\x7d' ts ++ after)) = r at hread ⊢
    cases hread with
    | some hl => exact (ih (Nat.lt_of_succ_lt_succ hf) hl).map ((f.label, x) :: ·)

theorem readValue_minus (depth : Nat) (cs : List Char) :
    readValue depth ('-' :: cs) = (do
      let (n, rest) ← readNumber true cs
      pure (.number n, rest)) := by
  rw [readValue.eq_def]
  rfl

theorem readValue_bracket (depth : Nat) (cs : List Char) :
    readValue (depth + 1) ('[' :: cs) = (do
      let (items, rest) ← readItems (readValue depth) (cs.length + 1) true cs
      let rest ← closeList rest
      pure (.array items, rest)) := by
  rw [readValue.eq_def]
  rfl

theorem readValue_brace (depth : Nat) (cs : List Char) :
    readValue (depth + 1) ('\x7b' :: cs) = (do
      let (members, rest) ← readMembers (readValue depth) (cs.length + 1) true cs
      let rest ← closeObject rest
      pure (.object members, rest)) := by
  rw [readValue.eq_def]
  rfl

namespace Takes

variable {depth : Nat}

theorem null : Takes (readValue depth) "null".toList .null where
  wellFormed := .word (by decide)
  agrees after _ := by
    rw [readValue.eq_def]
    exact .some rfl

theorem bool (b : Bool) : Takes (readValue depth) (write (.bool b)) (.bool b) where
  wellFormed := by cases b <;> exact .word (by decide)
  agrees after _ := by
    rw [readValue.eq_def]
    cases b <;> exact .some rfl

theorem natural {n : Nat} (hn : n < Numeral.countOf 64) :
    Takes (readValue depth) (Numeral.digits n) (.number (.natural n)) where
  wellFormed := .positive (unsigned_digits n)
  agrees after ha := by
    rw [readValue_unsigned (unsigned_digits n), readNumber_digits false hn ha]
    exact .some rfl

theorem negative {n : Nat} (hpos : 0 < n) (hn : n ≤ Numeral.countOf 63) :
    Takes (readValue depth) ('-' :: Numeral.digits n) (.number (.negative n)) where
  wellFormed := .negative (unsigned_digits n)
  agrees after ha := by
    have hlt : n < Numeral.countOf 64 := Nat.lt_of_le_of_lt hn (by decide)
    have hwhole : whole true n = .negative n := by
      rw [whole, if_pos rfl, if_neg (by omega), if_pos hn]
    have hread := readNumber_digits true hlt ha
    rw [hwhole] at hread
    rw [List.cons_append, readValue_minus, hread]
    exact .some rfl

theorem text (s : String) : Takes (readValue depth) (writeText s) (.text s) where
  wellFormed := wellFormed_writeText s
  agrees after _ := by
    rw [writeText_append, readValue_quote, readText_written]
    exact .some rfl

theorem array {gap : List Char} (hgap : Spaces gap) {ts : List (List Char)} {xs : List Json}
    (h : List.Forall₂ (Takes (readValue depth)) ts xs) :
    Takes (readValue (depth + 1)) ('[' :: (gap ++ listed ']' ts)) (.array xs) where
  wellFormed := .list hgap (wellFormed_of_forall₂ h)
  agrees after ha := by
    have hfuel : ts.length < (gap ++ listed ']' ts ++ after).length + 1 := by
      have hlen := length_le_length_listed ']' ts
      simp only [List.length_append]
      omega
    have hstart : skipSpaces (gap ++ listed ']' ts ++ after) =
        skipSpaces (remaining ']' true ts ++ after) := by
      rw [List.append_assoc, skipSpaces_append hgap]
      rfl
    have hitems := readItems_agrees (readValue_skipSpaces depth) h hfuel hstart
    rw [List.cons_append, readValue_bracket]
    generalize readItems (readValue depth) _ true _ = r at hitems ⊢
    cases hitems with
    | @some _ left _ hl =>
      have hclose : closeList left = .ok after := @closeList_nil true left after hl
      simp only [bind, Except.bind, hclose]
      exact .some rfl

theorem object {gap : List Char} (hgap : Spaces gap) {ts : List (List Char)}
    {ms : List (String × Json)} (h : List.Forall₂ (TakesMember (readValue depth)) ts ms) :
    Takes (readValue (depth + 1)) ('\x7b' :: (gap ++ listed '\x7d' ts)) (.object ms) where
  wellFormed := by
    obtain ⟨fields, rfl⟩ := exists_fields_of_forall₂ h
    have hobject : WellFormed (objectText gap (fields.map Field.toMemberText)) :=
      .object hgap (List.forall_mem_map.mpr fun f _ => f.isMember)
        (List.forall_mem_map.mpr fun f _ => f.wellFormed)
    rwa [objectText, List.map_map] at hobject
  agrees after ha := by
    have hfuel : ts.length < (gap ++ listed '\x7d' ts ++ after).length + 1 := by
      have hlen := length_le_length_listed '\x7d' ts
      simp only [List.length_append]
      omega
    have hstart : skipSpaces (gap ++ listed '\x7d' ts ++ after) =
        skipSpaces (remaining '\x7d' true ts ++ after) := by
      rw [List.append_assoc, skipSpaces_append hgap]
      rfl
    have hmembers := readMembers_agrees h hfuel hstart
    rw [List.cons_append, readValue_brace]
    generalize readMembers (readValue depth) _ true _ = r at hmembers ⊢
    cases hmembers with
    | some hl =>
      simp only [bind, Except.bind, closeObject_of_skipSpaces hl]
      exact .some rfl

end Takes

/-! ## Written values -/

/-- A value with at most `depth` brackets open at once, whose numbers are whole and in range. -/
inductive Exact : Nat → Json → Prop
  | null {depth : Nat} : Exact depth .null
  | bool {depth : Nat} (b : Bool) : Exact depth (.bool b)
  | natural {depth n : Nat} : n < Numeral.countOf 64 → Exact depth (.number (.natural n))
  | negative {depth n : Nat} : 0 < n → n ≤ Numeral.countOf 63 → Exact depth (.number (.negative n))
  | text {depth : Nat} (s : String) : Exact depth (.text s)
  | array {depth : Nat} {items : List Json} : (∀ x ∈ items, Exact depth x) →
      Exact (depth + 1) (.array items)
  | object {depth : Nat} {members : List (String × Json)} : (∀ m ∈ members, Exact depth m.2) →
      Exact (depth + 1) (.object members)

/-- A member in the compact form. -/
def writeMember (m : String × Json) : List Char :=
  writeText m.1 ++ ':' :: write m.2

theorem writeItems_eq (items : List Json) : writeItems items = listed ']' (items.map write) := by
  induction items with
  | nil => rfl
  | cons x xs ih =>
    cases xs with
    | nil => rfl
    | cons y ys => rw [writeItems, ih]; rfl

theorem writeMembers_eq (members : List (String × Json)) :
    writeMembers members = listed '\x7d' (members.map writeMember) := by
  induction members with
  | nil => rfl
  | cons m ms ih =>
    obtain ⟨name, x⟩ := m
    cases ms with
    | nil => simp [writeMembers, writeMember, listed]
    | cons m' ms => simp [writeMembers, ih, writeMember, listed]

/-- The compact form is read back. -/
theorem Exact.takes_write {depth : Nat} {j : Json} (h : Exact depth j) :
    Takes (readValue depth) (write j) j := by
  induction h with
  | null => exact .null
  | bool b => exact .bool b
  | natural hn => exact .natural hn
  | negative hpos hn => exact .negative hpos hn
  | text s => exact .text s
  | @array depth items _ ih =>
    have hitems : List.Forall₂ (Takes (readValue depth)) (items.map write) items := by
      rw [List.forall₂_map_left_iff, List.forall₂_same]
      exact ih
    have hlist := Takes.array spaces_nil hitems
    rwa [write, writeItems_eq]
  | @object depth members _ ih =>
    have hmembers : List.Forall₂ (TakesMember (readValue depth)) (members.map writeMember) members := by
      rw [List.forall₂_map_left_iff, List.forall₂_same]
      intro m hm
      exact (ih m hm).member spaces_nil m.1
    have hobject := Takes.object spaces_nil hmembers
    rwa [write, writeMembers_eq]

theorem spaces_newLine (level : Nat) : Spaces (newLine level) := by
  intro c hc
  rcases List.mem_cons.mp hc with rfl | hc
  · decide
  · rw [List.eq_of_mem_replicate hc]
    decide

/-- Parts on lines of their own: a line break before each of them, and one after the last. -/
def onLines {β : Type} (level : Nat) (part : β → List Char) : List β → List (List Char)
  | [] => []
  | [x] => [newLine (level + 1) ++ (part x ++ newLine level)]
  | x :: y :: xs => (newLine (level + 1) ++ (part x ++ [])) :: onLines level part (y :: xs)

theorem forall₂_onLines {β : Type} {level : Nat} {part : β → List Char}
    {related : List Char → β → Prop} {xs : List β}
    (h : ∀ x ∈ xs, ∀ trailing, Spaces trailing →
      related (newLine (level + 1) ++ (part x ++ trailing)) x) :
    List.Forall₂ related (onLines level part xs) xs := by
  induction xs with
  | nil => exact .nil
  | cons x xs ih =>
    obtain ⟨hx, hxs⟩ := List.forall_mem_cons.mp h
    cases xs with
    | nil => exact .cons (hx _ (spaces_newLine level)) .nil
    | cons y ys => exact .cons (hx [] spaces_nil) (ih hxs)

/-- A member on a line of its own. -/
def writeMemberLine (level : Nat) (m : String × Json) : List Char :=
  writeText m.1 ++ ':' :: ' ' :: writeIndented (level + 1) m.2

theorem writeItemLines_eq (level : Nat) {items : List Json} (h : items ≠ []) :
    writeItemLines level items =
      listed ']' (onLines level (writeIndented (level + 1)) items) := by
  induction items with
  | nil => exact absurd rfl h
  | cons x xs ih =>
    cases xs with
    | nil => simp [writeItemLines, onLines, listed]
    | cons y ys =>
      rw [writeItemLines, ih (List.cons_ne_nil y ys), onLines, listed_cons]
      cases ys <;> simp [onLines, following]

theorem writeMemberLines_eq (level : Nat) {members : List (String × Json)} (h : members ≠ []) :
    writeMemberLines level members =
      listed '\x7d' (onLines level (writeMemberLine level) members) := by
  induction members with
  | nil => exact absurd rfl h
  | cons m ms ih =>
    obtain ⟨name, x⟩ := m
    cases ms with
    | nil => simp [writeMemberLines, writeMemberLine, onLines, listed]
    | cons m' ms =>
      rw [writeMemberLines, ih (List.cons_ne_nil m' ms), onLines, listed_cons]
      cases ms <;> simp [writeMemberLine, onLines, following]

/-- The indented form is read back. -/
theorem Exact.takes_writeIndented {depth : Nat} {j : Json} (h : Exact depth j) (level : Nat) :
    Takes (readValue depth) (writeIndented level j) j := by
  induction h generalizing level with
  | null => exact .null
  | bool b => exact .bool b
  | natural hn => exact .natural hn
  | negative hpos hn => exact .negative hpos hn
  | text s => exact .text s
  | @array depth items _ ih =>
    cases items with
    | nil => exact Takes.array spaces_nil .nil
    | cons x xs =>
      have hitems : List.Forall₂ (Takes (readValue depth))
          (onLines level (writeIndented (level + 1)) (x :: xs)) (x :: xs) := by
        refine forall₂_onLines fun y hy trailing ht => ?_
        exact (ih y hy (level + 1)).spaced (readValue_skipSpaces depth) (spaces_newLine _) ht
      have hlist := Takes.array spaces_nil hitems
      rwa [writeIndented, writeItemLines_eq level (List.cons_ne_nil x xs)]
  | @object depth members _ ih =>
    cases members with
    | nil => exact Takes.object spaces_nil .nil
    | cons m ms =>
      have hmembers : List.Forall₂ (TakesMember (readValue depth))
          (onLines level (writeMemberLine level) (m :: ms)) (m :: ms) := by
        refine forall₂_onLines fun m' hm trailing ht => ?_
        -- The blank after the colon counts as one before the value.
        have hblank : Spaces [' '] := by decide
        have hvalue := (ih m' hm (level + 1)).spaced (readValue_skipSpaces depth) hblank ht
        have hmember := hvalue.member (spaces_newLine (level + 1)) m'.1
        simpa only [writeMemberLine, List.append_assoc, List.cons_append, List.nil_append]
          using hmember
      have hobject := Takes.object spaces_nil hmembers
      rwa [writeIndented, writeMemberLines_eq level (List.cons_ne_nil m ms)]

theorem noControl_listed {close : Char} (hclose : ¬ close < ' ') {parts : List (List Char)}
    (h : ∀ part ∈ parts, NoControl part) : NoControl (listed close parts) := by
  induction parts with
  | nil => exact .cons hclose (by decide)
  | cons part parts ih =>
    obtain ⟨hpart, hparts⟩ := List.forall_mem_cons.mp h
    rw [listed_cons]
    refine .append hpart ?_
    cases parts with
    | nil => exact .cons hclose (by decide)
    | cons next parts => exact .cons (by decide) (ih hparts)

/-- The compact form has no control characters, whatever the texts in it are. -/
theorem Exact.noControl_write {depth : Nat} {j : Json} (h : Exact depth j) :
    NoControl (write j) := by
  induction h with
  | null => decide
  | bool b => cases b <;> decide
  | natural _ => exact noControl_of_allDigits (allDigits_digits _)
  | negative _ _ => exact .cons (by decide) (noControl_of_allDigits (allDigits_digits _))
  | text s => exact noControl_writeText s
  | array _ ih =>
    rw [write, writeItems_eq]
    exact .cons (by decide) (noControl_listed (by decide) (List.forall_mem_map.mpr ih))
  | object _ ih =>
    rw [write, writeMembers_eq]
    refine .cons (by decide) (noControl_listed (by decide) (List.forall_mem_map.mpr ?_))
    intro m hm
    exact .append (noControl_writeText m.1) (.cons (by decide) (ih m hm))

end HardwareFingerprint.Json
