import HardwareFingerprint.Proofs.Json.Denoting
import HardwareFingerprint.Proofs.Json.Restoring

/-!
# Which values the readers of one kind take

The readers of texts, of whole numbers, of names and of values that may be null take exactly the
values that stand for something of their kind, wherever these stand, and refuse all others. A name
is given as a text, or as an object whose only member has that name and is null.
-/
namespace HardwareFingerprint.Json

set_option autoImplicit false

variable {α Key : Type}

/-- Of a text, the reader takes what the text means, whatever comes after it, and nothing else. -/
structure Decides (read : Reader α) (t : List Char) (means : α → Prop) : Prop where
  takes : ∀ a, means a → ∀ after, Ends after → Agrees (read (t ++ after)) (some a) after
  only : ∀ after, Ends after → ∀ a rest, read (t ++ after) = .ok (a, rest) → means a

/-- The text means null, or something else. -/
def NullOr (t : List Char) (means : α → Prop) : Option α → Prop
  | none => Denotes t .null
  | some a => means a

/-- The text names one of the choices. -/
inductive Chooses (choices : List (String × α)) : List Char → α → Prop
  | text {body : List Char} {name : String} {a : α} : Spells body name.toList →
      choices.lookup name = some a → Chooses choices ('"' :: (body ++ ['"'])) a
  | object {gap : List Char} {f : Field} {a : α} : Spaces gap → choices.lookup f.label = some a →
      Denotes f.value .null → Chooses choices (objectText gap [f.toMemberText]) a
  | spaced {before t trailing : List Char} {a : α} : Spaces before → Chooses choices t a →
      Spaces trailing → Chooses choices (before ++ (t ++ trailing)) a

theorem Agrees.exists_ok {x : Except Fault (α × List Char)} {a : α} {after : List Char}
    (h : Agrees x (Option.some a) after) :
    ∃ left, x = .ok (a, left) ∧ skipSpaces left = skipSpaces after := by
  cases h with
  | some hl => exact ⟨_, rfl, hl⟩

/-! ### Readers beside the reader of all values -/

section Value

variable {depth : Nat} {cs rest : List Char}

/-- The first character of each kind of value. -/
def Starts (c : Char) : Json → Prop
  | .null => c = 'n'
  | .bool _ => c = 't' ∨ c = 'f'
  | .number _ => c = '-' ∨ Text.isDigit c = true
  | .text _ => c = '"'
  | .array _ => c = '['
  | .object _ => c = '\x7b'

theorem starts_of_readValue {j : Json} (h : readValue depth cs = .ok (j, rest)) :
    ∃ c tail, skipSpaces cs = c :: tail ∧ Starts c j := by
  rw [readValue.eq_def] at h
  split at h
  · cases h
  · next c tail hcs =>
    refine ⟨c, tail, hcs, ?_⟩
    split_ifs at h with hn ht hf hm hd hq hb ho
    · obtain ⟨_, _, h⟩ := Except.bind_eq_ok_iff.mp h
      cases h
      exact hn
    · obtain ⟨_, _, h⟩ := Except.bind_eq_ok_iff.mp h
      cases h
      exact .inl ht
    · obtain ⟨_, _, h⟩ := Except.bind_eq_ok_iff.mp h
      cases h
      exact .inr hf
    · obtain ⟨_, _, h⟩ := Except.bind_eq_ok_iff.mp h
      cases h
      exact .inl hm
    · obtain ⟨_, _, h⟩ := Except.bind_eq_ok_iff.mp h
      cases h
      exact .inr hd
    · obtain ⟨_, _, h⟩ := Except.bind_eq_ok_iff.mp h
      cases h
      exact hq
    · split at h
      · cases h
      · obtain ⟨_, _, h⟩ := Except.bind_eq_ok_iff.mp h
        obtain ⟨_, _, h⟩ := Except.bind_eq_ok_iff.mp h
        cases h
        exact hb
    · split at h
      · cases h
      · obtain ⟨_, _, h⟩ := Except.bind_eq_ok_iff.mp h
        obtain ⟨_, _, h⟩ := Except.bind_eq_ok_iff.mp h
        cases h
        exact ho

theorem readValue_null (depth : Nat) (tail : List Char) :
    readValue depth ('n' :: tail) = (do
      let rest ← readWord ['u', 'l', 'l'] tail
      pure (.null, rest)) := by
  rw [readValue.eq_def]
  rfl

theorem readValue_digit (depth : Nat) {c : Char} (hc : Text.isDigit c = true) (tail : List Char) :
    readValue depth (c :: tail) = (do
      let (n, rest) ← readNumber false (c :: tail)
      pure (.number n, rest)) := by
  have ne := fun {d : Char} (hd : Text.isDigit d = false) => ne_of_isDigit hc hd
  rw [readValue.eq_def]
  simp [skipSpaces_cons (isSpace_of_isDigit hc), ne (d := 'n') (by decide),
    ne (d := 't') (by decide), ne (d := 'f') (by decide), ne (d := '-') (by decide), hc]

theorem textCalled_eq_ok_iff {expected s : String} :
    textCalled expected cs = .ok (s, rest) ↔ readValue depth cs = .ok (.text s, rest) := by
  constructor
  · intro h
    rw [textCalled] at h
    split at h
    · cases h
    · next c tail hcs =>
      split at h
      · next hq =>
        rw [← readValue_skipSpaces, hcs, hq, readValue_quote, h]
        rfl
      · cases h
  · intro h
    obtain ⟨c, tail, hcs, rfl⟩ := starts_of_readValue h
    rw [← readValue_skipSpaces, hcs, readValue_quote] at h
    obtain ⟨r, hr, h⟩ := Except.bind_eq_ok_iff.mp h
    cases h
    rw [textCalled, hcs]
    exact hr

theorem boundNumber_eq_ok_iff {bound : Nat} {expected : String} {n : Number} {tail : List Char}
    {a : Fin bound} :
    boundNumber bound expected n tail = .ok (a, rest) ↔ n = .natural a.val ∧ tail = rest := by
  cases n with
  | natural n =>
    rw [boundNumber]
    split
    · next h =>
      simp only [Except.ok.injEq, Prod.mk.injEq, Number.natural.injEq, Fin.ext_iff]
    · next h =>
      constructor
      · rintro ⟨⟩
      · rintro ⟨hn, _⟩
        obtain rfl := Number.natural.inj hn
        exact absurd a.isLt h
  | negative n =>
    constructor
    · rintro ⟨⟩
    · rintro ⟨⟨⟩, _⟩
  | real x =>
    constructor
    · rintro ⟨⟩
    · rintro ⟨⟨⟩, _⟩

theorem readBelow_eq_ok_iff {bound : Nat} {expected : String} {a : Fin bound} :
    readBelow bound expected cs = .ok (a, rest) ↔
      readValue depth cs = .ok (.number (.natural a.val), rest) := by
  -- Both readers read a number where a sign or a digit stands.
  have hnumber : ∀ {x : Except Fault (Number × List Char)},
      (do let (n, left) ← x; boundNumber bound expected n left) = .ok (a, rest) ↔
        (do let (n, left) ← x; pure (Json.number n, left)) =
          .ok (.number (.natural a.val), rest) := by
    intro x
    simp only [Except.bind_eq_ok_iff, boundNumber_eq_ok_iff, pure, Except.pure, Except.ok.injEq,
      Prod.mk.injEq, Json.number.injEq]
  rw [readBelow]
  constructor
  · intro h
    split at h
    · cases h
    · next c tail hcs =>
      rw [← readValue_skipSpaces, hcs]
      split_ifs at h with hm hd
      · rw [hm, readValue_minus]
        exact hnumber.mp h
      · rw [readValue_digit depth hd]
        exact hnumber.mp h
  · intro h
    obtain ⟨c, tail, hcs, hc⟩ := starts_of_readValue h
    rw [← readValue_skipSpaces, hcs] at h
    rw [hcs]
    rcases hc with rfl | hd
    · rw [readValue_minus] at h
      exact hnumber.mpr h
    · rw [readValue_digit depth hd] at h
      have hm : c ≠ '-' := ne_of_isDigit hd (by decide)
      simp only [hm, hd, if_true, if_false]
      exact hnumber.mpr h

theorem readValue_eq_null_iff : readValue depth cs = .ok (.null, rest) ↔
    ∃ tail, skipSpaces cs = 'n' :: tail ∧ readWord ['u', 'l', 'l'] tail = .ok rest := by
  constructor
  · intro h
    obtain ⟨c, tail, hcs, rfl⟩ := starts_of_readValue h
    rw [← readValue_skipSpaces, hcs, readValue_null] at h
    obtain ⟨left, hleft, h⟩ := Except.bind_eq_ok_iff.mp h
    cases h
    exact ⟨tail, hcs, hleft⟩
  · rintro ⟨tail, hcs, hrest⟩
    rw [← readValue_skipSpaces, hcs, readValue_null, hrest]
    rfl

theorem readNull_eq_ok_iff : readNull cs = .ok rest ↔ readValue depth cs = .ok (.null, rest) := by
  rw [readValue_eq_null_iff, readNull]
  cases skipSpaces cs with
  | nil => simp
  | cons c tail => by_cases hn : c = 'n' <;> simp [hn]

theorem orNull_eq_none_iff {read : Reader α} :
    orNull read cs = .ok (none, rest) ↔ readValue depth cs = .ok (.null, rest) := by
  rw [readValue_eq_null_iff, orNull]
  cases skipSpaces cs with
  | nil => simp
  | cons c tail => by_cases hn : c = 'n' <;> simp [hn, Except.bind_eq_ok_iff, pure, Except.pure]

/-- A reader that passes over blanks takes nothing that starts like null. -/
structure LeavesNull (read : Reader α) : Prop where
  skips : ∀ cs, read (skipSpaces cs) = read cs
  null : ∀ tail, ∃ f, read ('n' :: tail) = .error f
  empty : ∃ f, read [] = .error f

/-- What is not null is left to the reader. -/
theorem LeavesNull.orNull_eq_some_iff {read : Reader α} (h : LeavesNull read) {a : α} :
    orNull read cs = .ok (some a, rest) ↔ read cs = .ok (a, rest) := by
  rw [← h.skips cs, orNull]
  cases skipSpaces cs with
  | nil =>
    obtain ⟨f, hf⟩ := h.empty
    simp [hf]
  | cons c tail =>
    by_cases hn : c = 'n'
    · obtain ⟨f, hf⟩ := h.null tail
      simp [hn, hf, Except.bind_eq_ok_iff, pure, Except.pure]
    · simp [hn, Except.bind_eq_ok_iff, pure, Except.pure]

end Value

/-! ### Scalars -/

section Scalar

variable {t after rest : List Char}

/-- Only of what denotes a value is that value read, unless it is a list, an object or a float. -/
theorem denotes_of_readValue {depth : Nat} {j : Json} (ht : WellFormed t) (hafter : Ends after)
    (h : readValue depth (t ++ after) = .ok (j, rest)) (hcompound : ¬ j.IsCompound)
    (hreal : ∀ x, j ≠ .number (.real x)) : Denotes t j := by
  rcases ht.denotes_or with ⟨j', hj'⟩ | hundenoted
  · obtain ⟨left, hvalue, _⟩ := ((hj'.takes depth).agrees after hafter).exists_ok
    rw [h] at hvalue
    obtain ⟨rfl, _⟩ := Prod.mk.inj (Except.ok.inj hvalue)
    exact hj'
  · rcases hundenoted depth after hafter _ h with hj | ⟨x, hj⟩
    · exact absurd hj hcompound
    · exact absurd hj (hreal x)

/-- A reader that reads the values of one form decides what denotes a value of that form. -/
theorem decides_of_readValue {read : Reader α} {form : α → Json} (depth : Nat)
    (hread : ∀ cs a rest, read cs = .ok (a, rest) ↔ readValue depth cs = .ok (form a, rest))
    (hcompound : ∀ a, ¬ (form a).IsCompound) (hreal : ∀ a x, form a ≠ .number (.real x))
    (ht : WellFormed t) : Decides read t fun a => Denotes t (form a) where
  takes a ha after hafter := by
    obtain ⟨left, hvalue, hleft⟩ := ((ha.takes depth).agrees after hafter).exists_ok
    rw [(hread _ _ _).mpr hvalue]
    exact .some hleft
  only _ hafter a _ hok :=
    denotes_of_readValue ht hafter ((hread _ _ _).mp hok) (hcompound a) (hreal a)

theorem decides_textCalled (expected : String) (ht : WellFormed t) :
    Decides (textCalled expected) t fun s => Denotes t (.text s) :=
  decides_of_readValue 0 (fun _ _ _ => textCalled_eq_ok_iff) (fun _ => id)
    (fun _ _ => Json.noConfusion) ht

theorem decides_readBelow (bound : Nat) (expected : String) (ht : WellFormed t) :
    Decides (readBelow bound expected) t fun n => Denotes t (.number (.natural n.val)) :=
  decides_of_readValue 0 (fun _ _ _ => readBelow_eq_ok_iff) (fun _ => id)
    (fun _ _ h => by cases h) ht

theorem leavesNull_textCalled (expected : String) : LeavesNull (textCalled expected) where
  skips cs := by rw [textCalled, textCalled, skipSpaces_skipSpaces]
  null _ := ⟨_, rfl⟩
  empty := ⟨_, rfl⟩

theorem Decides.orNull {read : Reader α} {means : α → Prop} (h : Decides read t means)
    (hread : LeavesNull read) (ht : WellFormed t) :
    Decides (orNull read) t (NullOr t means) where
  takes o ho after hafter := by
    cases o with
    | none =>
      obtain ⟨left, hvalue, hleft⟩ := ((Denotes.takes ho 0).agrees after hafter).exists_ok
      rw [orNull_eq_none_iff.mpr hvalue]
      exact .some hleft
    | some a =>
      obtain ⟨left, hvalue, hleft⟩ := (h.takes a ho after hafter).exists_ok
      rw [hread.orNull_eq_some_iff.mpr hvalue]
      exact .some hleft
  only after hafter o rest hok := by
    cases o with
    | none =>
      have hvalue : readValue 0 (t ++ after) = .ok (.null, rest) := orNull_eq_none_iff.mp hok
      exact denotes_of_readValue ht hafter hvalue id fun _ => Json.noConfusion
    | some a => exact h.only after hafter a rest (hread.orNull_eq_some_iff.mp hok)

end Scalar

/-! ### Choices -/

section Choice

variable {choices : List (String × α)} {depth : Nat} {t after rest : List Char} {a : α}

theorem choose_eq_ok_iff {name : String} {tail : List Char} :
    choose choices name tail = .ok (a, rest) ↔ choices.lookup name = some a ∧ tail = rest := by
  rw [choose]
  cases choices.lookup name <;> simp

theorem choose_of_lookup {name : String} (h : choices.lookup name = some a) (tail : List Char) :
    choose choices name tail = .ok (a, tail) :=
  choose_eq_ok_iff.mpr ⟨h, rfl⟩

theorem readChoice_skipSpaces (cs : List Char) :
    readChoice choices depth (skipSpaces cs) = readChoice choices depth cs := by
  rw [readChoice, readChoice, skipSpaces_skipSpaces]

theorem leavesNull_readChoice (choices : List (String × α)) (depth : Nat) :
    LeavesNull (readChoice choices depth) where
  skips := readChoice_skipSpaces
  null _ := ⟨_, rfl⟩
  empty := ⟨_, rfl⟩

/-- A text that is read spells what is read of it. -/
theorem spells_of_readText {body : List Char} {name : String} (hb : TextBody body)
    (h : readText (body ++ '"' :: after) = .ok (name, rest)) :
    Spells body name.toList ∧ rest = after := by
  obtain ⟨expected, hspells, hread⟩ := hb.settles_and.1
  cases expected with
  | none =>
    obtain ⟨f, hf⟩ := (hread [] after).exists_error
    rw [readText, hf] at h
    cases h
  | some cs =>
    have hs : Spells body (String.ofList cs).toList := by
      rw [String.toList_ofList]
      exact hspells cs rfl
    rw [readText_of_spells hs] at h
    cases h
    exact ⟨hs, rfl⟩

theorem readChoice_quote (tail : List Char) :
    readChoice choices depth ('"' :: tail) = (do
      let (name, rest) ← readText tail
      choose choices name rest) := by
  rw [readChoice]
  rfl

theorem readChoice_brace (tail : List Char) :
    readChoice choices (depth + 1) ('\x7b' :: tail) = (do
      let (name, rest) ← onlyName tail
      let (a, rest) ← choose choices name rest
      let rest ← readColon rest
      let rest ← readNull rest
      match skipSpaces rest with
      | [] => .error (.before .endInObject [])
      | d :: rest =>
        if d = '\x7d' then .ok (a, rest) else .error (.before .expectedValue (d :: rest))) := by
  rw [readChoice]
  rfl

theorem objectText_cons_append (gap : List Char) (m : MemberText) (ms : List MemberText)
    (after : List Char) : objectText gap (m :: ms) ++ after =
      '\x7b' :: (gap ++ (m.text ++ (following '\x7d' (ms.map MemberText.text) ++ after))) := by
  rw [objectText, List.map_cons, listed_cons]
  simp only [List.cons_append, List.append_assoc]

theorem onlyName_append {gap : List Char} (hgap : Spaces gap) {m : MemberText}
    (hm : Spaces m.before) (tail : List Char) :
    onlyName (gap ++ (m.text ++ tail)) =
      readText (m.name ++ '"' :: (m.after ++ ':' :: (m.value ++ tail))) := by
  rw [onlyName, skipSpaces_append hgap, MemberText.skipSpaces_text hm]
  rfl

theorem Chooses.agrees (h : Chooses choices t a) (hafter : Ends after) :
    Agrees (readChoice choices (depth + 1) (t ++ after)) (some a) after := by
  induction h generalizing after with
  | text hs ha =>
    rw [List.cons_append, List.append_assoc, List.singleton_append, readChoice_quote,
      readText_of_spells hs]
    simp only [bind, Except.bind, choose_of_lookup ha]
    exact .some rfl
  | @object gap f a hgap ha hnull =>
    have hends : Ends (following '\x7d' [] ++ after) := ends_following (.inr rfl) [] after
    obtain ⟨left, hvalue, hleft⟩ := ((hnull.takes 0).agrees _ hends).exists_ok
    have hclose : skipSpaces left = '\x7d' :: after := hleft
    rw [objectText_cons_append, readChoice_brace, onlyName_append hgap f.spaces_before,
      readText_of_spells f.spells]
    simp only [bind, Except.bind, choose_of_lookup ha, readColon_append f.spaces_after,
      List.map_nil, readNull_eq_ok_iff.mpr hvalue, hclose]
    exact .some rfl
  | spaced hb _ ht ih =>
    rw [← readChoice_skipSpaces, List.append_assoc, List.append_assoc, skipSpaces_append hb,
      readChoice_skipSpaces]
    exact (ih (hafter.spaced ht)).congr (skipSpaces_append ht after)

/-- An object of which a choice is read has one member, with the name of the choice and null. -/
theorem chooses_of_members {gap : List Char} {members : List MemberText} (hgap : Spaces gap)
    (hmembers : ∀ m ∈ members, m.IsMember) (hvalues : ∀ m ∈ members, WellFormed m.value)
    (h : readChoice choices (depth + 1) (objectText gap members ++ after) = .ok (a, rest)) :
    Chooses choices (objectText gap members) a := by
  cases members with
  | nil =>
    rw [objectText, List.cons_append, readChoice_brace, onlyName, List.append_assoc,
      skipSpaces_append hgap] at h
    cases h
  | cons m ms =>
    obtain ⟨⟨hbefore, hname, hcolon⟩, _⟩ := List.forall_mem_cons.mp hmembers
    obtain ⟨hvalue, _⟩ := List.forall_mem_cons.mp hvalues
    have hends : Ends (following '\x7d' (ms.map MemberText.text) ++ after) :=
      ends_following (.inr rfl) _ after
    rw [objectText_cons_append, readChoice_brace, onlyName_append hgap hbefore] at h
    obtain ⟨⟨name, left⟩, hread, h⟩ := Except.bind_eq_ok_iff.mp h
    obtain ⟨hspells, rfl⟩ := spells_of_readText hname hread
    obtain ⟨⟨a', left⟩, hchoice, h⟩ := Except.bind_eq_ok_iff.mp h
    obtain ⟨ha, rfl⟩ := choose_eq_ok_iff.mp hchoice
    obtain ⟨left, hleft, h⟩ := Except.bind_eq_ok_iff.mp h
    rw [readColon_append hcolon] at hleft
    obtain rfl := Except.ok.inj hleft
    obtain ⟨left, hnull, h⟩ := Except.bind_eq_ok_iff.mp h
    have hread : readValue 0 (m.value ++ _) = .ok (.null, left) := readNull_eq_ok_iff.mp hnull
    have hdenotes := denotes_of_readValue hvalue hends hread id fun _ => Json.noConfusion
    obtain ⟨left', hleft', hends'⟩ := ((hdenotes.takes 0).agrees _ hends).exists_ok
    rw [hread] at hleft'
    obtain ⟨_, rfl⟩ := Prod.mk.inj (Except.ok.inj hleft')
    simp only [hends'] at h
    cases ms with
    | nil =>
      obtain ⟨rfl, _⟩ := Prod.mk.inj (Except.ok.inj h)
      let f : Field := ⟨m, name, hbefore, hspells, hcolon, hvalue⟩
      exact .object (f := f) hgap ha hdenotes
    | cons next ms => cases h

/-- Of nothing but what names a choice is the choice read. -/
theorem chooses_of_readChoice (ht : WellFormed t) (hafter : Ends after)
    (h : readChoice choices (depth + 1) (t ++ after) = .ok (a, rest)) : Chooses choices t a := by
  induction ht generalizing after with
  | @word w hw =>
    simp only [List.mem_cons, List.not_mem_nil, or_false] at hw
    rcases hw with rfl | rfl | rfl <;> cases h
  | @positive n hn =>
    obtain ⟨c, cs, rfl, hc⟩ := hn.exists_digit
    have hq : c ≠ '"' := ne_of_isDigit hc (by decide)
    have hb : c ≠ '\x7b' := ne_of_isDigit hc (by decide)
    rw [List.cons_append, readChoice, skipSpaces_cons (isSpace_of_isDigit hc)] at h
    simp only [hq, hb, if_false] at h
    cases h
  | negative _ => cases h
  | @text body hb =>
    rw [List.cons_append, List.append_assoc, List.singleton_append, readChoice_quote] at h
    obtain ⟨⟨name, left⟩, hread, h⟩ := Except.bind_eq_ok_iff.mp h
    exact .text (spells_of_readText hb hread).1 (choose_eq_ok_iff.mp h).1
  | list _ _ _ => cases h
  | object hgap hmembers hvalues _ => exact chooses_of_members hgap hmembers hvalues h
  | spaced hb _ ht ih =>
    rw [← readChoice_skipSpaces, List.append_assoc, List.append_assoc, skipSpaces_append hb,
      readChoice_skipSpaces] at h
    exact .spaced hb (ih (hafter.spaced ht) h) ht

theorem decides_readChoice (choices : List (String × α)) (depth : Nat) (ht : WellFormed t) :
    Decides (readChoice choices (depth + 1)) t (Chooses choices t) where
  takes _ ha _ hafter := ha.agrees hafter
  only _ hafter _ _ hok := chooses_of_readChoice ht hafter hok

end Choice

/-! ### Members of a shape -/

namespace Members

variable {m : Members Key} {depth : Nat} {k : Key} {t : ValueText} {means : m.Value k → Prop}

/-- What is read of a text wherever it stands is read of it alone. -/
theorem alone_of_agrees {expected : Option (m.Value k)}
    (h : ∀ after, Ends after → Agrees (m.reader k depth (t.val ++ after)) expected after) :
    m.alone depth k t = expected := by
  have hread := h [] ends_nil
  rw [List.append_nil] at hread
  apply Agrees.toOption_readDocument
  rwa [String.toList_ofList]

theorem alone_of_means (h : Decides (m.reader k depth) t.val means) {v : m.Value k}
    (hv : means v) : m.alone depth k t = some v :=
  alone_of_agrees (h.takes v hv)

theorem agrees_none (h : Decides (m.reader k depth) t.val means) (hnone : ∀ v, ¬ means v)
    {after : List Char} (hafter : Ends after) :
    Agrees (m.reader k depth (t.val ++ after)) none after := by
  cases hok : m.reader k depth (t.val ++ after) with
  | error f => exact .none
  | ok r => exact absurd (h.only after hafter r.1 r.2 hok) (hnone r.1)

theorem alone_eq_some_iff (h : Decides (m.reader k depth) t.val means) {v : m.Value k} :
    m.alone depth k t = some v ↔ means v := by
  refine ⟨fun halone => ?_, alone_of_means h⟩
  by_cases hmeans : ∃ v, means v
  · obtain ⟨v', hv'⟩ := hmeans
    rw [alone_of_means h hv'] at halone
    exact Option.some.inj halone ▸ hv'
  · rw [alone_of_agrees fun _ => agrees_none h (not_exists.mp hmeans)] at halone
    cases halone

theorem agrees_alone (h : Decides (m.reader k depth) t.val means) {after : List Char}
    (hafter : Ends after) :
    Agrees (m.reader k depth (t.val ++ after)) (m.alone depth k t) after := by
  cases halone : m.alone depth k t with
  | some v => exact h.takes v ((alone_eq_some_iff h).mp halone) after hafter
  | none =>
    refine agrees_none h (fun v hv => ?_) hafter
    rw [alone_of_means h hv] at halone
    cases halone

/-- Readers that decide their values read what each value means, wherever it stands. -/
theorem readsAs_alone {means : (k : Key) → List Char → m.Value k → Prop}
    (h : ∀ k t, WellFormed t → Decides (m.reader k depth) t (means k t))
    (hskips : ∀ k cs, m.reader k depth (skipSpaces cs) = m.reader k depth cs) :
    m.ReadsAs depth (m.alone depth) where
  agrees k t _ hafter := agrees_alone (h k t.val t.property) hafter
  skips := hskips

end Members

end HardwareFingerprint.Json
