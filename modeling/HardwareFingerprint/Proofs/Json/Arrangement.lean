import HardwareFingerprint.Proofs.Json.Reading
import HardwareFingerprint.Proofs.Json.Skipping
import HardwareFingerprint.Proofs.Json.Slots

/-!
# Documents of a shape

An object document gives each name of its shape what its members give, however they are arranged and
whatever stands between them. A list document gives the names their values in order. Both are said
of any well-formed values: a value that its name does not accept makes the document a refused one.
-/
namespace HardwareFingerprint.Json

set_option autoImplicit false

/-! ## What is still to be read -/

/-- The parts that are still to be read, with the comma before the next one if it is not the
first. -/
def remaining (close : Char) (first : Bool) (parts : List (List Char)) : List Char :=
  if first then listed close parts else following close parts

theorem remaining_nil (close : Char) (first : Bool) : remaining close first [] = [close] := by
  cases first <;> rfl

theorem remaining_first (close : Char) (part : List Char) (parts : List (List Char))
    (after : List Char) :
    remaining close true (part :: parts) ++ after = part ++ (following close parts ++ after) := by
  rw [remaining, if_pos rfl, listed_cons, List.append_assoc]

theorem skipSpaces_remaining_next (close : Char) (part : List Char) (parts : List (List Char))
    (after : List Char) :
    skipSpaces (remaining close false (part :: parts) ++ after) =
      ',' :: (part ++ (following close parts ++ after)) := by
  rw [remaining, if_neg Bool.false_ne_true, following, listed_cons, List.cons_append,
    skipSpaces_cons (by decide), List.append_assoc]

theorem nextName_nil {first : Bool} {cs after : List Char}
    (h : skipSpaces cs = skipSpaces (remaining '\x7d' first [] ++ after)) :
    nextName first cs = .ok (none, '\x7d' :: after) := by
  rw [remaining_nil] at h
  rw [nextName, h]
  rfl

theorem nextName_cons {first : Bool} {f : Field} {parts : List (List Char)} {cs after : List Char}
    (h : skipSpaces cs = skipSpaces (remaining '\x7d' first (f.text :: parts) ++ after)) :
    nextName first cs =
      .ok (some f.label, f.after ++ ':' :: (f.value ++ (following '\x7d' parts ++ after))) := by
  have hhead := MemberText.skipSpaces_text f.spaces_before (following '\x7d' parts ++ after)
  have hname := fun rest => readText_of_spells f.spells rest
  cases first with
  | true =>
    rw [remaining_first, hhead] at h
    simp [nextName, h, hname, bind, Except.bind, pure, Except.pure]
  | false =>
    rw [skipSpaces_remaining_next] at h
    simp [nextName, h, hhead, hname, bind, Except.bind, pure, Except.pure]

theorem nextItem_nil {first : Bool} {cs after : List Char}
    (h : skipSpaces cs = skipSpaces (remaining ']' first [] ++ after)) :
    nextItem first cs = .ok (false, ']' :: after) := by
  rw [remaining_nil] at h
  rw [nextItem, h]
  rfl

theorem nextItem_cons {first : Bool} {t : ValueText} {parts : List (List Char)}
    {cs after : List Char}
    (h : skipSpaces cs = skipSpaces (remaining ']' first (t.val :: parts) ++ after)) :
    nextItem first cs = .ok (true, skipSpaces (t.val ++ (following ']' parts ++ after))) := by
  obtain ⟨c, rest, hc, hhead⟩ := t.property.exists_head
  have hhead := hhead (following ']' parts ++ after)
  cases first with
  | true =>
    rw [remaining_first, hhead] at h
    simp [nextItem, h, hhead, hc]
  | false =>
    rw [skipSpaces_remaining_next] at h
    simp [nextItem, h, hhead, hc]

theorem closeList_nil {first : Bool} {cs after : List Char}
    (h : skipSpaces cs = skipSpaces (remaining ']' first [] ++ after)) :
    closeList cs = .ok after := by
  rw [remaining_nil] at h
  rw [closeList, h]
  rfl

theorem closeList_cons {first : Bool} {t : ValueText} {parts : List (List Char)}
    {cs after : List Char}
    (h : skipSpaces cs = skipSpaces (remaining ']' first (t.val :: parts) ++ after)) :
    ∃ fault, closeList cs = .error fault := by
  obtain ⟨c, rest, hc, hhead⟩ := t.property.exists_head
  have hhead := hhead (following ']' parts ++ after)
  cases first with
  | true =>
    rw [remaining_first, hhead] at h
    rw [closeList, h]
    simp only [hc, ↓reduceIte]
    split
    · split
      · exact ⟨_, rfl⟩
      · split <;> exact ⟨_, rfl⟩
    · exact ⟨_, rfl⟩
  | false =>
    rw [skipSpaces_remaining_next] at h
    simp [closeList, h, hhead, hc]

theorem closeObject_of_skipSpaces {cs after : List Char}
    (h : skipSpaces cs = skipSpaces ('\x7d' :: after)) : closeObject cs = .ok after := by
  rw [closeObject, h]
  rfl

/-! ## Members by name -/

variable {Key : Type}

/-- The readers of a shape's values take what is accepted of a text and refuse everything else,
whatever comes after it, and pass over blanks before it. -/
structure Members.ReadsAs (m : Members Key) (depth : Nat)
    (accept : (k : Key) → ValueText → Option (m.Value k)) : Prop where
  agrees : ∀ k (t : ValueText) after, Ends after →
    Agrees (m.reader k depth (t.val ++ after)) (accept k t) after
  skips : ∀ k cs, m.reader k depth (skipSpaces cs) = m.reader k depth cs

/-- The reader of a member's name takes what is accepted of the member's value, whatever comes after
it. -/
def Members.ReadsField (m : Members Key) (depth : Nat) (ks : List Key)
    (accept : (k : Key) → ValueText → Option (m.Value k)) (f : Field) : Prop :=
  ∀ k ∈ ks, m.name k = f.label → ∀ after, Ends after →
    Agrees (m.reader k depth (f.value ++ after)) (accept k f.valueText) after

theorem Members.ReadsAs.readsField {m : Members Key} {depth : Nat}
    {accept : (k : Key) → ValueText → Option (m.Value k)} (hm : m.ReadsAs depth accept)
    (ks : List Key) (f : Field) : m.ReadsField depth ks accept f := by
  intro k _ _ after ha
  exact hm.agrees k f.valueText after ha

namespace Members

variable {m : Members Key} {depth : Nat} {accept : (k : Key) → ValueText → Option (m.Value k)}

/-- A member of another name leaves all slots as they are. -/
theorem place_of_not_mem (accept : (k : Key) → ValueText → Option (m.Value k)) {f : Field}
    {ks : List Key} (h : f.label ∉ ks.map m.name) (slots : m.Slots ks) :
    m.place accept ks slots f = some slots :=
  Tuple.traverse_eq_some
    (fun _ hk => slotAfter_of_ne fun he => h (he ▸ List.mem_map_of_mem hk)) slots

theorem place_cons (f : Field) (k : Key) (ks : List Key) (slot : Option (m.Value k))
    (slots : m.Slots ks) :
    m.place accept (k :: ks) (slot, slots) f = (do
      let slot ← m.slotAfter accept f k slot
      let slots ← m.place accept ks slots f
      some (slot, slots)) := rfl

theorem readMember_cons_of_ne {k : Key} {ks : List Key} {name : String} (h : m.name k ≠ name)
    (slot : Option (m.Value k)) (slots : m.Slots ks) (cs : List Char) :
    m.readMember depth name cs (k :: ks) (slot, slots) =
      (m.readMember depth name cs ks slots).map (fun x => do
        let (slots, cs) ← x
        pure ((slot, slots), cs)) :=
  if_neg h

theorem readMember_cons_of_eq {k : Key} {ks : List Key} {name : String} (h : m.name k = name)
    (slots : m.Slots ks) (cs : List Char) :
    m.readMember depth name cs (k :: ks) (none, slots) = some (do
      let cs ← readColon cs
      let (v, cs) ← m.reader k depth cs
      pure ((some v, slots), cs)) :=
  if_pos h

theorem readMember_cons_of_filled {k : Key} {ks : List Key} {name : String} (h : m.name k = name)
    (v : m.Value k) (slots : m.Slots ks) (cs : List Char) :
    m.readMember depth name cs (k :: ks) (some v, slots) =
      some (.error (.loose (.repeatedMember name) cs)) :=
  if_pos h

theorem readMember_of_not_mem {name : String} {ks : List Key} (h : name ∉ ks.map m.name)
    (slots : m.Slots ks) (cs : List Char) : m.readMember depth name cs ks slots = none := by
  induction ks with
  | nil => rfl
  | cons k ks ih =>
    obtain ⟨slot, slots⟩ := slots
    rw [List.map_cons, List.mem_cons, not_or] at h
    rw [readMember_cons_of_ne (Ne.symm h.1), ih h.2]
    rfl

/-- A member of a declared name fills the slot of that name, or is refused. -/
theorem readMember_of_mem {f : Field} {ks : List Key} (hm : m.ReadsField depth ks accept f)
    (hnd : (ks.map m.name).Nodup) (h : f.label ∈ ks.map m.name) (slots : m.Slots ks)
    {after : List Char} (ha : Ends after) :
    ∃ x, m.readMember depth f.label (f.after ++ ':' :: (f.value ++ after)) ks slots = some x ∧
      Agrees x (m.place accept ks slots f) after := by
  induction ks with
  | nil => cases h
  | cons k ks ih =>
    obtain ⟨slot, slots⟩ := slots
    obtain ⟨hfirst, hrest⟩ := List.forall_mem_cons.mp hm
    rw [List.map_cons, List.nodup_cons] at hnd
    rw [place_cons]
    by_cases hk : m.name k = f.label
    · cases slot with
      | some v =>
        -- The name has occurred before: it is refused at once, as is its second placing.
        refine ⟨_, readMember_cons_of_filled hk v slots _, ?_⟩
        rw [slotAfter_some hk]
        exact .none
      | none =>
        refine ⟨_, readMember_cons_of_eq hk slots _, ?_⟩
        rw [readColon_append f.spaces_after, slotAfter_none hk,
          place_of_not_mem accept (hk ▸ hnd.1)]
        have hv := (hfirst hk after ha).map fun v => (some v, slots)
        generalize accept k f.valueText = expected at hv ⊢
        cases expected <;> exact hv
    · have hmem : f.label ∈ ks.map m.name := by
        rw [List.map_cons, List.mem_cons] at h
        exact h.resolve_left (Ne.symm hk)
      obtain ⟨x, hread, hx⟩ := ih hrest hnd.2 hmem slots
      refine ⟨_, (readMember_cons_of_ne hk slot slots _).trans (congrArg (Option.map _) hread), ?_⟩
      rw [slotAfter_of_ne hk]
      have hv := hx.map fun slots => (slot, slots)
      rwa [Option.map_eq_bind] at hv

theorem readByName_succ (ks : List Key) (fuel : Nat) (first : Bool) (slots : m.Slots ks)
    (cs : List Char) :
    m.readByName depth ks (fuel + 1) first slots cs = (do
      let (name, cs) ← nextName first cs
      match name with
      | none => pure (slots, cs)
      | some name =>
        match m.readMember depth name cs ks slots with
        | some r => do
          let (slots, cs) ← r
          m.readByName depth ks fuel false slots cs
        | none => do
          let cs ← readColon cs
          let cs ← skipValue cs
          m.readByName depth ks fuel false slots cs) := rfl

/-- The members of an object are read as they are placed, one after the other. -/
theorem readByName_agrees {ks : List Key} (hnd : (ks.map m.name).Nodup) {fields : List Field}
    (hm : ∀ f ∈ fields, m.ReadsField depth ks accept f) {fuel : Nat} (hf : fields.length < fuel)
    {first : Bool} (slots : m.Slots ks) {cs after : List Char}
    (h : skipSpaces cs =
      skipSpaces (remaining '\x7d' first (fields.map fun f => f.text) ++ after)) :
    Agrees (m.readByName depth ks fuel first slots cs)
      (fields.foldlM (m.place accept ks) slots) ('\x7d' :: after) := by
  induction fields generalizing fuel first slots cs with
  | nil =>
    obtain ⟨fuel, rfl⟩ := Nat.exists_eq_succ_of_ne_zero (Nat.ne_zero_of_lt hf)
    rw [readByName_succ, nextName_nil h]
    exact .some rfl
  | cons f fs ih =>
    obtain ⟨fuel, rfl⟩ := Nat.exists_eq_succ_of_ne_zero (Nat.ne_zero_of_lt hf)
    have hends : Ends (following '\x7d' (fs.map fun f => f.text) ++ after) :=
      ends_following (.inr rfl) _ after
    obtain ⟨hfirst, hrests⟩ := List.forall_mem_cons.mp hm
    have hrest : ∀ slots left,
        skipSpaces left = skipSpaces (following '\x7d' (fs.map fun f => f.text) ++ after) →
        Agrees (m.readByName depth ks fuel false slots left)
          (fs.foldlM (m.place accept ks) slots) ('\x7d' :: after) :=
      fun slots _ hl => ih hrests (Nat.lt_of_succ_lt_succ hf) slots hl
    rw [readByName_succ, nextName_cons h, List.foldlM_cons]
    -- A declared name has its slot, any other name's value is passed over.
    by_cases hl : f.label ∈ ks.map m.name
    · obtain ⟨x, hread, hx⟩ := readMember_of_mem hfirst hnd hl slots hends
      simp only [bind, Except.bind, hread]
      exact hx.bind hrest
    · obtain ⟨left, hskip, hleft⟩ := f.wellFormed.passedBy_skipValue _ hends
      rw [place_of_not_mem accept hl]
      simp only [bind, Except.bind, readMember_of_not_mem hl, readColon_append f.spaces_after, hskip]
      exact hrest slots left hleft

/-! ## Values in order -/

/-- The items of a list in order, and the bracket after the last of them. -/
def readClosed (m : Members Key) (depth : Nat) (expected : String) (ks : List Key) (index : Nat) :
    Reader (Tuple m.Value ks) := fun cs => do
  let (vs, cs) ← m.readInOrder depth expected ks index cs
  let cs ← closeList cs
  pure (vs, cs)

theorem readClosed_item {k : Key} {ks : List Key} {index : Nat} {cs rest : List Char}
    (expected : String) (h : nextItem (index == 0) cs = .ok (true, rest)) :
    m.readClosed depth expected (k :: ks) index cs = (do
      let (v, cs) ← m.reader k depth rest
      let (vs, cs) ← m.readClosed depth expected ks (index + 1) cs
      pure ((v, vs), cs)) := by
  change ((nextItem (index == 0) cs >>= _) >>= _) = _
  rw [h]
  cases hv : m.reader k depth rest with
  | error f => simp only [bind, Except.bind, ↓reduceIte, hv]
  | ok r =>
    simp only [bind, Except.bind, ↓reduceIte, hv, readClosed]
    cases m.readInOrder depth expected ks (index + 1) r.2 with
    | error f => rfl
    | ok rs => cases hc : closeList rs.2 <;> simp only [pure, Except.pure, hc]

theorem readClosed_absent {k : Key} {ks : List Key} {index : Nat} {cs rest : List Char}
    (expected : String) (h : nextItem (index == 0) cs = .ok (false, rest)) :
    m.readClosed depth expected (k :: ks) index cs =
      (match m.absent k with
      | none => .error (.loose (.wrongLength index expected) rest)
      | some v => do
        let (vs, cs) ← m.readClosed depth expected ks (index + 1) rest
        pure ((v, vs), cs)) := by
  change ((nextItem (index == 0) cs >>= _) >>= _) = _
  rw [h]
  cases m.absent k with
  | none => simp [bind, Except.bind]
  | some v =>
    simp only [bind, Except.bind, Bool.false_eq_true, ↓reduceIte, readClosed]
    cases m.readInOrder depth expected ks (index + 1) rest with
    | error f => rfl
    | ok rs => cases hc : closeList rs.2 <;> simp only [pure, Except.pure, hc]

/-- The items of a list are read in order up to its bracket, which must come after the last. -/
theorem readClosed_agrees (hm : m.ReadsAs depth accept) (expected : String) (ks : List Key)
    {ts : List ValueText} {index : Nat} {cs after : List Char}
    (h : skipSpaces cs =
      skipSpaces (remaining ']' (index == 0) (ts.map Subtype.val) ++ after)) :
    Agrees (m.readClosed depth expected ks index cs) (m.inOrder accept ks ts) after := by
  induction ks generalizing ts index cs with
  | nil =>
    cases ts with
    | nil =>
      simp only [readClosed, readInOrder, bind, Except.bind, closeList_nil h]
      exact .some rfl
    | cons t ts =>
      obtain ⟨fault, hclose⟩ := closeList_cons h
      simp only [readClosed, readInOrder, bind, Except.bind, hclose]
      exact .none
  | cons k ks ih =>
    cases ts with
    | nil =>
      -- The list ends early, and its bracket stays in place for the names after this one.
      rw [readClosed_absent expected (nextItem_nil h), inOrder]
      cases m.absent k with
      | none => exact .none
      | some v =>
        have hnext : skipSpaces (']' :: after) =
            skipSpaces (remaining ']' (index + 1 == 0) (([] : List ValueText).map Subtype.val) ++
              after) := rfl
        have hrest := (ih hnext).map fun vs => (v, vs)
        rwa [Option.map_eq_bind] at hrest
    | cons t ts =>
      have hends : Ends (following ']' (ts.map Subtype.val) ++ after) :=
        ends_following (.inl rfl) _ after
      rw [readClosed_item expected (nextItem_cons h), hm.skips, inOrder]
      refine (hm.agrees k t _ hends).bind fun v left hl => ?_
      have hnext : skipSpaces left =
          skipSpaces (remaining ']' (index + 1 == 0) (ts.map Subtype.val) ++ after) := hl
      have hrest := (ih hnext).map fun vs => (v, vs)
      rwa [Option.map_eq_bind] at hrest

end Members

/-! ## Documents -/

/-- The blanks around and inside a document. -/
structure Layout where
  before : List Char
  inside : List Char
  after : List Char
  spaces_before : Spaces before
  spaces_inside : Spaces inside
  spaces_after : Spaces after

/-- An object of some members. -/
def objectDocument (l : Layout) (fields : List Field) : String :=
  String.ofList
    (l.before ++ (objectText l.inside (fields.map Field.toMemberText) ++ l.after))

/-- A list of some values. -/
def listDocument (l : Layout) (ts : List ValueText) : String :=
  String.ofList (l.before ++ (listText l.inside (ts.map Subtype.val) ++ l.after))

namespace Shape

variable {s : Shape Key} {depth : Nat} {accept : (k : Key) → ValueText → Option (s.Value k)}

theorem readObject_agrees (hnd : (s.keys.map s.name).Nodup) {gap : List Char} (hgap : Spaces gap)
    {fields : List Field} (hm : ∀ f ∈ fields, s.ReadsField depth s.keys accept f) (after : List Char) :
    Agrees
      (s.readObject depth (gap ++ listed '\x7d' (fields.map fun f => f.text) ++ after))
      (Tuple.collect (s.given accept fields) s.keys) after := by
  have hstart : skipSpaces (gap ++ listed '\x7d' (fields.map fun f => f.text) ++ after) =
      skipSpaces (remaining '\x7d' true (fields.map fun f => f.text) ++ after) := by
    rw [List.append_assoc, skipSpaces_append hgap]
    rfl
  have hfuel : fields.length <
      (gap ++ listed '\x7d' (fields.map fun f => f.text) ++ after).length + 1 := by
    have h := length_le_length_listed '\x7d' (fields.map fun f => f.text)
    rw [List.length_map] at h
    simp only [List.length_append]
    omega
  have h := Members.readByName_agrees hnd hm hfuel (s.noSlots s.keys) hstart
  rw [readObject, ← Members.complete_foldlM_place]
  generalize s.readByName depth s.keys _ true (s.noSlots s.keys) _ = x at h ⊢
  generalize fields.foldlM (s.place accept s.keys) (s.noSlots s.keys) = placed at h ⊢
  cases h with
  | none => exact .none
  | @some slots left _ hl =>
    simp only [Option.bind_eq_bind, Option.bind_some]
    cases s.complete s.keys slots with
    | error f => exact .none
    | ok vs =>
      simp only [bind, Except.bind, closeObject_of_skipSpaces hl]
      exact .some rfl

theorem readList_agrees (hm : s.ReadsAs depth accept) {gap : List Char} (hgap : Spaces gap)
    (ts : List ValueText) (after : List Char) :
    Agrees (s.readList depth (gap ++ listed ']' (ts.map Subtype.val) ++ after))
      (s.inOrder accept s.keys ts) after := by
  have hstart : skipSpaces (gap ++ listed ']' (ts.map Subtype.val) ++ after) =
      skipSpaces (remaining ']' (0 == 0) (ts.map Subtype.val) ++ after) := by
    rw [List.append_assoc, skipSpaces_append hgap]
    rfl
  have h := Members.readClosed_agrees hm s.expectedLength s.keys hstart
  rw [Members.readClosed] at h
  rw [readList]
  generalize s.readInOrder depth s.expectedLength s.keys 0 _ = x at h ⊢
  cases x with
  | ok r => exact h
  | error f =>
    generalize s.inOrder accept s.keys ts = expected at h ⊢
    cases h
    exact .none

/-- An object document gives each name what its members give if its own members are read. -/
theorem readDocument_fields (hnd : (s.keys.map s.name).Nodup) (l : Layout) {fields : List Field}
    (hm : ∀ f ∈ fields, s.ReadsField (maxDepth - 1) s.keys accept f) :
    (s.readDocument (objectDocument l fields)).toOption =
      Tuple.collect (s.given accept fields) s.keys := by
  apply Agrees.toOption_readDocument
  have h := readObject_agrees hnd l.spaces_inside hm l.after
  rw [objectDocument, String.toList_ofList, read, skipSpaces_append l.spaces_before, objectText,
    List.map_map]
  exact h.congr (skipSpaces_eq_nil l.spaces_after)

/-- An object document gives each name what its members give. -/
theorem readDocument_object (hm : s.ReadsAs (maxDepth - 1) accept)
    (hnd : (s.keys.map s.name).Nodup) (l : Layout) (fields : List Field) :
    (s.readDocument (objectDocument l fields)).toOption =
      Tuple.collect (s.given accept fields) s.keys :=
  readDocument_fields hnd l fun f _ => hm.readsField s.keys f

/-- A list document gives the names its values in order. -/
theorem readDocument_list (hm : s.ReadsAs (maxDepth - 1) accept) (l : Layout)
    (ts : List ValueText) :
    (s.readDocument (listDocument l ts)).toOption = s.inOrder accept s.keys ts := by
  apply Agrees.toOption_readDocument
  have h := readList_agrees hm l.spaces_inside ts l.after
  rw [listDocument, String.toList_ofList, read, skipSpaces_append l.spaces_before, listText]
  exact h.congr (skipSpaces_eq_nil l.spaces_after)

end Shape

end HardwareFingerprint.Json
