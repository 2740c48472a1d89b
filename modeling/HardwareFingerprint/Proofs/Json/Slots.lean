import HardwareFingerprint.Json.Shape
import HardwareFingerprint.Proofs.Json.Grammar

/-!
# What the members of an object give

An object is read into slots, one for each declared name, member after member. Seen from one name,
only the members called so matter: its slot is filled by the first and refuses a second. All names
together give their values if each of them does, in whatever order the members come.
-/
namespace HardwareFingerprint.Json

set_option autoImplicit false

variable {Key : Type}

/-- A value as it is written, with the blanks around it. -/
abbrev ValueText :=
  { t : List Char // WellFormed t }

/-- A member as it is written, with what its name stands for. -/
structure Field extends MemberText where
  label : String
  spaces_before : Spaces before
  spells : Spells name label.toList
  spaces_after : Spaces after
  wellFormed : WellFormed value

def Field.valueText (f : Field) : ValueText :=
  ⟨f.value, f.wellFormed⟩

theorem Field.isMember (f : Field) : f.toMemberText.IsMember :=
  ⟨f.spaces_before, f.spells.textBody, f.spaces_after⟩

/-- The values of the members called `name`, in their order. -/
def valuesOf (name : String) (fields : List Field) : List ValueText :=
  (fields.filter (·.label = name)).map Field.valueText

theorem valuesOf_cons_of_eq {name : String} {f : Field} (h : f.label = name) (fs : List Field) :
    valuesOf name (f :: fs) = f.valueText :: valuesOf name fs := by
  simp [valuesOf, h]

theorem valuesOf_cons_of_ne {name : String} {f : Field} (h : f.label ≠ name) (fs : List Field) :
    valuesOf name (f :: fs) = valuesOf name fs := by
  simp [valuesOf, h]

theorem valuesOf_append (name : String) (fields fields' : List Field) :
    valuesOf name (fields ++ fields') = valuesOf name fields ++ valuesOf name fields' := by
  simp [valuesOf]

theorem valuesOf_eq_nil {name : String} {fields : List Field} (h : ∀ f ∈ fields, f.label ≠ name) :
    valuesOf name fields = [] := by
  have hf : (fields.filter fun f => f.label = name) = [] := by simpa using h
  rw [valuesOf, hf]
  rfl

namespace Members

variable (m : Members Key) (accept : (k : Key) → ValueText → Option (m.Value k))

/-- The slot of a key after a member. -/
def slotAfter (f : Field) (k : Key) (slot : Option (m.Value k)) : Option (Option (m.Value k)) :=
  if m.name k = f.label then
    match slot with
    | some _ => none
    | none => (accept k f.valueText).map some
  else some slot

/-- The slots after a member. -/
def place (ks : List Key) (slots : m.Slots ks) (f : Field) : Option (m.Slots ks) :=
  Tuple.traverse (m.slotAfter accept f) ks slots

/-- The value of a key among the members of an object. -/
def given (fields : List Field) (k : Key) : Option (m.Value k) :=
  match valuesOf (m.name k) fields with
  | [] => m.absent k
  | [t] => accept k t
  | _ :: _ :: _ => none

/-- The values of the keys in the order of a list's items, those after its end being absent. -/
def inOrder : (ks : List Key) → List ValueText → Option (Tuple m.Value ks)
  | [], [] => some ()
  | [], _ :: _ => none
  | k :: ks, [] => do
    let v ← m.absent k
    let vs ← inOrder ks []
    some (v, vs)
  | k :: ks, t :: ts => do
    let v ← accept k t
    let vs ← inOrder ks ts
    some (v, vs)

variable {m accept}

theorem inOrder_cons_eq_some_iff {k : Key} {ks : List Key} {t : ValueText} {ts : List ValueText}
    {v : m.Value k} {vs : Tuple m.Value ks} :
    m.inOrder accept (k :: ks) (t :: ts) = some (v, vs) ↔
      accept k t = some v ∧ m.inOrder accept ks ts = some vs :=
  Tuple.cons_eq_some_iff

theorem given_of_valuesOf {fields : List Field} {k : Key} {t : ValueText}
    (h : valuesOf (m.name k) fields = [t]) : m.given accept fields k = accept k t := by
  rw [given, h]

theorem given_of_valuesOf_nil {fields : List Field} {k : Key}
    (h : valuesOf (m.name k) fields = []) : m.given accept fields k = m.absent k := by
  rw [given, h]

theorem given_cons_of_ne {f : Field} {k : Key} (h : f.label ≠ m.name k) (fields : List Field) :
    m.given accept (f :: fields) k = m.given accept fields k := by
  rw [given, given, valuesOf_cons_of_ne h]

theorem given_of_two_le {fields : List Field} {k : Key}
    (h : 2 ≤ (valuesOf (m.name k) fields).length) : m.given accept fields k = none := by
  rw [given]
  match hv : valuesOf (m.name k) fields with
  | [] => simp [hv] at h
  | [_] => simp [hv] at h
  | _ :: _ :: _ => rfl

/-- A member may be replaced by one of the same name whose value is accepted as the same. -/
theorem given_replaced {f f' : Field} {k : Key} (hlabel : f.label = f'.label)
    (h : f.label = m.name k → accept k f.valueText = accept k f'.valueText)
    (before after : List Field) :
    m.given accept (before ++ f :: after) k = m.given accept (before ++ f' :: after) k := by
  rw [given, given, valuesOf_append, valuesOf_append]
  by_cases hk : f.label = m.name k
  · rw [valuesOf_cons_of_eq hk, valuesOf_cons_of_eq (hlabel ▸ hk)]
    -- Alone the member gives its value, and next to another one of its name it is refused.
    match valuesOf (m.name k) before, valuesOf (m.name k) after with
    | [], [] => exact h hk
    | [], _ :: _ => rfl
    | [_], _ => rfl
    | _ :: _ :: _, _ => rfl
  · rw [valuesOf_cons_of_ne hk, valuesOf_cons_of_ne (hlabel ▸ hk)]

/-- An item may be replaced by one that is accepted as the same. -/
theorem inOrder_replaced {ks : List Key} {before : List ValueText} {t t' : ValueText}
    (h : ∀ k, ks[before.length]? = some k → accept k t = accept k t') (after : List ValueText) :
    m.inOrder accept ks (before ++ t :: after) = m.inOrder accept ks (before ++ t' :: after) := by
  induction before generalizing ks with
  | nil =>
    cases ks with
    | nil => rfl
    | cons k ks => rw [List.nil_append, List.nil_append, inOrder, inOrder, h k rfl]
  | cons t₀ before ih =>
    cases ks with
    | nil => rfl
    | cons k ks =>
      rw [List.cons_append, List.cons_append, inOrder, inOrder]
      rw [ih fun k' hk' => h k' hk']

/-- Items in order give what the members give that have them as their values one after the other,
where no member follows the last of them. -/
theorem inOrder_eq_collect {fields : List Field} {ks : List Key} {ts : List ValueText} {n : Nat}
    (h : ks.map (fun k => valuesOf (m.name k) fields) =
      ts.map (fun t => [t]) ++ List.replicate n []) :
    m.inOrder accept ks ts = Tuple.collect (m.given accept fields) ks := by
  induction ks generalizing ts n with
  | nil =>
    obtain rfl : ts = [] := List.map_eq_nil_iff.mp (List.append_eq_nil_iff.mp h.symm).1
    rfl
  | cons k ks ih =>
    cases ts with
    | nil =>
      cases n with
      | zero => cases h
      | succ n =>
        obtain ⟨hk, hks⟩ := List.cons.inj h
        have hrest : m.inOrder accept ks [] = Tuple.collect (m.given accept fields) ks := ih hks
        rw [inOrder, Tuple.collect, given_of_valuesOf_nil hk, hrest]
    | cons t ts =>
      obtain ⟨hk, hks⟩ := List.cons.inj h
      rw [inOrder, Tuple.collect, given_of_valuesOf hk, ih hks]

theorem slotAfter_of_ne {f : Field} {k : Key} (h : m.name k ≠ f.label)
    (slot : Option (m.Value k)) : m.slotAfter accept f k slot = some slot :=
  if_neg h

theorem slotAfter_some {f : Field} {k : Key} (h : m.name k = f.label) (v : m.Value k) :
    m.slotAfter accept f k (some v) = none :=
  if_pos h

theorem slotAfter_none {f : Field} {k : Key} (h : m.name k = f.label) :
    m.slotAfter accept f k none = (accept k f.valueText).map some :=
  if_pos h

/-- A slot that is filled stays as it is, or refuses a further member. -/
theorem foldlM_slotAfter_some (fields : List Field) (k : Key) (v : m.Value k) :
    fields.foldlM (fun slot f => m.slotAfter accept f k slot) (some v) =
      if valuesOf (m.name k) fields = [] then some (some v) else none := by
  induction fields with
  | nil => rfl
  | cons f fs ih =>
    rw [List.foldlM_cons]
    by_cases h : m.name k = f.label
    · rw [slotAfter_some h, valuesOf_cons_of_eq h.symm]
      rfl
    · rw [slotAfter_of_ne h, valuesOf_cons_of_ne (Ne.symm h)]
      exact ih

/-- What fills a slot, or is taken where nothing does. -/
theorem foldlM_slotAfter (fields : List Field) (k : Key) :
    (fields.foldlM (fun slot f => m.slotAfter accept f k slot) none >>= fun slot =>
      slot.or (m.absent k)) = m.given accept fields k := by
  induction fields with
  | nil => rfl
  | cons f fs ih =>
    rw [List.foldlM_cons]
    by_cases h : m.name k = f.label
    · rw [slotAfter_none h, given, valuesOf_cons_of_eq h.symm]
      cases ha : accept k f.valueText with
      | none =>
        cases valuesOf (m.name k) fs with
        | nil => exact ha.symm
        | cons t ts => rfl
      | some v =>
        simp only [Option.map_some, Option.bind_eq_bind, Option.bind_some, foldlM_slotAfter_some]
        cases valuesOf (m.name k) fs with
        | nil => exact ha.symm
        | cons t ts => rfl
    · rw [slotAfter_of_ne h, given, valuesOf_cons_of_ne (Ne.symm h)]
      exact ih

/-- Placing member after member is to go through the members for each slot alone. -/
theorem foldlM_place (fields : List Field) (ks : List Key) (slots : m.Slots ks) :
    fields.foldlM (m.place accept ks) slots =
      Tuple.traverse (fun k slot => fields.foldlM (fun slot f => m.slotAfter accept f k slot) slot)
        ks slots := by
  induction fields generalizing slots with
  | nil => exact (Tuple.traverse_eq_some (fun _ _ _ => rfl) slots).symm
  | cons f fs ih =>
    rw [List.foldlM_cons]
    simp only [List.foldlM_cons]
    rw [← Tuple.traverse_bind, place]
    exact congrArg (_ >>= ·) (funext ih)

theorem toOption_complete (ks : List Key) (slots : m.Slots ks) :
    (m.complete ks slots).toOption =
      Tuple.traverse (fun k slot => slot.or (m.absent k)) ks slots := by
  induction ks with
  | nil => rfl
  | cons k ks ih =>
    obtain ⟨slot, slots⟩ := slots
    rw [complete, Tuple.traverse, ← ih]
    cases slot.or (m.absent k) with
    | none => rfl
    | some v => cases m.complete ks slots <;> rfl

theorem traverse_noSlots {B : Key → Type} (f : (k : Key) → Option (m.Value k) → Option (B k))
    (ks : List Key) :
    Tuple.traverse f ks (m.noSlots ks) = Tuple.collect (fun k => f k none) ks := by
  induction ks with
  | nil => rfl
  | cons k ks ih => rw [noSlots, Tuple.traverse, Tuple.collect, ih]

/-- The slots that all members leave, completed, hold what each name is given. -/
theorem complete_foldlM_place (fields : List Field) (ks : List Key) :
    (fields.foldlM (m.place accept ks) (m.noSlots ks) >>= fun slots =>
      (m.complete ks slots).toOption) = Tuple.collect (m.given accept fields) ks := by
  simp only [toOption_complete]
  rw [foldlM_place, Tuple.traverse_bind, traverse_noSlots]
  exact congrArg (Tuple.collect · ks) (funext fun k => foldlM_slotAfter fields k)

end Members

end HardwareFingerprint.Json
