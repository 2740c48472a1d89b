import HardwareFingerprint.Canonical
import HardwareFingerprint.Record.Document
import HardwareFingerprint.Proofs.Json.Arrangement

/-!
# Record documents in every arrangement

The values of a record come from texts that stand for them one by one. An object that gives each
property once reads as the record of these values, wherever the members stand and whatever other
members stand between them, and so does the list of the values in the order of the properties.
-/
namespace HardwareFingerprint

set_option autoImplicit false

open Json (ValueText Field Layout valuesOf objectDocument listDocument)

/-- The value that a text alone stands for. -/
def Property.valueOf? (p : Property) (t : ValueText) : Option p.Value :=
  (Json.readDocument (p.kind.read Json.maxDepth) (String.ofList t.val)).toOption

/-- The texts, each alone, stand for the values in the order of the properties. -/
def Values.StatedBy : (ps : List Property) → List ValueText → Values ps → Prop
  | [], ts, _ => ts = []
  | _ :: _, [], _ => False
  | p :: ps, t :: ts, (v, vs) => p.valueOf? t = some v ∧ StatedBy ps ts vs

/-- Each property's name is that of one member, and the texts are the values of these members in the
order of the properties. -/
def RecordClass.GivenOnce (cls : RecordClass) (fields : List Field) (ts : List ValueText) : Prop :=
  cls.properties.map (fun p => valuesOf p.name fields) = ts.map fun t => [t]

/-! ## Values of properties -/

theorem PropertyKind.ofJson_of_isCompound (k : PropertyKind) {j : Json} (h : j.IsCompound) :
    ∃ m, k.ofJson j = .error m := by
  cases k <;> cases j <;> first | exact h.elim | exact ⟨_, rfl⟩

theorem PropertyKind.agrees_read (k : PropertyKind) {depth : Nat} {cs after : List Char}
    {expected : Option Json} (h : Json.Agrees (Json.readValue depth cs) expected after) :
    Json.Agrees (k.read depth cs) (expected >>= fun j => (k.ofJson j).toOption) after := by
  refine h.bind fun j left hl => ?_
  simp only []
  cases k.ofJson j with
  | error m => exact .none
  | ok v => exact .some hl

theorem PropertyKind.read_eq_error (k : PropertyKind) {depth : Nat} {cs : List Char}
    (h : ∀ r, Json.readValue depth cs = .ok r → ∃ m, k.ofJson r.1 = .error m) :
    ∃ f, k.read depth cs = .error f := by
  rw [PropertyKind.read]
  cases hr : Json.readValue depth cs with
  | error f => exact ⟨f, rfl⟩
  | ok r =>
    obtain ⟨m, hm⟩ := h r hr
    simp only [bind, Except.bind, hm]
    exact ⟨_, rfl⟩

/-- What is read of a property's value depends on nothing around it. Lists and objects are read, but
no property takes them. -/
theorem PropertyKind.settles_read (k : PropertyKind) {t : List Char} (h : Json.WellFormed t) :
    Json.Settles fun depth after => k.read depth (t ++ after) := by
  rcases h.settles_readValue with ⟨expected, h⟩ | h
  · exact .intro _ fun depth after ha => k.agrees_read (h depth after ha)
  · refine .intro none fun depth after _ => ?_
    obtain ⟨f, hf⟩ := k.read_eq_error fun r hr => k.ofJson_of_isCompound (h depth after r hr)
    rw [hf]
    exact .none

theorem RecordClass.readsAs_valueOf? (cls : RecordClass) (depth : Nat) :
    cls.shape.ReadsAs depth Property.valueOf? where
  agrees p t after ha := by
    obtain ⟨expected, h⟩ := p.kind.settles_read t.property
    have halone : p.valueOf? t = expected := by
      apply Json.Agrees.toOption_readDocument
      have hnil : Json.Agrees (p.kind.read Json.maxDepth (t.val ++ [])) expected [] :=
        h Json.maxDepth [] Json.ends_nil
      rw [List.append_nil] at hnil
      rwa [String.toList_ofList]
    rw [halone]
    exact h depth after ha
  skips p cs := by
    change p.kind.read depth (Json.skipSpaces cs) = p.kind.read depth cs
    rw [PropertyKind.read, PropertyKind.read, Json.readValue_skipSpaces]

namespace RecordClass

theorem nodup_names (cls : RecordClass) : (cls.properties.map Property.name).Nodup := by
  cases cls <;> decide

theorem read_eq_ok_iff (cls : RecordClass) {document : String} {r : RecordOf cls} :
    cls.read document = .ok ⟨cls, r⟩ ↔ (cls.shape.readDocument document).toOption = some r := by
  refine Iff.trans ?_ Except.toOption_eq_some_iff.symm
  constructor
  · intro h
    obtain ⟨r', hr, h⟩ := Except.bind_eq_ok_iff.mp h
    cases h
    exact hr
  · intro h
    exact Except.bind_eq_ok_iff.mpr ⟨r, h, rfl⟩

theorem collect_given_iff (cls : RecordClass) {fields : List Field} {ps : List Property}
    {ts : List ValueText} (h : ps.map (fun p => valuesOf p.name fields) = ts.map fun t => [t])
    (vs : Values ps) :
    Tuple.collect (cls.shape.given Property.valueOf? fields) ps = some vs ↔
      Values.StatedBy ps ts vs := by
  induction ps generalizing ts with
  | nil =>
    obtain rfl : ts = [] := List.map_eq_nil_iff.mp h.symm
    exact ⟨fun _ => rfl, fun _ => rfl⟩
  | cons p ps ih =>
    cases ts with
    | nil => cases h
    | cons t ts =>
      obtain ⟨v, vs⟩ := vs
      obtain ⟨hp, hps⟩ := List.cons.inj h
      have hgiven : cls.shape.given Property.valueOf? fields p = p.valueOf? t :=
        Json.Members.given_of_valuesOf hp
      refine Tuple.collect_cons_eq_some_iff.trans ?_
      rw [hgiven]
      exact and_congr_right fun _ => ih hps vs

theorem inOrder_iff (cls : RecordClass) {ps : List Property} {ts : List ValueText}
    (vs : Values ps) :
    cls.shape.inOrder Property.valueOf? ps ts = some vs ↔ Values.StatedBy ps ts vs := by
  induction ps generalizing ts with
  | nil =>
    cases ts with
    | nil => exact ⟨fun _ => rfl, fun _ => rfl⟩
    | cons t ts => simp [Json.Members.inOrder, Values.StatedBy]
  | cons p ps ih =>
    cases ts with
    | nil => simp [Json.Members.inOrder, shape, Values.StatedBy]
    | cons t ts =>
      obtain ⟨v, vs⟩ := vs
      refine Json.Members.inOrder_cons_eq_some_iff.trans ?_
      exact and_congr_right fun _ => ih vs

/-- Every property must be given, and no property twice. -/
theorem given_eq_none (cls : RecordClass) {fields : List Field} {p : Property}
    (h : (valuesOf p.name fields).length ≠ 1) :
    cls.shape.given Property.valueOf? fields p = none := by
  rcases Nat.lt_or_gt_of_ne h with h | h
  · exact Json.Members.given_of_valuesOf_nil (List.eq_nil_of_length_eq_zero (Nat.lt_one_iff.mp h))
  · exact Json.Members.given_of_two_le h

end RecordClass

theorem Values.StatedBy.length_eq {ps : List Property} {ts : List ValueText} {vs : Values ps}
    (h : StatedBy ps ts vs) : ts.length = ps.length := by
  induction ps generalizing ts with
  | nil => exact congrArg List.length h
  | cons p ps ih =>
    cases ts with
    | nil => exact h.elim
    | cons t ts =>
      obtain ⟨v, vs⟩ := vs
      exact congrArg (· + 1) (ih h.2)

namespace RecordClass

theorem read_eq_error (cls : RecordClass) {document : String}
    (h : (cls.shape.readDocument document).toOption = none) :
    ∃ e, cls.read document = .error e := by
  obtain ⟨e, he⟩ := Except.toOption_eq_none_iff.mp h
  refine ⟨e, ?_⟩
  rw [read, he]
  rfl

theorem read_objectDocument_iff (cls : RecordClass) (l : Layout) {fields : List Field}
    {ts : List ValueText} (h : cls.GivenOnce fields ts) (r : RecordOf cls) :
    cls.read (objectDocument l fields) = .ok ⟨cls, r⟩ ↔ Values.StatedBy cls.properties ts r := by
  rw [read_eq_ok_iff, Json.Shape.readDocument_object (cls.readsAs_valueOf? _) cls.nodup_names]
  exact cls.collect_given_iff h r

theorem read_listDocument_iff (cls : RecordClass) (l : Layout) (ts : List ValueText)
    (r : RecordOf cls) :
    cls.read (listDocument l ts) = .ok ⟨cls, r⟩ ↔ Values.StatedBy cls.properties ts r := by
  rw [read_eq_ok_iff, Json.Shape.readDocument_list (cls.readsAs_valueOf? _)]
  exact cls.inOrder_iff r

/-- Two documents that read as the same records are both refused where one is. -/
theorem toOption_read_congr (cls : RecordClass) {document document' : String}
    (h : ∀ r : RecordOf cls, cls.read document = .ok ⟨cls, r⟩ ↔ cls.read document' = .ok ⟨cls, r⟩) :
    (cls.read document).toOption = (cls.read document').toOption := by
  have hclass : ∀ {document : String} {r : Record}, cls.read document = .ok r →
      ∃ values : RecordOf cls, r = ⟨cls, values⟩ := by
    intro document r h
    obtain ⟨values, _, h⟩ := Except.bind_eq_ok_iff.mp h
    cases h
    exact ⟨values, rfl⟩
  apply Option.ext
  intro r
  rw [Except.toOption_eq_some_iff, Except.toOption_eq_some_iff]
  constructor
  · intro hr
    obtain ⟨values, rfl⟩ := hclass hr
    exact (h values).mp hr
  · intro hr
    obtain ⟨values, rfl⟩ := hclass hr
    exact (h values).mpr hr

/-- An object that gives each property once, in any order and between any other members, and the
list of its properties' values in their order read as the same record, with the same encoding and
digest, where the values are accepted, and are both refused where they are not. An object that does
not give some property, or gives it more than once, is refused, and so is a list that is too short
or too long. -/
theorem read_arranged (cls : RecordClass) (l l' : Layout) (fields : List Field)
    (ts : List ValueText) :
    (cls.GivenOnce fields ts →
      (∀ r : RecordOf cls, Values.StatedBy cls.properties ts r →
        cls.read (objectDocument l fields) = .ok ⟨cls, r⟩ ∧
        cls.read (listDocument l' ts) = .ok ⟨cls, r⟩) ∧
      (cls.read (objectDocument l fields)).toOption = (cls.read (listDocument l' ts)).toOption ∧
      ∀ a b, cls.read (objectDocument l fields) = .ok a → cls.read (listDocument l' ts) = .ok b →
        Canonical.record a = Canonical.record b ∧ Canonical.digest a = Canonical.digest b) ∧
    (∀ p ∈ cls.properties, (valuesOf p.name fields).length ≠ 1 →
      ∃ e, cls.read (objectDocument l fields) = .error e) ∧
    (ts.length ≠ cls.properties.length → ∃ e, cls.read (listDocument l' ts) = .error e) := by
  refine ⟨fun hgiven => ?_, fun p hp hlength => ?_, fun hlength => ?_⟩
  · have hobject := cls.read_objectDocument_iff l hgiven
    have hlist := cls.read_listDocument_iff l' ts
    have hsame := cls.toOption_read_congr fun r => (hobject r).trans (hlist r).symm
    refine ⟨fun r hr => ⟨(hobject r).mpr hr, (hlist r).mpr hr⟩, hsame, fun a b ha hb => ?_⟩
    rw [ha, hb] at hsame
    obtain rfl : a = b := Option.some.inj hsame
    exact ⟨rfl, rfl⟩
  · apply cls.read_eq_error
    rw [Json.Shape.readDocument_object (cls.readsAs_valueOf? _) cls.nodup_names]
    exact Tuple.collect_eq_none hp (cls.given_eq_none hlength)
  · apply cls.read_eq_error
    rw [Json.Shape.readDocument_list (cls.readsAs_valueOf? _)]
    apply Option.eq_none_iff_forall_ne_some.mpr
    intro r hr
    exact hlength ((cls.inOrder_iff r).mp hr).length_eq

end RecordClass

/-- A member with nothing blank around its name, whose characters stand for themselves. -/
def plainField (label : String) (h : Json.AllPlain label.toList) (t : ValueText) : Field where
  before := []
  name := label.toList
  after := []
  value := t.val
  label := label
  spaces_before := by decide
  spells := Json.spells_of_allPlain h
  spaces_after := by decide
  wellFormed := t.property

/-- A text whose characters stand for themselves. -/
def plainText (s : String) (h : Json.AllPlain s.toList) : ValueText :=
  ⟨'"' :: (s.toList ++ ['"']), .text (Json.spells_of_allPlain h).textBody⟩

def nullText : ValueText :=
  ⟨"null".toList, .word (by decide)⟩

/-- An object inside a document. -/
def innerObject (fields : List Field) : ValueText :=
  ⟨Json.objectText [] (fields.map Field.toMemberText),
    .object (by decide) (List.forall_mem_map.mpr fun f _ => f.isMember)
      (List.forall_mem_map.mpr fun f _ => f.wellFormed)⟩

/-- No blanks. -/
def tight : Layout where
  before := []
  inside := []
  after := []
  spaces_before := by decide
  spaces_inside := by decide
  spaces_after := by decide

/-- A name, a number that is given as a text, and a version that is not set. -/
def windowsTexts : List ValueText :=
  [plainText "Windows" (by decide), plainText " 48" (by decide), nullText]

def windowsVersion : Field :=
  plainField "Version" (by decide) nullText

/-- The same values from the last to the first, with another member that holds one of their names
between them. -/
def windowsFields : List Field :=
  [windowsVersion, plainField "OperatingSystemSKU" (by decide) (plainText " 48" (by decide)),
    plainField "Parent" (by decide) (innerObject [windowsVersion]),
    plainField "Caption" (by decide) (plainText "Windows" (by decide))]

def windows : RecordOf .operatingSystem :=
  ("Windows", ⟨48, by decide⟩, "", ())

namespace RecordClass

/-- The values read alike in both arrangements, and no longer where the version is given again or the
last value is left out. -/
theorem operatingSystem_arranged :
    (operatingSystem.GivenOnce windowsFields windowsTexts ∧
      Values.StatedBy operatingSystem.properties windowsTexts windows ∧
      operatingSystem.read (objectDocument tight windowsFields) = .ok ⟨.operatingSystem, windows⟩ ∧
      operatingSystem.read (listDocument tight windowsTexts) = .ok ⟨.operatingSystem, windows⟩) ∧
    (⟨"Version", .text⟩ ∈ operatingSystem.properties ∧
      (valuesOf "Version" (windowsVersion :: windowsFields)).length ≠ 1 ∧
      ∃ e, operatingSystem.read (objectDocument tight (windowsVersion :: windowsFields)) =
        .error e) ∧
    windowsTexts.dropLast.length ≠ operatingSystem.properties.length ∧
    ∃ e, operatingSystem.read (listDocument tight windowsTexts.dropLast) = .error e := by
  have hgiven : operatingSystem.GivenOnce windowsFields windowsTexts := rfl
  have hstated : Values.StatedBy operatingSystem.properties windowsTexts windows :=
    ⟨by decide +kernel, by decide +kernel, by decide +kernel, rfl⟩
  have hmem : ⟨"Version", .text⟩ ∈ operatingSystem.properties := by decide
  have htwice : (valuesOf "Version" (windowsVersion :: windowsFields)).length ≠ 1 := by decide
  have hshort : windowsTexts.dropLast.length ≠ operatingSystem.properties.length := by decide
  have hkept := operatingSystem.read_arranged tight tight windowsFields windowsTexts
  have hlost := operatingSystem.read_arranged tight tight (windowsVersion :: windowsFields)
    windowsTexts.dropLast
  exact ⟨⟨hgiven, hstated, (hkept.1 hgiven).1 windows hstated⟩,
    ⟨hmem, htwice, hlost.2.1 _ hmem htwice⟩, hshort, hlost.2.2 hshort⟩

end RecordClass

end HardwareFingerprint
