import HardwareFingerprint.Proofs.Json.Deciding
import HardwareFingerprint.Proofs.Record.Arrangement
import HardwareFingerprint.Proofs.Settings.Restoring

/-!
# Settings documents over the defaults

An object document that gives some members of the settings, each once and by a text that means a
value of it, reads as the defaults with these values in place of theirs, wherever the members stand
and whatever stands between them; no other object is read. A list of the first members' values in
order reads as an object with these members. The settings that are read are accepted as they are, or
refused for the first condition that they do not meet.
-/
namespace HardwareFingerprint.Settings

set_option autoImplicit false

open Json (Denotes Field Layout ValueText WellFormed valuesOf objectDocument listDocument)

/-- The text means the value of the member. -/
def Member.Means : (m : Member) → List Char → m.Value → Prop
  | service, t => fun s => Denotes t (.text s)
  | attempts, t => fun n => Denotes t (.number (.natural n.val))
  | intervalSecs, t => fun n => Denotes t (.number (.natural n.val))
  | threshold, t => fun s => Denotes t (.text s)
  | strategy, t => Json.NullOr t (Json.Chooses Strategy.choices t)
  | command, t => Json.NullOr t fun path => Denotes t (.text path)

/-- The defaults with the given values in place of theirs. -/
def merged (given : (m : Member) → Option m.Value) : Settings where
  service := (given .service).getD byDefault.service
  attempts := (given .attempts).getD byDefault.attempts
  intervalSecs := (given .intervalSecs).getD byDefault.intervalSecs
  threshold := (given .threshold).getD byDefault.threshold
  strategy := (given .strategy).getD byDefault.strategy
  command := (given .command).getD byDefault.command

/-- The members of an object give these values, each of them once, and nothing for the others. -/
structure Gives (fields : List Field) (given : (m : Member) → Option m.Value) : Prop where
  absent : ∀ m, given m = none → valuesOf m.text fields = []
  present : ∀ m v, given m = some v → ∃ t, valuesOf m.text fields = [t] ∧ m.Means t.val v

/-- The items are the values of the first members of the settings in their order, each of which the
object has once, and it has none of the members after them. -/
def Leads (ts : List ValueText) (fields : List Field) : Prop :=
  shape.keys.map (fun m => valuesOf m.text fields) =
    ts.map (fun t => [t]) ++ List.replicate (shape.keys.length - ts.length) []

/-- The first condition that the settings do not meet, as it is told. -/
inductive Refused (s : Settings) : Failure → Prop
  | unnamed : Text.isAllBlank s.service = true →
      Refused s (.invalidConfig "service_name" "must not be empty")
  | unattempted : Text.isAllBlank s.service = false → s.attempts.val = 0 →
      Refused s (.invalidConfig "readiness_attempts" "must be at least 1")
  | unversioned {e : Failure} : Text.isAllBlank s.service = false → s.attempts.val ≠ 0 →
      Version.parse s.threshold = .error e →
      Refused s (.invalidConfig "version_threshold" e.message)

/-! ### Values of members -/

theorem Member.decides (m : Member) (depth : Nat) {t : List Char} (ht : WellFormed t) :
    Json.Decides (m.reader (depth + 1)) t (m.Means t) := by
  cases m with
  | service => exact Json.decides_textCalled _ ht
  | attempts => exact Json.decides_readBelow _ _ ht
  | intervalSecs => exact Json.decides_readBelow _ _ ht
  | threshold => exact Json.decides_textCalled _ ht
  | strategy =>
    exact (Json.decides_readChoice _ depth ht).orNull (Json.leavesNull_readChoice _ _) ht
  | command => exact (Json.decides_textCalled _ ht).orNull (Json.leavesNull_textCalled _) ht

theorem Member.reader_skipSpaces (m : Member) (depth : Nat) (cs : List Char) :
    m.reader depth (Json.skipSpaces cs) = m.reader depth cs := by
  cases m <;>
    simp only [reader, Json.readString, Json.readPath, Json.textCalled, Json.readBelow, Json.orNull,
      Json.skipSpaces_skipSpaces]

/-- What is read of a member's value alone. -/
abbrev accepted : (m : Member) → ValueText → Option m.Value :=
  shape.alone (Json.maxDepth - 1)

theorem accepted_eq_some_iff {m : Member} {t : ValueText} {v : m.Value} :
    accepted m t = some v ↔ m.Means t.val v :=
  Json.Members.alone_eq_some_iff (m.decides (Json.maxDepth - 2) t.property)

theorem readsAs_accepted : shape.ReadsAs (Json.maxDepth - 1) accepted :=
  Json.Members.readsAs_alone (fun m _ ht => m.decides (Json.maxDepth - 2) ht)
    fun m cs => m.reader_skipSpaces _ cs

theorem nodup_names : (shape.keys.map shape.name).Nodup := by
  decide

variable {s : Settings} {document : String} {fields : List Field}

theorem given_eq_some_iff {m : Member} {v : m.Value} :
    shape.given accepted fields m = some v ↔
      (valuesOf m.text fields = [] ∧ m.value byDefault = v) ∨
        ∃ t, valuesOf m.text fields = [t] ∧ m.Means t.val v := by
  match hv : valuesOf m.text fields with
  | [] =>
    rw [Json.Members.given_of_valuesOf_nil hv]
    simp [shape]
  | [t] =>
    have hgiven : shape.given accepted fields m = accepted m t :=
      Json.Members.given_of_valuesOf hv
    have hmeans : shape.given accepted fields m = some v ↔ m.Means t.val v := by
      rw [hgiven]
      exact accepted_eq_some_iff
    rw [hmeans]
    simp
  | t :: t' :: ts =>
    have htwo : 2 ≤ (valuesOf (shape.name m) fields).length := by
      change 2 ≤ (valuesOf m.text fields).length
      rw [hv]
      simp
    rw [Json.Members.given_of_two_le htwo]
    simp

/-! ### Settings by their members -/

theorem content_ofContent (c : shape.Content) : (ofContent c).content = c :=
  rfl

theorem collect_eq_some_iff {g : (m : Member) → Option m.Value} :
    Tuple.collect g shape.keys = some s.content ↔ ∀ m, g m = some (m.value s) := by
  constructor
  · intro h
    obtain ⟨hservice, h⟩ := Tuple.collect_cons_eq_some_iff.mp h
    obtain ⟨hattempts, h⟩ := Tuple.collect_cons_eq_some_iff.mp h
    obtain ⟨hinterval, h⟩ := Tuple.collect_cons_eq_some_iff.mp h
    obtain ⟨hthreshold, h⟩ := Tuple.collect_cons_eq_some_iff.mp h
    obtain ⟨hstrategy, h⟩ := Tuple.collect_cons_eq_some_iff.mp h
    obtain ⟨hcommand, _⟩ := Tuple.collect_cons_eq_some_iff.mp h
    intro m
    cases m with
    | service => exact hservice
    | attempts => exact hattempts
    | intervalSecs => exact hinterval
    | threshold => exact hthreshold
    | strategy => exact hstrategy
    | command => exact hcommand
  · intro h
    refine Tuple.collect_cons_eq_some_iff.mpr ⟨h .service, ?_⟩
    refine Tuple.collect_cons_eq_some_iff.mpr ⟨h .attempts, ?_⟩
    refine Tuple.collect_cons_eq_some_iff.mpr ⟨h .intervalSecs, ?_⟩
    refine Tuple.collect_cons_eq_some_iff.mpr ⟨h .threshold, ?_⟩
    refine Tuple.collect_cons_eq_some_iff.mpr ⟨h .strategy, ?_⟩
    exact Tuple.collect_cons_eq_some_iff.mpr ⟨h .command, rfl⟩

theorem read_eq_ok_iff :
    read document = .ok s ↔ (shape.readDocument document).toOption = some s.content := by
  refine Except.map_eq_ok_iff.trans ?_
  rw [Except.toOption_eq_some_iff]
  constructor
  · rintro ⟨c, hc, rfl⟩
    rw [hc, content_ofContent]
  · intro h
    exact ⟨s.content, h, s.ofContent_content⟩

theorem value_merged (given : (m : Member) → Option m.Value) (m : Member) :
    m.value (merged given) = (given m).getD (m.value byDefault) := by
  cases m <;> rfl

theorem ext_value {s' : Settings} (h : ∀ m : Member, m.value s = m.value s') : s = s' := by
  obtain ⟨_, _, _, _, _, _⟩ := s
  obtain ⟨_, _, _, _, _, _⟩ := s'
  simp only [mk.injEq]
  exact ⟨h .service, h .attempts, h .intervalSecs, h .threshold, h .strategy, h .command⟩

/-! ### Documents -/

/-- The values that an object gives of its own accord, if it is read as these settings. -/
def givenOf (s : Settings) (fields : List Field) (m : Member) : Option m.Value :=
  if (valuesOf m.text fields).isEmpty then none else some (m.value s)

theorem gives_givenOf (h : ∀ m, shape.given accepted fields m = some (m.value s)) :
    Gives fields (s.givenOf fields) where
  absent m hm := by
    rw [givenOf] at hm
    split at hm
    · next hnone => exact List.isEmpty_iff.mp hnone
    · cases hm
  present m v hv := by
    rw [givenOf] at hv
    split at hv
    · cases hv
    · next hsome =>
      obtain rfl := Option.some.inj hv
      rcases given_eq_some_iff.mp (h m) with ⟨hnone, _⟩ | hone
      · exact absurd (List.isEmpty_iff.mpr hnone) hsome
      · exact hone

theorem eq_merged_givenOf (h : ∀ m, shape.given accepted fields m = some (m.value s)) :
    s = merged (s.givenOf fields) := by
  apply ext_value
  intro m
  rw [value_merged, givenOf]
  rcases given_eq_some_iff.mp (h m) with ⟨hnone, hdefault⟩ | ⟨t, hone, _⟩
  · rw [hnone, List.isEmpty_nil, if_pos rfl]
    exact hdefault.symm
  · rw [hone]
    rfl

theorem Gives.given_eq {given : (m : Member) → Option m.Value} (h : Gives fields given)
    (m : Member) : shape.given accepted fields m = some (m.value (merged given)) := by
  apply given_eq_some_iff.mpr
  rw [value_merged]
  cases hm : given m with
  | none => exact .inl ⟨h.absent m hm, rfl⟩
  | some v => exact .inr (h.present m v hm)

theorem read_objectDocument_iff (l : Layout) :
    read (objectDocument l fields) = .ok s ↔ ∃ given, Gives fields given ∧ s = merged given := by
  rw [read_eq_ok_iff, Json.Shape.readDocument_object readsAs_accepted nodup_names]
  refine Iff.trans collect_eq_some_iff ⟨fun h => ?_, ?_⟩
  · exact ⟨s.givenOf fields, gives_givenOf h, eq_merged_givenOf h⟩
  · rintro ⟨given, hgives, rfl⟩
    exact hgives.given_eq

/-- A list of the first members' values reads as an object that has these members. -/
theorem toOption_read_leads (l l' : Layout) {ts : List ValueText} (h : Leads ts fields) :
    (read (listDocument l' ts)).toOption = (read (objectDocument l fields)).toOption := by
  have hdocument : (shape.readDocument (listDocument l' ts)).toOption =
      (shape.readDocument (objectDocument l fields)).toOption := by
    rw [Json.Shape.readDocument_list readsAs_accepted,
      Json.Shape.readDocument_object readsAs_accepted nodup_names]
    exact Json.Members.inOrder_eq_collect h
  apply Option.ext
  intro s
  rw [Except.toOption_eq_some_iff, Except.toOption_eq_some_iff, read_eq_ok_iff, read_eq_ok_iff,
    hdocument]

theorem read_twice (l : Layout) {m : Member} (h : 2 ≤ (valuesOf m.text fields).length) :
    ∃ e, read (objectDocument l fields) = .error e := by
  apply Except.toOption_eq_none_iff.mp
  apply Option.eq_none_iff_forall_ne_some.mpr
  intro s hs
  rw [Except.toOption_eq_some_iff, read_objectDocument_iff] at hs
  obtain ⟨given, hgives, _⟩ := hs
  cases hm : given m with
  | none =>
    rw [hgives.absent m hm] at h
    cases h
  | some v =>
    obtain ⟨t, ht, _⟩ := hgives.present m v hm
    rw [ht, List.length_singleton] at h
    exact absurd h (by decide)

/-! ### Conditions -/

theorem validate_eq_error_iff {e : Failure} : s.validate = .error e ↔ s.Refused e := by
  rw [validate]
  constructor
  · intro h
    split at h
    · next hname =>
      cases h
      exact .unnamed hname
    · next hname =>
      split at h
      · next hattempts =>
        cases h
        exact .unattempted (Bool.eq_false_iff.mpr hname) hattempts
      · next hattempts =>
        split at h
        · next hversion =>
          cases h
          exact .unversioned (Bool.eq_false_iff.mpr hname) hattempts hversion
        · cases h
  · intro h
    cases h with
    | unnamed hname => rw [if_pos hname]
    | unattempted hname hattempts =>
      rw [hname, if_neg Bool.false_ne_true, if_pos hattempts]
    | unversioned hname hattempts hversion =>
      rw [hname, if_neg Bool.false_ne_true, if_neg hattempts, hversion]

theorem ofDocument_eq_error_iff {e : Failure} (h : read document = .ok s) :
    ofDocument document = .error e ↔ s.Refused e := by
  rw [← validate_eq_error_iff, ofDocument, h]
  change (s.validate >>= fun _ => pure s) = .error e ↔ _
  cases s.validate with
  | error e' =>
    constructor
    · intro h
      cases h
      rfl
    · intro h
      cases h
      rfl
  | ok _ =>
    constructor
    · intro h
      cases h
    · intro h
      cases h

theorem ofDocument_of_error {e : Json.Error} (h : read document = .error e) :
    ofDocument document = .error (.jsonParse e) := by
  rw [ofDocument, h]
  rfl

/-- An object document reads as the defaults with the values of its own members in place of theirs,
however these are arranged and whatever other members there are, and only if each of its members of
the settings occurs once with a value of its kind. A list of the first members' values reads like an
object with these members, and an object that has a member of the settings twice is refused.
Settings that are read are accepted unchanged exactly if they are valid, and otherwise refused for
the first condition that they do not meet. -/
theorem document_merged (l l' : Layout) (fields : List Field) :
    (∀ s, read (objectDocument l fields) = .ok s ↔
      ∃ given, Gives fields given ∧ s = merged given) ∧
    (∀ ts, Leads ts fields →
      (read (listDocument l' ts)).toOption = (read (objectDocument l fields)).toOption) ∧
    (∀ m : Member, 2 ≤ (valuesOf m.text fields).length →
      ∃ e, ofDocument (objectDocument l fields) = .error (.jsonParse e)) ∧
    ∀ document s, read document = .ok s →
      (∀ s', ofDocument document = .ok s' ↔ s' = s ∧ s.Valid) ∧
      ∀ e, ofDocument document = .error e ↔ s.Refused e := by
  refine ⟨fun s => read_objectDocument_iff l, fun ts h => toOption_read_leads l l' h, ?_, ?_⟩
  · intro m h
    obtain ⟨e, he⟩ := read_twice l h
    exact ⟨e, ofDocument_of_error he⟩
  · intro document s h
    refine ⟨fun s' => ?_, fun e => ofDocument_eq_error_iff h⟩
    rw [ofDocument_eq_ok_iff, h]
    constructor
    · rintro ⟨hs, hvalid⟩
      obtain rfl := Except.ok.inj hs
      exact ⟨rfl, hvalid⟩
    · rintro ⟨rfl, hvalid⟩
      exact ⟨rfl, hvalid⟩

def zeroText : ValueText :=
  ⟨"0".toList, .positive (.mk .zero .absent .absent)⟩

/-- The first two members of the settings, the second before the first. Between them is another
member, which holds the name of a third. -/
def leading : List Field :=
  [plainField "readiness_attempts" (by decide) zeroText,
    plainField "note" (by decide) (innerObject [plainField "strategy" (by decide) nullText]),
    plainField "service_name" (by decide) (plainText "wmi" (by decide))]

/-- A strategy that is given as an object. -/
def forcing : Field :=
  plainField "strategy" (by decide)
    (innerObject [plainField "structured-query" (by decide) nullText])

/-- What is given by all of these members. -/
def forcedValues : (m : Member) → Option m.Value
  | .service => some "wmi"
  | .attempts => some ⟨0, by decide⟩
  | .strategy => some (some .structuredQuery)
  | _ => none

theorem gives_forcedValues : Gives (forcing :: leading) forcedValues where
  absent m hm := by
    cases m <;> first | rfl | cases hm
  present m v hv := by
    cases m with
    | service =>
      obtain rfl := Option.some.inj hv
      exact ⟨plainText "wmi" (by decide), rfl, .text (Json.spells_of_allPlain (by decide))⟩
    | attempts =>
      obtain rfl := Option.some.inj hv
      have hzero : Denotes ['0'] (.number (.natural (Nat.ofDigitChars 10 ['0'] 0))) :=
        .natural .zero (by decide)
      exact ⟨zeroText, rfl, hzero⟩
    | strategy =>
      obtain rfl := Option.some.inj hv
      exact ⟨forcing.valueText, rfl, .object Json.spaces_nil rfl .null⟩
    | _ => cases hv

/-- The defaults give way to the members that are there, until one of these is given again; and then
to a list of two. Nothing is accepted of settings without an attempt. -/
theorem forced_merged :
    (Gives (forcing :: leading) forcedValues ∧
      read (objectDocument tight (forcing :: leading)) =
        .ok { byDefault with
          service := "wmi", attempts := ⟨0, by decide⟩, strategy := some .structuredQuery }) ∧
    (Leads [plainText "wmi" (by decide), zeroText] leading ∧
      (read (listDocument tight [plainText "wmi" (by decide), zeroText])).toOption =
        (read (objectDocument tight leading)).toOption) ∧
    (2 ≤ (valuesOf Member.strategy.text (forcing :: forcing :: leading)).length ∧
      ∃ e, ofDocument (objectDocument tight (forcing :: forcing :: leading)) =
        .error (.jsonParse e)) ∧
    ofDocument (objectDocument tight (forcing :: leading)) =
      .error (.invalidConfig "readiness_attempts" "must be at least 1") := by
  obtain ⟨hobject, _, _, haccepted⟩ := document_merged tight tight (forcing :: leading)
  have hleads : Leads [plainText "wmi" (by decide), zeroText] leading := rfl
  have htwice : 2 ≤ (valuesOf Member.strategy.text (forcing :: forcing :: leading)).length := by
    decide
  have hread := (hobject _).mpr ⟨forcedValues, gives_forcedValues, rfl⟩
  have hrefused : Refused (merged forcedValues)
      (.invalidConfig "readiness_attempts" "must be at least 1") := .unattempted (by decide) rfl
  exact ⟨⟨gives_forcedValues, hread⟩, ⟨hleads, (document_merged tight tight leading).2.1 _ hleads⟩,
    ⟨htwice, (document_merged tight tight (forcing :: forcing :: leading)).2.2.1 _ htwice⟩,
    ((haccepted _ _ hread).2 _).mpr hrefused⟩

end HardwareFingerprint.Settings
