import HardwareFingerprint.Json.Skip
import HardwareFingerprint.Proofs.Json.Grammar

/-!
# Passing over values

Every value of the grammar is passed over, whatever it is and however deep it nests, and what comes
after it is left.
-/
namespace HardwareFingerprint.Json

set_option autoImplicit false

/-! ## Numbers and texts -/

theorem skipExponent_append {sign ds after : List Char} (hs : sign ∈ [[], ['+'], ['-']])
    (hne : ds ≠ []) (hds : AllDigits ds) (ha : NoDigit after) :
    skipExponent (sign ++ (ds ++ after)) = .ok after := by
  obtain ⟨c, ds, rfl⟩ := List.exists_cons_of_ne_nil hne
  obtain ⟨hc, hds⟩ := List.forall_mem_cons.mp hds
  have hr := afterDigits_append hds ha
  simp only [List.mem_cons, List.not_mem_nil, or_false] at hs
  rcases hs with rfl | rfl | rfl
  · have hp : c ≠ '+' := ne_of_isDigit hc (by decide)
    have hm : c ≠ '-' := ne_of_isDigit hc (by decide)
    simp [skipExponent, hp, hm, hc, hr]
  · simp [skipExponent, hc, hr]
  · simp [skipExponent, hc, hr]

theorem skip_exponentPart {exponent after : List Char} (he : ExponentPart exponent)
    (ha : Ends after) :
    (match exponent ++ after with
      | c :: rest => if c = 'e' ∨ c = 'E' then skipExponent rest else .ok (c :: rest)
      | [] => .ok []) = (.ok after : Except Fault (List Char)) := by
  cases he with
  | absent =>
    cases after with
    | nil => rfl
    | cons c cs => exact if_neg ha.not_exponent
  | digits hl hs hne hds =>
    rw [List.cons_append, List.append_assoc]
    exact (if_pos hl).trans (skipExponent_append hs hne hds ha.noDigit)

theorem skipAfterWhole_append {fraction exponent after : List Char} (hf : FractionPart fraction)
    (he : ExponentPart exponent) (ha : Ends after) :
    skipAfterWhole (fraction ++ (exponent ++ after)) = .ok after := by
  have hend := skip_exponentPart he ha
  cases hf with
  | @digits ds hne hds =>
    have hnd := he.noDigit ha.noDigit
    obtain ⟨c, ds, rfl⟩ := List.exists_cons_of_ne_nil hne
    simp only [List.cons_append, skipAfterWhole]
    rw [← List.cons_append, leadingDigits_append hds hnd, afterDigits_append hds hnd]
    exact hend
  | absent =>
    have hpoint : ∀ rest, [] ++ (exponent ++ after) ≠ '.' :: rest := by
      intro rest
      cases he with
      | absent => exact ha.ne (by decide)
      | digits hl _ _ _ => rcases hl with rfl | rfl <;> simp
    rw [skipAfterWhole.eq_def]
    split
    · next h => exact absurd h (hpoint _)
    · next h => rw [List.nil_append] at h; simpa [h] using hend
    · next h => rw [List.nil_append] at h; simpa [h] using hend

theorem skipNumber_append {n after : List Char} (h : Unsigned n) (ha : Ends after) :
    skipNumber (n ++ after) = .ok after := by
  obtain ⟨hw, hf, he⟩ := h
  have hnd := hf.noDigit (he.noDigit ha.noDigit)
  have hafter := skipAfterWhole_append hf he ha
  rw [List.append_assoc, List.append_assoc]
  cases hw with
  | zero =>
    rw [List.cons_append, List.nil_append]
    generalize _ ++ (_ ++ after) = tail at hnd hafter
    cases tail with
    | nil => simpa [skipNumber, skipAfterWhole] using hafter
    | cons c cs => simpa [skipNumber, hnd c rfl] using hafter
  | digits hc hz hds =>
    simp only [List.cons_append, skipNumber, hz, hc, afterDigits_append hds hnd, ↓reduceIte]
    exact hafter

theorem skipText_append {body : List Char} (h : TextBody body) (after : List Char) :
    skipText (body ++ '"' :: after) = .ok after := by
  induction h with
  | nil =>
    rw [skipText.eq_def]
    rfl
  | plain hc _ ih =>
    obtain ⟨hq, hb, hs⟩ := hc
    rw [skipText.eq_def]
    simp [hq, hb, hs, ih]
  | escape hl _ ih =>
    obtain ⟨hu, hne⟩ := unescape?_of_mem hl
    rw [skipText.eq_def]
    simp [hu, hne, ih]
  | unit hu _ ih =>
    rw [skipText.eq_def]
    simp [hu, ih]

theorem readWord_append (w rest : List Char) : readWord w (w ++ rest) = .ok rest := by
  induction w with
  | nil => rfl
  | cons c w ih => simp [readWord, ih]

theorem readColon_append {gap : List Char} (h : Spaces gap) (rest : List Char) :
    readColon (gap ++ ':' :: rest) = .ok rest := by
  rw [readColon, skipSpaces_append h]
  rfl

/-! ## Lists and objects -/

/-- The text is passed over, up to blanks, before whatever may come after a value. -/
def PassedBy (value : List Char → Except Fault (List Char)) (t : List Char) : Prop :=
  ∀ after, Ends after → ∃ left, value (t ++ after) = .ok left ∧ skipSpaces left = skipSpaces after

variable {value : List Char → Except Fault (List Char)}

theorem skipItems_listed {item : List Char} {items : List (List Char)}
    (h : ∀ t ∈ item :: items, PassedBy value t) {fuel : Nat} (hf : items.length < fuel)
    (after : List Char) : skipItems value fuel (listed ']' (item :: items) ++ after) = .ok after := by
  induction items generalizing item fuel with
  | nil =>
    obtain ⟨fuel, rfl⟩ := Nat.exists_eq_succ_of_ne_zero (Nat.ne_zero_of_lt hf)
    obtain ⟨left, hv, hl⟩ := h item (by simp) (']' :: after) (ends_following (.inl rfl) [] after)
    have hend : skipSpaces left = ']' :: after := hl
    rw [listed, List.append_assoc, List.cons_append, List.nil_append, skipItems, hv]
    simp only [bind, Except.bind, hend]
    rfl
  | cons next items ih =>
    obtain ⟨fuel, rfl⟩ := Nat.exists_eq_succ_of_ne_zero (Nat.ne_zero_of_lt hf)
    have hrest := ih (List.forall_mem_cons.mp h).2 (Nat.lt_of_succ_lt_succ hf)
    obtain ⟨left, hv, hl⟩ := h item (by simp) _ (ends_following (.inl rfl) (next :: items) after)
    have hend : skipSpaces left = ',' :: (listed ']' (next :: items) ++ after) := hl
    rw [listed_cons, List.append_assoc, skipItems, hv]
    simp only [bind, Except.bind, hend]
    exact hrest

theorem skipMembers_text {m : MemberText} (hm : m.IsMember) {tail left rest : List Char} {d : Char}
    (hv : value (m.value ++ tail) = .ok left) (hl : skipSpaces left = d :: rest) (fuel : Nat) :
    skipMembers value (fuel + 1) (m.text ++ tail) =
      if d = '\x7d' then .ok rest
      else if d = ',' then skipMembers value fuel rest
      else .error (.at .expectedMemberEnd (d :: rest)) := by
  obtain ⟨hb, hn, ha⟩ := hm
  simp only [skipMembers, MemberText.skipSpaces_text hb, ↓reduceIte, skipText_append hn,
    readColon_append ha, hv, hl, bind, Except.bind]
  rfl

theorem skipMembers_listed {m : MemberText} {ms : List MemberText}
    (hm : ∀ m' ∈ m :: ms, m'.IsMember) (hv : ∀ m' ∈ m :: ms, PassedBy value m'.value) {fuel : Nat}
    (hf : ms.length < fuel) (after : List Char) :
    skipMembers value fuel (listed '\x7d' ((m :: ms).map MemberText.text) ++ after) =
      .ok after := by
  induction ms generalizing m fuel with
  | nil =>
    obtain ⟨fuel, rfl⟩ := Nat.exists_eq_succ_of_ne_zero (Nat.ne_zero_of_lt hf)
    obtain ⟨left, hread, hl⟩ := hv m (by simp) _ (ends_following (.inr rfl) [] after)
    have hend : skipSpaces left = '\x7d' :: after := hl
    rw [List.map_cons, listed_cons, List.append_assoc]
    exact skipMembers_text (hm m (by simp)) hread hend fuel
  | cons next ms ih =>
    obtain ⟨fuel, rfl⟩ := Nat.exists_eq_succ_of_ne_zero (Nat.ne_zero_of_lt hf)
    have hrest := ih (List.forall_mem_cons.mp hm).2 (List.forall_mem_cons.mp hv).2
      (Nat.lt_of_succ_lt_succ hf)
    obtain ⟨left, hread, hl⟩ := hv m (by simp) _
      (ends_following (.inr rfl) ((next :: ms).map MemberText.text) after)
    have hend : skipSpaces left = ',' :: (listed '\x7d' ((next :: ms).map MemberText.text) ++ after) :=
      hl
    rw [List.map_cons, listed_cons, List.append_assoc]
    exact (skipMembers_text (hm m (by simp)) hread hend fuel).trans hrest

/-! ## Values of every kind -/

theorem skipWithin_skipSpaces (depth : Nat) (cs : List Char) :
    skipWithin depth (skipSpaces cs) = skipWithin depth cs := by
  rw [skipWithin.eq_def, skipWithin.eq_def, skipSpaces_skipSpaces]

theorem skipItems_skipSpaces (depth fuel : Nat) (cs : List Char) :
    skipItems (skipWithin depth) (fuel + 1) (skipSpaces cs) =
      skipItems (skipWithin depth) (fuel + 1) cs := by
  rw [skipItems, skipItems, skipWithin_skipSpaces]

theorem skipMembers_skipSpaces (fuel : Nat) (cs : List Char) :
    skipMembers value (fuel + 1) (skipSpaces cs) = skipMembers value (fuel + 1) cs := by
  rw [skipMembers, skipMembers, skipSpaces_skipSpaces]

theorem skipWithin_number {n after : List Char} (h : Unsigned n) (ha : Ends after) (depth : Nat) :
    skipWithin depth (n ++ after) = .ok after := by
  have hskip := skipNumber_append h ha
  obtain ⟨c, cs, rfl, hc⟩ := h.exists_digit
  have ne := fun {d : Char} (hd : Text.isDigit d = false) => ne_of_isDigit hc hd
  rw [skipWithin.eq_def]
  simpa [skipSpaces_cons (isSpace_of_isDigit hc), ne (d := 'n') (by decide),
    ne (d := 't') (by decide), ne (d := 'f') (by decide), ne (d := '-') (by decide), hc] using hskip

theorem skipWithin_list {gap : List Char} {items : List (List Char)} {depth : Nat}
    (hg : Spaces gap) (hi : ∀ t ∈ items, WellFormed t)
    (hv : ∀ t ∈ items, PassedBy (skipWithin depth) t) (after : List Char) :
    skipWithin (depth + 1) (listText gap items ++ after) = .ok after := by
  have hstart : skipSpaces (gap ++ listed ']' items ++ after) =
      skipSpaces (listed ']' items ++ after) := by
    rw [List.append_assoc, skipSpaces_append hg]
  rw [listText, List.cons_append]
  cases items with
  | nil => exact skipWithin_bracket hstart depth
  | cons item items =>
    obtain ⟨c, cs, hc, hhead⟩ := (hi item (by simp)).exists_head
    have hhead := hhead (following ']' items ++ after)
    -- Every item is followed by a character of its own, so that the fuel lasts.
    have hfuel : items.length < (cs ++ (following ']' items ++ after)).length + 1 := by
      have h := length_lt_following ']' items
      simp only [List.length_append]
      omega
    have hitems := skipItems_listed hv hfuel after
    rw [← skipItems_skipSpaces, listed_cons, List.append_assoc, hhead] at hitems
    rw [listed_cons, List.append_assoc item, hhead] at hstart
    rw [listed_cons]
    exact (skipWithin_bracket hstart depth).trans ((if_neg hc).trans hitems)

theorem skipWithin_object {gap : List Char} {members : List MemberText} {depth : Nat}
    (hg : Spaces gap) (hm : ∀ m ∈ members, m.IsMember)
    (hv : ∀ m ∈ members, PassedBy (skipWithin depth) m.value) (after : List Char) :
    skipWithin (depth + 1) (objectText gap members ++ after) = .ok after := by
  have hstart : skipSpaces (gap ++ listed '\x7d' (members.map MemberText.text) ++ after) =
      skipSpaces (listed '\x7d' (members.map MemberText.text) ++ after) := by
    rw [List.append_assoc, skipSpaces_append hg]
  rw [objectText, List.cons_append]
  cases members with
  | nil => exact skipWithin_brace hstart depth
  | cons m ms =>
    have hhead := MemberText.skipSpaces_text (hm m (by simp)).1
      (following '\x7d' (ms.map MemberText.text) ++ after)
    have hfuel : ms.length <
        (m.name ++ '"' :: (m.after ++ ':' :: (m.value ++ (following '\x7d'
          (ms.map MemberText.text) ++ after)))).length + 1 := by
      have h := length_lt_following '\x7d' (ms.map MemberText.text)
      simp only [List.length_map, List.length_append, List.length_cons] at h ⊢
      omega
    have hmembers := skipMembers_listed hm hv hfuel after
    rw [← skipMembers_skipSpaces, List.map_cons, listed_cons, List.append_assoc, hhead] at hmembers
    rw [List.map_cons, listed_cons, List.append_assoc m.text, hhead] at hstart
    rw [List.map_cons, listed_cons]
    exact (skipWithin_brace hstart depth).trans ((if_neg (by decide)).trans hmembers)

/-- No value has more open brackets than characters. -/
theorem WellFormed.passedBy {t : List Char} (h : WellFormed t) {depth : Nat}
    (hd : t.length ≤ depth) : PassedBy (skipWithin depth) t := by
  induction h generalizing depth with
  | @word w hw =>
    intro after _
    simp only [List.mem_cons, List.not_mem_nil, or_false] at hw
    refine ⟨after, ?_, rfl⟩
    rcases hw with rfl | rfl | rfl <;> rw [skipWithin.eq_def] <;> exact readWord_append _ after
  | positive hn =>
    intro after ha
    exact ⟨after, skipWithin_number hn ha depth, rfl⟩
  | negative hn =>
    intro after ha
    refine ⟨after, ?_, rfl⟩
    rw [skipWithin.eq_def]
    exact skipNumber_append hn ha
  | @text body hb =>
    intro after _
    refine ⟨after, ?_, rfl⟩
    rw [skipWithin.eq_def, List.cons_append, List.append_assoc]
    exact skipText_append hb after
  | @list gap items hg hi ih =>
    intro after _
    rw [listText, List.length_cons, List.length_append] at hd
    obtain ⟨depth, rfl⟩ := Nat.exists_eq_add_of_le' (Nat.le_trans (Nat.succ_pos _) hd)
    -- An item is shorter than its list by the bracket, so that it may nest one bracket less.
    refine ⟨after, skipWithin_list hg hi (fun t ht => ih t ht ?_) after, rfl⟩
    have hle := length_le_listed ']' ht
    omega
  | @object gap members hg hm hv ih =>
    intro after _
    rw [objectText, List.length_cons, List.length_append] at hd
    obtain ⟨depth, rfl⟩ := Nat.exists_eq_add_of_le' (Nat.le_trans (Nat.succ_pos _) hd)
    refine ⟨after, skipWithin_object hg hm (fun m hmem => ih m hmem ?_) after, rfl⟩
    have hle := length_le_listed '\x7d' (List.mem_map_of_mem (f := MemberText.text) hmem)
    have htext : m.value.length ≤ m.text.length := by
      simp only [MemberText.text, List.length_append, List.length_cons]
      omega
    omega
  | @spaced before t trailing hb _ ht ih =>
    intro after ha
    have hlen : t.length ≤ depth := by
      simp only [List.length_append] at hd
      omega
    obtain ⟨left, hv, hl⟩ := ih hlen (trailing ++ after) (ha.spaced ht)
    refine ⟨left, ?_, hl.trans (skipSpaces_append ht after)⟩
    rw [← skipWithin_skipSpaces, List.append_assoc, List.append_assoc, skipSpaces_append hb,
      skipWithin_skipSpaces, hv]

/-- A value is passed over where nobody asked for it. -/
theorem WellFormed.passedBy_skipValue {t : List Char} (h : WellFormed t) : PassedBy skipValue t := by
  intro after ha
  exact h.passedBy (List.length_append ▸ Nat.le_add_right _ _) after ha

end HardwareFingerprint.Json
