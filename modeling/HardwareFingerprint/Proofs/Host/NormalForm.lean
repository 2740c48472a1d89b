import HardwareFingerprint.Host.Mac
import HardwareFingerprint.Numeral.Decimal
import Mathlib.Data.Nat.Digits.Lemmas

/-!
# The normal form of hardware addresses

Main statement: a text is a hardware address exactly if twelve hexadecimal digits and nothing else
are left of it without the separators. Its normal form has these digits, in their order and in
lower case, in six groups between colons, and is its own normal form. Cutting the digits by places
in bytes gives the same groups, and no cut falls inside a character. Two addresses have one normal
form exactly if their digits agree but for the case of letters, that is, if they write the same
number of 48 bits.
-/
namespace HardwareFingerprint.Mac

set_option autoImplicit false

/-- The hexadecimal digits of the normal form. -/
def lowerDigits : List Char := "0123456789abcdef".toList

/-- The hexadecimal digits of either case. -/
def hexDigits : List Char := "0123456789abcdefABCDEF".toList

/-- What is left of a text without the separators. -/
def digits (raw : String) : List Char :=
  raw.toList.filter (!isSeparator ·)

/-- The digits in lower case. -/
def lowered (raw : String) : List Char :=
  (digits raw).map Text.lowerChar

/-- The digits in lower case, in groups between colons. -/
def formed (raw : String) : String :=
  String.ofList (paired (lowered raw))

/-- The value of a hexadecimal digit. -/
def digitValue (c : Char) : Nat :=
  (Text.hexValue? c).getD 0

/-- The number that the digits of a text write, the first of them counting most. -/
def address (raw : String) : Nat :=
  Nat.ofDigits 16 ((digits raw).reverse.map digitValue)

/-- Six groups of two bytes, or nothing where a group would end inside a character or after the
text. -/
def byteGroups? (cs : List Char) : Option (List (List Char)) :=
  (List.range 6).mapM fun i => Text.between? (i * 2) (i * 2 + 2) cs

/-- The normal form with the digits counted and cut by bytes, or nothing where a cut fails. -/
def normalizeBytes? (raw : String) : Option (Except Failure String) :=
  if (String.ofList (digits raw)).utf8ByteSize ≠ 12 ∨ ¬ (digits raw).all Text.isHexDigit then
    some (.error (.hostIdentity ("invalid MAC address " ++ Text.quote raw)))
  else
    (byteGroups? (lowered raw)).map fun groups =>
      .ok (String.ofList (Text.joinChars [':'] groups))

/-- The form of an address with these lower-case digits. -/
structure NormalForm (ds : List Char) (m : String) : Prop where
  length : m.length = 17
  grouped : ∃ groups : List (List Char), groups.length = 6 ∧
    (∀ group ∈ groups, group.length = 2 ∧ ∀ c ∈ group, c ∈ lowerDigits) ∧
    m.toList = Text.joinChars [':'] groups ∧ groups.flatten = ds

/-! ### Hexadecimal digits -/

theorem forall_of_all {cs : List Char} {p : Char → Prop} [DecidablePred p]
    (h : (cs.all fun c => decide (p c)) = true) : ∀ c ∈ cs, p c :=
  fun c hc => of_decide_eq_true (List.all_eq_true.mp h c hc)

theorem isHexDigit_iff (c : Char) : Text.isHexDigit c = true ↔ c ∈ hexDigits := by
  have hsmall : ∀ n < 103, Text.isHexDigit (Char.ofNat n) = true → Char.ofNat n ∈ hexDigits := by
    decide
  have hmem : ∀ d ∈ hexDigits, Text.isHexDigit d = true := forall_of_all (by decide)
  have hle : ∀ {d e : Char}, d ≤ e → d.toNat ≤ e.toNat := fun h => h
  refine ⟨fun h => ?_, hmem c⟩
  have hlt : c.toNat < 103 := by
    rw [Text.isHexDigit, Text.hexValue?] at h
    split_ifs at h with hdigit hlower hupper
    · exact Nat.lt_of_le_of_lt (hle hdigit.2) (by decide)
    · exact Nat.lt_of_le_of_lt (hle hlower.2) (by decide)
    · exact Nat.lt_of_le_of_lt (hle hupper.2) (by decide)
    · cases h
  simpa using hsmall c.toNat hlt (by simpa using h)

theorem utf8Size_hexDigit : ∀ c ∈ hexDigits, c.utf8Size = 1 :=
  forall_of_all (by decide)

theorem digitValue_lt : ∀ c ∈ hexDigits, digitValue c < 16 :=
  forall_of_all (by decide)

/-- The value does not depend on the case … -/
theorem digitValue_lowerChar :
    ∀ c ∈ hexDigits, digitValue (Text.lowerChar c) = digitValue c :=
  forall_of_all (by decide)

/-- … and determines all but the case. -/
theorem digitChar_digitValue :
    ∀ c ∈ hexDigits, Nat.digitChar (digitValue c) = Text.lowerChar c :=
  forall_of_all (by decide)

theorem lowerChar_mem : ∀ c ∈ hexDigits, Text.lowerChar c ∈ lowerDigits :=
  forall_of_all (by decide)

theorem mem_hexDigits_of_lower : ∀ c ∈ lowerDigits, c ∈ hexDigits :=
  forall_of_all (by decide)

theorem lowerChar_of_lower : ∀ c ∈ lowerDigits, Text.lowerChar c = c :=
  forall_of_all (by decide)

theorem not_isSeparator_of_lower : ∀ c ∈ lowerDigits, (!isSeparator c) = true :=
  forall_of_all (by decide)

/-! ### Groups of two -/

/-- The characters in groups of two. -/
def pairs : List Char → List (List Char)
  | a :: b :: rest => [a, b] :: pairs rest
  | _ => []

theorem paired_of_length_le {cs : List Char} (h : cs.length ≤ 2) : paired cs = cs := by
  match cs with
  | [] | [_] | [_, _] => simp [paired]
  | a :: b :: c :: rest =>
    simp only [List.length_cons] at h
    omega

/-- Where no group follows, nothing is added. -/
theorem length_le_of_few {few : List Char}
    (h : ∀ (a b c : Char) (rest : List Char), few = a :: b :: c :: rest → False) :
    few.length ≤ 2 := by
  match few with
  | [] | [_] | [_, _] => simp
  | a :: b :: c :: rest => exact absurd rfl (h a b c rest)

theorem length_paired (cs : List Char) : (paired cs).length = cs.length + (cs.length - 1) / 2 := by
  induction cs using paired.induct with
  | case1 a b c rest ih =>
    simp only [paired, List.length_cons] at ih ⊢
    omega
  | case2 few hfew =>
    have hle := length_le_of_few hfew
    rw [paired_of_length_le hle]
    omega

/-- The colons are all that is added. -/
theorem filter_paired {cs : List Char} (h : ∀ c ∈ cs, (!isSeparator c) = true) :
    (paired cs).filter (!isSeparator ·) = cs := by
  induction cs using paired.induct with
  | case1 a b c rest ih =>
    obtain ⟨ha, hrest⟩ := List.forall_mem_cons.mp h
    obtain ⟨hb, hrest⟩ := List.forall_mem_cons.mp hrest
    have hcolon : (!isSeparator ':') = false := by decide
    simp only [paired, List.filter_cons, ha, hb, hcolon, ih hrest, if_true, if_false,
      Bool.false_eq_true]
  | case2 few hfew => rw [paired_of_length_le (length_le_of_few hfew), List.filter_eq_self.mpr h]

/-- Nothing is left of a text of even length after its groups of two. -/
theorem eq_nil_of_few {few : List Char}
    (h : ∀ (a b : Char) (rest : List Char), few = a :: b :: rest → False)
    (heven : few.length % 2 = 0) : few = [] := by
  cases few with
  | nil => rfl
  | cons a few =>
    cases few with
    | nil => exact absurd heven (by simp)
    | cons b rest => exact absurd rfl (h a b rest)

theorem joinChars_pairs {cs : List Char} (h : cs.length % 2 = 0) :
    Text.joinChars [':'] (pairs cs) = paired cs := by
  induction cs using pairs.induct with
  | case1 a b rest ih =>
    have hrest : rest.length % 2 = 0 := by
      simp only [List.length_cons] at h
      omega
    cases rest with
    | nil =>
      rw [paired_of_length_le (Nat.le_refl _)]
      rfl
    | cons c rest =>
      cases rest with
      | nil => exact absurd hrest (by simp)
      | cons d rest =>
        rw [paired, ← ih hrest, pairs, pairs, Text.joinChars]
        · rfl
        · exact List.cons_ne_nil _ _
  | case2 few hfew =>
    obtain rfl := eq_nil_of_few hfew h
    rw [paired_of_length_le (Nat.zero_le _)]
    rfl

theorem flatten_pairs {cs : List Char} (h : cs.length % 2 = 0) : (pairs cs).flatten = cs := by
  induction cs using pairs.induct with
  | case1 a b rest ih =>
    have hrest : rest.length % 2 = 0 := by
      simp only [List.length_cons] at h
      omega
    rw [pairs, List.flatten_cons, ih hrest]
    rfl
  | case2 few hfew =>
    obtain rfl := eq_nil_of_few hfew h
    rfl

theorem length_of_mem_pairs {cs group : List Char} (h : group ∈ pairs cs) : group.length = 2 := by
  induction cs using pairs.induct with
  | case1 a b rest ih =>
    rcases List.mem_cons.mp h with rfl | h
    · rfl
    · exact ih h
  | case2 few hfew =>
    match few with
    | [] | [_] => cases h
    | a :: b :: rest => exact absurd rfl (hfew a b rest)

theorem pairs_eq_map (n : Nat) : ∀ cs : List Char, cs.length = 2 * n →
    pairs cs = (List.range n).map fun i => (cs.drop (i * 2)).take 2 := by
  induction n with
  | zero =>
    intro cs h
    rw [List.length_eq_zero_iff.mp h]
    rfl
  | succ n ih =>
    intro cs h
    match cs, h with
    | a :: b :: rest, h =>
      have hrest : rest.length = 2 * n := by
        simp only [List.length_cons] at h
        omega
      rw [pairs, ih rest hrest, List.range_succ_eq_map, List.map_cons, List.map_map]
      refine congrArg₂ List.cons rfl (List.map_congr_left fun i _ => ?_)
      rw [Function.comp_apply, Nat.succ_mul, List.drop_succ_cons, List.drop_succ_cons]

/-! ### Cutting by bytes -/

theorem mapM_eq_some {α β : Type} {f : α → Option β} {g : α → β} {l : List α}
    (h : ∀ a ∈ l, f a = some (g a)) : l.mapM f = some (l.map g) := by
  induction l with
  | nil => rfl
  | cons a l ih =>
    obtain ⟨ha, hl⟩ := List.forall_mem_cons.mp h
    rw [List.mapM_cons, ha, ih hl]
    rfl

theorem byteGroups?_eq {cs : List Char} (hsize : ∀ c ∈ cs, c.utf8Size = 1) (hlen : cs.length = 12) :
    byteGroups? cs = some (pairs cs) := by
  have hcut : ∀ i ∈ List.range 6,
      Text.between? (i * 2) (i * 2 + 2) cs = some ((cs.drop (i * 2)).take 2) := by
    intro i hi
    have hi := List.mem_range.mp hi
    rw [Text.between?_of_utf8Size hsize (Nat.le_add_right _ 2) (by omega), Nat.add_sub_cancel_left]
  rw [byteGroups?, mapM_eq_some hcut, pairs_eq_map 6 cs hlen]

/-- Characters of one byte can be counted by bytes. -/
theorem utf8ByteSize_ofList {cs : List Char} (h : ∀ c ∈ cs, c.utf8Size = 1) :
    (String.ofList cs).utf8ByteSize = cs.length := by
  induction cs with
  | nil => rfl
  | cons c cs ih =>
    obtain ⟨hc, hcs⟩ := List.forall_mem_cons.mp h
    rw [String.ofList_cons, String.utf8ByteSize_append, String.utf8ByteSize_singleton, hc, ih hcs,
      List.length_cons, Nat.add_comm]

/-! ### Normal forms -/

/-- Twelve hexadecimal digits and nothing else. -/
structure IsAddress (raw : String) : Prop where
  length : (digits raw).length = 12
  hex : ∀ c ∈ digits raw, c ∈ hexDigits

variable {raw raw' m : String}

theorem all_isHexDigit :
    (digits raw).all Text.isHexDigit = true ↔ ∀ c ∈ digits raw, c ∈ hexDigits := by
  simp only [List.all_eq_true, isHexDigit_iff]

theorem normalize_of_isAddress (h : IsAddress raw) : normalize raw = .ok (formed raw) :=
  if_pos ⟨h.length, all_isHexDigit.mpr h.hex⟩

theorem normalize_eq_ok : normalize raw = .ok m ↔ IsAddress raw ∧ m = formed raw := by
  refine ⟨fun h => ?_, fun ⟨h, hm⟩ => hm ▸ normalize_of_isAddress h⟩
  rw [normalize] at h
  split at h
  · next hd =>
    cases h
    exact ⟨⟨hd.1, all_isHexDigit.mp hd.2⟩, rfl⟩
  · cases h

namespace IsAddress

variable (h : IsAddress raw)
include h

theorem length_lowered : (lowered raw).length = 12 := by
  rw [lowered, List.length_map, h.length]

theorem lowered_mem : ∀ c ∈ lowered raw, c ∈ lowerDigits :=
  List.forall_mem_map.mpr fun c hc => lowerChar_mem c (h.hex c hc)

theorem normalForm : NormalForm (lowered raw) (formed raw) where
  length := by rw [formed, String.length_ofList, length_paired, h.length_lowered]
  grouped := by
    have heven : (lowered raw).length % 2 = 0 := by rw [h.length_lowered]
    refine ⟨pairs (lowered raw), ?_, ?_, ?_, flatten_pairs heven⟩
    · rw [pairs_eq_map 6 _ h.length_lowered, List.length_map, List.length_range]
    · intro group hgroup
      refine ⟨length_of_mem_pairs hgroup, fun c hc => h.lowered_mem c ?_⟩
      rw [← flatten_pairs heven]
      exact List.mem_flatten_of_mem hgroup hc
    · rw [joinChars_pairs heven, formed, String.toList_ofList]

/-- The normal form has the digits of the text. -/
theorem digits_formed : digits (formed raw) = lowered raw := by
  rw [formed, digits, String.toList_ofList,
    filter_paired fun c hc => not_isSeparator_of_lower c (h.lowered_mem c hc)]

/-- The digits of the normal form are in lower case already. -/
theorem lowered_formed : lowered (formed raw) = lowered raw := by
  have hsame : ∀ c ∈ lowered raw, Text.lowerChar c = id c := fun c hc =>
    lowerChar_of_lower c (h.lowered_mem c hc)
  rw [lowered, h.digits_formed, List.map_congr_left hsame, List.map_id]

theorem formed_formed : formed (formed raw) = formed raw :=
  congrArg (fun ds => String.ofList (paired ds)) h.lowered_formed

theorem isAddress_formed : IsAddress (formed raw) where
  length := by rw [h.digits_formed, h.length_lowered]
  hex := by
    rw [h.digits_formed]
    exact fun c hc => mem_hexDigits_of_lower c (h.lowered_mem c hc)

theorem values_lt : ∀ n ∈ (digits raw).reverse.map digitValue, n < 16 :=
  List.forall_mem_map.mpr fun c hc => digitValue_lt c (h.hex c (List.mem_reverse.mp hc))

theorem address_lt : address raw < Numeral.countOf 48 := by
  have hlt := Nat.ofDigits_lt_base_pow_length (by decide : 1 < 16) h.values_lt
  rwa [List.length_map, List.length_reverse, h.length] at hlt

theorem map_digitValue_lowered : (lowered raw).map digitValue = (digits raw).map digitValue := by
  rw [lowered, List.map_map]
  exact List.map_congr_left fun c hc => digitValue_lowerChar c (h.hex c hc)

theorem lowered_eq_map : lowered raw = ((digits raw).map digitValue).map Nat.digitChar := by
  rw [lowered, List.map_map]
  exact List.map_congr_left fun c hc => (digitChar_digitValue c (h.hex c hc)).symm

end IsAddress

theorem normalizeBytes?_eq (raw : String) : normalizeBytes? raw = some (normalize raw) := by
  by_cases hhex : (digits raw).all Text.isHexDigit = true
  · have hmem := all_isHexDigit.mp hhex
    have hbytes : (String.ofList (digits raw)).utf8ByteSize = (digits raw).length :=
      utf8ByteSize_ofList fun c hc => utf8Size_hexDigit c (hmem c hc)
    rw [normalizeBytes?, hbytes]
    by_cases hlen : (digits raw).length = 12
    · have h : IsAddress raw := ⟨hlen, hmem⟩
      have hgroups := byteGroups?_eq
        (fun c hc => utf8Size_hexDigit c (mem_hexDigits_of_lower c (h.lowered_mem c hc)))
        h.length_lowered
      rw [if_neg (by simp [hlen, hhex]), hgroups, Option.map_some,
        joinChars_pairs (by rw [h.length_lowered]), normalize_of_isAddress h, formed]
    · rw [if_pos (.inl hlen), normalize, if_neg fun h => hlen h.1]
  · rw [normalizeBytes?, if_pos (.inr hhex), normalize, if_neg fun h => hhex h.2]

/-- Twelve digits of one case are told apart by the number that they write. -/
theorem lowered_eq_iff (h : IsAddress raw) (h' : IsAddress raw') :
    lowered raw = lowered raw' ↔ address raw = address raw' := by
  constructor
  · intro heq
    rw [address, address, List.map_reverse, List.map_reverse, ← h.map_digitValue_lowered,
      ← h'.map_digitValue_lowered, heq]
  · intro heq
    have hlen : ((digits raw).reverse.map digitValue).length =
        ((digits raw').reverse.map digitValue).length := by
      simp only [List.length_map, List.length_reverse, h.length, h'.length]
    have hvalues :=
      Nat.ofDigits_inj_of_len_eq (by decide : 1 < 16) hlen h.values_lt h'.values_lt heq
    rw [List.map_reverse, List.map_reverse] at hvalues
    rw [h.lowered_eq_map, h'.lowered_eq_map, List.reverse_injective hvalues]

/-- Exactly twelve hexadecimal digits between separators are accepted, and two texts have one
normal form exactly if they write the same address. -/
theorem normalize_exact (raw : String) :
    ((∃ m, normalize raw = .ok m) ↔ IsAddress raw) ∧
      normalizeBytes? raw = some (normalize raw) ∧
      ∀ m, normalize raw = .ok m →
        NormalForm (lowered raw) m ∧ normalize m = .ok m ∧ address raw < Numeral.countOf 48 ∧
        ∀ raw' m', normalize raw' = .ok m' →
          (m = m' ↔ Text.sameIgnoringCase (digits raw) (digits raw') = true) ∧
          (m = m' ↔ address raw = address raw') := by
  refine ⟨⟨fun ⟨m, hm⟩ => (normalize_eq_ok.mp hm).1, fun h => ⟨_, normalize_of_isAddress h⟩⟩,
    normalizeBytes?_eq raw, fun m hm => ?_⟩
  obtain ⟨h, rfl⟩ := normalize_eq_ok.mp hm
  have hnormal : normalize (formed raw) = .ok (formed raw) :=
    normalize_eq_ok.mpr ⟨h.isAddress_formed, h.formed_formed.symm⟩
  refine ⟨h.normalForm, hnormal, h.address_lt, fun raw' m' hm' => ?_⟩
  obtain ⟨h', rfl⟩ := normalize_eq_ok.mp hm'
  have hsame : formed raw = formed raw' ↔ lowered raw = lowered raw' := by
    refine ⟨fun heq => ?_, fun heq => by rw [formed, formed, heq]⟩
    rw [← h.digits_formed, heq, h'.digits_formed]
  rw [hsame]
  exact ⟨by simp [Text.sameIgnoringCase, lowered], lowered_eq_iff h h'⟩

/-- Other separators and another case do not make another address. -/
theorem respelt_address :
    normalize "AABB.cc-dd:eE0f" = .ok "aa:bb:cc:dd:ee:0f" ∧
      normalize "aa-bb-cc-dd-ee-0f" = .ok "aa:bb:cc:dd:ee:0f" ∧
      normalize "aa:bb:cc:dd:ee:0f" = .ok "aa:bb:cc:dd:ee:0f" ∧
      address "AABB.cc-dd:eE0f" = address "aa-bb-cc-dd-ee-0f" := by
  have hmixed : normalize "AABB.cc-dd:eE0f" = .ok "aa:bb:cc:dd:ee:0f" := by rfl
  have hdashed : normalize "aa-bb-cc-dd-ee-0f" = .ok "aa:bb:cc:dd:ee:0f" := by rfl
  obtain ⟨_, hagain, _, hsame⟩ := (normalize_exact "AABB.cc-dd:eE0f").2.2 _ hmixed
  exact ⟨hmixed, hdashed, hagain, (hsame _ _ hdashed).2.mp rfl⟩

end HardwareFingerprint.Mac
