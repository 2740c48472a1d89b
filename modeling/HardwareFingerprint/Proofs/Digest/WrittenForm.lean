import HardwareFingerprint.Canonical
import HardwareFingerprint.Proofs.Digest.Shape
import Mathlib.Logic.ExistsUnique

/-!
# What has the shape of a digest

Reading padded base 64 undoes writing it, and writing undoes reading: whatever is read is the
written form of what it reads as. So a text has the shape of a digest exactly if it is the written
form of sixteen bytes, and it is that of only one such byte string. Seen from its characters, it has
21 characters of the alphabet, a last one whose four lower bits are clear, and two padding
characters.
-/
namespace HardwareFingerprint.Bytes.Base64

set_option autoImplicit false

/-- A character with a value is the symbol of its value. -/
theorem symbol_of_value? {c : Char} {n : Nat} (h : value? c = some n) : symbol n = c ∧ n < 64 := by
  obtain ⟨hn, hc, _⟩ := List.findIdx?_eq_some_iff_getElem.mp h
  have hsymbol : alphabet[n] = symbol n := List.getElem_eq_getD '='
  rw [← hsymbol]
  exact ⟨beq_iff_eq.mp hc, hn⟩

private theorem toNat_byte {n : Nat} (h : n < 256) : (UInt8.ofNat n).toNat = n :=
  UInt8.toNat_ofNat_of_lt' h

theorem encode_of_decodeOne {w x : Char} {b : Bytes} (h : decodeOne w x = some b) :
    [w, x, '=', '='] = encode b := by
  simp only [decodeOne, Option.bind_eq_bind, Option.bind_eq_some_iff] at h
  obtain ⟨p, hp, q, hq, h⟩ := h
  obtain ⟨rfl, hp⟩ := symbol_of_value? hp
  obtain ⟨rfl, hq⟩ := symbol_of_value? hq
  split at h
  · next hclear =>
    obtain rfl := Option.some.inj h
    have hbyte : (UInt8.ofNat (p * 4 + q / 16)).toNat = p * 4 + q / 16 :=
      toNat_byte (by omega)
    have hfirst : (p * 4 + q / 16) / 4 = p := by omega
    have hlast : (p * 4 + q / 16) % 4 * 16 = q := by omega
    rw [encode, hbyte, hfirst, hlast]
  · cases h

theorem encode_of_decodeTwo {w x y : Char} {b : Bytes} (h : decodeTwo w x y = some b) :
    [w, x, y, '='] = encode b := by
  simp only [decodeTwo, Option.bind_eq_bind, Option.bind_eq_some_iff] at h
  obtain ⟨p, hp, q, hq, r, hr, h⟩ := h
  obtain ⟨rfl, hp⟩ := symbol_of_value? hp
  obtain ⟨rfl, hq⟩ := symbol_of_value? hq
  obtain ⟨rfl, hr⟩ := symbol_of_value? hr
  split at h
  · next hclear =>
    obtain rfl := Option.some.inj h
    have hone : (UInt8.ofNat (p * 4 + q / 16)).toNat = p * 4 + q / 16 :=
      toNat_byte (by omega)
    have htwo : (UInt8.ofNat (q % 16 * 16 + r / 4)).toNat = q % 16 * 16 + r / 4 :=
      toNat_byte (by omega)
    have hfirst : (p * 4 + q / 16) / 4 = p := by omega
    have hmiddle : (p * 4 + q / 16) % 4 * 16 + (q % 16 * 16 + r / 4) / 16 = q := by omega
    have hlast : (q % 16 * 16 + r / 4) % 16 * 4 = r := by omega
    rw [encode, hone, htwo, hfirst, hmiddle, hlast]
  · cases h

theorem encode_of_decodeThree {w x y z : Char} {group : Bytes}
    (h : decodeThree w x y z = some group) (rest : Bytes) :
    w :: x :: y :: z :: encode rest = encode (group ++ rest) := by
  simp only [decodeThree, Option.bind_eq_bind, Option.bind_eq_some_iff] at h
  obtain ⟨p, hp, q, hq, r, hr, s, hs, h⟩ := h
  obtain ⟨rfl, hp⟩ := symbol_of_value? hp
  obtain ⟨rfl, hq⟩ := symbol_of_value? hq
  obtain ⟨rfl, hr⟩ := symbol_of_value? hr
  obtain ⟨rfl, hs⟩ := symbol_of_value? hs
  obtain rfl := Option.some.inj h
  have hone : (UInt8.ofNat (p * 4 + q / 16)).toNat = p * 4 + q / 16 :=
    toNat_byte (by omega)
  have htwo : (UInt8.ofNat (q % 16 * 16 + r / 4)).toNat = q % 16 * 16 + r / 4 :=
    toNat_byte (by omega)
  have hthree : (UInt8.ofNat (r % 4 * 64 + s)).toNat = r % 4 * 64 + s :=
    toNat_byte (by omega)
  have hw : (p * 4 + q / 16) / 4 = p := by omega
  have hx : (p * 4 + q / 16) % 4 * 16 + (q % 16 * 16 + r / 4) / 16 = q := by omega
  have hy : (q % 16 * 16 + r / 4) % 16 * 4 + (r % 4 * 64 + s) / 64 = r := by omega
  have hz : (r % 4 * 64 + s) % 64 = s := by omega
  rw [List.cons_append, List.cons_append, List.cons_append, List.nil_append, encode, hone, htwo,
    hthree, hw, hx, hy, hz]

/-- Induction along the groups as they are read: only the last of them may be padded. -/
theorem eq_encode_of_decode {cs : List Char} {b : Bytes} (h : decode cs = some b) :
    cs = encode b := by
  induction cs using decode.induct generalizing b with
  | case1 =>
    obtain rfl := Option.some.inj h
    rfl
  | case2 w x => exact encode_of_decodeOne h
  | case3 w x y hpad =>
    rw [decode.eq_3 _ _ _ hpad] at h
    exact encode_of_decodeTwo h
  | case4 w x y z rest hpad hpad' ih =>
    rw [decode.eq_4 _ _ _ _ _ hpad hpad'] at h
    obtain ⟨group, hgroup, h⟩ := Option.bind_eq_some_iff.mp h
    obtain ⟨others, hothers, h⟩ := Option.bind_eq_some_iff.mp h
    obtain rfl := Option.some.inj h
    rw [ih hothers]
    exact encode_of_decodeThree hgroup others
  | case5 cs h₁ h₂ h₃ h₄ =>
    rw [decode.eq_5 cs h₁ h₂ h₃ h₄] at h
    cases h

theorem decode_eq_some_iff {cs : List Char} {b : Bytes} : decode cs = some b ↔ cs = encode b := by
  constructor
  · exact eq_encode_of_decode
  · rintro rfl
    exact decode_encode b

/-! ## Written forms by their characters -/

/-- The symbols of the values whose four lower bits are clear. -/
def upperSymbols : List Char := ['A', 'Q', 'g', 'w']

/-- The characters of so many full groups and one byte more: characters of the alphabet, a last one
whose four lower bits are clear, and two padding characters. -/
def PaddedTwice (groups : Nat) (cs : List Char) : Prop :=
  ∃ body last, cs = body ++ [last, '=', '='] ∧ body.length = 4 * groups + 1 ∧
    (∀ c ∈ body, c ∈ alphabet) ∧ last ∈ upperSymbols

theorem mem_alphabet_iff {c : Char} : c ∈ alphabet ↔ ∃ n < 64, symbol n = c := by
  rw [List.mem_iff_getElem]
  constructor
  · rintro ⟨n, hn, rfl⟩
    exact ⟨n, hn, (List.getElem_eq_getD '=').symm⟩
  · rintro ⟨n, hn, rfl⟩
    exact ⟨n, hn, List.getElem_eq_getD '='⟩

theorem upperSymbols_eq : upperSymbols = (List.range 4).map fun n => symbol (n * 16) := by
  decide +kernel

theorem mem_upperSymbols_iff {c : Char} : c ∈ upperSymbols ↔ ∃ n < 4, symbol (n * 16) = c := by
  simp only [upperSymbols_eq, List.mem_map, List.mem_range]

theorem symbol_mem {n : Nat} (h : n < 64) : symbol n ∈ alphabet :=
  mem_alphabet_iff.mpr ⟨n, h, rfl⟩

theorem exists_value? {c : Char} (h : c ∈ alphabet) : ∃ n, value? c = some n := by
  obtain ⟨n, hn, rfl⟩ := mem_alphabet_iff.mp h
  exact ⟨n, (value?_symbol n hn).1⟩

theorem exists_decodeOne {w last : Char} (hw : w ∈ alphabet) (hlast : last ∈ upperSymbols) :
    ∃ a, decodeOne w last = some [a] := by
  obtain ⟨p, hp⟩ := exists_value? hw
  obtain ⟨q, hq, rfl⟩ := mem_upperSymbols_iff.mp hlast
  have hvalue := (value?_symbol (q * 16) (by omega)).1
  simp [decodeOne, hp, hvalue]

theorem exists_decodeThree {w x y z : Char} (hw : w ∈ alphabet) (hx : x ∈ alphabet)
    (hy : y ∈ alphabet) (hz : z ∈ alphabet) : ∃ a b c, decodeThree w x y z = some [a, b, c] := by
  obtain ⟨p, hp⟩ := exists_value? hw
  obtain ⟨q, hq⟩ := exists_value? hx
  obtain ⟨r, hr⟩ := exists_value? hy
  obtain ⟨s, hs⟩ := exists_value? hz
  simp [decodeThree, hp, hq, hr, hs]

theorem paddedTwice_encode {groups : Nat} {b : Bytes} (h : b.length = 3 * groups + 1) :
    PaddedTwice groups (encode b) := by
  induction groups generalizing b with
  | zero =>
    obtain ⟨a, rfl⟩ := List.length_eq_one_iff.mp h
    have ha : a.toNat < 256 := a.toNat_lt
    refine ⟨[symbol (a.toNat / 4)], symbol (a.toNat % 4 * 16), rfl, rfl, ?_, ?_⟩
    · intro c hc
      obtain rfl := List.mem_singleton.mp hc
      exact symbol_mem (by omega)
    · exact mem_upperSymbols_iff.mpr ⟨a.toNat % 4, by omega, rfl⟩
  | succ groups ih =>
    match b, h with
    | x :: y :: z :: rest, h =>
      have hx : x.toNat < 256 := x.toNat_lt
      have hy : y.toNat < 256 := y.toNat_lt
      have hz : z.toNat < 256 := z.toNat_lt
      obtain ⟨body, last, hrest, hlength, hbody, hlast⟩ :=
        ih (b := rest) (by simp only [List.length_cons] at h; omega)
      refine ⟨symbol (x.toNat / 4) :: symbol (x.toNat % 4 * 16 + y.toNat / 16) ::
        symbol (y.toNat % 16 * 4 + z.toNat / 64) :: symbol (z.toNat % 64) :: body, last, ?_, ?_, ?_,
        hlast⟩
      · rw [encode, hrest]
        rfl
      · simp only [List.length_cons]
        omega
      · simp only [List.forall_mem_cons]
        exact ⟨symbol_mem (by omega), symbol_mem (by omega), symbol_mem (by omega),
          symbol_mem (by omega), hbody⟩

theorem PaddedTwice.exists_encode {groups : Nat} {cs : List Char} (h : PaddedTwice groups cs) :
    ∃ b : Bytes, b.length = 3 * groups + 1 ∧ cs = encode b := by
  obtain ⟨body, last, rfl, hlength, hbody, hlast⟩ := h
  induction groups generalizing body with
  | zero =>
    obtain ⟨w, rfl⟩ := List.length_eq_one_iff.mp hlength
    obtain ⟨a, ha⟩ := exists_decodeOne (hbody w (List.mem_singleton.mpr rfl)) hlast
    exact ⟨[a], rfl, encode_of_decodeOne ha⟩
  | succ groups ih =>
    match body, hlength with
    | w :: x :: y :: z :: body, hlength =>
      simp only [List.forall_mem_cons] at hbody
      obtain ⟨hw, hx, hy, hz, hbody⟩ := hbody
      obtain ⟨a, b, c, hgroup⟩ := exists_decodeThree hw hx hy hz
      obtain ⟨rest, hrest, heq⟩ := ih body (by simp only [List.length_cons] at hlength; omega) hbody
      refine ⟨[a, b, c] ++ rest, ?_, ?_⟩
      · simp only [List.length_append, List.length_cons, List.length_nil]
        omega
      · rw [← encode_of_decodeThree hgroup rest, ← heq]
        rfl

end HardwareFingerprint.Bytes.Base64

namespace HardwareFingerprint.Digest

open Bytes.Base64 (encode decode PaddedTwice)

theorem hasShape_iff {s : String} :
    hasShape s = true ↔ ∃ raw : Bytes, raw.length = sumLength ∧ s = String.ofList (encode raw) := by
  rw [hasShape, Bool.and_eq_true, beq_iff_eq]
  constructor
  · rintro ⟨_, h⟩
    cases hread : decode s.toList with
    | none =>
      rw [hread] at h
      cases h
    | some raw =>
      rw [hread] at h
      have hwritten : s.toList = encode raw := Bytes.Base64.decode_eq_some_iff.mp hread
      exact ⟨raw, beq_iff_eq.mp h, by rw [← hwritten, String.ofList_toList]⟩
  · rintro ⟨raw, hlength, rfl⟩
    have hread : decode (encode raw) = some raw := Bytes.Base64.decode_eq_some_iff.mpr rfl
    rw [Bytes.Base64.utf8ByteSize_encode, String.toList_ofList, hread, hlength]
    exact ⟨rfl, beq_iff_eq.mpr hlength⟩

/-- What has the shape of a digest, told by its characters. -/
theorem hasShape_iff_paddedTwice {s : String} : hasShape s = true ↔ PaddedTwice 5 s.toList := by
  rw [hasShape_iff]
  constructor
  · rintro ⟨raw, hlength, rfl⟩
    rw [String.toList_ofList]
    exact Bytes.Base64.paddedTwice_encode hlength
  · intro h
    obtain ⟨raw, hlength, heq⟩ := h.exists_encode
    exact ⟨raw, hlength, by rw [← heq, String.ofList_toList]⟩

/-- A text has the shape of a digest exactly if it is the padded base 64 of sixteen bytes, which it
determines: 21 characters of the alphabet, a last one without lower bits, and two padding
characters. The digest of every byte string and of every record is of this kind. -/
theorem hasShape_exact :
    (∀ s : String, hasShape s = true ↔
      ∃! raw : Bytes, raw.length = sumLength ∧ s = String.ofList (encode raw)) ∧
    (∀ s : String, hasShape s = true ↔
      ∃ body last, s.toList = body ++ [last, '=', '='] ∧ body.length = 21 ∧
        (∀ c ∈ body, c ∈ Bytes.Base64.alphabet) ∧ last ∈ Bytes.Base64.upperSymbols) ∧
    (∀ b : Bytes, hasShape (ofBytes b) = true) ∧
    ∀ r : Record, hasShape (Canonical.digest r) = true := by
  refine ⟨fun s => ?_, fun s => hasShape_iff_paddedTwice, hasShape_ofBytes,
    fun r => hasShape_ofBytes (Canonical.record r)⟩
  rw [hasShape_iff]
  constructor
  · rintro ⟨raw, hlength, rfl⟩
    refine ⟨raw, ⟨hlength, rfl⟩, ?_⟩
    rintro raw' ⟨_, heq⟩
    exact (Bytes.Base64.encode_injective (String.ofList_inj.mp heq)).symm
  · rintro ⟨raw, hraw, _⟩
    exact ⟨raw, hraw⟩

/-- The digest of nothing, and what becomes of it when a lower bit of its last character is set. -/
example :
    hasShape "1B2M2Y8AsgTpgAmY7PhCfg==" = true ∧
    hasShape "1B2M2Y8AsgTpgAmY7PhCfh==" = false := by
  decide +kernel

end HardwareFingerprint.Digest
