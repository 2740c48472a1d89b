import HardwareFingerprint.Canonical

/-!
# Padded base 64 reads back

Every byte string is read back from its written form, group by group, so that different sums have
different digests.
-/
namespace HardwareFingerprint.Bytes.Base64

set_option autoImplicit false

/-- The alphabet has a different character for every value, and padding is none of them. -/
theorem value?_symbol : ∀ n < 64, value? (symbol n) = some n ∧ symbol n ≠ '=' := by
  decide +kernel

private theorem ofNat_eq {n : Nat} {a : UInt8} (h : n = a.toNat) : UInt8.ofNat n = a := by
  rw [h, UInt8.ofNat_toNat]

theorem decodeOne_symbols (a : UInt8) :
    decodeOne (symbol (a.toNat / 4)) (symbol (a.toNat % 4 * 16)) = some [a] := by
  have ha : a.toNat < 256 := a.toNat_lt
  have hw := (value?_symbol (a.toNat / 4) (by omega)).1
  have hx := (value?_symbol (a.toNat % 4 * 16) (by omega)).1
  have hpad : a.toNat % 4 * 16 % 16 = 0 := by omega
  have hbyte : UInt8.ofNat (a.toNat / 4 * 4 + a.toNat % 4 * 16 / 16) = a := ofNat_eq (by omega)
  simp only [decodeOne, hw, hx, Option.bind_eq_bind, Option.bind_some, hpad, if_true, hbyte]

theorem decodeTwo_symbols (a b : UInt8) :
    decodeTwo (symbol (a.toNat / 4)) (symbol (a.toNat % 4 * 16 + b.toNat / 16))
      (symbol (b.toNat % 16 * 4)) = some [a, b] := by
  have ha : a.toNat < 256 := a.toNat_lt
  have hb : b.toNat < 256 := b.toNat_lt
  have hw := (value?_symbol (a.toNat / 4) (by omega)).1
  have hx := (value?_symbol (a.toNat % 4 * 16 + b.toNat / 16) (by omega)).1
  have hy := (value?_symbol (b.toNat % 16 * 4) (by omega)).1
  have hpad : b.toNat % 16 * 4 % 4 = 0 := by omega
  have hfirst : UInt8.ofNat (a.toNat / 4 * 4 + (a.toNat % 4 * 16 + b.toNat / 16) / 16) = a :=
    ofNat_eq (by omega)
  have hlast : UInt8.ofNat ((a.toNat % 4 * 16 + b.toNat / 16) % 16 * 16 +
      b.toNat % 16 * 4 / 4) = b := ofNat_eq (by omega)
  simp only [decodeTwo, hw, hx, hy, Option.bind_eq_bind, Option.bind_some, hpad, if_true, hfirst,
    hlast]

theorem decodeThree_symbols (a b c : UInt8) :
    decodeThree (symbol (a.toNat / 4)) (symbol (a.toNat % 4 * 16 + b.toNat / 16))
      (symbol (b.toNat % 16 * 4 + c.toNat / 64)) (symbol (c.toNat % 64)) = some [a, b, c] := by
  have ha : a.toNat < 256 := a.toNat_lt
  have hb : b.toNat < 256 := b.toNat_lt
  have hc : c.toNat < 256 := c.toNat_lt
  have hw := (value?_symbol (a.toNat / 4) (by omega)).1
  have hx := (value?_symbol (a.toNat % 4 * 16 + b.toNat / 16) (by omega)).1
  have hy := (value?_symbol (b.toNat % 16 * 4 + c.toNat / 64) (by omega)).1
  have hz := (value?_symbol (c.toNat % 64) (by omega)).1
  have hfirst : UInt8.ofNat (a.toNat / 4 * 4 + (a.toNat % 4 * 16 + b.toNat / 16) / 16) = a :=
    ofNat_eq (by omega)
  have hmiddle : UInt8.ofNat ((a.toNat % 4 * 16 + b.toNat / 16) % 16 * 16 +
      (b.toNat % 16 * 4 + c.toNat / 64) / 4) = b := ofNat_eq (by omega)
  have hlast : UInt8.ofNat ((b.toNat % 16 * 4 + c.toNat / 64) % 4 * 64 + c.toNat % 64) = c :=
    ofNat_eq (by omega)
  simp only [decodeThree, hw, hx, hy, hz, Option.bind_eq_bind, Option.bind_some, hfirst, hmiddle,
    hlast]

/-- Induction along the groups. A full group does not end in padding, so that only its own case of
reading applies to it. -/
theorem decode_encode (b : Bytes) : decode (encode b) = some b := by
  induction b using encode.induct with
  | case1 => rfl
  | case2 a => exact decodeOne_symbols a
  | case3 a b =>
    have hb : b.toNat < 256 := b.toNat_lt
    have hy := (value?_symbol (b.toNat % 16 * 4) (by omega)).2
    rw [encode, decode.eq_3 _ _ _ hy]
    exact decodeTwo_symbols a b
  | case4 a b c rest ih =>
    have hz := (value?_symbol (c.toNat % 64) (by omega)).2
    rw [encode, decode.eq_4 _ _ _ _ _ (fun _ h _ => hz h) (fun h _ => hz h), ih,
      decodeThree_symbols]
    rfl

theorem encode_injective {a b : Bytes} (h : encode a = encode b) : a = b := by
  have hd := congrArg decode h
  rw [decode_encode, decode_encode] at hd
  exact Option.some.inj hd

end HardwareFingerprint.Bytes.Base64

namespace HardwareFingerprint.Digest

/-- Digests are the same exactly when the sums are. -/
theorem ofBytes_eq_iff {a b : Bytes} :
    ofBytes a = ofBytes b ↔ Bytes.Md5.sum a = Bytes.Md5.sum b := by
  rw [ofBytes, ofBytes, String.ofList_inj]
  exact ⟨Bytes.Base64.encode_injective, congrArg _⟩

end HardwareFingerprint.Digest
