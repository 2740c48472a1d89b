import HardwareFingerprint.Proofs.Digest.Base64

/-!
# Every digest has the shape of a digest

The padded base 64 of sixteen bytes has 24 characters of one byte each and reads back as sixteen
bytes, whatever the bytes are. In particular no digest is empty.
-/
namespace HardwareFingerprint.Bytes.Base64

set_option autoImplicit false

/-- The characters of the alphabet take one byte each. -/
theorem utf8Size_symbol : ∀ n < 64, (symbol n).utf8Size = 1 := by
  decide +kernel

/-- Groups of four one-byte characters, as many as it takes. -/
theorem utf8ByteSize_encode (b : Bytes) :
    (String.ofList (encode b)).utf8ByteSize = (b.length + 2) / 3 * 4 := by
  have onePadding : "=".utf8ByteSize = 1 := rfl
  have twoPadding : "==".utf8ByteSize = 2 := rfl
  induction b using encode.induct with
  | case1 => rfl
  | case2 a =>
    have ha : a.toNat < 256 := a.toNat_lt
    have hw := utf8Size_symbol (a.toNat / 4) (by omega)
    have hx := utf8Size_symbol (a.toNat % 4 * 16) (by omega)
    simp [encode, String.ofList_cons, hw, hx, twoPadding]
  | case3 a b =>
    have ha : a.toNat < 256 := a.toNat_lt
    have hb : b.toNat < 256 := b.toNat_lt
    have hw := utf8Size_symbol (a.toNat / 4) (by omega)
    have hx := utf8Size_symbol (a.toNat % 4 * 16 + b.toNat / 16) (by omega)
    have hy := utf8Size_symbol (b.toNat % 16 * 4) (by omega)
    simp [encode, String.ofList_cons, hw, hx, hy, onePadding]
  | case4 a b c rest ih =>
    have ha : a.toNat < 256 := a.toNat_lt
    have hb : b.toNat < 256 := b.toNat_lt
    have hc : c.toNat < 256 := c.toNat_lt
    have hw := utf8Size_symbol (a.toNat / 4) (by omega)
    have hx := utf8Size_symbol (a.toNat % 4 * 16 + b.toNat / 16) (by omega)
    have hy := utf8Size_symbol (b.toNat % 16 * 4 + c.toNat / 64) (by omega)
    have hz := utf8Size_symbol (c.toNat % 64) (by omega)
    have hgroups : (rest.length + 1 + 1 + 1 + 2) / 3 = (rest.length + 2) / 3 + 1 := by omega
    simp [encode, String.ofList_cons, hw, hx, hy, hz, ih, hgroups]
    omega

end HardwareFingerprint.Bytes.Base64

namespace HardwareFingerprint.Digest

theorem hasShape_ofBytes (b : Bytes) : hasShape (ofBytes b) = true := by
  have hsize : (ofBytes b).utf8ByteSize = length := by
    rw [ofBytes, Bytes.Base64.utf8ByteSize_encode, Bytes.Md5.length_sum]
    rfl
  have hread : Bytes.Base64.decode (ofBytes b).toList = some (Bytes.Md5.sum b) := by
    rw [ofBytes, String.toList_ofList, Bytes.Base64.decode_encode]
  simp [hasShape, hsize, hread, Bytes.Md5.length_sum, sumLength]

/-- What has the shape of a digest is not empty. -/
theorem ne_empty_of_hasShape {s : String} (h : hasShape s = true) : s ≠ "" := by
  rintro rfl
  cases h

end HardwareFingerprint.Digest
