import HardwareFingerprint.Bytes.Basic

/-!
# Little-endian numbers

A number as a fixed count of bytes, lowest first. Bytes beyond the count are dropped on writing,
so a number below the capacity of its bytes is read back from them.
-/
namespace HardwareFingerprint.Bytes

set_option autoImplicit false

/-- The count of the numbers of so many bytes. -/
abbrev capacity (count : Nat) : Nat :=
  Nat.pow 256 count

/-- The lowest `count` bytes of a number, lowest first. -/
def littleEndian : Nat → Nat → Bytes
  | 0, _ => []
  | count + 1, n => UInt8.ofNat n :: littleEndian count (n / 256)

/-- The number whose bytes, lowest first, are given. -/
def ofLittleEndian : Bytes → Nat
  | [] => 0
  | b :: rest => b.toNat + 256 * ofLittleEndian rest

@[simp] theorem length_littleEndian (count n : Nat) : (littleEndian count n).length = count := by
  induction count generalizing n with
  | zero => rfl
  | succ count ih => simp [littleEndian, ih]

theorem ofLittleEndian_littleEndian {count n : Nat} (h : n < capacity count) :
    ofLittleEndian (littleEndian count n) = n := by
  induction count generalizing n with
  | zero =>
    have h0 : n < 1 := h
    simp [littleEndian, ofLittleEndian]
    omega
  | succ count ih =>
    have hs : capacity (count + 1) = capacity count * 256 := rfl
    have hq : n / 256 < capacity count := by omega
    simp only [littleEndian, ofLittleEndian, ih hq, UInt8.toNat_ofNat']
    omega

theorem ofLittleEndian_lt (b : Bytes) : ofLittleEndian b < capacity b.length := by
  induction b with
  | nil => exact Nat.zero_lt_one
  | cons a rest ih =>
    have hs : capacity (rest.length + 1) = capacity rest.length * 256 := rfl
    have ha : a.toNat < 256 := a.toNat_lt
    simp only [ofLittleEndian, List.length_cons]
    omega

theorem littleEndian_ofLittleEndian (b : Bytes) : littleEndian b.length (ofLittleEndian b) = b := by
  induction b with
  | nil => rfl
  | cons a rest ih =>
    have ha : a.toNat < 256 := a.toNat_lt
    have hq : (a.toNat + 256 * ofLittleEndian rest) / 256 = ofLittleEndian rest := by omega
    have hm : UInt8.ofNat (a.toNat + 256 * ofLittleEndian rest) = a := by
      apply UInt8.toNat_inj.mp
      rw [UInt8.toNat_ofNat']
      omega
    rw [List.length_cons, littleEndian, ofLittleEndian, hq, hm, ih]

end HardwareFingerprint.Bytes
