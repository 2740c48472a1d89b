import HardwareFingerprint.Canonical

/-!
# Canonical encodings delimit themselves

Decoding undoes encoding, whatever bytes come after, and accepts nothing that was not written. So an
encoding tells its record and where it ends. The texts of a record must be short enough for their
lengths to be written; nothing is asked of its numbers, which are as wide as their properties.
-/
namespace HardwareFingerprint.Canonical

set_option autoImplicit false

/-- The length of a text can be written. -/
def FitsValue : (k : PropertyKind) → k.Value → Prop
  | .text, s => (Bytes.ofText s).length < Bytes.capacity lengthOctets
  | .number _, _ => True

/-- The lengths of all texts can be written. -/
def Fits : (ps : List Property) → Values ps → Prop
  | [], _ => True
  | p :: ps, (v, vs) => FitsValue p.kind v ∧ Fits ps vs

instance decidableFitsValue : (k : PropertyKind) → (v : k.Value) → Decidable (FitsValue k v)
  | .text, s => inferInstanceAs (Decidable ((Bytes.ofText s).length < Bytes.capacity lengthOctets))
  | .number _, _ => inferInstanceAs (Decidable True)

instance decidableFits : (ps : List Property) → (vs : Values ps) → Decidable (Fits ps vs)
  | [], _ => inferInstanceAs (Decidable True)
  | p :: ps, (v, vs) =>
    @instDecidableAnd _ _ (decidableFitsValue p.kind v) (decidableFits ps vs)

theorem takeExactly_eq_some_iff {n : Nat} {b form rest : Bytes} :
    takeExactly n b = some (form, rest) ↔ form.length = n ∧ b = form ++ rest := by
  rw [takeExactly]
  constructor
  · intro h
    split at h
    · next hn =>
      obtain ⟨rfl, rfl⟩ := Prod.mk.inj (Option.some.inj h)
      exact ⟨List.length_take_of_le hn, (List.take_append_drop n b).symm⟩
    · cases h
  · rintro ⟨rfl, rfl⟩
    have hn : form.length ≤ (form ++ rest).length := by simp
    rw [if_pos hn, List.take_left, List.drop_left]

/-- A number reads back, and only its written form reads as it. -/
theorem decodeValue_number_iff {octets : Nat} {b rest : Bytes}
    {n : (PropertyKind.number octets).Value} :
    decodeValue (.number octets) b = some (n, rest) ↔ b = value (.number octets) n ++ rest := by
  simp only [decodeValue, value, Option.bind_eq_bind, Option.bind_eq_some_iff, Prod.exists,
    takeExactly_eq_some_iff]
  constructor
  · rintro ⟨form, b', ⟨rfl, rfl⟩, h⟩
    split at h
    · obtain ⟨rfl, rfl⟩ := Prod.mk.inj (Option.some.inj h)
      rw [Bytes.littleEndian_ofLittleEndian]
    · cases h
  · rintro rfl
    have hn : Bytes.ofLittleEndian (Bytes.littleEndian octets n.val) = n.val :=
      Bytes.ofLittleEndian_littleEndian n.isLt
    refine ⟨_, _, ⟨Bytes.length_littleEndian octets n.val, rfl⟩, ?_⟩
    simp only [hn]
    rw [dif_pos n.isLt]

/-- A text reads back if its length can be written, and only its written form reads as it. -/
theorem decodeValue_text_iff {b rest : Bytes} {s : String} :
    decodeValue .text b = some (s, rest) ↔ FitsValue .text s ∧ b = value .text s ++ rest := by
  simp only [decodeValue, value, text, bytes, FitsValue, Option.bind_eq_bind,
    Option.bind_eq_some_iff, Prod.exists, takeExactly_eq_some_iff]
  constructor
  -- What is read as a length is below the capacity, so that the text that was read fits.
  · rintro ⟨size, _, ⟨hs, rfl⟩, form, _, ⟨hl, rfl⟩, s', hf, h⟩
    obtain ⟨rfl, rfl⟩ := Prod.mk.inj (Option.some.inj h)
    obtain rfl := Bytes.eq_ofText_of_text? hf
    rw [hl, ← hs]
    refine ⟨Bytes.ofLittleEndian_lt size, ?_⟩
    rw [Bytes.littleEndian_ofLittleEndian, List.append_assoc]
  · rintro ⟨hfit, rfl⟩
    have hsize := Bytes.ofLittleEndian_littleEndian hfit
    refine ⟨_, _, ⟨Bytes.length_littleEndian lengthOctets _, List.append_assoc _ _ _⟩, ?_⟩
    exact ⟨_, _, ⟨hsize.symm, rfl⟩, s, Bytes.text?_ofText s, rfl⟩

theorem decodeValue_eq_some_iff {k : PropertyKind} {b rest : Bytes} {v : k.Value} :
    decodeValue k b = some (v, rest) ↔ FitsValue k v ∧ b = value k v ++ rest := by
  cases k with
  | text => exact decodeValue_text_iff
  | number octets =>
    exact ⟨fun h => ⟨trivial, decodeValue_number_iff.mp h⟩, fun h => decodeValue_number_iff.mpr h.2⟩

theorem values_cons (p : Property) (ps : List Property) (v : p.Value) (vs : Values ps) :
    values (p :: ps) (v, vs) = value p.kind v ++ values ps vs := rfl

/-- Decoding reads exactly what encoding wrote, value by value. -/
theorem decode_eq_some_iff {ps : List Property} {b rest : Bytes} {vs : Values ps} :
    decode ps b = some (vs, rest) ↔ Fits ps vs ∧ b = values ps vs ++ rest := by
  induction ps generalizing b with
  | nil =>
    constructor
    · intro h
      obtain ⟨_, rfl⟩ := Prod.mk.inj (Option.some.inj h)
      exact ⟨trivial, rfl⟩
    · rintro ⟨_, rfl⟩
      rfl
  | cons p ps ih =>
    obtain ⟨v, vs⟩ := vs
    simp only [decode, Option.bind_eq_bind, Option.bind_eq_some_iff, Prod.exists,
      decodeValue_eq_some_iff, values_cons, Fits]
    constructor
    · rintro ⟨v', b', ⟨hv, rfl⟩, vs', rest', hd, h⟩
      obtain ⟨hpair, rfl⟩ := Prod.mk.inj (Option.some.inj h)
      obtain ⟨rfl, rfl⟩ := Prod.mk.inj hpair
      obtain ⟨hvs, rfl⟩ := ih.mp hd
      exact ⟨⟨hv, hvs⟩, (List.append_assoc _ _ _).symm⟩
    · rintro ⟨⟨hv, hvs⟩, rfl⟩
      exact ⟨v, _, ⟨hv, List.append_assoc _ _ _⟩, vs, rest, ih.mpr ⟨hvs, rfl⟩, rfl⟩

theorem decode_record_append (cls : RecordClass) {r : RecordOf cls} (hr : Fits cls.properties r)
    (x : Bytes) : decode cls.properties (record ⟨cls, r⟩ ++ x) = some (r, x) :=
  decode_eq_some_iff.mpr ⟨hr, rfl⟩

/-- An encoding is decoded to its record and what comes after it, and nothing else has the same
bytes: not with other bytes after it, and not alone. -/
theorem record_selfDelimiting (cls : RecordClass) {r s : RecordOf cls}
    (hr : Fits cls.properties r) (hs : Fits cls.properties s) (x y : Bytes) :
    decode cls.properties (record ⟨cls, r⟩ ++ x) = some (r, x) ∧
    (record ⟨cls, r⟩ ++ x = record ⟨cls, s⟩ ++ y → r = s ∧ x = y) ∧
    (record ⟨cls, r⟩ = record ⟨cls, s⟩ ↔ r = s) := by
  have delimited : ∀ x y, record ⟨cls, r⟩ ++ x = record ⟨cls, s⟩ ++ y → r = s ∧ x = y := by
    intro x y h
    have hd := decode_record_append cls hr x
    rw [h, decode_record_append cls hs y] at hd
    obtain ⟨hsr, hyx⟩ := Prod.mk.inj (Option.some.inj hd)
    exact ⟨hsr.symm, hyx.symm⟩
  refine ⟨decode_record_append cls hr x, delimited x y, ?_, ?_⟩
  · intro h
    exact (delimited [] [] (congrArg (· ++ []) h)).1
  · rintro rfl
    rfl

/-- A BIOS with a manufacturer and a name. -/
def namedBios : RecordOf .bios := ("Amazon EC2", "Default", "", "1.0", "AMAZON - 1", ())

/-- The same text, with the name moved to the end of the manufacturer. -/
def unnamedBios : RecordOf .bios := ("Amazon EC2Default", "", "", "1.0", "AMAZON - 1", ())

/-- Text that moves from one property to the one before it changes the bytes. -/
theorem bios_selfDelimiting :
    Fits RecordClass.bios.properties namedBios ∧ Fits RecordClass.bios.properties unnamedBios ∧
    decode RecordClass.bios.properties (record ⟨.bios, namedBios⟩ ++ [0]) =
      some (namedBios, [0]) ∧
    (record ⟨.bios, namedBios⟩ ++ [0] = record ⟨.bios, unnamedBios⟩ ++ [1] →
      namedBios = unnamedBios ∧ [(0 : UInt8)] = [1]) ∧
    (record ⟨.bios, namedBios⟩ = record ⟨.bios, unnamedBios⟩ ↔ namedBios = unnamedBios) := by
  have hn : Fits RecordClass.bios.properties namedBios := by decide
  have hu : Fits RecordClass.bios.properties unnamedBios := by decide
  exact ⟨hn, hu, record_selfDelimiting .bios hn hu [0] [1]⟩

end HardwareFingerprint.Canonical
