import HardwareFingerprint.Proofs.Json.Restoring
import HardwareFingerprint.Proofs.Record.Arrangement

/-!
# Written records read back

A record's own document reads as the record: its texts stay texts, whatever they look like, and its
numbers keep every digit. A document may be laxer than that, with numbers given as texts and the like,
but what was made of it is read again from what is written of it. So one reading takes all liberties
out of a document.
-/
namespace HardwareFingerprint

set_option autoImplicit false

open Json (Takes Exact)

instance PropertyKind.decidableEqValue : (k : PropertyKind) → DecidableEq k.Value
  | .text => inferInstanceAs (DecidableEq String)
  | .number octets => inferInstanceAs (DecidableEq (Fin (Bytes.capacity octets)))

instance Values.decidableEq : (ps : List Property) → DecidableEq (Values ps)
  | [] => inferInstanceAs (DecidableEq Unit)
  | p :: ps => @instDecidableEqProd _ _ p.kind.decidableEqValue (Values.decidableEq ps)

instance (cls : RecordClass) : DecidableEq cls.shape.Content :=
  Values.decidableEq cls.properties

/-- A kind whose values a document can hold: its numbers have at most eight bytes. -/
def PropertyKind.Narrow : PropertyKind → Prop
  | .text => True
  | .number octets => octets ≤ 8

instance : (k : PropertyKind) → Decidable k.Narrow
  | .text => inferInstanceAs (Decidable True)
  | .number octets => inferInstanceAs (Decidable (octets ≤ 8))

namespace PropertyKind

/-- A value in the form of its kind stands for itself. -/
theorem ofJson_toJson (k : PropertyKind) (v : k.Value) : k.ofJson (k.toJson v) = .ok v := by
  cases k with
  | text => rfl
  | number octets =>
    obtain ⟨n, hn⟩ := v
    change (if h : n < Bytes.capacity octets then _ else _) = _
    rw [dif_pos hn]

theorem exact_toJson {k : PropertyKind} (hk : k.Narrow) (depth : Nat) (v : k.Value) :
    Exact depth (k.toJson v) := by
  cases k with
  | text => exact .text v
  | number octets =>
    have hbytes : Bytes.capacity octets ≤ Bytes.capacity 8 :=
      Nat.pow_le_pow_right (by decide) hk
    have hbits : Bytes.capacity 8 = Numeral.countOf 64 := by decide
    have hcapacity : Bytes.capacity octets ≤ Numeral.countOf 64 := hbits ▸ hbytes
    exact .natural (Nat.lt_of_lt_of_le v.isLt hcapacity)

theorem wellFormed_toJson (k : PropertyKind) (v : k.Value) : Json.WellFormed (k.toJson v).write := by
  cases k with
  | text => exact Json.wellFormed_writeText v
  | number octets => exact .positive (Json.unsigned_digits v.val)

/-- The reader of a kind takes what is written of its values. -/
theorem takes_read {k : PropertyKind} (hk : k.Narrow) (depth : Nat) (v : k.Value) :
    Takes (k.read depth) (k.toJson v).write v where
  wellFormed := k.wellFormed_toJson v
  agrees after ha := by
    have hvalue := (exact_toJson hk depth v).takes_write.agrees after ha
    rw [read]
    generalize Json.readValue depth ((k.toJson v).write ++ after) = r at hvalue ⊢
    cases hvalue with
    | some hl =>
      simp only [bind, Except.bind, ofJson_toJson]
      exact .some hl

end PropertyKind

theorem RecordClass.narrow (cls : RecordClass) : ∀ p ∈ cls.properties, p.kind.Narrow := by
  cases cls <;> decide

theorem RecordClass.restores (cls : RecordClass) (depth : Nat) :
    cls.shape.Restores depth cls.properties fun p => p.kind.toJson where
  wellFormed p v := p.kind.wellFormed_toJson v
  takes p hp v := PropertyKind.takes_read (cls.narrow p hp) depth v

/-- A record's own document reads as the record. -/
theorem RecordClass.read_write (r : Record) : r.cls.read r.write = .ok r := by
  have htakes := Json.Shape.takes_write (r.cls.restores (Json.maxDepth - 1)) r.cls.nodup_names r.values
  have hread : r.cls.shape.readDocument r.write = .ok r.values := htakes.readDocument
  rw [read_eq_ok_iff, hread]
  rfl

namespace Record

/-- A record is read from its own document, and so is the record that any accepted document gives:
writing it and reading it again changes neither the record nor its encoding nor its digest. -/
theorem read_restored (r : Record) :
    r.cls.read r.write = .ok r ∧
    ∀ (cls : RecordClass) (document : String), cls.read document = .ok r →
      ∃ r', cls.read r.write = .ok r' ∧ r' = r ∧ Canonical.record r' = Canonical.record r ∧
        Canonical.digest r' = Canonical.digest r := by
  refine ⟨RecordClass.read_write r, fun cls document h => ?_⟩
  obtain ⟨values, _, h⟩ := Except.bind_eq_ok_iff.mp h
  obtain rfl := Except.ok.inj h
  exact ⟨⟨cls, values⟩, RecordClass.read_write ⟨cls, values⟩, rfl, rfl, rfl⟩

/-- A memory module that is told laxly: its numbers by a text and by a truth value, its texts by
null, by a number and by escapes. What is written of it is read as the same module. -/
theorem memoryModule_restored :
    let document := "\x7b\"TotalWidth\":\" +064 \",\"Tag\":-7,\"Name\":\"\\ud83d\\ude00\\u0000\\\"null\"," ++
      "\"MemoryType\":true,\"DeviceLocator\":null,\"Capacity\":\"18446744073709551615\"\x7d"
    let values : RecordOf .physicalMemory :=
      (⟨18446744073709551615, by decide⟩, "", ⟨1, by decide⟩, "😀\x00\"null", "-7", ⟨64, by decide⟩, ())
    let r : Record := ⟨.physicalMemory, values⟩
    RecordClass.physicalMemory.read document = .ok r ∧
      ∃ r', RecordClass.physicalMemory.read r.write = .ok r' ∧ r' = r ∧
        Canonical.record r' = Canonical.record r ∧ Canonical.digest r' = Canonical.digest r := by
  intro document values r
  have hread : RecordClass.physicalMemory.read document = .ok r := by
    rw [RecordClass.read_eq_ok_iff]
    change _ = (some values : Option RecordClass.physicalMemory.shape.Content)
    decide +kernel
  exact ⟨hread, r.read_restored.2 .physicalMemory document hread⟩

end Record

end HardwareFingerprint
