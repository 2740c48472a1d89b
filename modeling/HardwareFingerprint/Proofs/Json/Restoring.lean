import HardwareFingerprint.Json.Shape
import HardwareFingerprint.Proofs.Json.Writing
import Mathlib.Data.List.Nodup

/-!
# Written shapes read back

The readers of single values take what is written of their values, and a shape whose members do so is
read back from the object of its members: each name is given once, by the text of its own value. This
holds at any depth, so that a written shape may stand inside a larger one.
-/
namespace HardwareFingerprint.Json

set_option autoImplicit false

variable {α Key : Type}

/-! ## Single values -/

theorem takes_textCalled (expected s : String) : Takes (textCalled expected) (writeText s) s where
  wellFormed := wellFormed_writeText s
  agrees after _ := by
    rw [writeText_append, textCalled, skipSpaces_cons (by decide)]
    simp only [↓reduceIte, readText_written]
    exact .some rfl

theorem takes_readBelow {bound : Nat} (hb : bound ≤ Numeral.countOf 64) (expected : String)
    (n : Fin bound) : Takes (readBelow bound expected) (Numeral.digits n.val) n where
  wellFormed := .positive (unsigned_digits n.val)
  agrees after ha := by
    have hread := readNumber_digits false (Nat.lt_of_lt_of_le n.isLt hb) ha
    obtain ⟨c, cs, hcs, hc⟩ := (unsigned_digits n.val).exists_digit
    have hminus : c ≠ '-' := ne_of_isDigit hc (by decide)
    rw [hcs, List.cons_append] at hread ⊢
    rw [readBelow, skipSpaces_cons (isSpace_of_isDigit hc)]
    simp only [hminus, hc, ↓reduceIte, hread, bind, Except.bind, whole, boundNumber, n.isLt,
      Bool.false_eq_true]
    exact .some rfl

theorem takes_orNull_none (read : Reader α) : Takes (orNull read) "null".toList none where
  wellFormed := .word (by decide)
  agrees after _ := by
    rw [orNull]
    exact .some rfl

/-- What is not null is left to the reader of the value. -/
theorem Takes.orNull {read : Reader α} {c : Char} {cs : List Char} {a : α}
    (h : Takes read (c :: cs) a) (hs : isSpace c = false) (hn : c ≠ 'n') :
    Takes (orNull read) (c :: cs) (some a) where
  wellFormed := h.wellFormed
  agrees after ha := by
    have hread := (h.agrees after ha).map some
    rw [List.cons_append, Option.map_some] at hread
    rw [List.cons_append, Json.orNull, skipSpaces_cons hs]
    simpa only [hn, ↓reduceIte] using hread

theorem takes_readChoice {choices : List (String × α)} {name : String} {a : α}
    (h : choices.lookup name = some a) (depth : Nat) :
    Takes (readChoice choices depth) (writeText name) a where
  wellFormed := wellFormed_writeText name
  agrees after _ := by
    rw [writeText_append, readChoice, skipSpaces_cons (by decide)]
    simp only [↓reduceIte, readText_written, bind, Except.bind, choose, h]
    exact .some rfl

/-! ## Shapes -/

namespace Members

variable {m : Members Key} {depth : Nat} {ks : List Key} {form : (k : Key) → m.Value k → Json}

/-- The object of some values, each in its form, in the order of their names. -/
def toObject (m : Members Key) (form : (k : Key) → m.Value k → Json) (ks : List Key)
    (vs : Tuple m.Value ks) : Json :=
  .object (Tuple.toList (fun k v => (m.name k, form k v)) ks vs)

/-- The readers of the names take what is written of their values. -/
structure Restores (m : Members Key) (depth : Nat) (ks : List Key)
    (form : (k : Key) → m.Value k → Json) : Prop where
  wellFormed : ∀ k v, WellFormed (write (form k v))
  takes : ∀ k ∈ ks, ∀ v, Takes (m.reader k depth) (write (form k v)) v

/-- What the reader of a name makes of a text alone. -/
def alone (m : Members Key) (depth : Nat) (k : Key) (t : ValueText) : Option (m.Value k) :=
  (Json.readDocument (m.reader k depth) (String.ofList t.val)).toOption

namespace Restores

/-- The member of a name and a value of it. -/
def field (h : m.Restores depth ks form) (k : Key) (v : m.Value k) : Field :=
  writtenField spaces_nil (m.name k) (h.wellFormed k v)

theorem alone_field (h : m.Restores depth ks form) {k : Key} (hk : k ∈ ks) (v : m.Value k) :
    m.alone depth k (h.field k v).valueText = some v :=
  Except.toOption_eq_some_iff.mpr (h.takes k hk v).readDocument

theorem label_mem (h : m.Restores depth ks form) {ks' : List Key} {vs : Tuple m.Value ks'}
    {f : Field} (hf : f ∈ Tuple.toList h.field ks' vs) :
    ∃ k ∈ ks', ∃ v, f = h.field k v := by
  induction ks' with
  | nil => cases hf
  | cons k ks' ih =>
    obtain ⟨v, vs⟩ := vs
    rcases List.mem_cons.mp hf with rfl | hf
    · exact ⟨k, by simp, v, rfl⟩
    · obtain ⟨k', hk', v', rfl⟩ := ih hf
      exact ⟨k', by simp [hk'], v', rfl⟩

theorem readsField (h : m.Restores depth ks form) (hnd : (ks.map m.name).Nodup) {k : Key}
    (hk : k ∈ ks) (v : m.Value k) : m.ReadsField depth ks (m.alone depth) (h.field k v) := by
  intro k' hk' hname after ha
  obtain rfl : k' = k := List.inj_on_of_nodup_map hnd hk' hk hname
  rw [h.alone_field hk v]
  exact (h.takes k' hk v).agrees after ha

/-- Each name is given the value whose member has it. -/
theorem collect_given (h : m.Restores depth ks form) {ks' : List Key} (hsub : ∀ k ∈ ks', k ∈ ks)
    (hnd : (ks'.map m.name).Nodup) (vs : Tuple m.Value ks') :
    Tuple.collect (m.given (m.alone depth) (Tuple.toList h.field ks' vs)) ks' = some vs := by
  induction ks' with
  | nil => rfl
  | cons k ks' ih =>
    obtain ⟨v, vs⟩ := vs
    obtain ⟨hk, hks'⟩ := List.forall_mem_cons.mp hsub
    obtain ⟨hfresh, hnd⟩ := List.nodup_cons.mp hnd
    -- No later member has the first name, so its own value is the only one that it is given.
    have hothers : ∀ f ∈ Tuple.toList h.field ks' vs, f.label ≠ m.name k := by
      intro f hf hlabel
      obtain ⟨k', hk', v', rfl⟩ := h.label_mem hf
      exact hfresh (hlabel ▸ List.mem_map_of_mem hk')
    have hfirst : m.given (m.alone depth) (h.field k v :: Tuple.toList h.field ks' vs) k = some v := by
      have hlabel : (h.field k v).label = m.name k := rfl
      have honce : valuesOf (m.name k) (h.field k v :: Tuple.toList h.field ks' vs) =
          [(h.field k v).valueText] := by
        rw [valuesOf_cons_of_eq hlabel, valuesOf_eq_nil hothers]
      rw [given_of_valuesOf honce, h.alone_field hk v]
    have hrest : Tuple.collect
        (m.given (m.alone depth) (h.field k v :: Tuple.toList h.field ks' vs)) ks' = some vs := by
      rw [← ih hks' hnd vs]
      refine Tuple.collect_congr fun k' hk' => given_cons_of_ne ?_ _
      intro hlabel
      have hname : m.name k = m.name k' := hlabel
      exact hfresh (hname ▸ List.mem_map_of_mem hk')
    exact Tuple.collect_cons_eq_some_iff.mpr ⟨hfirst, hrest⟩

/-- The object is written member after member. -/
theorem write_toObject (h : m.Restores depth ks form) {ks' : List Key} (vs : Tuple m.Value ks') :
    write (m.toObject form ks' vs) =
      objectText [] ((Tuple.toList h.field ks' vs).map Field.toMemberText) := by
  have htexts : (Tuple.toList (fun k v => (m.name k, form k v)) ks' vs).map writeMember =
      (Tuple.toList h.field ks' vs).map fun f => f.text := by
    induction ks' with
    | nil => rfl
    | cons k ks' ih =>
      obtain ⟨v, vs⟩ := vs
      have hfirst : writeMember (m.name k, form k v) = (h.field k v).text := writeText_append _ _
      rw [Tuple.toList, Tuple.toList, List.map_cons, List.map_cons, ih, hfirst]
  rw [toObject, write, writeMembers_eq, htexts, objectText, List.map_map]
  rfl

end Restores

end Members

/-- A shape is read back from the object of its members. -/
theorem Shape.takes_write {s : Shape Key} {depth : Nat} {form : (k : Key) → s.Value k → Json}
    (h : s.Restores depth s.keys form) (hnd : (s.keys.map s.name).Nodup) (vs : s.Content) :
    Takes (s.read (depth + 1)) (write (s.toObject form s.keys vs)) vs where
  wellFormed := by
    rw [h.write_toObject]
    exact .object spaces_nil (List.forall_mem_map.mpr fun f _ => f.isMember)
      (List.forall_mem_map.mpr fun f _ => f.wellFormed)
  agrees after _ := by
    have hm : ∀ f ∈ Tuple.toList h.field s.keys vs,
        s.ReadsField depth s.keys (s.alone depth) f := by
      intro f hf
      obtain ⟨k, hk, v, rfl⟩ := h.label_mem hf
      exact h.readsField hnd hk v
    have hread := readObject_agrees hnd spaces_nil hm after
    rw [h.collect_given (fun _ hk => hk) hnd vs] at hread
    rw [h.write_toObject, objectText, List.map_map, List.cons_append, Shape.read,
      skipSpaces_cons (by decide)]
    exact hread

end HardwareFingerprint.Json
