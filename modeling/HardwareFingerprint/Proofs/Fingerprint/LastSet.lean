import HardwareFingerprint.Collection
import HardwareFingerprint.Proofs.Run.Isolation

/-!
# The last text under a key counts

Whatever is set in a fingerprint, and in whatever order, it keeps the nine keys in ascending order
and has under each of them the text that was set last. A collection sets the successes of its
categories and then its host facts, none of which touches the key of another. So a category has its
last success, also if it failed afterwards, and the order of categories that occur once is of no
account. Nothing is asked of a collection: categories may repeat and may be missing.
-/
namespace HardwareFingerprint

set_option autoImplicit false

namespace Fingerprint

/-- The fingerprint after some texts were set one after the other, each under its key. -/
def setAll (f : Fingerprint) (sets : List (String × String)) : Fingerprint :=
  sets.foldl (fun f e => f.set e.1 e.2) f

/-- The text that is set last under a key. -/
def lastSet? (sets : List (String × String)) (key : String) : Option String :=
  (sets.filter fun e => e.1 = key).getLast?.map Prod.snd

theorem lastSet?_cons (e : String × String) (sets : List (String × String)) (key : String) :
    lastSet? (e :: sets) key = (lastSet? sets key).or (if e.1 = key then some e.2 else none) := by
  rw [lastSet?, lastSet?, List.filter_cons]
  by_cases h : e.1 = key
  · rw [if_pos (decide_eq_true h), if_pos h, List.getLast?_cons]
    cases (sets.filter fun e => e.1 = key).getLast? <;> rfl
  · rw [if_neg (by simpa using h), if_neg h, Option.or_none]

theorem lastSet?_append (sets sets' : List (String × String)) (key : String) :
    lastSet? (sets ++ sets') key = (lastSet? sets' key).or (lastSet? sets key) := by
  simp only [lastSet?, List.filter_append, List.getLast?_append, Option.map_or]

/-- The last text that is set for one of some things, each of which has a key and at most one
text. -/
theorem lastSet?_filterMap {α : Type} (key : α → String) (text : α → Option String) (xs : List α)
    (name : String) :
    lastSet? (xs.filterMap fun x => (text x).map (Prod.mk (key x))) name =
      ((xs.filter fun x => key x = name).filterMap text).getLast? := by
  rw [lastSet?, ← List.getLast?_map, List.filter_filterMap, List.map_filterMap,
    List.filterMap_filter]
  congr 2
  funext x
  by_cases h : key x = name
  · cases text x <;> simp [h]
  · cases text x <;> simp [h, Option.filter]

theorem lastSet?_eq_none {sets : List (String × String)} {key : String}
    (h : ∀ e ∈ sets, e.1 ≠ key) : lastSet? sets key = none := by
  have hf : (sets.filter fun e => e.1 = key) = [] := by simpa using h
  rw [lastSet?, hf]
  rfl

@[simp] theorem keys_setAll (f : Fingerprint) (sets : List (String × String)) :
    (f.setAll sets).keys = f.keys := by
  induction sets generalizing f with
  | nil => rfl
  | cons e sets ih => exact (ih (f.set e.1 e.2)).trans (keys_set f e.1 e.2)

theorem get?_setAll (f : Fingerprint) (sets : List (String × String)) (key : String) :
    (f.setAll sets).get? key = (f.get? key).map fun old => (lastSet? sets key).getD old := by
  induction sets generalizing f with
  | nil => simp [setAll, lastSet?]
  | cons e sets ih =>
    have hstep : (f.setAll (e :: sets)).get? key = ((f.set e.1 e.2).setAll sets).get? key := rfl
    rw [hstep, ih, get?_set, lastSet?_cons]
    by_cases h : key = e.1
    · rw [if_pos h, if_pos h.symm, Option.map_map]
      cases lastSet? sets key <;> rfl
    · rw [if_neg h, if_neg (Ne.symm h), Option.or_none]

/-- Setting successes alone is setting their texts. -/
theorem foldl_setIfOk {α ε : Type} (key : α → String) (result : α → Except ε String) (xs : List α)
    (f : Fingerprint) :
    xs.foldl (fun f x => f.setIfOk (key x) (result x)) f =
      f.setAll (xs.filterMap fun x => (result x).toOption.map (Prod.mk (key x))) := by
  induction xs generalizing f with
  | nil => rfl
  | cons x xs ih =>
    rw [List.foldl_cons, ih, List.filterMap_cons]
    cases result x <;> rfl

theorem perm_orderedKeys : orderedKeys.Perm Key.all :=
  List.mergeSort_perm Key.all _

theorem nodup_orderedKeys : orderedKeys.Nodup :=
  perm_orderedKeys.nodup_iff.mpr (by decide)

theorem orderedKeys_ascending : orderedKeys.Pairwise (· < ·) := by
  have sorted : orderedKeys.Pairwise fun a b => decide (a ≤ b) = true := by
    apply List.pairwise_mergeSort
    · intro a b c hab hbc
      exact decide_eq_true (String.le_trans (of_decide_eq_true hab) (of_decide_eq_true hbc))
    · intro a b
      simpa using String.le_total a b
  refine (sorted.and nodup_orderedKeys).imp ?_
  rintro a b ⟨hle, hne⟩
  exact String.not_le.mp fun hge => hne (String.le_antisymm (of_decide_eq_true hle) hge)

theorem keys_empty : empty.keys = orderedKeys := by
  rw [keys, empty, List.map_map]
  exact List.map_id orderedKeys

theorem get?_empty (key : String) : empty.get? key = if key ∈ Key.all then some "" else none := by
  simp only [← perm_orderedKeys.mem_iff, empty, get?]
  induction orderedKeys with
  | nil => rfl
  | cons k ks ih =>
    by_cases h : key = k
    · simp [h]
    · simp [List.lookup_cons, h, beq_eq_false_iff_ne.mpr h, ih]

theorem get?_setAll_empty (sets : List (String × String)) (key : String) :
    (empty.setAll sets).get? key =
      if key ∈ Key.all then some ((lastSet? sets key).getD "") else none := by
  rw [get?_setAll, get?_empty]
  split <;> rfl

/-- Fingerprints with the same keys, none of them twice, are told apart by a text. -/
theorem ext_get? {f g : Fingerprint} (hk : f.keys = g.keys) (hn : f.keys.Nodup)
    (h : ∀ key, f.get? key = g.get? key) : f = g := by
  obtain ⟨es⟩ := f
  obtain ⟨fs⟩ := g
  congr 1
  simp only [keys, get?] at hk hn h
  induction es generalizing fs with
  | nil => exact (List.map_eq_nil_iff.mp hk.symm).symm
  | cons e es ih =>
    obtain ⟨k, v⟩ := e
    cases fs with
    | nil => cases hk
    | cons e' fs =>
      obtain ⟨k', v'⟩ := e'
      obtain ⟨rfl, hks⟩ : k = k' ∧ es.map Prod.fst = fs.map Prod.fst := List.cons.inj hk
      obtain ⟨hfresh, hn⟩ := List.nodup_cons.mp hn
      obtain rfl : v = v' := by simpa using h k
      have hrest : es = fs := by
        refine ih hn fs hks fun key => ?_
        by_cases hkey : key = k
        · have absent : ∀ xs : List (String × String), k ∉ xs.map Prod.fst → xs.lookup k = none := by
            intro xs hx
            exact List.lookup_eq_none_iff.mpr fun e he => by
              simpa using fun h : k = e.1 => hx (h ▸ List.mem_map_of_mem he)
          rw [hkey, absent es hfresh, absent fs (hks ▸ hfresh)]
        · have hl := h key
          rwa [List.lookup_cons, List.lookup_cons, beq_eq_false_iff_ne.mpr hkey] at hl
      rw [hrest]

end Fingerprint

/-- The last success of a category among some outcomes. -/
def Outcome.lastSuccess? (os : List Outcome) (c : Category) : Option String :=
  ((os.filter fun o => o.category = c).filterMap fun o => o.result.toOption).getLast?

namespace Collection

/-- What a collection sets: the successes of its categories, and after them its host facts. -/
def sets (k : Collection) : List (String × String) :=
  (k.outcomes.filterMap fun o => o.result.toOption.map (Prod.mk o.category.key)) ++
    k.host.entries.filterMap fun e => e.2.toOption.map (Prod.mk e.1)

theorem fingerprint_eq_setAll (k : Collection) :
    k.fingerprint = Fingerprint.empty.setAll k.sets := by
  have hcategories := Fingerprint.foldl_setIfOk (fun o : Outcome => o.category.key) Outcome.result
    k.outcomes .empty
  have hfacts := Fingerprint.foldl_setIfOk
    (Prod.fst : String × Except Failure String → String) Prod.snd k.host.entries
  rw [fingerprint, hcategories, hfacts, sets, Fingerprint.setAll, Fingerprint.setAll,
    Fingerprint.setAll, List.foldl_append]

theorem keys_fingerprint (k : Collection) : k.fingerprint.keys = Fingerprint.orderedKeys := by
  rw [fingerprint_eq_setAll, Fingerprint.keys_setAll, Fingerprint.keys_empty]

/-- What the outcomes set under the key of a category are its own successes. -/
theorem lastSet?_outcomes (os : List Outcome) (c : Category) :
    Fingerprint.lastSet?
        (os.filterMap fun o => o.result.toOption.map (Prod.mk o.category.key)) c.key =
      Outcome.lastSuccess? os c := by
  have hkey : ∀ o : Outcome, o.category.key = c.key ↔ o.category = c :=
    fun o => ⟨Category.key_injective, congrArg _⟩
  rw [Fingerprint.lastSet?_filterMap, Outcome.lastSuccess?]
  simp only [hkey]

theorem lastSet?_facts (facts : HostFacts) (f : HostFact) :
    Fingerprint.lastSet? (facts.entries.filterMap fun e => e.2.toOption.map (Prod.mk e.1)) f.key =
      (facts.get f).toOption := by
  have own : (facts.entries.filter fun e => e.1 = f.key) = [(f.key, facts.get f)] := by
    cases f <;> rfl
  rw [Fingerprint.lastSet?_filterMap, own]
  cases facts.get f <;> rfl

theorem key_ne_factKey (c : Category) (f : HostFact) : c.key ≠ f.key := by
  cases c <;> cases f <;> decide

theorem mem_entries_factKey {facts : HostFacts} {e : String × Except Failure String}
    (h : e ∈ facts.entries) : ∃ f : HostFact, e = (f.key, facts.get f) := by
  simp only [HostFacts.entries, List.mem_cons, List.not_mem_nil, or_false] at h
  rcases h with rfl | rfl | rfl
  · exact ⟨.hostname, rfl⟩
  · exact ⟨.primaryIp, rfl⟩
  · exact ⟨.macAddress, rfl⟩

/-- No fact is set under the key of a category. -/
theorem lastSet?_sets_category (k : Collection) (c : Category) :
    Fingerprint.lastSet? k.sets c.key = Outcome.lastSuccess? k.outcomes c := by
  have unset : Fingerprint.lastSet?
      (k.host.entries.filterMap fun e => e.2.toOption.map (Prod.mk e.1)) c.key = none := by
    apply Fingerprint.lastSet?_eq_none
    intro e he
    obtain ⟨entry, hentry, hset⟩ := List.mem_filterMap.mp he
    obtain ⟨f, rfl⟩ := mem_entries_factKey hentry
    obtain ⟨v, _, rfl⟩ := Option.map_eq_some_iff.mp hset
    exact (key_ne_factKey c f).symm
  rw [sets, Fingerprint.lastSet?_append, unset, Option.none_or, lastSet?_outcomes]

/-- No category is set under the key of a fact. -/
theorem lastSet?_sets_fact (k : Collection) (f : HostFact) :
    Fingerprint.lastSet? k.sets f.key = (k.host.get f).toOption := by
  have unset : Fingerprint.lastSet?
      (k.outcomes.filterMap fun o => o.result.toOption.map (Prod.mk o.category.key)) f.key =
        none := by
    apply Fingerprint.lastSet?_eq_none
    intro e he
    obtain ⟨o, _, hset⟩ := List.mem_filterMap.mp he
    obtain ⟨v, _, rfl⟩ := Option.map_eq_some_iff.mp hset
    exact key_ne_factKey o.category f
  rw [sets, Fingerprint.lastSet?_append, unset, Option.or_none, lastSet?_facts]

theorem key_mem_all (c : Category) : c.key ∈ Key.all := by
  cases c <;> decide

theorem factKey_mem_all (f : HostFact) : f.key ∈ Key.all := by
  cases f <;> decide

theorem get?_fingerprint (k : Collection) (key : String) :
    k.fingerprint.get? key =
      if key ∈ Key.all then some ((Fingerprint.lastSet? k.sets key).getD "") else none := by
  rw [fingerprint_eq_setAll, Fingerprint.get?_setAll_empty]

theorem get?_fingerprint_category (k : Collection) (c : Category) :
    k.fingerprint.get? c.key = some ((Outcome.lastSuccess? k.outcomes c).getD "") := by
  rw [get?_fingerprint, if_pos (key_mem_all c), lastSet?_sets_category]

theorem get?_fingerprint_fact (k : Collection) (f : HostFact) :
    k.fingerprint.get? f.key = some ((k.host.get f).toOption.getD "") := by
  rw [get?_fingerprint, if_pos (factKey_mem_all f), lastSet?_sets_fact]

end Collection

/-- Every key is that of a category or of a fact. -/
theorem Key.mem_all_iff {key : String} :
    key ∈ Key.all ↔ (∃ c : Category, key = c.key) ∨ ∃ f : HostFact, key = f.key := by
  constructor
  · intro h
    simp only [Key.all, List.mem_cons, List.not_mem_nil, or_false] at h
    rcases h with rfl | rfl | rfl | rfl | rfl | rfl | rfl | rfl | rfl
    · exact .inl ⟨.uuid, rfl⟩
    · exact .inl ⟨.processor, rfl⟩
    · exact .inl ⟨.memory, rfl⟩
    · exact .inl ⟨.bios, rfl⟩
    · exact .inl ⟨.system, rfl⟩
    · exact .inr ⟨.hostname, rfl⟩
    · exact .inr ⟨.primaryIp, rfl⟩
    · exact .inr ⟨.macAddress, rfl⟩
    · exact .inl ⟨.disk, rfl⟩
  · rintro (⟨c, rfl⟩ | ⟨f, rfl⟩)
    · exact Collection.key_mem_all c
    · exact Collection.factKey_mem_all f

namespace Outcome

/-- Where no category occurs twice, an outcome is the only one of its category. -/
theorem filter_category {os : List Outcome} (hn : (os.map category).Nodup) {o : Outcome}
    (ho : o ∈ os) : (os.filter fun o' => o'.category = o.category) = [o] := by
  induction os with
  | nil => cases ho
  | cons o' os ih =>
    obtain ⟨hfresh, hn⟩ := List.nodup_cons.mp hn
    rcases List.mem_cons.mp ho with rfl | ho
    · have others : (os.filter fun o' => o'.category = o.category) = [] := by
        refine List.filter_eq_nil_iff.mpr fun o' ho' h => hfresh ?_
        exact of_decide_eq_true h ▸ List.mem_map_of_mem ho'
      rw [List.filter_cons, if_pos (decide_eq_true rfl), others]
    · have hne : o'.category ≠ o.category := fun h => hfresh (h ▸ List.mem_map_of_mem ho)
      rw [List.filter_cons, if_neg (by simpa using hne)]
      exact ih hn ho

theorem lastSuccess?_of_mem {os : List Outcome} (hn : (os.map category).Nodup) {o : Outcome}
    (ho : o ∈ os) : lastSuccess? os o.category = o.result.toOption := by
  rw [lastSuccess?, filter_category hn ho, List.filterMap_cons, List.filterMap_nil]
  cases o.result <;> rfl

theorem lastSuccess?_eq_none {os : List Outcome} {c : Category} (h : ∀ o ∈ os, o.category ≠ c) :
    lastSuccess? os c = none := by
  have hf : (os.filter fun o => o.category = c) = [] := by simpa using h
  rw [lastSuccess?, hf]
  rfl

/-- Where no category occurs twice, the order of outcomes is of no account. -/
theorem lastSuccess?_perm {os os' : List Outcome} (hp : os'.Perm os)
    (hn : (os.map category).Nodup) (c : Category) : lastSuccess? os' c = lastSuccess? os c := by
  by_cases h : ∃ o ∈ os, o.category = c
  · obtain ⟨o, ho, rfl⟩ := h
    have hn' : (os'.map category).Nodup := (hp.map category).nodup_iff.mpr hn
    rw [lastSuccess?_of_mem hn' (hp.mem_iff.mpr ho), lastSuccess?_of_mem hn ho]
  · have absent : ∀ o ∈ os, o.category ≠ c := fun o ho hc => h ⟨o, ho, hc⟩
    rw [lastSuccess?_eq_none fun o ho => absent o (hp.mem_iff.mp ho), lastSuccess?_eq_none absent]

end Outcome

theorem Collection.fingerprint_perm {k k' : Collection} (hp : k'.outcomes.Perm k.outcomes)
    (hn : (k.outcomes.map Outcome.category).Nodup) (hf : k'.host = k.host) :
    k'.fingerprint = k.fingerprint := by
  apply Fingerprint.ext_get?
  · rw [keys_fingerprint, keys_fingerprint]
  · rw [keys_fingerprint]
    exact Fingerprint.nodup_orderedKeys
  · intro key
    by_cases hkey : key ∈ Key.all
    · rcases Key.mem_all_iff.mp hkey with ⟨c, rfl⟩ | ⟨f, rfl⟩
      · rw [get?_fingerprint_category, get?_fingerprint_category, Outcome.lastSuccess?_perm hp hn]
      · rw [get?_fingerprint_fact, get?_fingerprint_fact, hf]
    · rw [get?_fingerprint, get?_fingerprint, if_neg hkey, if_neg hkey]

/-- The fingerprint of any collection has the nine keys in ascending order, each with the last
success of its category or the host fact, and otherwise empty. The order of outcomes does not matter
where no category occurs twice. Setting anything in an empty fingerprint keeps its keys and leaves
under each of them what was set last. -/
theorem Collection.fingerprint_holds_last (k : Collection) :
    Fingerprint.orderedKeys.Perm Key.all ∧ Fingerprint.orderedKeys.Pairwise (· < ·) ∧
    k.fingerprint.keys = Fingerprint.orderedKeys ∧
    (∀ c : Category,
      k.fingerprint.get? c.key = some ((Outcome.lastSuccess? k.outcomes c).getD "")) ∧
    (∀ f : HostFact, k.fingerprint.get? f.key = some ((k.host.get f).toOption.getD "")) ∧
    (∀ k' : Collection, (k.outcomes.map Outcome.category).Nodup → k'.outcomes.Perm k.outcomes →
      k'.host = k.host → k'.fingerprint = k.fingerprint) ∧
    ∀ sets : List (String × String),
      (Fingerprint.empty.setAll sets).keys = Fingerprint.orderedKeys ∧
      ∀ key, (Fingerprint.empty.setAll sets).get? key =
        if key ∈ Key.all then some ((Fingerprint.lastSet? sets key).getD "") else none := by
  refine ⟨Fingerprint.perm_orderedKeys, Fingerprint.orderedKeys_ascending, k.keys_fingerprint,
    k.get?_fingerprint_category, k.get?_fingerprint_fact, ?_, ?_⟩
  · intro k' hn hp hf
    exact fingerprint_perm hp hn hf
  · intro sets
    refine ⟨?_, Fingerprint.get?_setAll_empty sets⟩
    rw [Fingerprint.keys_setAll, Fingerprint.keys_empty]

/-- A collection of two categories, and the same one the other way round. -/
theorem Collection.reversed_fingerprint :
    let k : Collection := ⟨.structuredQuery,
      [⟨.uuid, .ok "u"⟩, ⟨.bios, .error ⟨.bios, .structuredQuery, .noRecords "Win32_BIOS"⟩⟩],
      ⟨.ok "host1", .error (.hostIdentity "none"), .ok ""⟩⟩
    let k' : Collection := ⟨.structuredQuery, k.outcomes.reverse, k.host⟩
    (k.outcomes.map Outcome.category).Nodup ∧ k'.outcomes.Perm k.outcomes ∧ k'.host = k.host ∧
      k'.fingerprint = k.fingerprint := by
  intro k k'
  have hn : (k.outcomes.map Outcome.category).Nodup := by decide
  have hp : k'.outcomes.Perm k.outcomes := List.reverse_perm k.outcomes
  exact ⟨hn, hp, rfl, k.fingerprint_holds_last.2.2.2.2.2.1 k' hn hp rfl⟩

end HardwareFingerprint
