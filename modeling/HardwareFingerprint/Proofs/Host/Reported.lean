import HardwareFingerprint.Proofs.Host.NormalForm
import HardwareFingerprint.Proofs.Result
import HardwareFingerprint.Proofs.Run.Failures
import Mathlib.Data.List.Perm.Basic

/-!
# Host facts of a system's report

Main statement: the three facts that are worked out from what a system reports are given exactly
under the conditions of the chain of lookups behind them. The hardware address is that of the first
interface that carries the primary address. What comes after that interface, and the files of other
interfaces, change neither a fact nor the reason why there is none. No fact is given as an empty
text, so that a run which asks the system has an empty key exactly where it lists a failure.
-/
namespace HardwareFingerprint

set_option autoImplicit false

/-! ### Paths below a directory -/

/-- A name that can be a step of a path: it is not empty, has no slash, and is neither the directory
itself nor the one above it. -/
structure Path.IsName (s : String) : Prop where
  nonempty : s ≠ ""
  whole : '/' ∉ s.toList
  notHere : s ≠ "."
  notAbove : s ≠ ".."

namespace Path

variable {s t : String}

theorem IsName.not_isAbsolute (h : IsName s) : isAbsolute s = false := by
  apply Bool.eq_false_iff.mpr
  intro habsolute
  exact h.whole (List.mem_of_mem_head? (beq_iff_eq.mp habsolute))

/-- What stands before the name of something in a directory. -/
def opened (base : String) : String :=
  if base.isEmpty || base.toList.getLast? == some '/' then base else base ++ "/"

theorem join_of_not_isAbsolute (base : String) (h : isAbsolute s = false) :
    join base s = opened base ++ s := by
  rw [join, if_neg (by simp [h]), opened]
  split <;> rfl

/-- A directory that is named last in a path is closed with a slash before the next step. -/
theorem opened_append (base : String) (h : IsName s) : opened (base ++ s) = base ++ s ++ "/" := by
  have hne : s.toList ≠ [] := mt String.toList_eq_nil_iff.mp h.nonempty
  have hlast : (base ++ s).toList.getLast? ≠ some '/' := by
    rw [String.toList_append, List.getLast?_append_of_ne_nil _ hne]
    exact fun hmem => h.whole (List.mem_of_getLast? hmem)
  have hsome : base ++ s ≠ "" := fun hempty => h.nonempty (String.append_eq_empty_iff.mp hempty).2
  rw [opened, if_neg]
  rw [Bool.or_eq_true, String.isEmpty_iff, beq_iff_eq]
  exact not_or.mpr ⟨hsome, hlast⟩

theorem below_pair (base : String) (hs : IsName s) (ht : IsName t) :
    below base [s, t] = opened base ++ s ++ "/" ++ t := by
  rw [below, List.foldl_cons, List.foldl_cons, List.foldl_nil,
    join_of_not_isAbsolute base hs.not_isAbsolute, join_of_not_isAbsolute _ ht.not_isAbsolute,
    opened_append _ hs]

end Path

/-! ### Blank texts -/

theorem Text.isEmpty_trim (s : String) : (Text.trim s).isEmpty = Text.isAllBlank s := by
  rw [Bool.eq_iff_iff, String.isEmpty_iff, Text.isAllBlank, List.all_eq_true,
    ← String.toList_eq_nil_iff, Text.toList_trim]
  constructor
  · intro h c hc
    apply Classical.byContradiction
    intro hvisible
    have hkept := Text.mem_trimChars hc (Bool.eq_false_iff.mpr hvisible)
    rw [h] at hkept
    cases hkept
  · exact Text.trimChars_of_all_blank

/-! ### The report -/

namespace SystemReport

variable {r : SystemReport} {a : Address} {name : String}

/-- The interfaces have names that can stand in paths. -/
def WellNamed (r : SystemReport) : Prop :=
  ∀ interfaces, r.interfaces = .ok interfaces → ∀ i ∈ interfaces, Path.IsName i.1

/-- The interface of this name is the first that carries the address. -/
def FirstCarrier (r : SystemReport) (a : Address) (name : String) : Prop :=
  ∃ before after, r.interfaces = .ok (before ++ (name, a) :: after) ∧ ∀ i ∈ before, i.2 ≠ a

/-- The interface of this name is the first that carries the primary address. -/
def Primary (r : SystemReport) (name : String) : Prop :=
  ∃ a, r.address = .ok a ∧ r.FirstCarrier a name

/-- The interface whose hardware address is asked for. -/
def primaryInterface (r : SystemReport) : Except Failure String :=
  r.primaryAddress >>= r.interfaceOf

/-- The facts that the report gives. -/
def facts (r : SystemReport) : HostFacts where
  hostname := r.hostName
  primaryIp := r.primaryAddress.map Address.text
  macAddress := r.primaryInterface >>= r.hardwareAddress

/-- The facts are given exactly under the conditions of the lookups behind them. -/
structure Determines (r : SystemReport) : Prop where
  /-- Whoever asks the system has these facts, whatever else is going on. -/
  gathered : ∀ {σ : Type} (s : Surroundings σ) (j : Journal σ),
    (HostFacts.gather (.system r) s j).1 = r.facts
  /-- The host has a name if the report of it is a text that is not blank. -/
  hostname : ∀ name, r.facts.hostname = .ok name ↔
    ∃ raw, r.hostname = .ok (Bytes.ofText raw) ∧ Text.isAllBlank raw = false ∧ name = Text.trim raw
  primaryIp : ∀ ip, r.facts.primaryIp = .ok ip ↔ ∃ a, r.address = .ok a ∧ ip = a.text
  /-- The file of the first interface that carries the primary address has the text of a hardware
  address, with or without blanks around it. -/
  macAddress : ∀ m, r.facts.macAddress = .ok m ↔
    ∃ name raw, r.Primary name ∧ r.files (r.addressFile name) = .ok (Bytes.ofText raw) ∧
      Mac.normalize (Text.trim raw) = .ok m
  /-- What comes after an interface that carries the primary address does not matter. -/
  later : ∀ a before name after after', r.address = .ok a →
    r.interfaces = .ok (before ++ (name, a) :: after) →
    { r with interfaces := .ok (before ++ (name, a) :: after') }.facts = r.facts
  /-- The files of other interfaces do not matter. -/
  others : ∀ files : Files,
    (∀ path, (∀ other, Path.IsName other → ¬ r.Primary other → path ≠ r.addressFile other) →
      files path = r.files path) →
    { r with files := files }.facts = r.facts
  given : ∀ f : HostFact, r.facts.get f ≠ .ok ""
  /-- A run that asks the system and passes its gate lists the empty keys and no others. -/
  listed : ∀ {σ : Type} (engine : Engine) (s : Surroundings σ) (j : Journal σ) (k : Collection),
    engine.host = .system r → (engine.collect s j).1 = .ok k →
    k.host = r.facts ∧ k.fingerprint.missing.Perm k.failedKeys

theorem gather_eq_facts {σ : Type} (r : SystemReport) (s : Surroundings σ) (j : Journal σ) :
    (HostFacts.gather (.system r) s j).1 = r.facts := by
  obtain ⟨xs, _, _, hgathered⟩ := HostFacts.gather_does s (.system r) j
  generalize (HostFacts.gather (.system r) s j).1 = facts at hgathered
  cases hgathered
  rfl

/-! ### Each lookup -/

theorem hostName_eq_ok_iff : r.hostName = .ok name ↔
    ∃ raw, r.hostname = .ok (Bytes.ofText raw) ∧ Text.isAllBlank raw = false ∧
      name = Text.trim raw := by
  rw [hostName]
  constructor
  · intro h
    split at h
    · cases h
    · next raw hraw =>
      split at h
      · cases h
      · next s hs =>
        rw [Text.isEmpty_trim] at h
        split at h
        · cases h
        · next hblank =>
          obtain rfl := Except.ok.inj h
          rw [Bytes.eq_ofText_of_text? hs] at hraw
          exact ⟨s, hraw, Bool.eq_false_iff.mpr hblank, rfl⟩
  · rintro ⟨raw, hraw, hblank, rfl⟩
    simp only [hraw, Bytes.text?_ofText, Text.isEmpty_trim, hblank, Bool.false_eq_true, if_false]

theorem primaryAddress_eq_ok_iff : r.primaryAddress = .ok a ↔ r.address = .ok a :=
  Except.mapError_eq_ok_iff

theorem primaryIp_eq_ok_iff {ip : String} :
    r.primaryAddress.map Address.text = .ok ip ↔ ∃ a, r.address = .ok a ∧ ip = a.text := by
  rw [Except.map_eq_ok_iff]
  simp only [primaryAddress_eq_ok_iff, eq_comm (a := ip)]

theorem interfaceOf_eq_ok_iff : r.interfaceOf a = .ok name ↔ r.FirstCarrier a name := by
  rw [interfaceOf, FirstCarrier]
  cases r.interfaces with
  | error e =>
    constructor
    · intro h
      cases h
    · rintro ⟨_, _, h, _⟩
      cases h
  | ok interfaces =>
    have hfind : (∃ i, interfaces.find? (fun i => i.2 = a) = some i ∧ i.1 = name) ↔
        ∃ before after, Except.ok (ε := String) interfaces = .ok (before ++ (name, a) :: after) ∧
          ∀ i ∈ before, i.2 ≠ a := by
      simp only [List.find?_eq_some_iff_append, decide_eq_true_eq, Except.ok.injEq]
      constructor
      · rintro ⟨⟨_, _⟩, ⟨rfl, before, after, rfl, hbefore⟩, rfl⟩
        exact ⟨before, after, rfl, by simpa using hbefore⟩
      · rintro ⟨before, after, rfl, hbefore⟩
        exact ⟨(name, a), ⟨rfl, before, after, rfl, by simpa using hbefore⟩, rfl⟩
    rw [← hfind]
    dsimp only
    split
    · next found _ h => simp [h]
    · next h => simp [h]

theorem hardwareAddress_eq (r : SystemReport) (name : String) :
    r.hardwareAddress name =
      ((r.files.readText (r.addressFile name)).mapError fun p =>
        .fileRead (r.addressFile name) p.message) >>= fun raw => Mac.normalize (Text.trim raw) := by
  rw [hardwareAddress]
  generalize r.files.readText (r.addressFile name) = text
  cases text with
  | error p => rfl
  | ok raw => simp only [Except.mapError, bind, Except.bind]

theorem hardwareAddress_eq_ok_iff {m : String} : r.hardwareAddress name = .ok m ↔
    ∃ raw, r.files (r.addressFile name) = .ok (Bytes.ofText raw) ∧
      Mac.normalize (Text.trim raw) = .ok m := by
  rw [hardwareAddress_eq, Except.bind_eq_ok_iff]
  simp only [Except.mapError_eq_ok_iff, Files.readText_eq_ok_iff]

theorem primaryInterface_eq_ok_iff : r.primaryInterface = .ok name ↔ r.Primary name := by
  rw [primaryInterface, Except.bind_eq_ok_iff, Primary]
  simp only [primaryAddress_eq_ok_iff, interfaceOf_eq_ok_iff]

theorem macAddress_eq_ok_iff {m : String} : r.facts.macAddress = .ok m ↔
    ∃ name raw, r.Primary name ∧ r.files (r.addressFile name) = .ok (Bytes.ofText raw) ∧
      Mac.normalize (Text.trim raw) = .ok m := by
  rw [facts, Except.bind_eq_ok_iff]
  simp only [primaryInterface_eq_ok_iff, hardwareAddress_eq_ok_iff, exists_and_left]

/-! ### What does not matter -/

/-- Which interface comes first is settled by those up to one that carries the address. -/
theorem interfaceOf_later {before after : List (String × Address)}
    (h : r.interfaces = .ok (before ++ (name, a) :: after)) (after' : List (String × Address)) :
    { r with interfaces := .ok (before ++ (name, a) :: after') }.interfaceOf a =
      r.interfaceOf a := by
  have hfind : ∀ rest : List (String × Address),
      (before ++ (name, a) :: rest).find? (fun i => i.2 = a) =
        (before.find? fun i => i.2 = a).or (some (name, a)) := by
    intro rest
    rw [List.find?_append, List.find?_cons_of_pos (by simp)]
  simp only [interfaceOf, h, hfind]

theorem facts_later {before after : List (String × Address)} (ha : r.address = .ok a)
    (h : r.interfaces = .ok (before ++ (name, a) :: after)) (after' : List (String × Address)) :
    { r with interfaces := .ok (before ++ (name, a) :: after') }.facts = r.facts := by
  have hsame : { r with interfaces := .ok (before ++ (name, a) :: after') }.primaryInterface =
      r.primaryInterface := by
    have hprimary : r.primaryAddress = .ok a := primaryAddress_eq_ok_iff.mpr ha
    change r.primaryAddress >>= interfaceOf _ = r.primaryAddress >>= r.interfaceOf
    rw [hprimary]
    exact interfaceOf_later h after'
  change HostFacts.mk r.hostName _ (primaryInterface _ >>= r.hardwareAddress) = _
  rw [hsame]
  rfl

/-- Different interfaces have their hardware addresses in different files. -/
theorem addressFile_injective (r : SystemReport) {first second : String}
    (hfirst : Path.IsName first) (hsecond : Path.IsName second)
    (h : r.addressFile first = r.addressFile second) : first = second := by
  have haddress : Path.IsName "address" := by constructor <;> decide
  rw [addressFile, addressFile, Path.below_pair _ hfirst haddress,
    Path.below_pair _ hsecond haddress] at h
  have h := congrArg String.toList h
  simp only [String.toList_append, List.append_assoc, List.append_cancel_left_eq,
    List.append_cancel_right_eq] at h
  exact String.toList_inj.mp h

theorem Primary.isName (h : r.Primary name) (hnamed : r.WellNamed) : Path.IsName name := by
  obtain ⟨a, _, before, after, hinterfaces, _⟩ := h
  exact hnamed _ hinterfaces (name, a) (by simp)

theorem hardwareAddress_files {files : Files}
    (h : files (r.addressFile name) = r.files (r.addressFile name)) :
    { r with files := files }.hardwareAddress name = r.hardwareAddress name := by
  have htext : files.readText (r.addressFile name) = r.files.readText (r.addressFile name) := by
    rw [Files.readText, Files.readText, h]
  simp only [addressFile] at htext
  simp only [hardwareAddress, addressFile, htext]

theorem facts_others (hnamed : r.WellNamed) {files : Files}
    (h : ∀ path, (∀ other, Path.IsName other → ¬ r.Primary other → path ≠ r.addressFile other) →
      files path = r.files path) :
    { r with files := files }.facts = r.facts := by
  have hsame : r.primaryInterface >>= hardwareAddress { r with files := files } =
      r.primaryInterface >>= r.hardwareAddress := by
    cases hprimary : r.primaryInterface with
    | error e => rfl
    | ok name =>
      have hname := primaryInterface_eq_ok_iff.mp hprimary
      have hfile : files (r.addressFile name) = r.files (r.addressFile name) := by
        apply h
        intro other hother hnot hpath
        obtain rfl := r.addressFile_injective (hname.isName hnamed) hother hpath
        exact hnot hname
      exact hardwareAddress_files hfile
  change HostFacts.mk r.hostName _ (r.primaryInterface >>= hardwareAddress _) = _
  rw [hsame]
  rfl

/-! ### Runs that ask the system -/

theorem facts_ne_empty (r : SystemReport) (f : HostFact) : r.facts.get f ≠ .ok "" := by
  intro h
  cases f with
  | hostname =>
    obtain ⟨raw, _, hblank, hempty⟩ := hostName_eq_ok_iff.mp h
    rw [← Text.isEmpty_trim, ← hempty] at hblank
    cases hblank
  | primaryIp =>
    obtain ⟨a, _, hempty⟩ := primaryIp_eq_ok_iff.mp h
    exact a.text_ne_empty hempty.symm
  | macAddress =>
    obtain ⟨_, _, _, _, hm⟩ := macAddress_eq_ok_iff.mp h
    obtain ⟨haddress, hempty⟩ := Mac.normalize_eq_ok.mp hm
    have hlength := haddress.normalForm.length
    rw [← hempty] at hlength
    cases hlength

end SystemReport

/-- Where no fact was given as an empty text, the empty keys are those of the failures. -/
theorem Collection.Complete.missing_perm {k : Collection} (h : k.Complete)
    (hgiven : ∀ f : HostFact, k.host.get f ≠ .ok "") :
    k.fingerprint.missing.Perm k.failedKeys := by
  have hkeys : k.fingerprint.missing.Sublist Fingerprint.orderedKeys := by
    rw [← k.keys_fingerprint]
    exact List.filter_sublist.map Prod.fst
  rw [List.perm_ext_iff_of_nodup (Fingerprint.nodup_orderedKeys.sublist hkeys) h.consistent.once]
  intro key
  by_cases hkey : key ∈ Key.all
  · rcases Key.mem_all_iff.mp hkey with ⟨c, rfl⟩ | ⟨f, rfl⟩
    · exact h.consistent.categories c
    · rw [h.consistent.facts f, or_iff_left (hgiven f)]
  · constructor
    · intro hmissing
      exact absurd (Fingerprint.perm_orderedKeys.mem_iff.mp (hkeys.subset hmissing)) hkey
    · intro hfailed
      obtain ⟨part, _, rfl⟩ := Collection.mem_failedKeys_iff.mp hfailed
      cases part with
      | category c => exact absurd (Key.mem_all_iff.mpr (.inl ⟨c, rfl⟩)) hkey
      | fact f => exact absurd (Key.mem_all_iff.mpr (.inr ⟨f, rfl⟩)) hkey

theorem Engine.host_eq_facts {σ : Type} {engine : Engine} {r : SystemReport} {s : Surroundings σ}
    {j : Journal σ} {k : Collection} (hhost : engine.host = .system r)
    (h : (engine.collect s j).1 = .ok k) : k.host = r.facts := by
  obtain ⟨xs, hfilled⟩ := filled_of_collect h
  obtain ⟨_, _, hgathered⟩ := hfilled
  rw [hhost] at hgathered
  cases hgathered
  rfl

/-- The facts of a system's report are given exactly under the conditions of the lookups behind
them, and a run that asks the system has an empty key exactly where it lists a failure. -/
theorem SystemReport.facts_determined (r : SystemReport) (h : r.WellNamed) : r.Determines where
  gathered := r.gather_eq_facts
  hostname := fun _ => hostName_eq_ok_iff
  primaryIp := fun _ => primaryIp_eq_ok_iff
  macAddress := fun _ => macAddress_eq_ok_iff
  later := by
    intro a before name after after' ha hinterfaces
    exact facts_later ha hinterfaces after'
  others := fun _ => facts_others h
  given := r.facts_ne_empty
  listed := by
    intro σ engine s j k hhost hk
    have hfacts := Engine.host_eq_facts hhost hk
    obtain ⟨xs, hfilled⟩ := Engine.filled_of_collect hk
    exact ⟨hfacts, hfilled.complete.missing_perm fun f => hfacts ▸ r.facts_ne_empty f⟩

/-- Two interfaces carry the primary address, the second of them with another hardware address. -/
def SystemReport.shared : SystemReport where
  hostname := .ok (Bytes.ofText " node-1\n")
  address := .ok (.ofOctets [10, 0, 0, 5])
  interfaces := .ok [("lo", .ofOctets [127, 0, 0, 1]), ("eth0", .ofOctets [10, 0, 0, 5]),
    ("eth1", .ofOctets [10, 0, 0, 5])]
  files := fun path =>
    if path = "/sys/class/net/eth0/address" then .ok (Bytes.ofText "0A-1B-2C-3D-4E-5F\n")
    else if path = "/sys/class/net/eth1/address" then .ok (Bytes.ofText "aa:bb:cc:dd:ee:ff\n")
    else .error .absent
  networkRoot := SystemReport.defaultNetworkRoot

theorem SystemReport.shared_determined :
    shared.WellNamed ∧ shared.Determines ∧
      shared.facts.hostname = .ok "node-1" ∧ shared.facts.primaryIp = .ok "10.0.0.5" ∧
      shared.facts.macAddress = .ok "0a:1b:2c:3d:4e:5f" := by
  have hnamed : shared.WellNamed := by
    intro interfaces h i hi
    obtain rfl := Except.ok.inj h
    simp only [List.mem_cons, List.not_mem_nil, or_false] at hi
    rcases hi with rfl | rfl | rfl <;> constructor <;> decide
  exact ⟨hnamed, facts_determined shared hnamed, by decide +kernel, by decide +kernel,
    by decide +kernel⟩

end HardwareFingerprint
