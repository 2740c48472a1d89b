import HardwareFingerprint.Engine
import HardwareFingerprint.Proofs.Session.Transcript

/-!
# What the parts of a run ask, and what they make of the answers

After the gate a run chooses a strategy, collects the categories and gathers the host facts. Each
of these parts has a fixed list of calls, whatever it is answered, and its result is a function of
the answers alone. The lemmas say so for every outside and every log level, so that the order of
calls and the contents of a collection can be read off one statement.
-/
namespace HardwareFingerprint

set_option autoImplicit false

/-- The one call by which the platform's version is looked up. -/
def PlatformSource.lookup : PlatformSource → Call
  | asked => .platformDetails
  | record => .queryFirst .operatingSystem

/-- The operating system that the answer to a query describes. -/
def PlatformSource.systemOf : Except Failure Record → Except Failure OperatingSystem
  | .ok ⟨.operatingSystem, values⟩ => .ok (RecordOf.operatingSystem values)
  | .ok other => .error (.unexpectedRecord RecordClass.operatingSystem.name other.cls.name)
  | .error e => .error (.versionDetection e.message)

/-- The details that the answer to the lookup gives. -/
def PlatformSource.detailsOf :
    (p : PlatformSource) → p.lookup.Reply → Except Failure PlatformDetails
  | asked, reply => reply
  | record, reply => (systemOf reply).map PlatformDetails.ofSystem

/-- The version that the answer to the lookup gives. -/
def PlatformSource.versionOf (p : PlatformSource) (reply : p.lookup.Reply) :
    Except Failure String :=
  (p.detailsOf reply).map PlatformDetails.version

/-- The strategy for a version that may be unknown. -/
def Selector.choice (s : Selector) (version : Except Failure String) : Strategy :=
  match version >>= s.forVersion with
  | .ok strategy => strategy
  | .error _ => .commandOutput

/-- A strategy is forced, or found by a single lookup. -/
inductive Selector.Chose (s : Selector) (p : PlatformSource) : List Exchange → Strategy → Prop
  | forced {strategy : Strategy} : s.forced = some strategy → Chose s p [] strategy
  | lookedUp (reply : p.lookup.Reply) : s.forced = none →
      Chose s p [⟨p.lookup, reply⟩] (s.choice (p.versionOf reply))

/-- The one call that a source makes for a category. -/
def Source.request : Source → Category → Call
  | ⟨.commandOutput, program⟩, c => .run program c.arguments
  | ⟨.structuredQuery, _⟩, c => .queryFirst c.recordClass

/-- A record, if it is of the class that a category asks for. -/
def Category.accept (c : Category) (r : Record) : Except Failure Record :=
  if r.cls = c.recordClass then .ok r
  else .error (.unexpectedRecord c.recordClass.name r.cls.name)

/-- The digest of the answer to a source's call, or its failure. -/
def Source.digestOf : (s : Source) → (c : Category) → (s.request c).Reply → Except Failure String
  | ⟨.commandOutput, _⟩, _, reply => reply.map Digest.ofBytes
  | ⟨.structuredQuery, _⟩, c, reply => (reply >>= c.accept).map Canonical.digest

/-- What a source has for a category once its call is answered. -/
def Source.verdict (s : Source) (c : Category) (reply : (s.request c).Reply) :
    Except CategoryError String :=
  (s.digestOf c reply).mapError fun e => ⟨c, s.strategy, e⟩

/-- One exchange and one outcome for each category, in order. -/
inductive Source.Collected (s : Source) : List Category → List Exchange → List Outcome → Prop
  | nil : Collected s [] [] []
  | cons {c : Category} {cs : List Category} {xs : List Exchange} {os : List Outcome}
      (reply : (s.request c).Reply) : Collected s cs xs os →
      Collected s (c :: cs) (⟨s.request c, reply⟩ :: xs) (⟨c, s.verdict c reply⟩ :: os)

/-- The three facts are asked for in order, or worked out from the system's report. -/
inductive HostSource.Gathered : HostSource → List Exchange → HostFacts → Prop
  | asked (hostname primaryIp macAddress : Except Failure String) :
      Gathered .asked
        [⟨.hostname, hostname⟩, ⟨.primaryIp, primaryIp⟩, ⟨.macAddress, macAddress⟩]
        ⟨hostname, primaryIp, macAddress⟩
  | system (r : SystemReport) :
      Gathered (.system r) []
        ⟨r.hostName, r.primaryAddress.map Address.text,
          r.primaryAddress >>= r.interfaceOf >>= r.hardwareAddress⟩

variable {σ : Type} (s : Surroundings σ)

theorem PlatformSource.system_does :
    (system (σ := σ)).Does s fun xs _ r =>
      ∃ reply, xs = [⟨.queryFirst .operatingSystem, reply⟩] ∧ r = systemOf reply := by
  refine .ask_bind fun reply => ?_
  split
  · exact .pure ⟨_, rfl, rfl⟩
  · next other h => exact .pure ⟨_, rfl, (systemOf.eq_2 other h).symm⟩
  · exact .tell_bind (.pure ⟨_, rfl, rfl⟩)

theorem PlatformSource.details_does (p : PlatformSource) :
    p.details.Does s fun xs _ r => ∃ reply, xs = [⟨p.lookup, reply⟩] ∧ r = p.detailsOf reply := by
  cases p with
  | asked =>
    intro j
    exact ⟨_, _, Session.ask_leads .platformDetails s j, _, rfl, rfl⟩
  | record =>
    refine (system_does s).bind ?_
    rintro xs es r ⟨reply, rfl, rfl⟩
    have hd : record.detailsOf reply = (systemOf reply).map PlatformDetails.ofSystem := rfl
    split
    · next e h => exact .pure ⟨reply, rfl, by rw [hd, h]; rfl⟩
    · next os h => exact .tell_bind (.pure ⟨reply, rfl, by rw [hd, h]; rfl⟩)

theorem PlatformSource.version_does (p : PlatformSource) :
    p.version.Does s fun xs _ r => ∃ reply, xs = [⟨p.lookup, reply⟩] ∧ r = p.versionOf reply := by
  refine (p.details_does s).bind ?_
  rintro xs es r ⟨reply, rfl, rfl⟩
  exact .pure ⟨reply, rfl, rfl⟩

theorem Selector.select_does (sel : Selector) (p : PlatformSource) :
    (sel.select p).Does s fun xs _ strategy => sel.Chose p xs strategy := by
  rw [Selector.select]
  split
  · next strategy h => exact .tell_bind (.pure (.forced h))
  · next h =>
    refine (p.version_does s).bind ?_
    rintro xs es version ⟨reply, rfl, rfl⟩
    have chosen := Chose.lookedUp (p := p) reply h
    rw [choice] at chosen
    split
    · next e he =>
      rw [he] at chosen
      exact .tell_bind (.pure chosen)
    · next v hv =>
      have hb : (p.versionOf reply >>= sel.forVersion) = sel.forVersion v := by rw [hv]; rfl
      rw [hb] at chosen
      split
      · next strategy hs =>
        rw [hs] at chosen
        exact .tell_bind (.pure chosen)
      · next e he =>
        rw [he] at chosen
        exact .tell_bind (.pure chosen)

theorem Source.output_does (src : Source) (c : Category) :
    (src.output c).Does s fun xs _ r => xs = [⟨.run src.program c.arguments, r⟩] := by
  refine .tell_bind (.ask_bind fun reply => ?_)
  split
  · exact .pure rfl
  · exact .tell_bind (.pure rfl)

theorem Source.record_does (c : Category) :
    (record (σ := σ) c).Does s fun xs _ r =>
      ∃ reply, xs = [⟨.queryFirst c.recordClass, reply⟩] ∧ r = reply >>= c.accept := by
  refine .ask_bind fun reply => ?_
  split
  · next e => exact .tell_bind (.pure ⟨_, rfl, rfl⟩)
  · next r =>
    have ha : (Except.ok r >>= c.accept) = c.accept r := rfl
    rw [Category.accept] at ha
    split
    · next h => exact .pure ⟨_, rfl, by rw [ha, if_pos h]⟩
    · next h => exact .pure ⟨_, rfl, by rw [ha, if_neg h]⟩

theorem Source.outputDigest_does (src : Source) (c : Category) :
    (src.outputDigest c).Does s fun xs _ r =>
      ∃ reply, xs = [⟨.run src.program c.arguments, reply⟩] ∧ r = reply.map Digest.ofBytes := by
  refine (src.output_does s c).bind ?_
  rintro xs es reply rfl
  cases reply with
  | error e => exact .pure ⟨_, rfl, rfl⟩
  | ok b =>
    by_cases h : c = .uuid
    · simp only [if_pos h]
      exact .tell_bind (.pure ⟨_, rfl, rfl⟩)
    · simp only [if_neg h]
      exact .pure ⟨_, rfl, rfl⟩

theorem Source.recordDigest_does (c : Category) :
    (recordDigest (σ := σ) c).Does s fun xs _ r =>
      ∃ reply, xs = [⟨.queryFirst c.recordClass, reply⟩] ∧
        r = (reply >>= c.accept).map Canonical.digest := by
  refine (record_does s c).bind ?_
  rintro xs es r ⟨reply, rfl, hr⟩
  have answered : ∃ reply', [⟨.queryFirst c.recordClass, reply⟩] ++ [] =
      [(⟨.queryFirst c.recordClass, reply'⟩ : Exchange)] ∧
      r.map Canonical.digest = (reply' >>= c.accept).map Canonical.digest :=
    ⟨reply, rfl, by rw [hr]⟩
  cases r with
  | error e => exact .pure answered
  | ok r =>
    by_cases h : c = .uuid
    · simp only [if_pos h]
      split
      · exact .tell_bind (.pure answered)
      · exact .pure answered
    · simp only [if_neg h]
      exact .pure answered

theorem Source.collect_does (src : Source) (c : Category) :
    (src.collect c).Does s fun xs _ r =>
      ∃ reply, xs = [⟨src.request c, reply⟩] ∧ r = src.verdict c reply := by
  obtain ⟨strategy, program⟩ := src
  cases strategy with
  | commandOutput =>
    refine ((outputDigest_does s ⟨.commandOutput, program⟩ c)).bind ?_
    rintro xs es r ⟨reply, rfl, rfl⟩
    exact .pure ⟨reply, rfl, rfl⟩
  | structuredQuery =>
    refine (recordDigest_does s c).bind ?_
    rintro xs es r ⟨reply, rfl, rfl⟩
    exact .pure ⟨reply, rfl, rfl⟩

theorem Engine.collectCategory_does (src : Source) (c : Category) :
    (collectCategory src c).Does s fun xs _ o =>
      ∃ reply, xs = [⟨src.request c, reply⟩] ∧ o = ⟨c, src.verdict c reply⟩ := by
  refine (src.collect_does s c).bind ?_
  rintro xs es r ⟨reply, rfl, rfl⟩
  split
  · exact .pure ⟨reply, rfl, rfl⟩
  · exact .tell_bind (.pure ⟨reply, rfl, rfl⟩)

theorem Engine.collectCategories_does (src : Source) (cs : List Category) :
    (collectCategories src cs).Does s fun xs _ os => src.Collected cs xs os := by
  induction cs with
  | nil => exact .pure .nil
  | cons c cs ih =>
    refine (collectCategory_does s src c).bind ?_
    rintro xs es o ⟨reply, rfl, rfl⟩
    exact ih.bind fun xs es os h => .pure (by simpa using .cons reply h)

theorem HostSource.macAddress_system_does (r : SystemReport) :
    (macAddress (.system r)).Does s fun xs _ result =>
      xs = [] ∧ result = r.primaryAddress >>= r.interfaceOf >>= r.hardwareAddress := by
  rw [macAddress]
  split
  · next e h => exact .pure ⟨rfl, by rw [h]; rfl⟩
  · next interface h => exact .tell_bind (.pure ⟨rfl, by rw [h]; rfl⟩)

theorem HostFacts.gather_does (h : HostSource) :
    (gather h).Does s fun xs _ facts => h.Gathered xs facts := by
  cases h with
  | asked =>
    exact .ask_bind fun hostname => .ask_bind fun primaryIp => .ask_bind fun macAddress =>
      .pure (.asked hostname primaryIp macAddress)
  | system r =>
    intro j
    obtain ⟨xs, es, hl, rfl, hr⟩ := HostSource.macAddress_system_does s r j
    refine ⟨[], es, hl, ?_⟩
    have gathered := HostSource.Gathered.system r
    rw [← hr] at gathered
    exact gathered

theorem Engine.tellFacts_does (facts : List (String × Except Failure String)) :
    (tellFacts facts).Does s fun xs _ _ => xs = [] := by
  induction facts with
  | nil => exact .pure rfl
  | cons fact rest ih =>
    obtain ⟨key, result⟩ := fact
    cases result with
    | ok value => exact ih
    | error e => exact .tell_bind ih

end HardwareFingerprint
