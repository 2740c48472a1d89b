import HardwareFingerprint.Proofs.Result
import HardwareFingerprint.Proofs.Run.Parts

/-!
# What the log tells of a run

A run warns of each part that fails while it goes on, and sums up when it is done; a run that is
stopped at its gate warns of that and of nothing else. So the log and the result tell the same: the
warnings are those of the failures in the collection, in their order, and the summary counts them.
What the sources, the choice of a strategy and the host say in between does not look like either.
-/
namespace HardwareFingerprint

set_option autoImplicit false

/-- What the log shows of an event. -/
structure LogLine where
  level : Level
  message : String
  fields : List (String × String)
  deriving DecidableEq

def Event.line (e : Event) : LogLine :=
  ⟨e.level, e.message, e.fields⟩

namespace LogLine

/-- The gate is closed, for a reason. -/
def gateClosed (e : Failure) : LogLine :=
  ⟨.warn, "Instrumentation service cannot be queried for hardware hash", [("error", e.message)]⟩

/-- A category has no digest under a strategy, for a reason. -/
def categoryUnavailable (c : Category) (strategy : Strategy) (cause : Failure) : LogLine :=
  ⟨.warn, "Hardware category unavailable",
    [("category", c.name), ("key", c.key), ("strategy", strategy.name), ("error", cause.message)]⟩

/-- The fact under a key is not known, for a reason. -/
def factUnavailable (key : String) (e : Failure) : LogLine :=
  ⟨.warn, "Host identity fact unavailable", [("key", key), ("error", e.message)]⟩

/-- A run is done, and so many parts of it failed. -/
def collected (strategy : Strategy) (failed : Nat) : LogLine :=
  ⟨.info, "Collected hardware fingerprint",
    [("strategy", strategy.name), ("failed", toString failed)]⟩

/-- The messages of the lines that tell of a part. -/
def partMessages : List String :=
  ["Hardware category unavailable", "Host identity fact unavailable"]

/-- The messages of the lines that tell what became of a run and of its parts. -/
def outcomeMessages : List String :=
  partMessages ++ ["Collected hardware fingerprint",
    "Instrumentation service cannot be queried for hardware hash"]

def tellsPart (l : LogLine) : Bool :=
  partMessages.contains l.message

def tellsOutcome (l : LogLine) : Bool :=
  outcomeMessages.contains l.message

/-- Is the line a warning, or something more severe? -/
def warns (l : LogLine) : Bool :=
  l.level.isRecorded (some .warn)

end LogLine

/-- The warning for an outcome under a strategy, if it is a failure. -/
def Outcome.warning? (strategy : Strategy) (o : Outcome) : Option LogLine :=
  match o.result with
  | .ok _ => none
  | .error e => some (.categoryUnavailable o.category strategy e.cause)

/-- The warning for a host fact under a key, if there is none. -/
def HostFacts.warning? : String × Except Failure String → Option LogLine
  | (_, .ok _) => none
  | (key, .error e) => some (.factUnavailable key e)

namespace Collection

/-- A warning for each category that failed, and then for each host fact. -/
def warnings (k : Collection) : List LogLine :=
  k.outcomes.filterMap (Outcome.warning? k.strategy) ++ k.host.entries.filterMap HostFacts.warning?

def summary (k : Collection) : LogLine :=
  .collected k.strategy k.failures.length

/-- The log of a run, kept up to a level, tells what is in the collection. -/
structure ToldBy (k : Collection) (upTo : Option Level) (log : List LogLine) : Prop where
  /-- There are the warnings in their order, then the summary if it is kept, and no other line that
  looks like one of these or like a closed gate. -/
  account : log.filter LogLine.tellsOutcome =
    k.warnings ++ if Level.info.isRecorded upTo then [k.summary] else []
  /-- Nothing comes after the summary. -/
  last : Level.info.isRecorded upTo = true → log.getLast? = some k.summary
  /-- The parts that are warned of are as many as the failures that the summary counts. -/
  counted : (log.filter LogLine.tellsPart).length = k.failures.length

end Collection

/-- The log of a run that was stopped tells of the failure. -/
structure Failure.ToldBy (e : Failure) (log : List LogLine) : Prop where
  /-- There is one warning, and nothing more severe. -/
  alone : log.filter LogLine.warns = [.gateClosed e]
  /-- No line looks like one about a part, or like a summary. -/
  account : log.filter LogLine.tellsOutcome = [.gateClosed e]

/-! ## Lines that tell nothing of a part -/

/-- The lines of some events that tell what became of a run and of its parts. -/
def Event.account (es : List Event) : List LogLine :=
  (es.map Event.line).filter LogLine.tellsOutcome

/-- An event by which a part goes its way, whatever becomes of it. -/
def Event.Passing (e : Event) : Prop :=
  e.line.tellsOutcome = false

namespace Event

@[simp] theorem account_append (es fs : List Event) :
    account (es ++ fs) = account es ++ account fs := by
  simp [account]

theorem account_of_passing {es : List Event} (h : ∀ e ∈ es, e.Passing) : account es = [] := by
  rw [account, List.filter_eq_nil_iff]
  intro l hl
  obtain ⟨e, he, rfl⟩ := List.mem_map.mp hl
  exact Bool.eq_false_iff.mp (h e he)

theorem account_kept {upTo : Option Level} {e : Event} (h : e.line.tellsOutcome = true) :
    account (e.kept upTo) = if e.level.isRecorded upTo then [e.line] else [] := by
  rw [kept]
  split
  · rw [account, List.map_singleton, List.filter_cons_of_pos h, List.filter_nil]
  · rfl

end Event

/-- An event on the way to the gate. -/
structure Event.Early (e : Event) : Prop where
  debug : e.level = .debug
  passing : e.Passing

variable {σ : Type} (s : Surroundings σ)

namespace Readiness

theorem poll_tellsOnly (p : Policy) (left attempt : Nat) :
    (poll p left attempt).TellsOnly s Event.Early := by
  induction left generalizing attempt with
  | zero => exact .pure
  | succ left ih =>
    refine .ask_bind fun answer => ?_
    split
    · exact .pure
    · exact .tell_bind ⟨rfl, rfl⟩ (.ask_bind fun _ => ih (attempt + 1))
    · exact .tell_bind ⟨rfl, rfl⟩ (.ask_bind fun _ => ih (attempt + 1))

theorem gate_tellsOnly (p : Policy) : (gate p).TellsOnly s Event.Early := by
  refine .ask_bind fun connected => ?_
  split
  · exact .pure
  · refine .ask_bind fun opened => ?_
    split
    · exact .pure
    · refine .bind (poll_tellsOnly s p p.attempts 1) fun result => ?_
      split
      · exact .pure
      · exact .tell_bind ⟨rfl, rfl⟩ .pure

theorem announce_tellsOnly (p : Policy) : (announce p).TellsOnly s Event.Early := by
  refine .isRecorded_bind fun recorded => ?_
  split
  · split
    · exact .pure
    · exact .tell_bind ⟨rfl, rfl⟩ .pure
  · exact .pure

theorem waitForService_tellsOnly (p : Policy) : (waitForService p).TellsOnly s Event.Early := by
  refine .bind (announce_tellsOnly s p) fun announced => ?_
  split
  · exact .pure
  · refine .bind (gate_tellsOnly s p) fun result => ?_
    split
    · exact .pure
    · exact .pure

end Readiness

namespace PlatformSource

theorem system_tellsOnly : (system (σ := σ)).TellsOnly s Event.Passing := by
  refine .ask_bind fun reply => ?_
  split
  · exact .pure
  · exact .pure
  · exact .tell_bind rfl .pure

theorem details_tellsOnly (p : PlatformSource) : p.details.TellsOnly s Event.Passing := by
  cases p with
  | asked => exact .ask .platformDetails
  | record =>
    refine .bind (system_tellsOnly s) fun result => ?_
    split
    · exact .pure
    · exact .tell_bind rfl .pure

end PlatformSource

theorem Selector.select_tellsOnly (sel : Selector) (p : PlatformSource) :
    (sel.select p).TellsOnly s Event.Passing := by
  rw [Selector.select]
  split
  · exact .tell_bind rfl .pure
  · refine .bind (.bind (p.details_tellsOnly s) fun details => .pure) fun version => ?_
    split
    · exact .tell_bind rfl .pure
    · split
      · exact .tell_bind rfl .pure
      · exact .tell_bind rfl .pure

namespace Source

theorem output_tellsOnly (src : Source) (c : Category) :
    (src.output c).TellsOnly s Event.Passing := by
  refine .tell_bind rfl (.ask_bind fun reply => ?_)
  split
  · exact .pure
  · exact .tell_bind rfl .pure

theorem record_tellsOnly (c : Category) : (record (σ := σ) c).TellsOnly s Event.Passing := by
  refine .ask_bind fun reply => ?_
  split
  · exact .tell_bind rfl .pure
  · split
    · exact .pure
    · exact .pure

theorem outputDigest_tellsOnly (src : Source) (c : Category) :
    (src.outputDigest c).TellsOnly s Event.Passing := by
  refine .bind (src.output_tellsOnly s c) fun printed => ?_
  split
  · exact .pure
  · split
    · exact .tell_bind rfl .pure
    · exact .pure

theorem recordDigest_tellsOnly (c : Category) :
    (recordDigest (σ := σ) c).TellsOnly s Event.Passing := by
  refine .bind (record_tellsOnly s c) fun found => ?_
  split
  · exact .pure
  · split
    · split
      · exact .tell_bind rfl .pure
      · exact .pure
    · exact .pure

theorem collect_tellsOnly (src : Source) (c : Category) :
    (src.collect c).TellsOnly s Event.Passing := by
  obtain ⟨strategy, program⟩ := src
  cases strategy with
  | commandOutput => exact .bind (outputDigest_tellsOnly s _ c) fun _ => .pure
  | structuredQuery => exact .bind (recordDigest_tellsOnly s c) fun _ => .pure

end Source

theorem HostSource.macAddress_tellsOnly (h : HostSource) :
    h.macAddress.TellsOnly s Event.Passing := by
  cases h with
  | asked => exact .ask .macAddress
  | system r =>
    rw [macAddress]
    split
    · exact .pure
    · exact .tell_bind rfl .pure

theorem HostFacts.gather_tellsOnly (h : HostSource) : (gather h).TellsOnly s Event.Passing := by
  have hmac := h.macAddress_tellsOnly s
  -- Of a report the name and the primary address are read without a word.
  cases h with
  | asked => exact .ask_bind fun _ => .ask_bind fun _ => .bind hmac fun _ => .pure
  | system r => exact .bind .pure fun _ => .bind .pure fun _ => .bind hmac fun _ => .pure

/-! ## Lines that tell of a part -/

theorem Source.verdict_eq_error {src : Source} {c : Category} {reply : (src.request c).Reply}
    {e : CategoryError} (h : src.verdict c reply = .error e) :
    e.category = c ∧ e.strategy = src.strategy := by
  rw [verdict] at h
  cases hd : src.digestOf c reply with
  | ok digest =>
    rw [hd] at h
    cases h
  | error cause =>
    rw [hd] at h
    obtain rfl := Except.error.inj h
    exact ⟨rfl, rfl⟩

namespace Engine

variable {s}

theorem collectCategory_account (hw : Level.warn.isRecorded s.upTo = true) (src : Source)
    (c : Category) :
    (collectCategory src c).Does s fun _ es o =>
      Event.account es = (o.warning? src.strategy).toList := by
  refine ((src.collect_does s c).and_tellsOnly (src.collect_tellsOnly s c)).bind ?_
  rintro xs es result ⟨⟨reply, _, hresult⟩, hpassing⟩
  have hpassed : Event.account es = [] := Event.account_of_passing hpassing
  split
  · exact .pure (by simp [hpassed, Outcome.warning?])
  · next e =>
    obtain ⟨hcategory, hstrategy⟩ := Source.verdict_eq_error hresult.symm
    have hkept : Event.account ((Event.categoryUnavailable e).kept s.upTo) =
        [.categoryUnavailable c src.strategy e.cause] := by
      rw [Event.account_kept rfl, ← hcategory, ← hstrategy]
      exact if_pos hw
    exact .tell_bind (.pure (by simp [hpassed, hkept, Outcome.warning?]))

theorem collectCategories_account (hw : Level.warn.isRecorded s.upTo = true) (src : Source)
    (cs : List Category) :
    (collectCategories src cs).Does s fun _ es os =>
      Event.account es = os.filterMap (Outcome.warning? src.strategy) := by
  induction cs with
  | nil => exact .pure rfl
  | cons c cs ih =>
    refine (collectCategory_account hw src c).bind fun _ es o ho => ?_
    refine ih.bind fun _ fs os hos => .pure ?_
    rw [List.append_nil, Event.account_append, ho, hos, List.filterMap_cons]
    cases o.warning? src.strategy <;> rfl

theorem tellFacts_account (hw : Level.warn.isRecorded s.upTo = true)
    (facts : List (String × Except Failure String)) :
    (tellFacts facts).Does s fun _ es _ =>
      Event.account es = facts.filterMap HostFacts.warning? := by
  induction facts with
  | nil => exact .pure rfl
  | cons fact rest ih =>
    obtain ⟨key, result⟩ := fact
    cases result with
    | ok value => exact ih
    | error e =>
      refine .tell_bind (ih.mono fun _ es _ hes => ?_)
      rw [Event.account_append, Event.account_kept rfl, hes]
      exact congrArg (· ++ _) (if_pos hw)

end Engine

/-! ## The whole log -/

theorem LogLine.tellsOutcome_of_tellsPart {l : LogLine} (h : l.tellsPart = true) :
    l.tellsOutcome = true := by
  rw [tellsPart, List.contains_iff_mem] at h
  rw [tellsOutcome, List.contains_iff_mem]
  exact List.mem_append_left _ h

theorem LogLine.filter_tellsPart (log : List LogLine) :
    (log.filter tellsOutcome).filter tellsPart = log.filter tellsPart := by
  rw [List.filter_filter]
  refine List.filter_congr fun l _ => ?_
  by_cases h : l.tellsPart = true
  · rw [h, tellsOutcome_of_tellsPart h, Bool.and_self]
  · rw [Bool.eq_false_iff.mpr h, Bool.false_and]

namespace Collection

variable {k : Collection}

theorem tellsPart_of_mem_warnings {l : LogLine} (h : l ∈ k.warnings) : l.tellsPart = true := by
  rcases List.mem_append.mp h with h | h
  · obtain ⟨⟨c, result⟩, _, hl⟩ := List.mem_filterMap.mp h
    cases result with
    | ok digest => cases hl
    | error e =>
      obtain rfl := Option.some.inj hl
      rfl
  · obtain ⟨⟨key, result⟩, _, hl⟩ := List.mem_filterMap.mp h
    cases result with
    | ok value => cases hl
    | error e =>
      obtain rfl := Option.some.inj hl
      rfl

/-- What is warned of is what failed. -/
theorem length_warnings (k : Collection) : k.warnings.length = k.failures.length := by
  have hcategories : ∀ o : Outcome, (o.warning? k.strategy).isSome = o.failed?.isSome := by
    rintro ⟨c, _ | _⟩ <;> rfl
  have hfacts : ∀ fact, (HostFacts.warning? fact).isSome = (HostFacts.failed? fact).isSome := by
    rintro ⟨key, _ | _⟩ <;> rfl
  simp only [warnings, failures, List.length_append, List.length_filterMap_eq_countP, hcategories,
    hfacts]

/-- Some events that tell of the parts, and then the summary, tell of the whole collection. -/
theorem ToldBy.of_account {upTo : Option Level} {parts : List Event}
    (h : Event.account parts = k.warnings) :
    k.ToldBy upTo
      ((parts ++ (Event.collected k.strategy k.failures.length).kept upTo).map Event.line) := by
  have haccount : Event.account (parts ++ (Event.collected k.strategy k.failures.length).kept upTo) =
      k.warnings ++ if Level.info.isRecorded upTo then [k.summary] else [] := by
    rw [Event.account_append, Event.account_kept rfl, h]
    rfl
  refine ⟨haccount, ?_, ?_⟩
  · intro hinfo
    have hkept : (Event.collected k.strategy k.failures.length).kept upTo =
        [.collected k.strategy k.failures.length] := if_pos hinfo
    rw [hkept, List.map_append, List.map_singleton, List.getLast?_concat]
    rfl
  · have hsummary : (if Level.info.isRecorded upTo then [k.summary] else []).filter
        LogLine.tellsPart = [] := by
      split <;> rfl
    have hwarned : k.warnings.filter LogLine.tellsPart = k.warnings :=
      List.filter_eq_self.mpr fun l hl => tellsPart_of_mem_warnings hl
    rw [← LogLine.filter_tellsPart, ← Event.account, haccount, List.filter_append, hwarned, hsummary,
      List.append_nil]
    exact k.length_warnings

end Collection

theorem Failure.ToldBy.of_early {upTo : Option Level} (hw : Level.warn.isRecorded upTo = true)
    {e : Failure} {early : List Event} (h : ∀ e ∈ early, e.Early) :
    e.ToldBy ((early ++ (Event.gateClosed e).kept upTo).map Event.line) := by
  have hkept : (Event.gateClosed e).kept upTo = [.gateClosed e] := if_pos hw
  constructor
  · have hsilent : (early.map Event.line).filter LogLine.warns = [] := by
      rw [List.filter_eq_nil_iff]
      intro l hl
      obtain ⟨e', he', rfl⟩ := List.mem_map.mp hl
      have hdebug : e'.line.warns = Level.debug.isRecorded (some .warn) :=
        congrArg (Level.isRecorded (some .warn)) (h e' he').debug
      rw [hdebug]
      decide
    rw [hkept, List.map_append, List.filter_append, hsilent]
    rfl
  · have hpassed : Event.account early = [] :=
      Event.account_of_passing fun e' he' => (h e' he').passing
    have haccount := Event.account_append early ((Event.gateClosed e).kept upTo)
    rw [hpassed, hkept] at haccount
    rw [hkept]
    exact haccount

namespace Engine

variable {s}

theorem gather_account (hw : Level.warn.isRecorded s.upTo = true) (engine : Engine) :
    (gather engine).Does s fun _ es k => ∃ parts, Event.account parts = k.warnings ∧
      es = parts ++ (Event.collected k.strategy k.failures.length).kept s.upTo := by
  refine Session.Does.bind (engine.config.selector.select_tellsOnly s engine.platform)
    fun _ selected strategy hselected => ?_
  refine (collectCategories_account hw ⟨strategy, engine.config.command⟩ Category.all).bind
    fun _ categories outcomes hcategories => ?_
  refine Session.Does.bind (HostFacts.gather_tellsOnly s engine.host)
    fun _ gathered host hgathered => ?_
  refine (tellFacts_account hw host.entries).bind fun _ facts _ hfacts => ?_
  refine .tell_bind (.pure ⟨selected ++ categories ++ gathered ++ facts, ?_, by simp⟩)
  simp only [Event.account_append, Event.account_of_passing hselected,
    Event.account_of_passing hgathered, hcategories, hfacts, List.nil_append, List.append_nil]
  rfl

theorem collect_account (hw : Level.warn.isRecorded s.upTo = true) (engine : Engine) :
    (collect engine).Does s fun _ es r =>
      (∀ k, r = .ok k → k.ToldBy s.upTo (es.map Event.line)) ∧
      ∀ e, r = .error (.failed e) → e.ToldBy (es.map Event.line) := by
  refine Session.Does.bind (Readiness.waitForService_tellsOnly s engine.config.readiness)
    fun _ early r hearly => ?_
  split
  · next e =>
    refine .tell_bind (.pure ⟨fun k hk => ?_, fun e' he' => ?_⟩)
    · cases hk
    · obtain rfl : e = e' := Stop.failed.inj (Except.error.inj he')
      rw [List.append_nil]
      exact .of_early hw hearly
  · refine .pure ⟨fun k hk => ?_, fun e he => ?_⟩
    · cases hk
    · cases he
  · refine (engine.gather_account hw).bind ?_
    rintro _ _ k ⟨parts, hparts, rfl⟩
    refine .pure ⟨fun k' hk' => ?_, fun e he => ?_⟩
    · obtain rfl := Except.ok.inj hk'
      rw [List.append_nil, ← List.append_assoc]
      refine .of_account ?_
      rw [Event.account_append, Event.account_of_passing fun e he => (hearly e he).passing, hparts]
      rfl
    · cases he

end Engine

/-- Whatever a run is answered, if its log is kept up to warnings or further, the log and the result
tell the same. If the run passes its gate, the lines about its parts are warnings: one for each
category that failed, with its name, its key, the strategy of the run and the cause, then one for
each host fact that failed, with its key and the cause. The last line, where it is kept, is a summary
with the strategy and the number of these warnings, which is that of the failures. If the run is
stopped at its gate, the only warning has the failure that is its result. -/
theorem Engine.collect_told {σ : Type} (engine : Engine) {s : Surroundings σ}
    (hw : Level.warn.isRecorded s.upTo = true) (j : Journal σ) :
    ∃ log, (engine.collect s j).2.events.toList = j.events.toList ++ log ∧
      (∀ k, (engine.collect s j).1 = .ok k → k.ToldBy s.upTo (log.map Event.line)) ∧
      ∀ e, (engine.collect s j).1 = .error (.failed e) → e.ToldBy (log.map Event.line) := by
  obtain ⟨_, log, hleads, htold⟩ := collect_account hw engine j
  exact ⟨log, hleads.events, htold⟩

/-- Nothing can be reached but the service and the name of the host. -/
def World.serviceOnly : World Unit := fun c u =>
  match c with
  | .connect | .openService _ => (.ok (), u)
  | .queryStatus => (.ok .running, u)
  | .hostname => (.ok "host", u)
  | c => World.unreachable c u

/-- A run there with nothing configured. -/
def Engine.serviceOnlyRun : Except Stop Collection × Journal Unit :=
  (Engine.mk (.byDefault none) .asked .asked).collect ⟨World.serviceOnly, some .info⟩ (.start ())

/-- Eight parts fail, and the log tells so among a warning that the version is unknown and an error
for each command. -/
theorem Engine.serviceOnly_told :
    Level.warn.isRecorded (some .info) = true ∧ serviceOnlyRun.2.events.size = 16 ∧
      ∃ k, serviceOnlyRun.1 = .ok k ∧ k.failures.length = 8 ∧
        k.ToldBy (some .info) (serviceOnlyRun.2.events.toList.map Event.line) := by
  have hw : Level.warn.isRecorded (some .info) = true := by decide
  have hsize : serviceOnlyRun.2.events.size = 16 := by decide +kernel
  have hfailed : serviceOnlyRun.1.toOption.map (fun k => k.failures.length) = some 8 := by
    decide +kernel
  obtain ⟨k, hk, hfailures⟩ := Option.map_eq_some_iff.mp hfailed
  have hrun : serviceOnlyRun.1 = .ok k := Except.toOption_eq_some_iff.mp hk
  have hlog := collect_told ⟨.byDefault none, .asked, .asked⟩ (s := ⟨World.serviceOnly, some .info⟩)
    hw (.start ())
  rw [← serviceOnlyRun] at hlog
  obtain ⟨log, hevents, htold, _⟩ := hlog
  refine ⟨hw, hsize, k, hrun, hfailures, ?_⟩
  rw [hevents]
  exact htold k hrun

end HardwareFingerprint
