import LongHub.GatewayManager
import LongHub.RelyGuarantee
import Mathlib.Tactic.SplitIfs

/-!
# Whether the ownership of a started Gateway is kept

An inspection that found no process may take the flag back long after a start has set it.
-/

namespace LongHub

open Machine
namespace Gateway

/-- The flag is taken back only while no process runs, an action that fails has started nothing,
and no inspection fails while the manager owns the process. -/
@[grind =]
def settledCall (_ : Nat) (request : GatewayCall) (choice : GatewayChoice) (world : GatewayWorld) :
    Bool :=
  match request with
  | .setManaged false => !world.running
  | .start | .restart => !choice.fails || !choice.runs || world.running
  | .inspect => !choice.fails || !world.owned
  | _ => true

abbrev settledMachine := gatewayMachine.restrict settledCall

structure GatewayWorld.Consistent (world : GatewayWorld) : Prop where
  free : world.holder = none → world.running = true → world.managed = true
  running : world.owned = true → world.running = true
  managed : world.owned = true → world.managed = true
  notClosing : world.owned = true → world.closing = []
  reports : ∀ report ∈ world.reports, report.owned = true →
    report.status.state = .runningManaged ∧ report.status.running = true ∧
      report.status.managed = true

/-- What a thread leaves as it is: the process under the lock of another one, and the stops and
restarts of others; and the flag, unless no process runs. -/
structure Respects (thread : Nat) (before after : GatewayWorld) : Prop where
  holder : ∀ other, other ≠ thread → before.holder = some other → after.holder = some other
  running : ∀ other, other ≠ thread → before.holder = some other → after.running = before.running
  managed : ∀ other, other ≠ thread → before.holder = some other → before.running = true →
    before.managed = true → after.managed = true
  closing : ∀ other, other ≠ thread → other ∈ before.closing → other ∈ after.closing
  closings : before.closings ≤ after.closings
  owned : after.closings = before.closings → before.owned = true → after.owned = true

abbrev SafeGateway (thread : Nat) {α : Type} (Post : Except Empty α → GatewayWorld → Prop)
    (program : GatewayProgram α) (world : GatewayWorld) : Prop :=
  settledMachine.Safe GatewayWorld.Consistent Respects thread Post program world

abbrev StableGateway (thread : Nat) (assertion : GatewayWorld → Prop) : Prop :=
  settledMachine.Stable GatewayWorld.Consistent Respects thread assertion

section Stability

variable {thread : Nat}

theorem stable_of_respects {assertion : GatewayWorld → Prop}
    (keeps : ∀ other before after, other ≠ thread → Respects other before after →
      assertion before → assertion after) : StableGateway thread assertion := by
  rintro before after - - (⟨other, isOther, respects⟩ | ⟨event, -⟩) holds
  · exact keeps other before after isOther respects holds
  · exact event.elim

structure Holds (thread : Nat) (action : GatewayAction) (world : GatewayWorld) : Prop where
  holder : world.holder = some thread
  managed : world.running = true → world.managed = true
  closing : action.closes = true → thread ∈ world.closing

structure Sees (thread : Nat) (action : GatewayAction) (running : Bool) (world : GatewayWorld) :
    Prop extends Holds thread action world where
  running : world.running = running

variable {other : Nat} {before after : GatewayWorld}

theorem Holds.of_respects {action : GatewayAction} (isOther : other ≠ thread)
    (respects : Respects other before after) (holds : Holds thread action before) :
    Holds thread action after where
  holder := respects.holder thread (Ne.symm isOther) holds.holder
  managed := by
    intro runs
    have running := respects.running thread (Ne.symm isOther) holds.holder
    rw [running] at runs
    exact respects.managed thread (Ne.symm isOther) holds.holder runs (holds.managed runs)
  closing closes := respects.closing thread (Ne.symm isOther) (holds.closing closes)

theorem stable_holds (action : GatewayAction) : StableGateway thread (Holds thread action) :=
  stable_of_respects fun _ _ _ isOther respects holds => holds.of_respects isOther respects

theorem stable_sees (action : GatewayAction) (running : Bool) :
    StableGateway thread (Sees thread action running) := by
  apply stable_of_respects
  intro other before after isOther respects sees
  have sameRunning := respects.running thread (Ne.symm isOther) sees.holder
  exact ⟨sees.toHolds.of_respects isOther respects, sameRunning.trans sees.running⟩

/-- A period that was open when a status request began is still open, or has been closed. -/
structure Watches (period : Nat) (world : GatewayWorld) : Prop where
  past : period ≤ world.closings
  owned : world.closings = period → world.owned = true

theorem Watches.of_respects {period : Nat} (respects : Respects other before after)
    (watches : Watches period before) : Watches period after := by
  have past := watches.past
  have later := respects.closings
  refine ⟨Nat.le_trans past later, fun same => ?_⟩
  have sameBefore : before.closings = period := by omega
  exact respects.owned (same.trans sameBefore.symm) (watches.owned sameBefore)

theorem stable_watches (period : Nat) : StableGateway thread (Watches period) :=
  stable_of_respects fun _ _ _ _ respects watches => watches.of_respects respects

structure Ready (thread : Nat) (action : GatewayAction) (done : Prop) (world : GatewayWorld) :
    Prop extends Holds thread action world where
  running : done → world.running = true

theorem stable_ready (action : GatewayAction) (done : Prop) :
    StableGateway thread (Ready thread action done) := by
  apply stable_of_respects
  intro other before after isOther respects ready
  have sameRunning := respects.running thread (Ne.symm isOther) ready.holder
  exact ⟨ready.toHolds.of_respects isOther respects,
    fun isDone => sameRunning.trans (ready.running isDone)⟩

end Stability

section Steps

variable {thread : Nat} {world before after : GatewayWorld} {α : Type}

variable {request : GatewayCall}

/-- A step of a request meets its condition. -/
theorem settled_of_performs {choice : GatewayChoice} {answer : Except Empty request.Answer}
    (acts : settledMachine.perform thread request choice before = some (answer, after)) :
    settledCall thread request choice before = true ∧ ∃ value, answer = .ok value ∧
      performGateway thread choice before request = some (value, after) := by
  simp only [restrict] at acts
  split_ifs at acts with settled
  obtain ⟨⟨value, last⟩, found, same⟩ := Option.map_eq_some_iff.mp acts
  cases same
  exact ⟨settled, value, rfl, found⟩

theorem safe_step {next : request.Answer → GatewayProgram α}
    {Post : Except Empty α → GatewayWorld → Prop} {assertion : GatewayWorld → Prop}
    (stable : StableGateway thread assertion) (holds : assertion world)
    (steps : ∀ before choice answer after, before.Consistent → assertion before →
      settledCall thread request choice before = true →
      performGateway thread choice before request = some (answer, after) →
        Respects thread before after ∧ after.Consistent ∧
          SafeGateway thread Post (next answer) after) :
    SafeGateway thread Post (callGateway request >>= next) world := by
  apply safe_perform_bind stable holds
  · intro before choice answer after consistent holds acts
    obtain ⟨settled, value, same, found⟩ := settled_of_performs acts
    cases same
    exact steps before choice answer after consistent holds settled found
  · intro before choice error
    exact error.elim

theorem Respects.refl (thread : Nat) (world : GatewayWorld) : Respects thread world world where
  holder _ _ same := same
  running _ _ _ := rfl
  managed _ _ _ _ managed := managed
  closing _ _ mem := mem
  closings := Nat.le_refl _
  owned _ isOwned := isOwned

theorem respects_of_holder (holder : before.holder = some thread) (running managed : Bool) :
    Respects thread before { before with running := running, managed := managed } where
  holder _ _ same := same
  running _ isOther same := absurd (Option.some.inj (same.symm.trans holder)) isOther
  managed _ isOther same := absurd (Option.some.inj (same.symm.trans holder)) isOther
  closing _ _ mem := mem
  closings := Nat.le_refl _
  owned _ isOwned := isOwned

theorem GatewayWorld.Consistent.of_holder (consistent : before.Consistent)
    (holder : before.holder = some thread) (notOwned : before.owned = false)
    (running managed : Bool) :
    ({ before with running := running, managed := managed } : GatewayWorld).Consistent where
  free isFree := absurd (isFree.symm.trans holder) (by simp)
  running isOwned := absurd (notOwned.symm.trans isOwned) (by simp)
  managed isOwned := absurd (notOwned.symm.trans isOwned) (by simp)
  notClosing isOwned := absurd (notOwned.symm.trans isOwned) (by simp)
  reports := consistent.reports

/-- A stop or a restart in progress: no period is open. -/
theorem GatewayWorld.Consistent.not_owned (consistent : world.Consistent)
    (closing : thread ∈ world.closing) : world.owned = false := by
  by_contra owned
  have empty := consistent.notClosing (by simpa using owned)
  rw [empty] at closing
  cases closing

theorem GatewayWorld.Consistent.not_owned_of_stopped (consistent : world.Consistent)
    (stopped : world.running = false) : world.owned = false := by
  by_contra owned
  have running := consistent.running (by simpa using owned)
  rw [stopped] at running
  cases running

/-- The flag may be taken back while no process runs. -/
theorem clear_managed (consistent : before.Consistent) (stopped : before.running = false) :
    Respects thread before { before with managed := false } ∧
      ({ before with managed := false } : GatewayWorld).Consistent := by
  have notOwned := consistent.not_owned_of_stopped stopped
  constructor
  · refine ⟨fun _ _ same => same, fun _ _ _ => rfl, ?_, fun _ _ mem => mem,
      Nat.le_refl _, fun _ isOwned => isOwned⟩
    intro other _ _ running
    rw [stopped] at running
    cases running
  · refine ⟨?_, consistent.running, ?_, consistent.notClosing, consistent.reports⟩
    · intro _ running
      rw [stopped] at running
      cases running
    · intro owned
      rw [notOwned] at owned
      cases owned

end Steps

structure Describes (status : GatewayStatus) (runs flag : Bool) : Prop where
  running : status.running = runs
  known : status.state ≠ .unknown
  managed : runs = true → flag = true → status.state = .runningManaged ∧ status.managed = true

structure Inspection (thread : Nat) (Begun Failed : GatewayWorld → Prop)
    (Seen : Bool → GatewayWorld → Prop) (Known : Bool → Bool → GatewayWorld → Prop) : Prop where
  begunStable : StableGateway thread Begun
  failedStable : StableGateway thread Failed
  seenStable : ∀ running, StableGateway thread (Seen running)
  knownStable : ∀ running managed, StableGateway thread (Known running managed)
  fails : ∀ world, world.Consistent → Begun world → world.owned = false → Failed world
  observes : ∀ world, world.Consistent → Begun world → Seen world.running world
  reads : ∀ running world, world.Consistent → Seen running world → Known running world.managed world
  clears : ∀ managed world, world.running = false → Known false managed world →
    Known false managed { world with managed := false }

def Inspected (Failed : GatewayWorld → Prop) (Known : Bool → Bool → GatewayWorld → Prop)
    (outcome : Except Empty (GatewayStatus × Option GatewayError)) (after : GatewayWorld) : Prop :=
  match outcome with
  | .ok (_, some _) => Failed after
  | .ok (status, none) =>
    ∃ running managed, Describes status running managed ∧ Known running managed after
  | .error error => error.elim

section Inspections

variable {thread : Nat} {world : GatewayWorld}

variable {assertion : GatewayWorld → Prop}

theorem safe_probe (stable : StableGateway thread assertion) (holds : assertion world) :
    SafeGateway thread (fun outcome after => (∃ owns, outcome = .ok owns) ∧ assertion after)
      probeScheduledTaskOwnership world := by
  apply safe_step stable holds
  rintro before choice answer after consistent holds - acts
  cases acts
  refine ⟨Respects.refl _ _, consistent, ?_⟩
  intro later laterState _
  exact ⟨⟨_, rfl⟩, stable.later laterState holds⟩

theorem safe_classify (stable : StableGateway thread assertion) (consistent : world.Consistent)
    (holds : assertion world) {observation : GatewayObservation}
    (known : observation.runningKnown = true)
    (installed : observation.running = true → observation.installed = true) (managed : Bool) :
    SafeGateway thread (fun outcome after => ∃ status, outcome = .ok status ∧
      Describes status observation.running managed ∧ assertion after)
      (classify observation managed) world := by
  have returns {status : GatewayStatus} {world : GatewayWorld} (holds : assertion world)
      (describes : Describes status observation.running managed) :
      SafeGateway thread (fun outcome after => ∃ status, outcome = .ok status ∧
        Describes status observation.running managed ∧ assertion after)
        (pure status) world := by
    intro later laterState _
    exact ⟨status, rfl, describes, stable.later laterState holds⟩
  unfold classify
  split_ifs with absent unknown both running
  · apply returns holds
    refine ⟨rfl, by simp [GatewayObservation.status], fun runs => ?_⟩
    simp [installed runs] at absent
  · simp [known] at unknown
  · obtain ⟨runs, isManaged⟩ : observation.running = true ∧ managed = true := by simpa using both
    apply returns holds
    refine ⟨rfl, by simp [GatewayObservation.status], fun _ _ => ⟨rfl, ?_⟩⟩
    simp [GatewayObservation.status, runs, isManaged]
  · have notManaged : managed ≠ true := by simpa [running] using both
    apply safe_bind consistent (safe_probe stable holds)
    · rintro owns after - ⟨-, holdsAfter⟩
      split_ifs
      · apply returns holdsAfter
        exact ⟨rfl, by simp [GatewayObservation.status],
          fun _ isManaged => absurd isManaged notManaged⟩
      · apply returns holdsAfter
        exact ⟨rfl, by simp [GatewayObservation.status],
          fun _ isManaged => absurd isManaged notManaged⟩
    · intro error
      exact error.elim
  · apply returns holds
    exact ⟨rfl, by simp [GatewayObservation.status], fun runs => absurd runs running⟩

theorem safe_describe {Begun Failed : GatewayWorld → Prop} {Seen : Bool → GatewayWorld → Prop}
    {Known : Bool → Bool → GatewayWorld → Prop}
    (inspection : Inspection thread Begun Failed Seen Known) (consistent : world.Consistent)
    {observation : GatewayObservation} (found : observation.runningKnown = true)
    (installed : observation.running = true → observation.installed = true)
    {flag passed : Bool} (known : Known observation.running flag world)
    (agrees : observation.running = true → flag = true → passed = true) :
    SafeGateway thread (Inspected Failed Known) (do
      let status ← classify observation passed
      return (status, none)) world := by
  have stable := inspection.knownStable observation.running flag
  apply safe_bind consistent (safe_classify stable consistent known found installed passed)
  · rintro status after - ⟨_, ⟨⟩, describes, knownAfter⟩
    intro later laterState _
    refine ⟨observation.running, flag, ?_, stable.later laterState knownAfter⟩
    exact ⟨describes.running, describes.known,
      fun runs isManaged => describes.managed runs (agrees runs isManaged)⟩
  · intro error
    exact error.elim

theorem safe_inspect {Begun Failed : GatewayWorld → Prop} {Seen : Bool → GatewayWorld → Prop}
    {Known : Bool → Bool → GatewayWorld → Prop}
    (inspection : Inspection thread Begun Failed Seen Known) (begun : Begun world) :
    SafeGateway thread (Inspected Failed Known) inspect world := by
  apply safe_step inspection.begunStable begun
  intro before choice answer after consistent begun settled acts
  cases acts
  refine ⟨Respects.refl _ _, consistent, ?_⟩
  cases fails : choice.fails with
  | true =>
    have notOwned : before.owned = false := by simpa [settledCall, fails] using settled
    have failed := inspection.fails before consistent begun notOwned
    intro later laterState _
    exact inspection.failedStable.later laterState failed
  | false =>
    have seen := inspection.observes before consistent begun
    have installed : (before.observe choice.observation).running = true →
        (before.observe choice.observation).installed = true := by
      intro runs
      have running : before.running = true := runs
      simp [GatewayWorld.observe, running]
    apply safe_step (inspection.seenStable before.running) seen
    rintro middle _ answer after consistent seen - acts
    cases acts
    have known := inspection.reads before.running middle consistent seen
    refine ⟨Respects.refl _ _, consistent, ?_⟩
    have observed : (before.observe choice.observation).running = before.running := rfl
    show SafeGateway thread _ (if (before.observe _).running = true then _ else _) middle
    split_ifs with runs
    · exact safe_describe inspection consistent rfl installed (observed ▸ known)
        fun _ isManaged => isManaged
    · have stopped : before.running = false := by simpa [observed] using runs
      rw [stopped] at known
      apply safe_step (inspection.knownStable false middle.managed) known
      rintro last _ answer after consistent known settled acts
      cases acts
      have lastStopped : last.running = false := by simpa [settledCall] using settled
      obtain ⟨respects, consistentAfter⟩ := clear_managed consistent lastStopped
      refine ⟨respects, consistentAfter, ?_⟩
      have cleared := inspection.clears middle.managed last lastStopped known
      apply safe_describe inspection consistentAfter rfl installed
      · rw [observed, stopped]
        exact cleared
      · intro isRunning
        exact absurd isRunning runs

end Inspections

section Actions

variable {thread : Nat} {world before after : GatewayWorld} {action : GatewayAction}

theorem inspection_of_holds (done : Prop) :
    Inspection thread (Ready thread action done) (Holds thread action)
      (fun runs world => Sees thread action runs world ∧ (done → runs = true))
      (fun runs flag world => Sees thread action runs world ∧ (runs = true → flag = true) ∧
        (done → runs = true)) where
  begunStable := stable_ready action done
  failedStable := stable_holds action
  seenStable runs := (stable_sees action runs).and (Machine.Stable.const _)
  knownStable runs flag := (stable_sees action runs).and (Machine.Stable.const _)
  fails _ _ ready _ := ready.toHolds
  observes _ _ ready := ⟨⟨ready.toHolds, rfl⟩, ready.running⟩
  reads runs world _ seen := by
    refine ⟨seen.1, fun isRunning => ?_, seen.2⟩
    exact seen.1.managed (seen.1.running.trans isRunning)
  clears flag world stopped known := by
    refine ⟨⟨⟨known.1.holder, fun runs => ?_, known.1.closing⟩, stopped⟩, known.2⟩
    rw [stopped] at runs
    cases runs

/-- What an action leaves before the second inspection. -/
def Acted (thread : Nat) (action : GatewayAction) (result : ActionResult) : GatewayWorld → Prop :=
  Ready thread action (action = .start ∧ (result = .returned none ∨ result = .acted))

/-- The postcondition of a program that cannot throw. -/
def Returns {α : Type} (Done : α → GatewayWorld → Prop) (outcome : Except Empty α)
    (world : GatewayWorld) : Prop :=
  ∃ value, outcome = .ok value ∧ Done value world

theorem safe_returns {α : Type} {Done : α → GatewayWorld → Prop} {value : α}
    (stable : StableGateway thread (Done value)) (done : Done value world) :
    SafeGateway thread (Returns Done) (pure value) world :=
  fun _ laterState _ => ⟨value, rfl, stable.later laterState done⟩

theorem safe_acted {result : ActionResult} (holds : Holds thread action world)
    (running : action = .start → result = .returned none ∨ result = .acted → world.running = true) :
    SafeGateway thread (Returns (Acted thread action)) (pure result) world :=
  safe_returns (stable_ready action _) ⟨holds, fun ⟨isStart, ended⟩ => running isStart ended⟩

/-- Nothing was done. -/
theorem safe_refused {error : GatewayError} (holds : Holds thread action world) :
    SafeGateway thread (Returns (Acted thread action)) (pure (.returned (some error))) world :=
  safe_acted holds fun _ ended => by simp at ended

/-- The thread has acted on the process and has not yet set the flag. -/
structure Owes (thread : Nat) (action : GatewayAction) (runs : Bool) (world : GatewayWorld) :
    Prop where
  holder : world.holder = some thread
  closing : action.closes = true → thread ∈ world.closing
  running : world.running = runs

theorem stable_owes (action : GatewayAction) (runs : Bool) :
    StableGateway thread (Owes thread action runs) := by
  apply stable_of_respects
  intro other before after isOther respects owes
  have sameRunning := respects.running thread (Ne.symm isOther) owes.holder
  exact ⟨respects.holder thread (Ne.symm isOther) owes.holder,
    fun closes => respects.closing thread (Ne.symm isOther) (owes.closing closes),
    sameRunning.trans owes.running⟩

variable {runs flag : Bool} {status : GatewayStatus}

theorem safe_setManaged (owes : Owes thread action runs world)
    (started : action = .start → runs = true) :
    SafeGateway thread (Returns (Acted thread action)) (do
      callGateway (.setManaged runs)
      return .acted) world := by
  apply safe_step (stable_owes action runs) owes
  rintro before choice answer after consistent owes - acts
  cases acts
  have holds : Holds thread action { before with managed := runs } := by
    refine ⟨owes.holder, fun running => ?_, owes.closing⟩
    exact owes.running.symm.trans running
  have continues : SafeGateway thread (Returns (Acted thread action)) (pure .acted)
      { before with managed := runs } :=
    safe_acted holds fun isStart _ => owes.running.trans (started isStart)
  cases runs with
  | true =>
    refine ⟨respects_of_holder owes.holder before.running true, ?_, continues⟩
    exact ⟨fun _ _ => rfl, consistent.running, fun _ => rfl, consistent.notClosing,
      consistent.reports⟩
  | false =>
    obtain ⟨respects, consistentAfter⟩ := clear_managed consistent owes.running
    exact ⟨respects, consistentAfter, continues⟩

theorem safe_controlStart (describes : Describes status runs flag)
    (sees : Sees thread .start runs world) (confirm : Bool) :
    SafeGateway thread (Returns (Acted thread .start)) (controlStart status confirm) world := by
  unfold controlStart
  split_ifs with absent running unconfirmed
  · exact safe_refused sees.toHolds
  · exact safe_acted sees.toHolds fun _ _ =>
      sees.running.trans (describes.running.symm.trans running)
  · exact safe_refused sees.toHolds
  · have stopped : runs = false := by
      rw [← describes.running]
      simpa using running
    rw [stopped] at sees
    apply safe_step (stable_sees .start false) sees
    intro before choice answer after consistent sees settled acts
    cases acts
    have notOwned := consistent.not_owned_of_stopped sees.running
    refine ⟨respects_of_holder sees.holder _ before.managed,
      consistent.of_holder sees.holder notOwned _ before.managed, ?_⟩
    cases fails : choice.fails with
    | true =>
      have notStarted : choice.runs = false := by
        simpa [settledCall, fails, sees.running] using settled
      apply safe_refused
      refine ⟨sees.holder, fun running => ?_, sees.closing⟩
      simp [notStarted] at running
    | false =>
      have owes : Owes thread .start true
          { before with running := if false = true then choice.runs else true } :=
        ⟨sees.holder, sees.closing, rfl⟩
      exact safe_setManaged owes fun _ => rfl

theorem safe_controlStop (describes : Describes status runs flag)
    (sees : Sees thread .stop runs world) (confirm : Bool) :
    SafeGateway thread (Returns (Acted thread .stop)) (controlStop status confirm) world := by
  unfold controlStop
  split_ifs with stopped external unconfirmed
  · exact safe_acted sees.toHolds nofun
  · exact safe_refused sees.toHolds
  · exact safe_refused sees.toHolds
  · have running : runs = true := by
      rw [← describes.running]
      simpa using stopped
    rw [running] at sees
    apply safe_step (stable_sees .stop true) sees
    rintro before choice answer after consistent sees - acts
    cases acts
    have notOwned := consistent.not_owned (sees.closing rfl)
    refine ⟨respects_of_holder sees.holder _ before.managed,
      consistent.of_holder sees.holder notOwned _ before.managed, ?_⟩
    cases fails : choice.fails with
    | true => exact safe_refused ⟨sees.holder, fun _ => sees.managed sees.running, sees.closing⟩
    | false =>
      have owes : Owes thread .stop false
          { before with running := if false = true then choice.runs else false } :=
        ⟨sees.holder, sees.closing, rfl⟩
      exact safe_setManaged owes nofun

theorem safe_controlRestart (describes : Describes status runs flag)
    (isManaged : runs = true → flag = true) (sees : Sees thread .restart runs world)
    (confirm : Bool) :
    SafeGateway thread (Returns (Acted thread .restart)) (controlRestart status confirm) world := by
  unfold controlRestart
  split_ifs with absent unconfirmed external
  · exact safe_refused sees.toHolds
  · exact safe_refused sees.toHolds
  · exact safe_refused sees.toHolds
  · apply safe_step (stable_sees .restart runs) sees
    intro before choice answer after consistent sees settled acts
    cases acts
    have notOwned := consistent.not_owned (sees.closing rfl)
    refine ⟨respects_of_holder sees.holder _ before.managed,
      consistent.of_holder sees.holder notOwned _ before.managed, ?_⟩
    cases fails : choice.fails with
    | true =>
      apply safe_refused
      refine ⟨sees.holder, fun running => ?_, sees.closing⟩
      apply sees.managed
      have stillRuns : choice.runs = true := running
      simpa [settledCall, fails, stillRuns] using settled
    | false =>
      have owes : Owes thread .restart true
          { before with running := if false = true then choice.runs else true } :=
        ⟨sees.holder, sees.closing, rfl⟩
      have flagged : (status.managed || !status.running) = true := by
        rw [describes.running]
        cases runs with
        | true => simp [(describes.managed rfl (isManaged rfl)).2]
        | false => simp
      have finishes := safe_setManaged owes nofun
      show SafeGateway thread (Returns (Acted thread .restart)) (do
        callGateway (.setManaged (status.managed || !status.running))
        return ActionResult.acted) _
      rw [flagged]
      exact finishes

theorem safe_controlAction (describes : Describes status runs flag)
    (isManaged : runs = true → flag = true) (sees : Sees thread action runs world)
    (confirm : Bool) :
    SafeGateway thread (Returns (Acted thread action)) (controlAction status confirm action)
      world := by
  cases action with
  | start => exact safe_controlStart describes sees confirm
  | stop => exact safe_controlStop describes sees confirm
  | restart => exact safe_controlRestart describes isManaged sees confirm
  | other name => exact safe_refused sees.toHolds

def Locked (thread : Nat) (action : GatewayAction)
    (result : GatewayStatus × Option GatewayError) : GatewayWorld → Prop :=
  Ready thread action (action = .start ∧ result.2 = none)

theorem safe_controlLocked (confirm : Bool) (consistent : world.Consistent)
    (holds : Holds thread action world) :
    SafeGateway thread (Returns (Locked thread action)) (controlLocked action confirm) world := by
  have fails {status : GatewayStatus} {error : GatewayError} {world : GatewayWorld}
      (holds : Holds thread action world) :
      SafeGateway thread (Returns (Locked thread action)) (pure (status, some error)) world :=
    safe_returns (stable_ready action _) ⟨holds, fun ended => by cases ended.2⟩
  apply safe_bind consistent (safe_inspect (inspection_of_holds False) ⟨holds, nofun⟩)
  · rintro ⟨status, error⟩ middle consistentMiddle inspected
    cases error with
    | some error => exact fails inspected
    | none =>
      obtain ⟨runs, flag, describes, sees, isManaged, -⟩ := inspected
      show SafeGateway thread _ (if status.state = .unknown then _ else _) middle
      rw [if_neg describes.known]
      apply safe_bind consistentMiddle (safe_controlAction describes isManaged sees confirm)
      · rintro result after consistentAfter ⟨_, ⟨⟩, acted⟩
        cases result with
        | returned error =>
          have locked : Locked thread action (status, error) after :=
            ⟨acted.toHolds, fun ended =>
              acted.running ⟨ended.1, Or.inl (congrArg ActionResult.returned ended.2)⟩⟩
          exact safe_returns (stable_ready action _) locked
        | acted =>
          have ready : Ready thread action (action = .start) after :=
            ⟨acted.toHolds, fun isStart => acted.running ⟨isStart, Or.inr rfl⟩⟩
          apply (safe_inspect (inspection_of_holds _) ready).mono
          rintro (error | ⟨last, error⟩) state - inspected
          · exact error.elim
          · cases error with
            | some error => exact ⟨_, rfl, inspected, fun ended => by cases ended.2⟩
            | none =>
              obtain ⟨runs, flag, -, sees, -, running⟩ := inspected
              exact ⟨_, rfl, sees.toHolds, fun ended => sees.running.trans (running ended.1)⟩
      · intro error
        exact error.elim
  · intro error
    exact error.elim

end Actions

end Gateway

end LongHub
