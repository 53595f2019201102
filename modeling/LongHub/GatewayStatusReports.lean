import LongHub.GatewayOwnership

/-!
# What status requests report of a started Gateway

A status request that runs within a period of ownership finds the process running and the flag
set, unless the flag was taken back by an inspection that is out of date.
-/

namespace LongHub

open List Machine Machine.Stable

namespace Gateway

section Requests

variable {thread : Nat} {world before after : GatewayWorld} {action : GatewayAction}

def Ended {α : Type} (_ : Except Empty α) (_ : GatewayWorld) : Prop := True

theorem safe_last {request : GatewayCall} {assertion : GatewayWorld → Prop}
    (stable : StableGateway thread assertion) (holds : assertion world)
    (steps : ∀ before choice answer after, before.Consistent → assertion before →
      performGateway thread choice before request = some (answer, after) →
        Respects thread before after ∧ after.Consistent) :
    SafeGateway thread Ended (callGateway request) world := by
  apply safe_perform stable holds fun _ => const True
  intro before choice answer after consistent holds performs
  obtain ⟨-, value, -, found⟩ := settled_of_performs performs
  obtain ⟨respects, consistentAfter⟩ := steps before choice value after consistent holds found
  exact ⟨respects, consistentAfter, trivial⟩

theorem begin_action (consistent : before.Consistent)
    (performs : performGateway thread choice before (.begin action) = some ((), after)) :
    Respects thread before after ∧ after.Consistent ∧
      (action.closes = true → thread ∈ after.closing) := by
  obtain rfl := congrArg Prod.snd (Option.some.inj performs)
  cases closes : action.closes with
  | false => exact ⟨Respects.refl _ _, consistent, nofun⟩
  | true =>
    refine ⟨⟨fun _ _ same => same, fun _ _ _ => rfl, fun _ _ _ _ managed => managed, ?_, ?_, ?_⟩,
      ⟨consistent.free, nofun, nofun, nofun, consistent.reports⟩, ?_⟩
    · intro other _ mem
      exact mem_cons_of_mem _ mem
    · simp
    · intro same
      simp at same
    · intro _
      exact mem_cons_self

theorem take_lock (consistent : before.Consistent)
    (closing : action.closes = true → thread ∈ before.closing)
    (performs : performGateway thread choice before .lock = some ((), after)) :
    Respects thread before after ∧ after.Consistent ∧ Holds thread action after := by
  simp only [performGateway] at performs
  split_ifs at performs with free
  cases performs
  refine ⟨⟨?_, fun _ _ _ => rfl, fun _ _ _ _ managed => managed, fun _ _ mem => mem,
    Nat.le_refl _, fun _ owned => owned⟩, ⟨?_, consistent.running, consistent.managed,
    consistent.notClosing, consistent.reports⟩, ⟨rfl, consistent.free free, closing⟩⟩
  · intro other _ held
    rw [free] at held
    cases held
  · intro isFree
    cases isFree

theorem release_lock (consistent : before.Consistent) {confirm succeeded : Bool}
    (ready : Ready thread action (action = .start ∧ succeeded = true) before)
    (performs : performGateway thread choice before (.release action confirm succeeded) =
      some ((), after)) : Respects thread before after ∧ after.Consistent := by
  have opens (owned : (before.owned || (action == .start && confirm && succeeded &&
      before.closing.isEmpty)) = true) : before.running = true ∧ before.closing = [] := by
    rcases Bool.or_eq_true_iff.mp owned with already | opened
    · exact ⟨consistent.running already, consistent.notClosing already⟩
    · simp only [Bool.and_eq_true, beq_iff_eq, List.isEmpty_iff] at opened
      obtain ⟨⟨⟨isStart, -⟩, isDone⟩, empty⟩ := opened
      exact ⟨ready.running ⟨isStart, isDone⟩, empty⟩
  cases performs
  constructor
  · refine ⟨?_, fun _ _ _ => rfl, fun _ _ _ _ managed => managed, ?_, Nat.le_refl _, ?_⟩
    · intro other isOther held
      exact absurd (Option.some.inj (held.symm.trans ready.holder)) isOther
    · intro other isOther mem
      exact mem_filter.mpr ⟨mem, by simpa using isOther⟩
    · intro _ owned
      simp [owned]
  · refine ⟨fun _ => ready.managed, fun owned => (opens owned).1,
      fun owned => ready.managed (opens owned).1, fun owned => ?_, consistent.reports⟩
    simp [(opens owned).2]

theorem safe_control (action : GatewayAction) (confirm : Bool) :
    SafeGateway thread Ended (control action confirm) world := by
  apply safe_step (const True) trivial
  rintro before choice answer after consistent - - performs
  obtain ⟨respects, consistentAfter, closing⟩ := begin_action consistent performs
  refine ⟨respects, consistentAfter, ?_⟩
  have stable : StableGateway thread fun world => action.closes = true → thread ∈ world.closing :=
    stable_of_respects fun _ _ _ isOther respects mem closes =>
      respects.closing thread (Ne.symm isOther) (mem closes)
  apply safe_step stable closing
  rintro before choice answer after consistent closing - performs
  obtain ⟨respects, consistentAfter, holds⟩ := take_lock consistent closing performs
  refine ⟨respects, consistentAfter, ?_⟩
  apply safe_bind consistentAfter (safe_controlLocked confirm consistentAfter holds)
  · rintro ⟨status, error⟩ last consistentLast ⟨_, ⟨⟩, locked⟩
    apply safe_last (stable_ready action _) locked
    intro before choice answer after consistent locked performs
    have ready : Ready thread action (action = .start ∧ error.isNone = true) before :=
      ⟨locked.toHolds, fun ended => locked.running ⟨ended.1, by simpa using ended.2⟩⟩
    exact release_lock consistent ready performs
  · intro error
    exact error.elim

/-- What a status request knows if it began within a period. -/
def During (period : Option Nat) (assertion : Nat → GatewayWorld → Prop) (world : GatewayWorld) :
    Prop :=
  ∀ number, period = some number → assertion number world

theorem stable_during {period : Option Nat} {assertion : Nat → GatewayWorld → Prop}
    (stable : ∀ number, StableGateway thread (assertion number)) :
    StableGateway thread (During period assertion) :=
  fun before after consistent consistentAfter rely holds number isPeriod =>
    stable number before after consistent consistentAfter rely (holds number isPeriod)

/-- The period is still open and what was found holds, or the period has been closed. -/
structure Found (number : Nat) (found : Prop) (world : GatewayWorld) : Prop
    extends Watches number world where
  found : world.closings = number → found

theorem stable_found (number : Nat) (found : Prop) : StableGateway thread (Found number found) := by
  apply stable_of_respects
  intro other before after isOther respects known
  have watches : Watches number after := known.toWatches.of_respects respects
  refine ⟨watches, fun same => known.found ?_⟩
  have past := known.past
  have later := respects.closings
  omega

theorem stable_closed (number : Nat) : StableGateway thread fun world => number < world.closings :=
  stable_of_respects fun _ _ _ _ respects closed => Nat.lt_of_lt_of_le closed respects.closings

theorem inspection_of_watches (period : Option Nat) :
    Inspection thread (During period Watches) (During period fun number world =>
        number < world.closings)
      (fun runs => During period fun number => Found number (runs = true))
      (fun runs flag => During period fun number => Found number (runs = true ∧ flag = true)) where
  begunStable := stable_during stable_watches
  failedStable := stable_during stable_closed
  seenStable _ := stable_during fun number => stable_found number _
  knownStable _ _ := stable_during fun number => stable_found number _
  fails world consistent begun notOwned number isPeriod := by
    have watches := begun number isPeriod
    have past := watches.past
    have notEqual : world.closings ≠ number := by
      intro same
      have owned := watches.owned same
      rw [notOwned] at owned
      cases owned
    omega
  observes world consistent begun number isPeriod := by
    have watches := begun number isPeriod
    exact ⟨watches, fun same => consistent.running (watches.owned same)⟩
  reads runs world consistent seen number isPeriod := by
    have known := seen number isPeriod
    exact ⟨known.toWatches, fun same =>
      ⟨known.found same, consistent.managed (known.owned same)⟩⟩
  clears flag world stopped known number isPeriod :=
    have found := known number isPeriod
    ⟨⟨found.past, found.owned⟩, found.found⟩

theorem safe_status : SafeGateway thread Ended status world := by
  apply safe_step (const True) trivial
  rintro before choice period after consistent - - performs
  have watches : During period Watches before := by
    rintro number rfl
    cases owned : before.owned with
    | false => simp [performGateway, owned] at performs
    | true =>
      obtain rfl : before.closings = number := by
        simpa [performGateway, owned] using
          congrArg (fun result => result.1) (Option.some.inj performs)
      exact ⟨Nat.le_refl _, fun _ => owned⟩
  obtain rfl : before = after := congrArg Prod.snd (Option.some.inj performs)
  refine ⟨Respects.refl _ _, consistent, ?_⟩
  apply safe_bind consistent (safe_inspect (inspection_of_watches period) watches)
  · rintro ⟨status, error⟩ middle - inspected
    have reports : During period (fun number => Found number (status.state = .runningManaged ∧
        status.running = true ∧ status.managed = true)) middle := by
      intro number isPeriod
      cases error with
      | some error =>
        have closed : number < middle.closings := inspected number isPeriod
        have notSame : middle.closings ≠ number := by omega
        exact ⟨⟨Nat.le_of_lt closed, fun same => absurd same notSame⟩,
          fun same => absurd same notSame⟩
      | none =>
        obtain ⟨runs, flag, describes, known⟩ := inspected
        have found := known number isPeriod
        refine ⟨found.toWatches, fun same => ?_⟩
        obtain ⟨running, managed⟩ := found.found same
        obtain ⟨isState, isManaged⟩ := describes.managed running managed
        exact ⟨isState, describes.running.trans running, isManaged⟩
    apply safe_last (stable_during fun number => stable_found number _) reports
    intro before choice answer after consistent reports performs
    cases performs
    constructor
    · exact ⟨fun _ _ same => same, fun _ _ _ => rfl, fun _ _ _ _ managed => managed,
        fun _ _ mem => mem, Nat.le_refl _, fun _ owned => owned⟩
    · refine ⟨consistent.free, consistent.running, consistent.managed, consistent.notClosing, ?_⟩
      intro report mem owned
      rcases mem_cons.mp mem with rfl | earlier
      · have isPeriod : period = some before.closings := by simpa using owned
        exact (reports before.closings isPeriod).found rfl
      · exact consistent.reports report earlier owned
  · intro error
    exact error.elim

end Requests

theorem consistent_initial : GatewayWorld.initial.Consistent where
  free := nofun
  running := nofun
  managed := nofun
  notClosing := nofun
  reports _ mem := absurd mem not_mem_nil

/-- In every run in which the flag is only taken back while no process runs, an action that fails
has started nothing, and no inspection fails within a period of ownership, every status request
within such a period reports that the Gateway runs and is managed. -/
theorem status_reports_managed (pool : Pool GatewayWorld GatewayCall GatewayCall.Answer Empty)
    (report : StatusReport)
    (reachable : (gatewayMachine.restrict settledCall).Reachable (· = .initial) pool)
    (mem : report ∈ pool.shared.reports) (owned : report.owned = true) :
    report.status.state = .runningManaged ∧ report.status.running = true ∧
      report.status.managed = true := by
  have safe := safe_of_reachable GatewayWorld.Consistent Respects (fun _ _ => True)
    (fun _ => Ended) ?_ (fun _ => const True) ?_ ?_ reachable
  · exact safe.1.reports report mem owned
  · rintro world rfl
    exact ⟨consistent_initial, fun _ => trivial⟩
  · intro event
    exact event.elim
  · intro request thread world _ _
    cases request with
    | status => exact safe_status
    | control action confirm => exact safe_control action confirm

def answering : GatewayChoice where
  fails := false
  observation := ⟨true, "openclaw", "1.0", false, true, .healthy, ""⟩
  task := none
  runs := false

abbrev GatewayStep := PoolAction GatewayChoice GatewayRequest Empty

def performs (thread count : Nat) : List GatewayStep :=
  replicate count (.perform thread answering)

/-- A whole start while a status request waits for its probe. -/
def startWithinStatus : List GatewayStep :=
  flatten [[.start 0 .status], performs 0 3, [.start 1 (.control .start true)], performs 1 10]

def startThenStatus : List GatewayStep :=
  flatten [startWithinStatus, [.start 2 .status], performs 2 4]

def statusAroundStart : List GatewayStep :=
  flatten [startWithinStatus, performs 0 1, [.start 2 .status], performs 2 5]

def reportAs (state : GatewayState) (managed : Bool) : StatusReport :=
  ⟨true, { answering.observation.status state managed with running := true, managed := managed }⟩

theorem runs_statusAroundStart :
    (gatewayMachine.run (initial .initial) statusAroundStart).any (fun pool =>
      pool.shared.reports = [reportAs .runningExternal false]) = true := by
  decide

theorem runs_startThenStatus :
    (settledMachine.run (initial .initial) startThenStatus).any (fun pool =>
      pool.shared.reports = [reportAs .runningManaged true]) = true := by
  decide

theorem reachable_of_run {machine : Machine GatewayWorld GatewayCall GatewayCall.Answer Empty
      GatewayChoice GatewayRequest Empty} {actions : List GatewayStep} {report : StatusReport}
    (runs : (machine.run (initial .initial) actions).any (fun pool =>
      pool.shared.reports = [report]) = true) :
    ∃ pool, machine.Reachable (· = .initial) pool ∧ report ∈ pool.shared.reports := by
  obtain ⟨pool, ends, reports⟩ := (Option.any_eq_true _ _).mp runs
  have initial : machine.Reachable (· = .initial) (initial .initial) := .initial rfl
  refine ⟨pool, initial.run ends, ?_⟩
  rw [of_decide_eq_true reports]
  exact mem_singleton_self _

/-- The flag is lost: a later status request reports a Gateway that is managed from outside. -/
theorem started_gateway_reported_external :
    ∃ pool report, gatewayMachine.Reachable (· = .initial) pool ∧ report ∈ pool.shared.reports ∧
      report.owned = true ∧ report.status.state = .runningExternal ∧
        report.status.managed = false := by
  obtain ⟨pool, reachable, mem⟩ := reachable_of_run runs_statusAroundStart
  exact ⟨pool, _, reachable, mem, rfl, rfl, rfl⟩

theorem started_gateway_reported_managed :
    ∃ pool report, settledMachine.Reachable (· = .initial) pool ∧ report ∈ pool.shared.reports ∧
      report.status.state = .runningManaged ∧ report.status.running = true ∧
        report.status.managed = true := by
  obtain ⟨pool, reachable, mem⟩ := reachable_of_run runs_startThenStatus
  exact ⟨pool, _, reachable, mem, status_reports_managed pool _ reachable mem rfl⟩

end Gateway

end LongHub
