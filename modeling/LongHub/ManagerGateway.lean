import Mathlib.Logic.Basic
import Mathlib.Tactic.SplitIfs

/-!
# Machines with secrets and the Gateway of the Manager

What a secret input can change, and the Gateway, whose owner is a secret.
-/

/-! ## Machines with secret inputs -/

namespace SecretInputs

variable {σ α β : Type*} (step : σ → α → β → σ)

def states : σ → List (α × β) → List σ
  | _, [] => []
  | state, (known, secret) :: rest =>
    step state known secret :: states (step state known secret) rest

abbrev Inputs (α β : Type*) := List (α × β × β)

def first (inputs : Inputs α β) : List (α × β) := inputs.map fun input => (input.1, input.2.1)

def second (inputs : Inputs α β) : List (α × β) := inputs.map fun input => (input.1, input.2.2)

def EveryStep (holds : σ → α → β → β → Prop) : σ → Inputs α β → Prop
  | _, [] => True
  | state, (known, one, other) :: rest =>
    holds state known one other ∧ EveryStep holds (step state known one) rest

variable {step} {holds weaker : σ → α → β → β → Prop}

variable {state : σ} {inputs : Inputs α β}

theorem EveryStep.mono
    (implies : ∀ state known one other, holds state known one other → weaker state known one other)
    (every : EveryStep step holds state inputs) : EveryStep step weaker state inputs := by
  induction inputs generalizing state with
  | nil => trivial
  | cons input rest ih => exact ⟨implies _ _ _ _ every.1, ih every.2⟩

theorem everyStep_congr
    (same : ∀ state known one other, holds state known one other ↔ weaker state known one other) :
    EveryStep step holds state inputs ↔ EveryStep step weaker state inputs := by
  constructor
  · exact EveryStep.mono fun state known one other => (same state known one other).mp
  · exact EveryStep.mono fun state known one other => (same state known one other).mpr

theorem states_eq_iff : states step state (first inputs) = states step state (second inputs) ↔
      EveryStep step (fun state known one other => step state known one = step state known other)
        state inputs := by
  induction inputs generalizing state with
  | nil => exact iff_of_true rfl trivial
  | cons input rest ih =>
    obtain ⟨known, one, other⟩ := input
    constructor
    · intro same
      simp only [first, second, List.map_cons, states] at same
      obtain ⟨sameStep, sameRest⟩ := List.cons.inj same
      rw [← sameStep] at sameRest
      exact ⟨sameStep, ih.mp sameRest⟩
    · rintro ⟨sameStep, every⟩
      have sameRest := ih.mpr every
      simp only [first, second, List.map_cons, states] at sameRest ⊢
      rw [← sameStep, sameRest]

end SecretInputs

namespace LongHub

open SecretInputs
/-! ## The Gateway of the Manager -/

namespace ManagerGateway

inductive GatewayState where
  | notInstalled
  | installedStopped
  | runningExternal
  | runningManaged
  | unknown
  deriving DecidableEq

inductive GatewayHealth where
  | unknown
  | healthy
  | unhealthy

structure GatewayStatus where
  state : GatewayState
  health : GatewayHealth
  installed : Bool
  running : Bool
  managed : Bool
  command : String
  version : String
  message : String
  errorCode : String

structure GatewayObservation where
  installed : Bool
  command : String
  version : String
  running : Bool
  runningKnown : Bool
  health : GatewayHealth
  message : String

inductive ScheduledTaskOwnership where
  | unknown
  | external
  | longHub
  | unsupported
  deriving DecidableEq

structure ScheduledTaskObservation where
  ownership : ScheduledTaskOwnership
  taskPresent : Bool
  taskPathValid : Bool
  markerValid : Bool
  actionValid : Bool
  errorCode : String

abbrev ProbeAnswer := Option (Except String ScheduledTaskObservation)

inductive GatewayError where
  | confirmationRequired
  | external
  | notInstalled
  | inspectionFailed
  /-- The error of the controller when it looks at the Gateway. -/
  | inspection (problem : String)
  | actionFailed (problem : String)
  | notAllowed (action : String)

def GatewayError.text : GatewayError → String
  | .confirmationRequired => "gateway action requires explicit confirmation"
  | .external => "gateway is managed externally"
  | .notInstalled => "native OpenClaw is not installed"
  | .inspectionFailed => "gateway status is unavailable"
  | .inspection problem => problem
  | .actionFailed problem => "gateway action failed: " ++ problem
  | .notAllowed action => "不允许的 Gateway 管理动作: " ++ action

/-- What a request answers, and the flag after it. -/
structure Outcome where
  status : GatewayStatus
  error : Option GatewayError
  managed : Bool

def probeScheduledTaskOwnership : ProbeAnswer → Bool
  | some (.ok observation) =>
    observation.ownership = .longHub && observation.taskPathValid && observation.markerValid &&
      observation.actionValid
  | _ => false

def unavailableStatus : GatewayStatus where
  state := .unknown
  health := .unknown
  installed := false
  running := false
  managed := false
  command := ""
  version := ""
  message := "无法读取 Gateway 状态"
  errorCode := "GATEWAY_STATUS_UNAVAILABLE"

def uncertainStatus (observation : GatewayObservation) : GatewayStatus where
  state := .unknown
  health := .unknown
  installed := true
  running := false
  managed := false
  command := observation.command
  version := observation.version
  message := "无法确认 Gateway 是否运行"
  errorCode := "GATEWAY_STATUS_UNAVAILABLE"

def statusOf (observation : GatewayObservation) (state : GatewayState) (managed : Bool) :
    GatewayStatus where
  state := state
  health := observation.health
  installed := observation.installed
  running := observation.running
  managed := managed && observation.running
  command := observation.command
  version := observation.version
  message := observation.message
  errorCode := ""

def inspect (observed : Except String GatewayObservation) (probe : ProbeAnswer)
    (managed : Bool) : Outcome :=
  match observed with
  | .error problem => ⟨unavailableStatus, some (.inspection problem), managed⟩
  | .ok observation =>
    let managed := managed && observation.running
    if !observation.installed then ⟨statusOf observation .notInstalled managed, none, managed⟩
    else if !observation.runningKnown then ⟨uncertainStatus observation, none, managed⟩
    else if !observation.running then
      ⟨statusOf observation .installedStopped managed, none, managed⟩
    else if managed || probeScheduledTaskOwnership probe then
      ⟨statusOf observation .runningManaged true, none, managed⟩
    else ⟨statusOf observation .runningExternal false, none, managed⟩

inductive GatewayAction where
  | start
  | stop
  | restart
  | other (name : String)

inductive GatewayRequest where
  | status
  | control (action : GatewayAction) (confirm : Bool)

structure ControllerAnswers where
  before : Except String GatewayObservation
  result : Except String Unit
  after : Except String GatewayObservation

structure ProbeAnswers where
  before : ProbeAnswer
  after : ProbeAnswer

section Requests

variable (answers : ControllerAnswers) (probes : ProbeAnswers)

/-- Run the command of an action; then the flag is the one given. -/
def act (before : Outcome) (managed : Bool) : Outcome :=
  match answers.result with
  | .error problem => { before with error := some (.actionFailed problem) }
  | .ok () => inspect answers.after probes.after managed

def control (action : GatewayAction) (confirm managed : Bool) : Outcome :=
  let before := inspect answers.before probes.before managed
  let refuse (problem : GatewayError) : Outcome := { before with error := some problem }
  if before.error.isSome then before
  else if before.status.state = .unknown then refuse .inspectionFailed
  else
    match action with
    | .start =>
      if !before.status.installed then refuse .notInstalled
      else if before.status.running then before
      else if !confirm then refuse .confirmationRequired
      else act answers probes before true
    | .stop =>
      if !before.status.running then before
      else if !before.status.managed && !confirm then refuse .external
      else if !confirm then refuse .confirmationRequired
      else act answers probes before false
    | .restart =>
      if !before.status.installed then refuse .notInstalled
      else if !confirm then
        if !before.status.managed && before.status.running then refuse .external
        else refuse .confirmationRequired
      -- a restart from a stopped Gateway starts a process of this Manager
      else act answers probes before (before.status.managed || !before.status.running)
    | .other name => refuse (.notAllowed name)

def perform (request : GatewayRequest) (managed : Bool) : Outcome :=
  match request with
  | .status => inspect answers.before probes.before managed
  | .control action confirm => control answers probes action confirm managed

end Requests

def flagStep (managed : Bool) (known : GatewayRequest × ControllerAnswers)
    (probes : ProbeAnswers) : Bool :=
  (perform known.2 probes known.1 managed).managed

abbrev PairedRequests := SecretInputs.Inputs (GatewayRequest × ControllerAnswers) ProbeAnswers

def flags (requests : List ((GatewayRequest × ControllerAnswers) × ProbeAnswers)) : List Bool :=
  states flagStep false requests

def mayRun : Except String GatewayObservation → Bool
  | .error _ => true
  | .ok observation => observation.running

def isSeenRunning : Except String GatewayObservation → Bool
  | .error _ => false
  | .ok observation => observation.installed && observation.runningKnown && observation.running

def RestartsExternal (managed : Bool) (known : GatewayRequest × ControllerAnswers) : Prop :=
  managed = false ∧ known.1 = .control .restart true ∧ isSeenRunning known.2.before = true ∧
    known.2.result.isOk = true ∧ mayRun known.2.after = true

section Inspect

variable (observed : Except String GatewayObservation) (probe other : ProbeAnswer) (managed : Bool)

/-- What the probe answers does not change the flag. -/
theorem inspect_managed :
    (inspect observed probe managed).managed = (managed && mayRun observed) := by
  cases observed with
  | error problem => simp [inspect, mayRun]
  | ok observation =>
    simp only [inspect, mayRun]
    split_ifs <;> rfl

/-- The Gateway is looked at without an error, and it is known whether it runs. -/
def Outcome.isClear (outcome : Outcome) : Bool :=
  outcome.error.isNone && outcome.status.state ≠ .unknown

theorem inspect_same :
    (inspect observed probe managed).isClear = (inspect observed other managed).isClear ∧
    (inspect observed probe managed).status.installed =
      (inspect observed other managed).status.installed ∧
    (inspect observed probe managed).status.running =
      (inspect observed other managed).status.running := by
  cases observed with
  | error problem => exact ⟨rfl, rfl, rfl⟩
  | ok observation =>
    simp only [inspect]
    split_ifs <;> exact ⟨rfl, rfl, rfl⟩

theorem isSeenRunning_of_status (clear : (inspect observed probe managed).isClear = true)
    (installed : (inspect observed probe managed).status.installed = true)
    (running : (inspect observed probe managed).status.running = true) :
    isSeenRunning observed = true := by
  cases observed with
  | error problem => cases installed
  | ok observation =>
    simp only [inspect] at clear installed running
    simp only [isSeenRunning, Bool.and_eq_true]
    split_ifs at clear installed running with absent uncertain stopped owned <;>
      simp_all [statusOf, uncertainStatus, Outcome.isClear]

theorem inspect_of_isSeenRunning (running : isSeenRunning observed = true) :
    (inspect observed probe managed).isClear = true ∧
    (inspect observed probe managed).status.installed = true ∧
    (inspect observed probe managed).status.running = true ∧
    (inspect observed probe managed).status.managed =
      (managed || probeScheduledTaskOwnership probe) := by
  cases observed with
  | error problem => cases running
  | ok observation =>
    simp only [isSeenRunning, Bool.and_eq_true] at running
    obtain ⟨⟨installed, isKnown⟩, isRunning⟩ := running
    cases managed <;> cases proved : probeScheduledTaskOwnership probe <;>
      simp [inspect, statusOf, installed, isKnown, isRunning, proved, Outcome.isClear]

end Inspect

section Control

variable (answers : ControllerAnswers) (probes : ProbeAnswers)

def acts (before : Outcome) : GatewayAction → Bool
  | .start => before.status.installed && !before.status.running
  | .stop => before.status.running
  | .restart => before.status.installed
  | .other _ => false

def newFlag (before : Outcome) : GatewayAction → Bool
  | .start => true
  | .stop => false
  | .restart => before.status.managed || !before.status.running
  | .other _ => false

theorem act_managed (before : Outcome) (managed : Bool) :
    (act answers probes before managed).managed =
      if answers.result.isOk then managed && mayRun answers.after else before.managed := by
  unfold act
  cases answers.result with
  | error problem => rfl
  | ok done => exact inspect_managed _ _ _

theorem control_managed (action : GatewayAction) (confirm managed : Bool) :
    (control answers probes action confirm managed).managed =
      if confirm && (inspect answers.before probes.before managed).isClear &&
          acts (inspect answers.before probes.before managed) action then
        (act answers probes (inspect answers.before probes.before managed)
          (newFlag (inspect answers.before probes.before managed) action)).managed
      else (inspect answers.before probes.before managed).managed := by
  unfold control
  generalize inspect answers.before probes.before managed = before
  cases failed : before.error with
  | some problem => simp [Outcome.isClear, failed]
  | none =>
    by_cases uncertain : before.status.state = .unknown
    · simp [Outcome.isClear, failed, uncertain]
    · have clear : before.isClear = true := by simp [Outcome.isClear, failed, uncertain]
      cases confirm <;> cases action <;> simp only [acts, newFlag] <;> grind

variable {managed : Bool} {known : GatewayRequest × ControllerAnswers}

theorem flagStep_of_restartsExternal (restarts : RestartsExternal managed known) :
    flagStep managed known probes = probeScheduledTaskOwnership probes.before := by
  obtain ⟨request, answers⟩ := known
  obtain ⟨rfl, rfl, running, succeeds, runs⟩ := restarts
  obtain ⟨clear, installed, isRunning, owned⟩ :=
    inspect_of_isSeenRunning answers.before probes.before false running
  simp only [flagStep, perform, control_managed, act_managed, clear, acts, installed, newFlag,
    isRunning, owned, succeeds, runs]
  simp

theorem flagStep_of_not_restartsExternal (other : ¬ RestartsExternal managed known)
    (otherProbes : ProbeAnswers) :
    flagStep managed known probes = flagStep managed known otherProbes := by
  obtain ⟨request, answers⟩ := known
  cases request with
  | status =>
    simp only [flagStep, perform]
    rw [inspect_managed, inspect_managed]
  | control action confirm =>
    obtain ⟨sameClear, sameInstalled, sameRunning⟩ :=
      inspect_same answers.before probes.before otherProbes.before managed
    have sameFlag := inspect_managed answers.before probes.before managed
    have sameOtherFlag := inspect_managed answers.before otherProbes.before managed
    simp only [flagStep, perform, control_managed, act_managed]
    rw [sameFlag, sameOtherFlag]
    have sameActs : acts (inspect answers.before probes.before managed) action =
        acts (inspect answers.before otherProbes.before managed) action := by
      cases action <;> simp only [acts, sameInstalled, sameRunning]
    rw [sameClear, sameActs]
    split_ifs with isActing succeeds
    · cases action with
      | start | stop | other => rfl
      | restart =>
        simp only [Bool.and_eq_true, acts] at isActing
        obtain ⟨⟨confirmed, clear⟩, installed⟩ := isActing
        simp only [newFlag]
        rw [sameRunning]
        cases runs : mayRun answers.after with
        | false => rw [Bool.and_false, Bool.and_false]
        | true =>
          cases running : (inspect answers.before otherProbes.before managed).status.running with
          | false => rw [Bool.not_false, Bool.or_true, Bool.or_true]
          | true =>
            have seen := isSeenRunning_of_status _ _ _ clear installed running
            have launched : managed = true := eq_true_of_ne_false fun notLaunched =>
              other ⟨notLaunched, by rw [confirmed], seen, succeeds, runs⟩
            have isManaged (probe : ProbeAnswer) :=
              (inspect_of_isSeenRunning answers.before probe managed seen).2.2.2
            rw [isManaged, isManaged, launched]
            simp only [Bool.true_or]
    · rfl
    · rfl

theorem flagStep_eq_iff (managed : Bool) (known : GatewayRequest × ControllerAnswers)
    (one other : ProbeAnswers) : flagStep managed known one = flagStep managed known other ↔
      ¬ (RestartsExternal managed known ∧
        probeScheduledTaskOwnership one.before ≠ probeScheduledTaskOwnership other.before) := by
  by_cases restarts : RestartsExternal managed known
  · rw [flagStep_of_restartsExternal one restarts, flagStep_of_restartsExternal other restarts]
    simp [restarts]
  · have same := flagStep_of_not_restartsExternal one restarts other
    simp [restarts, same]

end Control

/-- The flag is the same in two runs exactly when no confirmed restart of an external Gateway
succeeds while only one of the probes proves the ownership. -/
theorem sameFlags_iff (requests : PairedRequests) :
    flags (first requests) = flags (second requests) ↔
      SecretInputs.EveryStep flagStep (fun managed known one other =>
        ¬ (RestartsExternal managed known ∧ probeScheduledTaskOwnership one.before ≠
          probeScheduledTaskOwnership other.before)) false requests := by
  unfold flags
  rw [states_eq_iff]
  exact everyStep_congr flagStep_eq_iff

def runningGateway : GatewayObservation where
  installed := true
  command := "openclaw"
  version := "2026.7.1-2"
  running := true
  runningKnown := true
  health := .healthy
  message := "Gateway 正在运行且健康"

def provenTask : ScheduledTaskObservation := ⟨.longHub, true, true, true, true, ""⟩

/-- An external Gateway is restarted; in the first run a probe proves the ownership, and
there is none in the second. -/
def restartedRequests : PairedRequests :=
  [((.control .restart true, ⟨.ok runningGateway, .ok (), .ok runningGateway⟩),
    ⟨some (.ok provenTask), some (.ok provenTask)⟩, ⟨none, none⟩)]

theorem not_sameFlags : ¬ ∀ requests : PairedRequests,
    flags (first requests) = flags (second requests) := by
  intro same
  have differ : flags (first restartedRequests) ≠
      flags (second restartedRequests) := by decide
  exact differ (same restartedRequests)

end ManagerGateway

end LongHub
