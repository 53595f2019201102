import LongHub.AsyncProgram

/-!
# The manager of the Gateway

A start, a stop and a restart hold the action lock while they inspect the process, act on it and
inspect it again.
-/

namespace LongHub

namespace Gateway

inductive GatewayState where
  | notInstalled
  | installedStopped
  | runningExternal
  | runningManaged
  | unknown
  deriving DecidableEq

inductive GatewayHealth where
  | unknown
  | healthy
  | unhealthy
  deriving DecidableEq

structure GatewayObservation where
  installed : Bool
  command : String
  version : String
  running : Bool
  runningKnown : Bool
  health : GatewayHealth
  message : String

structure GatewayStatus where
  state : GatewayState
  health : GatewayHealth
  installed : Bool
  running : Bool
  managed : Bool
  command : String
  version : String
  message : String
  errorCode : String
  deriving DecidableEq

inductive TaskOwnership where
  | unknown
  | external
  | longHub
  deriving DecidableEq

structure TaskObservation where
  ownership : TaskOwnership
  taskPathValid : Bool
  markerValid : Bool
  actionValid : Bool

inductive GatewayError where
  | confirmationRequired
  | externalGateway
  | notInstalled
  | inspectionFailed
  | actionFailed
  | notAllowed (action : String)

inductive GatewayAction where
  | start
  | stop
  | restart
  | other (action : String)
  deriving DecidableEq

def GatewayAction.closes : GatewayAction → Bool
  | stop | restart => true
  | start | other _ => false

/-- The steps of the requests. -/
inductive GatewayCall where
  | lock
  | inspect
  | isManaged
  | setManaged (value : Bool)
  | inspectOwnership
  | start
  | stop
  | restart
  | begin (action : GatewayAction)
  | release (action : GatewayAction) (confirm succeeded : Bool)
  | beginStatus
  | endStatus (period : Option Nat) (status : GatewayStatus)

@[reducible]
def GatewayCall.Answer : GatewayCall → Type
  | inspect => Option GatewayObservation
  | inspectOwnership => Option TaskObservation
  | isManaged | start | stop | restart => Bool
  | beginStatus => Option Nat
  | lock | setManaged _ | begin _ | release .. | endStatus .. => Unit

abbrev GatewayProgram := Program GatewayCall GatewayCall.Answer Empty

def callGateway (request : GatewayCall) : GatewayProgram request.Answer := Program.perform request

/-- The answer when the controller could not inspect the process. -/
def unavailableStatus : GatewayStatus where
  state := .unknown
  health := .unknown
  installed := false
  running := false
  managed := false
  command := ""
  version := ""
  message := "无法读取 Gateway 状态"
  errorCode := "GATEWAY_STATUS_UNAVAILABLE"

variable (observation : GatewayObservation)

def unknownStatus : GatewayStatus where
  state := .unknown
  health := .unknown
  installed := true
  running := false
  managed := false
  command := observation.command
  version := observation.version
  message := "无法确认 Gateway 是否运行"
  errorCode := "GATEWAY_STATUS_UNAVAILABLE"

def GatewayObservation.status (state : GatewayState) (managed : Bool) : GatewayStatus where
  state := state
  health := observation.health
  installed := observation.installed
  running := observation.running
  managed := managed && observation.running
  command := observation.command
  version := observation.version
  message := observation.message
  errorCode := ""

def ownsTask (observation : Option TaskObservation) : Bool :=
  observation.any fun found =>
    found.ownership == .longHub && found.taskPathValid && found.markerValid && found.actionValid

def probeScheduledTaskOwnership : GatewayProgram Bool := do
  let observation ← callGateway .inspectOwnership
  return ownsTask observation

def classify (managed : Bool) : GatewayProgram GatewayStatus :=
  if !observation.installed then return observation.status .notInstalled managed
  else if !observation.runningKnown then return unknownStatus observation
  else if observation.running && managed then return observation.status .runningManaged managed
  else if observation.running then do
    if ← probeScheduledTaskOwnership then return observation.status .runningManaged true
    else return observation.status .runningExternal managed
  else return observation.status .installedStopped managed

/-- `inspect`; the flag of ownership is read and written apart from the observation. -/
def inspect : GatewayProgram (GatewayStatus × Option GatewayError) := do
  match ← callGateway .inspect with
  | none => return (unavailableStatus, some .inspectionFailed)
  | some observation =>
    let managed ← callGateway .isManaged
    if observation.running then
      let status ← classify observation managed
      return (status, none)
    else
      callGateway (.setManaged false)
      let status ← classify observation false
      return (status, none)

inductive ActionResult where
  | returned (error : Option GatewayError)
  | acted

variable (before : GatewayStatus)

variable (confirm : Bool)

def controlStart : GatewayProgram ActionResult :=
  if !before.installed then return .returned (some .notInstalled)
  else if before.running then return .returned none
  else if !confirm then return .returned (some .confirmationRequired)
  else do
    if ← callGateway .start then
      callGateway (.setManaged true)
      return .acted
    else return .returned (some .actionFailed)

def controlStop : GatewayProgram ActionResult :=
  if !before.running then return .returned none
  else if !before.managed && !confirm then return .returned (some .externalGateway)
  else if !confirm then return .returned (some .confirmationRequired)
  else do
    if ← callGateway .stop then
      callGateway (.setManaged false)
      return .acted
    else return .returned (some .actionFailed)

def controlRestart : GatewayProgram ActionResult :=
  if !before.installed then return .returned (some .notInstalled)
  else if !confirm then
    if !before.managed && before.running then return .returned (some .externalGateway)
    else return .returned (some .confirmationRequired)
  else do
    if ← callGateway .restart then
      callGateway (.setManaged (before.managed || !before.running))
      return .acted
    else return .returned (some .actionFailed)

def controlAction : GatewayAction → GatewayProgram ActionResult
  | .start => controlStart before confirm
  | .stop => controlStop before confirm
  | .restart => controlRestart before confirm
  | .other action => return .returned (some (.notAllowed action))

def controlLocked (action : GatewayAction) (confirm : Bool) :
    GatewayProgram (GatewayStatus × Option GatewayError) := do
  let (before, error) ← inspect
  match error with
  | some error => return (before, some error)
  | none =>
    if before.state = .unknown then return (before, some .inspectionFailed)
    else
      match ← controlAction before confirm action with
      | .returned error => return (before, error)
      | .acted => inspect

def control (action : GatewayAction) (confirm : Bool) : GatewayProgram Unit := do
  callGateway (.begin action)
  callGateway .lock
  let (_, error) ← controlLocked action confirm
  callGateway (.release action confirm error.isNone)

def status : GatewayProgram Unit := do
  let period ← callGateway .beginStatus
  let (status, _) ← inspect
  callGateway (.endStatus period status)

inductive GatewayRequest where
  | status
  | control (action : GatewayAction) (confirm : Bool)

def GatewayRequest.program : GatewayRequest → GatewayProgram Unit
  | .status => Gateway.status
  | .control action confirm => Gateway.control action confirm

structure StatusReport where
  owned : Bool
  status : GatewayStatus
  deriving DecidableEq

/-- The process, the flag and the lock. -/
structure GatewayWorld where
  running : Bool
  managed : Bool
  holder : Option Nat
  owned : Bool
  closing : List Nat
  closings : Nat
  reports : List StatusReport

def GatewayWorld.initial : GatewayWorld where
  running := false
  managed := false
  holder := none
  owned := false
  closing := []
  closings := 0
  reports := []

/-- What the controller and the probe answer. -/
structure GatewayChoice where
  fails : Bool
  observation : GatewayObservation
  task : Option TaskObservation
  runs : Bool

/-- The process as it is; an installation is found where it runs. -/
def GatewayWorld.observe (world : GatewayWorld) (observation : GatewayObservation) :
    GatewayObservation :=
  { observation with
    installed := observation.installed || world.running
    running := world.running
    runningKnown := true }

/-- An action of the controller that leaves the process running or stopped. -/
def GatewayWorld.act (world : GatewayWorld) (choice : GatewayChoice) (runs : Bool) :
    Bool × GatewayWorld :=
  (!choice.fails, { world with running := if choice.fails then choice.runs else runs })

@[grind =]
def performGateway (thread : Nat) (choice : GatewayChoice) (world : GatewayWorld) :
    (request : GatewayCall) → Option (request.Answer × GatewayWorld)
  | .lock => if world.holder = none then some ((), { world with holder := some thread }) else none
  | .inspect =>
    some (if choice.fails then none else some (world.observe choice.observation), world)
  | .isManaged => some (world.managed, world)
  | .setManaged value => some ((), { world with managed := value })
  | .inspectOwnership => some (choice.task, world)
  | .start => some (world.act choice true)
  | .stop => some (world.act choice false)
  | .restart => some (world.act choice true)
  | .begin action =>
    some ((), if action.closes then
      { world with
        owned := false, closing := thread :: world.closing, closings := world.closings + 1 }
    else world)
  | .release action confirm succeeded =>
    some ((), { world with
      holder := none
      owned := world.owned || (action == .start && confirm && succeeded && world.closing.isEmpty)
      closing := world.closing.filter (· ≠ thread) })
  | .beginStatus => some (if world.owned then some world.closings else none, world)
  | .endStatus period status =>
    some ((), { world with
      reports := ⟨period == some world.closings, status⟩ :: world.reports })

def gatewayMachine : Machine GatewayWorld GatewayCall GatewayCall.Answer Empty GatewayChoice
    GatewayRequest Empty where
  perform thread request choice world :=
    (performGateway thread choice world request).map fun outcome => (.ok outcome.1, outcome.2)
  program := GatewayRequest.program
  environment event _ := event.elim

end Gateway

end LongHub
