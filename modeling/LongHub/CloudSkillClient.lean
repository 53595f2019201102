import LongHub.CrashSafety
import LongHub.JsonReader

/-!
# The client of the OpenClaw Cloud plugin

A call reads the device token from the vault, creates a task and polls it until its status is
terminal.
-/

namespace LongHub

namespace CloudPlugin

def maxResponseBytes : Nat := 1024 * 1024

inductive ClientError where
  | cloudSkill (code : String) (retryable : Bool) (requestId : Option String)
  | vaultFailed
  | fetchFailed
  | aborted
  | notJson
  | notObject
  | stillPolling

def requestCancelled : ClientError := .cloudSkill "REQUEST_CANCELLED" false none

inductive ClientRequest where
  | createTask
  | readTask (taskId : String)
  | cancelTask (taskId : String)

/-- What happens at an await, and the reads and writes of the variables in between. -/
inductive ClientCall where
  | readVault
  | listen
  | fetch (request : ClientRequest)
  | readBody
  | delay
  | cancelTask (taskId : String)
  | setTaskId (taskId : String)
  | getTaskId
  | isControllerAborted
  | isCallerAborted
  | unlisten

@[reducible]
def ClientCall.Answer : ClientCall → Type
  | readVault => Option String
  | fetch _ => Nat
  | readBody => List Char
  | getTaskId => Option String
  | isControllerAborted | isCallerAborted => Bool
  | listen | delay | cancelTask _ | setTaskId _ | unlisten => Unit

abbrev ClientProgram := Program ClientCall ClientCall.Answer ClientError

def callClient (request : ClientCall) : ClientProgram request.Answer := Program.perform request

def property (value : JsonValue) (key : String) : Except ClientError (Option JsonValue) :=
  match value with
  | .null => .error .notObject
  | .record fields => .ok (fields.lookup key)
  | _ => .ok none

def parseAnswer (body : List Char) : Except ClientError JsonValue :=
  Except.require (JsonValue.parse body) .notJson

/-- The pattern `[A-Z][A-Z0-9_]{2,63}`. -/
def isErrorCode (text : List Char) : Bool :=
  text.head?.any Char.isUpper && 3 ≤ text.length && text.length ≤ 64 &&
    text.all fun char => char.isUpper || char.isDigit || char = '_'

def textProperty (value : JsonValue) (key : String) : Option String :=
  match property value key with
  | .ok (some (.text content)) => some content
  | _ => none

def isTrueProperty (value : JsonValue) (key : String) : Bool :=
  match property value key with
  | .ok (some (.bool true)) => true
  | _ => false

def errorFromResponse (status : Nat) (body : List Char) : ClientError :=
  match JsonValue.parse body with
  | none | some .null =>
    .cloudSkill (if 500 ≤ status then "CLOUD_API_UNAVAILABLE" else "CLOUD_API_REJECTED")
      (500 ≤ status) none
  | some value =>
    let code := (textProperty value "code").filter fun code => isErrorCode code.toList
    .cloudSkill (code.getD "CLOUD_API_REJECTED")
      (isTrueProperty value "retryable" || 500 ≤ status) (textProperty value "request_id")

def acceptAnswer (status : Nat) (body : List Char) : Except ClientError JsonValue := do
  Except.ensure (200 ≤ status && status ≤ 299) (errorFromResponse status body)
  parseAnswer body

def terminal (status : Option JsonValue) : Bool :=
  match status with
  | some (.text content) => ["succeeded", "failed", "cancelled", "timed_out"].contains content
  | _ => false

def taskOutcome (task : JsonValue) : Except ClientError (Option JsonValue) :=
  match textProperty task "status" with
  | some "succeeded" => property task "output"
  | status =>
    let detail := match property task "error" with
      | .ok (some detail) => detail
      | _ => .null
    .error (.cloudSkill ((textProperty detail "code").getD ("TASK_" ++ (status.getD "").toUpper))
      (isTrueProperty detail "retryable") none)

/-- Send a request and read the answer. -/
def exchange (request : ClientRequest) : ClientProgram JsonValue := do
  let status ← callClient (.fetch request)
  let body ← callClient .readBody
  .ofExcept (acceptAnswer status body)

def poll (taskId : String) : Nat → JsonValue → ClientProgram JsonValue
  | polls, task => do
    let status ← .ofExcept (property task "status")
    if terminal status then return task
    else
      match polls with
      | 0 => .throw .stillPolling
      | polls + 1 =>
        callClient .delay
        let next ← exchange (.readTask taskId)
        poll taskId polls next

def requireTaskId (task : JsonValue) : Except ClientError String := do
  match ← property task "task_id" with
  | some (.text taskId) => return taskId
  | _ => .error (.cloudSkill "INVALID_CLOUD_RESPONSE" false none)

/-- The part of `execute` that can be aborted. -/
def runTask (polls : Nat) : ClientProgram (Option JsonValue) := do
  let task ← exchange .createTask
  let taskId ← .ofExcept (requireTaskId task)
  callClient (.setTaskId taskId)
  let last ← poll taskId polls task
  .ofExcept (taskOutcome last)

def cancelKnownTask : ClientProgram Unit := do
  match ← callClient .getTaskId with
  | none => return ()
  | some taskId =>
    if taskId = "" then return ()
    else
      let _ ← Program.attempt (callClient (.cancelTask taskId))
      return ()

def handleFailure (error : ClientError) : ClientProgram (Option JsonValue) := do
  if ← callClient .isControllerAborted then
    cancelKnownTask
    if ← callClient .isCallerAborted then .throw requestCancelled
    else .throw (.cloudSkill "CLOUD_API_TIMEOUT" true none)
  else .throw error

/-- The call after the vault has been read. -/
def executeWithToken (polls : Nat) : ClientProgram (Option JsonValue) := do
  callClient .listen
  Program.tryFinally ((runTask polls).tryCatch handleFailure) (callClient .unlisten)

def execute (polls : Nat) : ClientProgram (Option JsonValue) := do
  match ← callClient .readVault with
  | none => .throw (.cloudSkill "DEVICE_CREDENTIAL_REQUIRED" false none)
  | some _ => executeWithToken polls

structure AbortPoint where
  listening : Bool
  taskId : Option String

/-- The state of a call. -/
structure ClientWorld where
  listening : Bool
  controllerAborted : Bool
  taskId : Option String
  abortPoint : Option AbortPoint
  sent : List (ClientRequest × Bool)

variable (world : ClientWorld)

def ClientWorld.callerAborted : Bool := world.abortPoint.isSome

def ClientWorld.start (callerAborted : Bool) : ClientWorld where
  listening := false
  controllerAborted := false
  taskId := none
  abortPoint := if callerAborted then some ⟨false, none⟩ else none
  sent := []

inductive AbortEvent where
  | caller
  | timeout

/-- The signal fires once; the call learns of it, and of the timeout, while it listens. -/
def ClientWorld.observe : AbortEvent → ClientWorld
  | .caller =>
    if world.callerAborted then world
    else { world with
      abortPoint := some ⟨world.listening, world.taskId⟩
      controllerAborted := world.controllerAborted || world.listening }
  | .timeout => { world with controllerAborted := world.controllerAborted || world.listening }

def ClientWorld.elapse (events : List AbortEvent) : ClientWorld :=
  events.foldl ClientWorld.observe world

/-- What happens while the call waits, and what comes of it. -/
structure ClientChoice where
  events : List AbortEvent
  fails : Bool
  token : Option String
  status : Nat
  text : List Char

def ClientWorld.send (request : ClientRequest) : ClientWorld :=
  { world with sent := world.sent ++ [(request, world.callerAborted)] }

/-- The outcome of an await that the controller makes fail. -/
def settle {α : Type} (world : ClientWorld) (abortError : ClientError)
    (outcome : Except ClientError α) : Except ClientError α × ClientWorld :=
  (if world.controllerAborted then .error abortError else outcome, world)

@[grind =]
def performClient (choice : ClientChoice) (world : ClientWorld) :
    (request : ClientCall) → Except ClientError request.Answer × ClientWorld
  | .readVault =>
    (if choice.fails then .error .vaultFailed else .ok choice.token, world.elapse choice.events)
  | .listen => (.ok (), { world with listening := true })
  | .fetch request =>
    if world.controllerAborted then (.error .aborted, world)
    else
      settle ((world.send request).elapse choice.events) .aborted
        (if choice.fails then .error .fetchFailed else .ok choice.status)
  | .readBody =>
    settle (world.elapse choice.events) .aborted (if choice.fails then .error .fetchFailed
      else if (String.ofList choice.text).utf8ByteSize ≤ maxResponseBytes then .ok choice.text
      else .error (.cloudSkill "RESPONSE_TOO_LARGE" false none))
  | .delay =>
    if world.controllerAborted then (.error requestCancelled, world)
    else settle (world.elapse choice.events) requestCancelled (.ok ())
  | .cancelTask taskId =>
    (if choice.fails then .error .fetchFailed else .ok (),
      (world.send (.cancelTask taskId)).elapse choice.events)
  | .setTaskId taskId => (.ok (), { world with taskId := some taskId })
  | .getTaskId => (.ok world.taskId, world)
  | .isControllerAborted => (.ok world.controllerAborted, world)
  | .isCallerAborted => (.ok world.callerAborted, world)
  | .unlisten => (.ok (), { world with listening := false })

def clientDevice : Device ClientWorld ClientCall ClientCall.Answer ClientError ClientChoice where
  perform request choice world := some (performClient choice world request)

end CloudPlugin

end LongHub
