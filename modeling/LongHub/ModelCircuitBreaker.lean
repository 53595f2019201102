import LongHub.GuardedRun
import LongHub.CloudTaskStore
import Mathlib.Data.Int.Order.Basic
import Mathlib.Order.Basic

/-!
# The circuit breaker of the model gateway

The gateway counts the upstream failures of each model configuration.
-/

namespace LongHub

open List Option

structure ModelGatewayConfigRecord where
  configId : String
  fallbackConfigId : Option String
  maxRetries : Nat
  circuitBreakerThreshold : Nat
  circuitBreakerCooldownMs : Nat
  deviceRequestsPerMinute : Nat
  deviceDailyTokens : Nat
  tenantMonthlyTokens : Nat
  maxDeviceConcurrency : Nat
  inputCostMicrounitsPerMillion : Nat
  outputCostMicrounitsPerMillion : Nat
  cacheCostMicrounitsPerMillion : Nat
  threshold_pos : 1 ≤ circuitBreakerThreshold
  cooldown_pos : 1000 ≤ circuitBreakerCooldownMs

structure ModelCircuitState where
  failures : Nat
  openUntil : Instant

abbrev ModelCircuitStates := InsertionMap String ModelCircuitState

variable (states : ModelCircuitStates)

variable (config : ModelGatewayConfigRecord)

/-- A circuit whose time has passed is deleted when it is looked at. -/
def circuitOpen (now : Instant) : Bool × ModelCircuitStates :=
  match states.get? config.configId with
  | none => (false, states)
  | some state =>
    if state.openUntil ≤ now then (false, states.delete config.configId)
    else (true, states)

def recordCircuitSuccess : ModelCircuitStates :=
  states.delete config.configId

def recordCircuitFailure (now : Instant) : ModelCircuitStates :=
  let current := (states.get? config.configId).getD ⟨0, 0⟩
  let failures := current.failures + 1
  states.set config.configId ⟨failures,
    if config.circuitBreakerThreshold ≤ failures then now + config.circuitBreakerCooldownMs
    else 0⟩

inductive CircuitAction where
  | check
  | success
  | failure
  deriving DecidableEq

structure CircuitEvent where
  action : CircuitAction
  config : ModelGatewayConfigRecord
  time : Instant

namespace CircuitEvent

def apply (states : ModelCircuitStates) (event : CircuitEvent) : ModelCircuitStates :=
  match event.action with
  | .check => (circuitOpen states event.config event.time).2
  | .success => recordCircuitSuccess states event.config
  | .failure => recordCircuitFailure states event.config event.time

def isOf (action : CircuitAction) (configId : String) (event : CircuitEvent) : Bool :=
  event.action = action && event.config.configId = configId

end CircuitEvent

def circuitsAfter (events : List CircuitEvent) : ModelCircuitStates :=
  events.foldl CircuitEvent.apply .empty

theorem circuitsAfter_append_singleton (events : List CircuitEvent) (event : CircuitEvent) :
    circuitsAfter (events ++ [event]) = event.apply (circuitsAfter events) := by
  simp [circuitsAfter]

def retryableUpstreamStatus (status : Nat) : Bool := status = 429 || 500 ≤ status

inductive UpstreamReply where
  | response (status : Nat)
  | failed
  | aborted

/-- The candidates that are left and the attempts at the first. -/
structure ModelRequest where
  candidates : List ModelGatewayConfigRecord
  attempt : Nat

namespace ModelRequest

def nextCandidate (request : ModelRequest) : ModelRequest := ⟨request.candidates.tail, 0⟩

def retry (request : ModelRequest) : ModelRequest :=
  { request with attempt := request.attempt + 1 }

def finished : ModelRequest := ⟨[], 0⟩

def afterReply (candidate : ModelGatewayConfigRecord) (request : ModelRequest) :
    UpstreamReply → Option CircuitAction × ModelRequest
  | .aborted => (none, finished)
  | .failed =>
    if request.attempt = candidate.maxRetries then (some .failure, request.nextCandidate)
    else (none, request.retry)
  | .response status =>
    if retryableUpstreamStatus status &&
        (request.attempt < candidate.maxRetries || request.candidates.tail.length ≠ 0) then
      if request.attempt = candidate.maxRetries then
        (some .failure, request.nextCandidate)
      else (none, request.retry)
    else if 200 ≤ status && status < 300 then (some .success, finished)
    else if retryableUpstreamStatus status then (some .failure, finished)
    else (none, finished)

end ModelRequest

structure ModelGateway where
  circuits : ModelCircuitStates
  requests : List ModelRequest
  clock : Instant
  history : List CircuitEvent

/-- What may happen next. -/
inductive GatewayAction where
  | arrive (configId : String) (fallbackUsable : Bool) (now : Instant)
  | reply (index : Nat) (reply : UpstreamReply) (now : Instant)
  | abandon (index : Nat)

namespace ModelGateway

def initial : ModelGateway := ⟨.empty, [], 0, []⟩

def record (gateway : ModelGateway) (event : CircuitEvent) : ModelGateway :=
  { gateway with
    circuits := event.apply gateway.circuits
    clock := event.time
    history := gateway.history ++ [event] }

def configOf (configs : List ModelGatewayConfigRecord) (configId : String) :
    Option ModelGatewayConfigRecord :=
  configs.find? fun config => config.configId = configId

def fallbackOf (configs : List ModelGatewayConfigRecord)
    (config : ModelGatewayConfigRecord) : Option ModelGatewayConfigRecord := do
  let fallbackId ← config.fallbackConfigId
  if fallbackId = "" || fallbackId = config.configId then none
  else configOf configs fallbackId

def candidatesOf (config : ModelGatewayConfigRecord)
    (usableFallback : Option ModelGatewayConfigRecord) (isOpen : Bool) :
    List ModelGatewayConfigRecord :=
  if isOpen then usableFallback.toList else config :: usableFallback.toList

def step (configs : List ModelGatewayConfigRecord) (gateway : ModelGateway) :
    GatewayAction → Option ModelGateway
  | .arrive configId fallbackUsable now =>
    if now < gateway.clock then none
    else
      (configOf configs configId).map fun config =>
        let fallback := if fallbackUsable then fallbackOf configs config else none
        let isOpen := (circuitOpen gateway.circuits config now).1
        let checked := gateway.record ⟨.check, config, now⟩
        { checked with
          requests := gateway.requests ++ [⟨candidatesOf config fallback isOpen, 0⟩] }
  | .reply index reply now =>
    if now < gateway.clock then none
    else
      match gateway.requests[index]? with
      | some request =>
        request.candidates.head?.map fun candidate =>
          let (recorded, next) := request.afterReply candidate reply
          let told := match recorded with
            | some action => gateway.record ⟨action, candidate, now⟩
            | none => { gateway with clock := now }
          { told with requests := gateway.requests.set index next }
      | none => none
  | .abandon index =>
    some { gateway with requests := gateway.requests.set index ModelRequest.finished }

/-- The circuits follow from the events, which are in order of time. -/
structure Recorded (configs : List ModelGatewayConfigRecord) (gateway : ModelGateway) :
    Prop where
  circuits_eq : gateway.circuits = circuitsAfter gateway.history
  ordered : gateway.history.Pairwise fun earlier later => earlier.time ≤ later.time
  passed : ∀ event ∈ gateway.history, event.time ≤ gateway.clock
  nonneg : ∀ event ∈ gateway.history, 0 ≤ event.time
  clock_nonneg : 0 ≤ gateway.clock
  stored : ∀ event ∈ gateway.history, configOf configs event.config.configId = some event.config
  candidates : ∀ request ∈ gateway.requests, ∀ candidate ∈ request.candidates,
    configOf configs candidate.configId = some candidate

variable {configs : List ModelGatewayConfigRecord} {gateway next : ModelGateway}

theorem configOf_self {configId : String} {config : ModelGatewayConfigRecord}
    (found : configOf configs configId = some config) :
    configOf configs config.configId = some config := by
  have named := find?_some found
  rwa [of_decide_eq_true named]

theorem configOf_fallback {config fallback : ModelGatewayConfigRecord}
    (found : fallbackOf configs config = some fallback) :
    configOf configs fallback.configId = some fallback := by
  simp only [fallbackOf, bind_eq_bind, bind_eq_some_iff] at found
  obtain ⟨fallbackId, -, found⟩ := found
  split at found
  · cases found
  · exact configOf_self found

theorem Recorded.record (recorded : gateway.Recorded configs) {event : CircuitEvent}
    (later : gateway.clock ≤ event.time)
    (known : configOf configs event.config.configId = some event.config) :
    (gateway.record event).Recorded configs where
  circuits_eq := by
    simp only [ModelGateway.record, circuitsAfter_append_singleton, recorded.circuits_eq]
  ordered := by
    simp only [ModelGateway.record, pairwise_append, pairwise_singleton,
      mem_singleton, forall_eq, true_and]
    exact ⟨recorded.ordered, fun earlier mem =>
      (recorded.passed earlier mem).trans later⟩
  passed := by
    simp only [ModelGateway.record, mem_append, mem_singleton]
    rintro earlier (mem | rfl)
    · exact (recorded.passed earlier mem).trans later
    · exact le_rfl
  nonneg := by
    simp only [ModelGateway.record, mem_append, mem_singleton]
    rintro earlier (mem | rfl)
    · exact recorded.nonneg earlier mem
    · exact recorded.clock_nonneg.trans later
  clock_nonneg := recorded.clock_nonneg.trans later
  stored := by
    simp only [ModelGateway.record, mem_append, mem_singleton]
    rintro earlier (mem | rfl)
    · exact recorded.stored earlier mem
    · exact known
  __ := recorded

/-- The clock moves on without an event. -/
theorem Recorded.wait (recorded : gateway.Recorded configs) {now : Instant}
    (later : gateway.clock ≤ now) : ({ gateway with clock := now }).Recorded configs where
  __ := recorded
  passed := fun event mem => (recorded.passed event mem).trans later
  clock_nonneg := recorded.clock_nonneg.trans later

theorem Recorded.withRequests (recorded : gateway.Recorded configs) {requests : List ModelRequest}
    (candidates : ∀ request ∈ requests, ∀ candidate ∈ request.candidates,
      configOf configs candidate.configId = some candidate) :
    ({ gateway with requests := requests }).Recorded configs :=
  { recorded with candidates := candidates }

theorem candidates_afterReply {request : ModelRequest}
    {candidate remaining : ModelGatewayConfigRecord} {reply : UpstreamReply}
    (mem : remaining ∈ (request.afterReply candidate reply).2.candidates) :
    remaining ∈ request.candidates := by
  have dropped : remaining ∈ request.nextCandidate.candidates → remaining ∈ request.candidates :=
    mem_of_mem_tail
  have none_left : remaining ∉ ModelRequest.finished.candidates := by
    simp [ModelRequest.finished]
  cases reply with
  | aborted => exact absurd mem none_left
  | failed =>
    simp only [ModelRequest.afterReply] at mem
    split at mem
    · exact dropped mem
    · exact mem
  | response status =>
    simp only [ModelRequest.afterReply] at mem
    split at mem
    · split at mem
      · exact dropped mem
      · exact mem
    · split at mem
      · exact absurd mem none_left
      · split at mem <;> exact absurd mem none_left

theorem Recorded.step (recorded : gateway.Recorded configs) {action : GatewayAction}
    (stepTo : gateway.step configs action = some next) : next.Recorded configs := by
  cases action with
  | arrive configId fallbackUsable now =>
    simp only [ModelGateway.step] at stepTo
    split at stepTo
    · cases stepTo
    next onTime =>
    simp only [map_eq_some_iff] at stepTo
    obtain ⟨config, found, rfl⟩ := stepTo
    have known := configOf_self found
    have checked : (gateway.record ⟨.check, config, now⟩).Recorded configs :=
      recorded.record (not_lt.mp onTime) known
    apply checked.withRequests
    intro request mem candidate tried
    rcases mem_append.mp mem with earlier | arrived
    · exact recorded.candidates request earlier candidate tried
    · rw [mem_singleton.mp arrived] at tried
      have fallbackKnown : ∀ fallback ∈ (if fallbackUsable then fallbackOf configs config
          else none).toList, configOf configs fallback.configId = some fallback := by
        intro fallback usable
        split at usable
        · exact configOf_fallback (mem_toList.mp usable)
        · simp at usable
      simp only [candidatesOf] at tried
      split at tried
      · exact fallbackKnown candidate tried
      · rcases mem_cons.mp tried with rfl | usable
        · exact known
        · exact fallbackKnown candidate usable
  | reply index reply now =>
    simp only [ModelGateway.step] at stepTo
    split at stepTo
    · cases stepTo
    next onTime =>
    split at stepTo
    case h_2 => cases stepTo
    next request found =>
    simp only [map_eq_some_iff] at stepTo
    obtain ⟨candidate, current, rfl⟩ := stepTo
    have mem := mem_of_getElem? found
    have known := recorded.candidates request mem candidate (mem_of_mem_head? current)
    have told : (match (request.afterReply candidate reply).1 with
        | some action => gateway.record ⟨action, candidate, now⟩
        | none => { gateway with clock := now }).Recorded configs := by
      split
      · exact recorded.record (not_lt.mp onTime) known
      · exact recorded.wait (not_lt.mp onTime)
    apply told.withRequests
    intro other otherMember remaining left
    rcases mem_or_eq_of_mem_set otherMember with before | rfl
    · exact recorded.candidates other before remaining left
    · exact recorded.candidates request mem remaining (candidates_afterReply left)
  | abandon index =>
    cases stepTo
    apply recorded.withRequests
    intro other otherMember remaining left
    rcases mem_or_eq_of_mem_set otherMember with before | rfl
    · exact recorded.candidates other before remaining left
    · simp [ModelRequest.finished] at left

theorem recorded_initial : ModelGateway.initial.Recorded configs where
  circuits_eq := rfl
  ordered := List.Pairwise.nil
  passed := by simp [ModelGateway.initial]
  nonneg := by simp [ModelGateway.initial]
  clock_nonneg := le_rfl
  stored := by simp [ModelGateway.initial]
  candidates := by simp [ModelGateway.initial]

abbrev Run (configs : List ModelGatewayConfigRecord) : ModelGateway → Prop :=
  GuardedRun (ModelGateway.step configs) (fun _ _ => True) ModelGateway.initial

theorem Run.of_actions (actions : List GatewayAction)
    (runs : runActions (ModelGateway.step configs) ModelGateway.initial actions = some gateway) :
    Run configs gateway :=
  GuardedRun.of_runActions (fun _ _ => trivial) runs

theorem Run.recorded (run : Run configs gateway) : gateway.Recorded configs :=
  run.invariant (Recorded configs) recorded_initial
    fun _ _ _ recorded _ stepTo => recorded.step stepTo

end ModelGateway

end LongHub
