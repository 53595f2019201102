import LongHub.ModelCircuitBreaker
import Mathlib.Data.List.Induction
import Mathlib.Tactic.Linarith

/-!
# When repeated failures keep the circuit open

A circuit is meant to open once as many failures in a row as the threshold have been recorded, and
to stay open for the cooldown.
-/

namespace LongHub

open Bool CircuitEvent InsertionMap List Option

def circuitAfter (configId : String) (events : List CircuitEvent) : Option ModelCircuitState :=
  (circuitsAfter events).get? configId

def CircuitEvent.resets (configId : String) (event : CircuitEvent)
    (entry : Option ModelCircuitState) : Bool :=
  event.isOf .check configId && entry.any fun state => state.openUntil ≤ event.time

structure FailureSeries (config : ModelGatewayConfigRecord)
    (series : List CircuitEvent) : Prop where
  starts : ∀ first ∈ series.head?, first.isOf .failure config.configId
  failures : series.countP (isOf .failure config.configId) + 1 =
    config.circuitBreakerThreshold
  noSuccess : ∀ event ∈ series, event.isOf .success config.configId = false

/-- Every check before the end of the cooldown finds the circuit open. -/
def StaysOpen (config : ModelGatewayConfigRecord) (opened : List CircuitEvent)
    (time : Instant) (later : List CircuitEvent) : Prop :=
  ∀ seen unseen, later = seen ++ unseen → ∀ now, time ≤ now →
    (∀ event ∈ seen, event.time ≤ now) → now < time + config.circuitBreakerCooldownMs →
    (circuitOpen (circuitsAfter (opened ++ seen)) config now).1 = true

/-- No check between the failures of a series finds an entry that is not open. -/
def KeepsCount (config : ModelGatewayConfigRecord) (front series : List CircuitEvent) : Prop :=
  ∀ before check rest, series = before ++ check :: rest →
    check.resets config.configId (circuitAfter config.configId (front ++ before)) = false

def NoSuccessDuring (config : ModelGatewayConfigRecord) (time : Instant)
    (later : List CircuitEvent) : Prop :=
  ∀ event ∈ later, event.isOf .success config.configId →
    time + config.circuitBreakerCooldownMs ≤ event.time

namespace CircuitEvent

variable {configId : String} {states : ModelCircuitStates} {event : CircuitEvent}

theorem get?_apply (configId : String) (states : ModelCircuitStates) (event : CircuitEvent) :
    (event.apply states).get? configId = if event.isOf .failure configId then
        some ⟨((states.get? configId).getD ⟨0, 0⟩).failures + 1,
          if event.config.circuitBreakerThreshold ≤
              ((states.get? configId).getD ⟨0, 0⟩).failures + 1 then
            event.time + event.config.circuitBreakerCooldownMs else 0⟩
      else if event.isOf .success configId || event.resets configId (states.get? configId) then none
      else states.get? configId := by
  obtain ⟨action, config, time⟩ := event
  by_cases same : config.configId = configId
  · subst same
    cases action with
    | success =>
      simp [apply, isOf, recordCircuitSuccess, get?_delete]
    | failure =>
      simp [apply, isOf, recordCircuitFailure, get?_set]
    | check =>
      simp only [apply, isOf, resets, circuitOpen]
      cases entry : states.get? config.configId with
      | none => simp [entry]
      | some state =>
        by_cases ended : state.openUntil ≤ time
        · simp [ended, get?_delete]
        · simp [ended, entry]
  · cases action with
    | success =>
      simp [apply, isOf, resets, recordCircuitSuccess, get?_delete, same, Ne.symm same]
    | failure =>
      simp [apply, isOf, resets, recordCircuitFailure, get?_set, same, Ne.symm same]
    | check =>
      simp only [apply, isOf, resets, circuitOpen]
      cases entry : states.get? config.configId with
      | none => simp [same]
      | some state =>
        by_cases ended : state.openUntil ≤ time
        · simp [ended, get?_delete, same, Ne.symm same]
        · simp [ended, same]

end CircuitEvent

theorem circuitAfter_append_singleton (configId : String) (events : List CircuitEvent)
    (event : CircuitEvent) : circuitAfter configId (events ++ [event]) =
      (event.apply (circuitsAfter events)).get? configId := by
  rw [circuitAfter, circuitsAfter_append_singleton]

theorem circuitOpen_iff {config : ModelGatewayConfigRecord} {events : List CircuitEvent}
    {now : Instant} : (circuitOpen (circuitsAfter events) config now).1 = true ↔
      ∃ state, circuitAfter config.configId events = some state ∧ now < state.openUntil := by
  simp only [circuitOpen, circuitAfter]
  cases (circuitsAfter events).get? config.configId with
  | none => simp
  | some state =>
    by_cases ended : state.openUntil ≤ now
    · simp [ended]
    · simp [ended, not_le.mp ended]

def countedFailures (entry : Option ModelCircuitState) : Nat :=
  (entry.getD ⟨0, 0⟩).failures

section Counting

variable {configId : String} {series : List CircuitEvent}

theorem countedFailures_le (configId : String) (front series : List CircuitEvent) :
    countedFailures (circuitAfter configId (front ++ series)) ≤
      countedFailures (circuitAfter configId front) +
        series.countP (isOf .failure configId) := by
  induction series using reverseRecOn with
  | nil => simp
  | append_singleton series event ih =>
    rw [← append_assoc, circuitAfter_append_singleton, get?_apply, countP_append, countP_singleton]
    rw [circuitAfter] at ih
    by_cases failed : event.isOf .failure configId = true
    · simp only [failed, if_true, countedFailures, getD_some]
      simp only [countedFailures] at ih
      omega
    · simp only [failed, if_false, false_eq_true]
      split
      · simp [countedFailures]
      · omega

theorem le_countedFailures (front : List CircuitEvent)
    (noSuccess : ∀ event ∈ series, event.isOf .success configId = false)
    (kept : ∀ before check rest, series = before ++ check :: rest →
      check.resets configId (circuitAfter configId (front ++ before)) = false) :
    series.countP (isOf .failure configId) ≤
      countedFailures (circuitAfter configId (front ++ series)) := by
  induction series using reverseRecOn with
  | nil => simp
  | append_singleton series event ih =>
    have counted := ih (fun earlier mem => noSuccess earlier (by simp [mem]))
      (fun before check rest split => kept before check (rest ++ [event]) (by simp [split]))
    have notReset := kept series event [] rfl
    have notSuccess := noSuccess event (by simp)
    rw [← append_assoc, circuitAfter_append_singleton, get?_apply, countP_append, countP_singleton]
    rw [circuitAfter] at counted notReset
    by_cases failed : event.isOf .failure configId = true
    · simp only [failed, if_true, countedFailures, getD_some]
      simp only [countedFailures] at counted
      omega
    · simp only [failed, notSuccess, notReset, Bool.or_self, if_false, false_eq_true]
      omega

end Counting

section Cooldown

variable {config : ModelGatewayConfigRecord} {opened : List CircuitEvent} {time : Instant}

def OpenThrough (config : ModelGatewayConfigRecord) (time : Instant)
    (entry : Option ModelCircuitState) : Prop :=
  ∃ state, entry = some state ∧ config.circuitBreakerThreshold ≤ state.failures ∧
    time + config.circuitBreakerCooldownMs ≤ state.openUntil

theorem openThrough_append (seen : List CircuitEvent)
    (begun : OpenThrough config time (circuitAfter config.configId opened))
    (sameConfig : ∀ event ∈ seen, event.config.configId = config.configId → event.config = config)
    (after : ∀ event ∈ seen, time ≤ event.time)
    (within : ∀ event ∈ seen, event.time < time + config.circuitBreakerCooldownMs)
    (noSuccess : ∀ event ∈ seen, event.isOf .success config.configId = false) :
    OpenThrough config time (circuitAfter config.configId (opened ++ seen)) := by
  induction seen using reverseRecOn with
  | nil => simpa using begun
  | append_singleton seen event ih =>
    obtain ⟨state, entry, reached, lasts⟩ := ih
      (fun earlier mem => sameConfig earlier (by simp [mem]))
      (fun earlier mem => after earlier (by simp [mem]))
      (fun earlier mem => within earlier (by simp [mem]))
      (fun earlier mem => noSuccess earlier (by simp [mem]))
    have notSuccess := noSuccess event (by simp)
    have later := after event (by simp)
    have early := within event (by simp)
    rw [← append_assoc, circuitAfter_append_singleton, get?_apply]
    rw [circuitAfter] at entry
    rw [entry]
    by_cases failed : event.isOf .failure config.configId = true
    · have named : event.config.configId = config.configId := by
        simp only [isOf, and_eq_true, decide_eq_true_eq] at failed
        exact failed.2
      have same := sameConfig event (by simp) named
      have counted : config.circuitBreakerThreshold ≤ state.failures + 1 := by omega
      refine ⟨⟨state.failures + 1, event.time + config.circuitBreakerCooldownMs⟩, ?_, counted, ?_⟩
      · simp [failed, same, counted]
      · linarith
    · have notReset : event.resets config.configId (some state) = false := by
        have stillOpen : ¬ state.openUntil ≤ event.time := by
          apply not_le.mpr
          linarith
        simp [resets, stillOpen]
      refine ⟨state, ?_, reached, lasts⟩
      simp [failed, notSuccess, notReset]

end Cooldown

section Series

variable {config : ModelGatewayConfigRecord} {front series : List CircuitEvent}
variable {time : Instant}

theorem circuitAfter_failure (events : List CircuitEvent) :
    circuitAfter config.configId (events ++ [⟨.failure, config, time⟩]) =
      some ⟨countedFailures (circuitAfter config.configId events) + 1,
        if config.circuitBreakerThreshold ≤
            countedFailures (circuitAfter config.configId events) + 1 then
          time + config.circuitBreakerCooldownMs else 0⟩ := by
  rw [circuitAfter_append_singleton, get?_apply]
  simp [isOf, countedFailures, circuitAfter]
  rfl

theorem openThrough_of_keepsCount (time : Instant) (isSeries : FailureSeries config series)
    (kept : KeepsCount config front series) : OpenThrough config time (circuitAfter config.configId
      (front ++ series ++ [⟨.failure, config, time⟩])) := by
  have counted := le_countedFailures front isSeries.noSuccess kept
  have total := isSeries.failures
  have reached : config.circuitBreakerThreshold ≤
      countedFailures (circuitAfter config.configId (front ++ series)) + 1 := by omega
  refine ⟨_, circuitAfter_failure (front ++ series), reached, ?_⟩
  simp only [reached, if_true]
  exact le_rfl

theorem circuitAfter_of_reset (time : Instant) (isSeries : FailureSeries config series)
    {before rest : List CircuitEvent} {check : CircuitEvent}
    (split : series = before ++ check :: rest)
    (reset : check.resets config.configId (circuitAfter config.configId (front ++ before)) = true) :
    ∃ state, circuitAfter config.configId
      (front ++ series ++ [⟨.failure, config, time⟩]) = some state ∧ state.openUntil = 0 := by
  have isCheck : check.isOf .check config.configId = true := by
    simp only [resets, and_eq_true] at reset
    exact reset.1
  have notFailure : check.isOf .failure config.configId = false := by
    simp only [isOf, and_eq_true, decide_eq_true_eq] at isCheck
    simp [isOf, isCheck.1]
  have dropped : circuitAfter config.configId (front ++ before ++ [check]) = none := by
    rw [circuitAfter_append_singleton, get?_apply]
    rw [circuitAfter] at reset
    simp [notFailure, reset]
  have oneBefore : 1 ≤ before.countP (isOf .failure config.configId) := by
    cases before with
    | nil =>
      have failed := isSeries.starts check (by simp [split])
      simp [notFailure] at failed
    | cons first others =>
      have failed := isSeries.starts first (by simp [split])
      simp [failed]
  have counted := countedFailures_le config.configId (front ++ before ++ [check]) rest
  have total := isSeries.failures
  rw [split, countP_append, countP_cons, notFailure] at total
  rw [dropped] at counted
  simp only [countedFailures, getD_none, append_assoc, singleton_append] at counted
  refine ⟨_, circuitAfter_failure (front ++ series), if_neg ?_⟩
  rw [split, countedFailures]
  omega

end Series

/-- In every run of the gateway, and for every series of failures as long as
the threshold in its history: the circuit stays open through the cooldown
exactly when no check between the failures dropped the count and no success
was recorded before the end of the cooldown. -/
theorem circuitStaysOpen_iff {configs : List ModelGatewayConfigRecord}
    {gateway : ModelGateway} (run : ModelGateway.Run configs gateway)
    {config : ModelGatewayConfigRecord} {front series later : List CircuitEvent} {time : Instant}
    (history : gateway.history = front ++ series ++ ⟨.failure, config, time⟩ :: later)
    (isSeries : FailureSeries config series) :
    StaysOpen config (front ++ series ++ [⟨.failure, config, time⟩]) time later ↔
      KeepsCount config front series ∧ NoSuccessDuring config time later := by
  have recorded := run.recorded
  have ordered := recorded.ordered
  rw [history, pairwise_append] at ordered
  obtain ⟨-, ordered, -⟩ := ordered
  rw [pairwise_cons] at ordered
  obtain ⟨after, ordered⟩ := ordered
  have began : 0 ≤ time := recorded.nonneg ⟨.failure, config, time⟩ (by simp [history])
  have known := recorded.stored ⟨.failure, config, time⟩ (by simp [history])
  have cooldown : (1000 : Int) ≤ config.circuitBreakerCooldownMs := by
    exact_mod_cast config.cooldown_pos
  constructor
  · intro opens
    constructor
    · intro before check rest split
      by_contra reset
      obtain ⟨state, entry, closed⟩ :=
        circuitAfter_of_reset time isSeries split (by simpa using reset)
      have isOpen := opens [] later rfl time le_rfl (by simp) (by linarith)
      rw [append_nil, circuitOpen_iff] at isOpen
      obtain ⟨open', entry', lasts⟩ := isOpen
      rw [entry] at entry'
      cases entry'
      linarith
    · intro event mem success
      by_contra early
      obtain ⟨seen, unseen, rfl⟩ := append_of_mem mem
      rw [pairwise_append] at ordered
      have isOpen := opens (seen ++ [event]) unseen (by simp) event.time (after event mem)
        (fun earlier seenEarlier => by
          rcases mem_append.mp seenEarlier with inSeen | last
          · exact ordered.2.2 earlier inSeen event (by simp)
          · rw [mem_singleton.mp last])
        (not_le.mp early)
      have notFailure : event.isOf .failure config.configId = false := by
        simp only [isOf, and_eq_true, decide_eq_true_eq] at success
        simp [isOf, success.1]
      rw [← append_assoc, circuitOpen_iff] at isOpen
      obtain ⟨state, entry, -⟩ := isOpen
      rw [circuitAfter_append_singleton, get?_apply] at entry
      simp [notFailure, success] at entry
  · rintro ⟨kept, noSuccess⟩ seen unseen rfl now - passed within
    have seenWithin : ∀ event ∈ seen, event.time < time + config.circuitBreakerCooldownMs :=
      fun event mem => (passed event mem).trans_lt within
    have stillOpen := openThrough_append seen (openThrough_of_keepsCount time isSeries kept)
      (fun event mem named => by
        have eventKnown := recorded.stored event (by simp [history, mem])
        rw [named, known] at eventKnown
        exact (Option.some.inj eventKnown).symm)
      (fun event mem => after event (by simp [mem]))
      seenWithin
      (fun event mem => by
        by_contra success
        have late := noSuccess event (by simp [mem]) (by simpa using success)
        have early := seenWithin event mem
        linarith)
    obtain ⟨state, entry, -, lasts⟩ := stillOpen
    rw [circuitOpen_iff]
    exact ⟨state, entry, by linarith⟩

def secondFailureConfig : ModelGatewayConfigRecord where
  configId := "default"
  fallbackConfigId := none
  maxRetries := 0
  circuitBreakerThreshold := 2
  circuitBreakerCooldownMs := 60000
  deviceRequestsPerMinute := 60
  deviceDailyTokens := 1000000
  tenantMonthlyTokens := 100000000
  maxDeviceConcurrency := 2
  inputCostMicrounitsPerMillion := 0
  outputCostMicrounitsPerMillion := 0
  cacheCostMicrounitsPerMillion := 0
  threshold_pos := by decide
  cooldown_pos := by decide

def overlappingFailures : List GatewayAction :=
  [.arrive "default" false 1000, .arrive "default" false 1001,
    .reply 0 (.response 500) 1002, .reply 1 (.response 503) 1003]

def successiveFailures : List GatewayAction :=
  [.arrive "default" false 1000, .reply 0 (.response 500) 1001,
    .arrive "default" false 1002, .reply 1 (.response 503) 1003]

theorem circuitStaysOpen_overlapping : ∃ gateway, ModelGateway.Run [secondFailureConfig] gateway ∧
      StaysOpen secondFailureConfig gateway.history 1003 [] := by
  obtain ⟨gateway, run, history⟩ : ∃ gateway,
      ModelGateway.Run [secondFailureConfig] gateway ∧ gateway.history =
        [⟨.check, secondFailureConfig, 1000⟩, ⟨.check, secondFailureConfig, 1001⟩] ++
          [⟨.failure, secondFailureConfig, 1002⟩] ++
          ⟨.failure, secondFailureConfig, 1003⟩ :: [] :=
    ⟨_, ModelGateway.Run.of_actions overlappingFailures rfl, rfl⟩
  have isSeries : FailureSeries secondFailureConfig [⟨.failure, secondFailureConfig, 1002⟩] :=
    ⟨by simp [isOf], rfl, by simp [isOf]⟩
  refine ⟨gateway, run, ?_⟩
  rw [history]
  apply (circuitStaysOpen_iff run history isSeries).mpr
  constructor
  · intro before check rest split
    cases before with
    | nil =>
      cases split
      rfl
    | cons first others => simp at split
  · intro event mem
    simp at mem

def CircuitOpensAfterFailures : Prop :=
  ∀ (configs : List ModelGatewayConfigRecord) (gateway : ModelGateway),
    ModelGateway.Run configs gateway →
    ∀ (config : ModelGatewayConfigRecord) (front series later : List CircuitEvent) (time : Instant),
      gateway.history = front ++ series ++ ⟨.failure, config, time⟩ :: later →
      FailureSeries config series →
      StaysOpen config (front ++ series ++ [⟨.failure, config, time⟩]) time later

/-- The check of the second request forgets the failure of the first. -/
theorem not_circuitOpensAfterFailures : ¬ CircuitOpensAfterFailures := by
  intro opens
  have stays := opens [secondFailureConfig] _ (ModelGateway.Run.of_actions successiveFailures rfl)
    secondFailureConfig [⟨.check, secondFailureConfig, 1000⟩]
    [⟨.failure, secondFailureConfig, 1001⟩, ⟨.check, secondFailureConfig, 1002⟩] [] 1003
    rfl ⟨by simp [isOf], rfl, by simp [isOf]⟩
  have isOpen := stays [] [] rfl 1003 le_rfl (by simp) (by decide)
  exact absurd isOpen (by decide)

end LongHub
