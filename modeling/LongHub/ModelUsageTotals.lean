import LongHub.ModelCircuitBreaker
import Mathlib.Algebra.GroupWithZero.Nat
import Mathlib.Algebra.Order.BigOperators.Group.List
import Mathlib.Algebra.Order.Group.Nat
import Mathlib.Algebra.Order.Pi

/-!
# Daily and monthly model usage in PostgreSQL

A finished model request adds its counts to two rows: the day's and the month's.
-/

namespace LongHub

open List

inductive UsagePeriod where
  | day
  | month
  deriving DecidableEq

inductive ModelUsageField where
  | requestCount
  | successCount
  | errorCount
  | inputTokens
  | outputTokens
  | cacheTokens
  | estimatedTokens
  | costMicrounits

abbrev ModelUsageCounts := ModelUsageField → Nat

structure CalendarDate where
  year : Nat
  month : Nat
  day : Nat
  deriving DecidableEq

def periodStart (date : CalendarDate) : UsagePeriod → CalendarDate
  | .day => date
  | .month => { date with day := 1 }

structure ModelUsageScope where
  tenantId : String
  deviceId : String
  configId : String
  deriving DecidableEq

structure ModelUsageKey where
  periodStart : CalendarDate
  period : UsagePeriod
  scope : ModelUsageScope
  deriving DecidableEq

structure ModelUsageAggregateRecord where
  key : ModelUsageKey
  counts : ModelUsageCounts

structure ModelUsageCompletion where
  success : Bool
  inputBytes : Nat
  outputBytes : Nat
  inputTokensHeader : Option String
  outputTokensHeader : Option String
  cacheTokensHeader : Option String

def tokensFromHeader (header : Option String) : Option Nat := do
  let raw ← header
  if raw.length = 0 || 12 < raw.length || !raw.toList.all Char.isDigit then none
  else some (raw.toList.foldl (fun value digit => 10 * value + (digit.toNat - '0'.toNat)) 0)

def usageCounts (config : ModelGatewayConfigRecord) (params : ModelUsageCompletion) :
    ModelUsageCounts :=
  let headerInput := tokensFromHeader params.inputTokensHeader
  let headerOutput := tokensFromHeader params.outputTokensHeader
  let cacheTokens := (tokensFromHeader params.cacheTokensHeader).getD 0
  let inputTokens := headerInput.getD ((params.inputBytes + 3) / 4)
  let outputTokens := headerOutput.getD ((params.outputBytes + 3) / 4)
  fun
  | .requestCount => 1
  | .successCount => if params.success then 1 else 0
  | .errorCount => if params.success then 0 else 1
  | .inputTokens => inputTokens
  | .outputTokens => outputTokens
  | .cacheTokens => cacheTokens
  | .estimatedTokens =>
    (if headerInput = none then inputTokens else 0) +
      if headerOutput = none then outputTokens else 0
  | .costMicrounits =>
    (inputTokens * config.inputCostMicrounitsPerMillion +
      outputTokens * config.outputCostMicrounitsPerMillion +
      cacheTokens * config.cacheCostMicrounitsPerMillion + 999999) / 1000000

structure CompletedUsage where
  date : CalendarDate
  tenantId : String
  deviceId : String
  config : ModelGatewayConfigRecord
  params : ModelUsageCompletion

namespace CompletedUsage

variable (usage : CompletedUsage)

def scope : ModelUsageScope :=
  ⟨usage.tenantId, usage.deviceId, usage.config.configId⟩

def counts : ModelUsageCounts :=
  usageCounts usage.config usage.params

def record (period : UsagePeriod) : ModelUsageAggregateRecord :=
  ⟨⟨periodStart usage.date period, period, usage.scope⟩, usage.counts⟩

def records : List ModelUsageAggregateRecord :=
  [usage.record .day, usage.record .month]

end CompletedUsage

/-- The day is written first, then the month, in two statements. -/
structure ModelUsageCall where
  usage : CompletedUsage
  applied : Nat
  failed : Bool

inductive StatementResult where
  | executed
  | failed
  | answerLost

structure ModelUsageStore where
  table : InsertionMap ModelUsageKey ModelUsageCounts
  calls : List ModelUsageCall

inductive ModelUsageAction where
  | call (usage : CompletedUsage)
  | statement (index : Nat) (result : StatementResult)

namespace ModelUsageStore

def initial : ModelUsageStore := ⟨.empty, []⟩

def upsert (table : InsertionMap ModelUsageKey ModelUsageCounts)
    (record : ModelUsageAggregateRecord) : InsertionMap ModelUsageKey ModelUsageCounts :=
  table.accumulate record.key record.counts

def step (store : ModelUsageStore) : ModelUsageAction → Option ModelUsageStore
  | .call usage => some { store with calls := store.calls ++ [⟨usage, 0, false⟩] }
  | .statement index result =>
    match store.calls[index]? with
    | none => none
    | some call =>
      if call.failed then none
      else
        call.usage.records[call.applied]?.map fun record =>
          match result with
          | .executed =>
            { table := upsert store.table record
              calls := store.calls.set index { call with applied := call.applied + 1 } }
          | .failed =>
            { store with calls := store.calls.set index { call with failed := true } }
          | .answerLost =>
            { table := upsert store.table record
              calls := store.calls.set index
                { call with applied := call.applied + 1, failed := true } }

abbrev Run : ModelUsageStore → Prop :=
  GuardedRun step (fun _ _ => True) initial

def monthlyCounts (store : ModelUsageStore) (scope : ModelUsageScope)
    (month : CalendarDate) : ModelUsageCounts :=
  (store.table.get? ⟨periodStart month .month, .month, scope⟩).getD 0

def isDayOf (scope : ModelUsageScope) (month : CalendarDate) (key : ModelUsageKey) : Bool :=
  key.period = .day && key.scope = scope && periodStart key.periodStart .month =
    periodStart month .month

def dailySum (store : ModelUsageStore) (scope : ModelUsageScope)
    (month : CalendarDate) : ModelUsageCounts :=
  store.table.sumWhere (isDayOf scope month)

/-- Every monthly row is the sum of the daily rows of its month. -/
def TotalsAgree (store : ModelUsageStore) : Prop :=
  ∀ scope month, store.monthlyCounts scope month = store.dailySum scope month

def written (test : ModelUsageKey → Bool) (call : ModelUsageCall) : ModelUsageCounts :=
  ((call.usage.records.take call.applied).map fun record =>
    if test record.key then record.counts else 0).sum

/-- The table holds what the calls have written. -/
def Explained (store : ModelUsageStore) : Prop :=
  ∀ test, store.table.sumWhere test = (store.calls.map (written test)).sum

variable {store next : ModelUsageStore}

theorem explained_initial : initial.Explained := fun _ => rfl

theorem written_succ {test : ModelUsageKey → Bool} {call : ModelUsageCall} {failed : Bool}
    {record : ModelUsageAggregateRecord}
    (current : call.usage.records[call.applied]? = some record) :
    written test { call with applied := call.applied + 1, failed } =
      written test call + if test record.key then record.counts else 0 := by
  simp only [written]
  rw [take_add_one, current]
  simp

theorem Explained.write (explained : store.Explained) {index : Nat} {call : ModelUsageCall}
    {failed : Bool} {record : ModelUsageAggregateRecord}
    (found : store.calls[index]? = some call)
    (current : call.usage.records[call.applied]? = some record) :
    Explained
      { table := upsert store.table record
        calls := store.calls.set index
          { call with applied := call.applied + 1, failed } } := by
  intro test
  have more : written test { call with applied := call.applied + 1, failed } =
      written test call + if test record.key then record.counts else 0 :=
    written_succ current
  have replaced : ((store.calls.set index
        { call with applied := call.applied + 1, failed }).map (written test)).sum +
        written test call =
      (store.calls.map (written test)).sum +
        written test { call with applied := call.applied + 1, failed } :=
    List.sum_map_set found _
  rw [more, ← add_assoc, add_right_comm] at replaced
  rw [add_right_cancel replaced, ← explained test]
  exact InsertionMap.sumWhere_accumulate test store.table record.key record.counts

theorem Explained.step (explained : store.Explained) {action : ModelUsageAction}
    (stepTo : store.step action = some next) : next.Explained := by
  cases action with
  | call usage =>
    cases stepTo
    intro test
    rw [map_append, sum_append, ← explained test]
    simp [written]
  | statement index result =>
    simp only [ModelUsageStore.step] at stepTo
    split at stepTo
    · cases stepTo
    next call found =>
    split at stepTo
    · cases stepTo
    simp only [Option.map_eq_some_iff] at stepTo
    obtain ⟨record, current, rfl⟩ := stepTo
    cases result with
    | executed => exact explained.write found current
    | failed =>
      intro test
      have replaced : ((store.calls.set index { call with failed := true }).map
          (written test)).sum + written test call =
          (store.calls.map (written test)).sum + written test call :=
        List.sum_map_set found _
      rw [add_right_cancel replaced]
      exact explained test
    | answerLost => exact explained.write found current

theorem Run.explained (run : Run store) : store.Explained :=
  run.invariant Explained explained_initial fun _ _ _ explained _ stepTo =>
    explained.step stepTo

variable (scope : ModelUsageScope)

def countsFor (month : CalendarDate) (call : ModelUsageCall) : Prop :=
  call.usage.scope = scope ∧ periodStart call.usage.date .month = periodStart month .month

instance (scope : ModelUsageScope) (month : CalendarDate) (call : ModelUsageCall) :
    Decidable (countsFor scope month call) :=
  inferInstanceAs (Decidable (_ ∧ _))

/-- What the day has and the month has not. -/
def halfWritten (month : CalendarDate) (call : ModelUsageCall) : ModelUsageCounts :=
  if countsFor scope month call ∧ call.applied = 1 then call.usage.counts else 0

theorem written_day (month : CalendarDate) (call : ModelUsageCall) :
    written (isDayOf scope month) call =
      written (fun key => key = ⟨periodStart month .month, .month, scope⟩) call +
        halfWritten scope month call := by
  have dayKey : isDayOf scope month (call.usage.record .day).key = true ↔
      countsFor scope month call := by
    simp only [isDayOf, Bool.and_eq_true]
    constructor
    · rintro ⟨⟨-, sameScope⟩, sameMonth⟩
      exact ⟨of_decide_eq_true sameScope, of_decide_eq_true sameMonth⟩
    · rintro ⟨sameScope, sameMonth⟩
      exact ⟨⟨rfl, decide_eq_true sameScope⟩, decide_eq_true sameMonth⟩
  have dayKey' : isDayOf scope month (call.usage.record .month).key = false := by
    simp [isDayOf, CompletedUsage.record]
  have monthKey : (call.usage.record .month).key =
      ⟨periodStart month .month, .month, scope⟩ ↔ countsFor scope month call := by
    simp only [countsFor, CompletedUsage.record, ModelUsageKey.mk.injEq, true_and]
    exact and_comm
  have monthKey' : (call.usage.record .day).key ≠ ⟨periodStart month .month, .month, scope⟩ := by
    simp [CompletedUsage.record]
  rcases call.applied.eq_zero_or_pos with none_ | some_
  · simp [written, halfWritten, none_]
  rcases Nat.lt_or_ge call.applied 2 with one | both
  · have once : call.applied = 1 := by omega
    simp [written, halfWritten, once, CompletedUsage.records, dayKey, monthKey']
    rfl
  · have twice : ¬ call.applied = 1 := by omega
    have all : call.usage.records.take call.applied = call.usage.records :=
      take_of_length_le (by simpa [CompletedUsage.records] using both)
    simp only [written, halfWritten, all, twice]
    simp [CompletedUsage.records, dayKey, dayKey', monthKey, monthKey']
    rfl

theorem dailySum_eq (explained : store.Explained) (scope : ModelUsageScope) (month : CalendarDate) :
    store.dailySum scope month = store.monthlyCounts scope month +
      (store.calls.map (halfWritten scope month)).sum := by
  rw [dailySum, explained, monthlyCounts, ← InsertionMap.sumWhere_key, explained, ← sum_map_add]
  exact congrArg sum (map_congr_left fun call _ => written_day scope month call)

/-- In every run, whatever statements fail: every monthly row is the sum of
the daily rows of its month exactly when no call has only its first record in
the table. -/
theorem totalsAgree_iff (run : Run store) :
    store.TotalsAgree ↔ ∀ call ∈ store.calls, call.applied ≠ 1 := by
  have sums := dailySum_eq run.explained
  constructor
  · intro agree call mem once
    have balanced := sums call.usage.scope call.usage.date
    rw [← agree, left_eq_add, sum_eq_zero_iff] at balanced
    have nothing := balanced _ (mem_map_of_mem mem)
    rw [halfWritten, if_pos ⟨⟨rfl, rfl⟩, once⟩] at nothing
    exact Nat.one_ne_zero (congrFun nothing .requestCount)
  · intro whole scope month
    have nothing : (store.calls.map (halfWritten scope month)).sum = 0 := by
      rw [sum_eq_zero_iff]
      intro counts mem
      obtain ⟨call, callMember, rfl⟩ := mem_map.mp mem
      rw [halfWritten, if_neg fun half => whole call callMember half.2]
    rw [sums, nothing, add_zero]

def TotalsAlwaysAgree : Prop :=
  ∀ store, Run store → (∀ call ∈ store.calls, call.failed = true ∨ call.applied = 2) →
    store.TotalsAgree

end ModelUsageStore

theorem defaultCooldown_pos : 1000 ≤ 60000 := by
  decide

def defaultModelConfig : ModelGatewayConfigRecord where
  configId := "default"
  fallbackConfigId := none
  maxRetries := 0
  circuitBreakerThreshold := 5
  circuitBreakerCooldownMs := 60000
  deviceRequestsPerMinute := 60
  deviceDailyTokens := 1000000
  tenantMonthlyTokens := 100000000
  maxDeviceConcurrency := 2
  inputCostMicrounitsPerMillion := 0
  outputCostMicrounitsPerMillion := 0
  cacheCostMicrounitsPerMillion := 0
  threshold_pos := by decide
  cooldown_pos := defaultCooldown_pos

/-- A request of 400 bytes that was answered with 80. -/
def smallUsage : CompletedUsage where
  date := ⟨2026, 8, 17⟩
  tenantId := "tenant-a"
  deviceId := "dev-1"
  config := defaultModelConfig
  params := ⟨true, 400, 80, none, none, none⟩

/-- A failed second statement leaves the day without its month. -/
theorem not_totalsAlwaysAgree : ¬ ModelUsageStore.TotalsAlwaysAgree := by
  intro always
  obtain ⟨store, run, calls, monthly, daily⟩ : ∃ store, ModelUsageStore.Run store ∧
      store.calls = [⟨smallUsage, 1, true⟩] ∧
      store.monthlyCounts smallUsage.scope smallUsage.date .requestCount = 0 ∧
      store.dailySum smallUsage.scope smallUsage.date .requestCount = 1 :=
    ⟨_, GuardedRun.of_runActions (fun _ _ => trivial)
      (rfl : runActions ModelUsageStore.step ModelUsageStore.initial
        [.call smallUsage, .statement 0 .executed, .statement 0 .failed] = some _),
      rfl, by decide, by decide⟩
  have agree := always store run (by simp [calls])
  have equal := congrFun (agree smallUsage.scope smallUsage.date) .requestCount
  rw [monthly, daily] at equal
  exact Nat.zero_ne_one equal

theorem totalsAgree_smallUsage :
    ∃ store, ModelUsageStore.Run store ∧ store.calls ≠ [] ∧ store.TotalsAgree := by
  obtain ⟨store, run, calls⟩ : ∃ store, ModelUsageStore.Run store ∧
      store.calls = [⟨smallUsage, 2, false⟩] :=
    ⟨_, GuardedRun.of_runActions (fun _ _ => trivial)
      (rfl : runActions ModelUsageStore.step ModelUsageStore.initial
        [.call smallUsage, .statement 0 .executed, .statement 0 .executed] = some _), rfl⟩
  refine ⟨store, run, by simp [calls], ?_⟩
  apply (ModelUsageStore.totalsAgree_iff run).mpr
  simp [calls]

end LongHub
