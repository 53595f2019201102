import LongHub.ModelAdmission

/-!
# Leases and counters

The concurrency counter of a device is the number of its outstanding leases in
every reachable state: an admission adds one to both, the first release of a
lease takes one away from both, and nothing else changes either.
-/

namespace LongHub

open InsertionMap List ModelUsageCounters Option

namespace UsageLease

theorem isAdmitted_of_isOutstanding {lease : UsageLease}
    (outstanding : lease.isOutstanding = true) : lease.isAdmitted = true := by
  cases lease <;> first | rfl | cases outstanding

end UsageLease

namespace ModelUsageCounters

variable {counters taken : ModelUsageCounters} {request : ModelUsageRequest}
  {usage : List ModelUsageAggregateRecord} {deviceId other : String} {count : Int}

/-- What an admission checks and writes. -/
theorem take_eq_ok (success : counters.take request usage = .ok taken) :
    (counters.recent request.deviceId request.now).length < request.config.deviceRequestsPerMinute ∧
      counters.active request.deviceId < request.config.maxDeviceConcurrency ∧
      taken.minuteRequests = counters.minuteRequests.set request.deviceId
        (counters.recent request.deviceId request.now ++ [request.now]) ∧
      taken.concurrency = counters.concurrency.set request.deviceId
        (counters.active request.deviceId + 1) := by
  simp only [take] at success
  split at success
  · cases success
  next rate =>
  split at success
  · cases success
  next concurrency =>
  split at success
  · cases success
  split at success
  · cases success
  cases success
  exact ⟨by omega, by omega, rfl, rfl⟩

theorem active_set (count : Int) :
    ({ counters with concurrency := counters.concurrency.set deviceId count }
      : ModelUsageCounters).active other = if other = deviceId then count
        else counters.active other := by
  simp only [active, get?_set]
  split <;> rfl

theorem active_of_present (present : counters.concurrency.get? deviceId = some count) :
    counters.active deviceId = count := by
  rw [active, present, getD_some]

theorem active_release (present : counters.concurrency.get? deviceId = some count)
    (positive : 1 ≤ count) : (counters.release deviceId).active other =
      if other = deviceId then count - 1 else counters.active other := by
  simp only [release, present, getD_some]
  split
  · next last =>
    simp only [active, get?_delete]
    split
    · rw [getD_none]
      omega
    · rfl
  · exact active_set _

theorem positive_release
    (positive : ∀ deviceId count, counters.concurrency.get? deviceId = some count → 1 ≤ count)
    (remaining : (counters.release deviceId).concurrency.get? other = some count) : 1 ≤ count := by
  simp only [release] at remaining
  split at remaining
  · rw [get?_delete] at remaining
    split at remaining
    · cases remaining
    · exact positive other count remaining
  · rw [get?_set] at remaining
    split at remaining
    · cases remaining
      omega
    · exact positive other count remaining

end ModelUsageCounters

namespace ModelAdmission

variable {state next : ModelAdmission} {deviceId : String}

structure Consistent (state : ModelAdmission) : Prop where
  chained : state.locks.Chained
  keys : state.locks.waiters.map ChainWaiter.key =
    state.callers.map fun caller => caller.request.deviceId
  inOrder : state.AdmittedInOrder
  counted : ∀ deviceId, state.counterOf deviceId = state.outstanding deviceId
  positive : ∀ deviceId count, state.counters.concurrency.get? deviceId = some count → 1 ≤ count
  decrementedOnce : state.decremented.Nodup
  decrementedBy : ∀ index ∈ state.decremented, ∃ caller, state.callers[index]? = some caller ∧
    caller.lease.isAdmitted = true ∧ caller.lease.isOutstanding = false

theorem consistent_initial : initial.Consistent where
  chained := ChainLock.chained_empty
  keys := rfl
  inOrder := by simp [AdmittedInOrder, initial]
  counted _ := rfl
  positive := by simp [initial]
  decrementedOnce := nodup_nil
  decrementedBy := by simp [initial]

variable {index : Nat} {caller before after : ModelCaller}

theorem outstanding_set (found : state.callers[index]? = some before)
    (callers : next.callers = state.callers.set index after)
    (request : after.request = before.request) (deviceId : String) : next.outstanding deviceId +
        (if before.request.deviceId = deviceId ∧ before.lease.isOutstanding = true then 1 else 0) =
      state.outstanding deviceId +
        if before.request.deviceId = deviceId ∧ after.lease.isOutstanding = true then 1 else 0 := by
  have replaced := List.countP_set_add (fun caller : ModelCaller =>
    caller.request.deviceId = deviceId && caller.lease.isOutstanding) found after
  simpa only [outstanding, callers, request, Bool.and_eq_true, decide_eq_true_eq] using replaced

theorem outstanding_set_of_taken {index : Nat} {before after : ModelCaller}
    (found : state.callers[index]? = some before)
    (callers : next.callers = state.callers.set index after)
    (request : after.request = before.request)
    (was : before.lease.isOutstanding = false) (now : after.lease.isOutstanding = true)
    (deviceId : String) : next.outstanding deviceId = state.outstanding deviceId +
      if deviceId = before.request.deviceId then 1 else 0 := by
  have replaced := outstanding_set found callers request deviceId
  rw [was, now] at replaced
  simpa [eq_comm] using replaced

theorem outstanding_set_of_released {index : Nat} {before after : ModelCaller}
    (found : state.callers[index]? = some before)
    (callers : next.callers = state.callers.set index after)
    (request : after.request = before.request) (was : before.lease.isOutstanding = true)
    (now : after.lease.isOutstanding = false) (deviceId : String) :
    next.outstanding deviceId + (if deviceId = before.request.deviceId then 1 else 0) =
      state.outstanding deviceId := by
  have replaced := outstanding_set found callers request deviceId
  rw [was, now] at replaced
  simpa [eq_comm] using replaced

section Consistency

variable (consistent : state.Consistent)
include consistent

theorem Consistent.waiterOf (found : state.callers[index]? = some caller) :
    ∃ waiter, state.locks.waiters[index]? = some waiter ∧ waiter.key = caller.request.deviceId := by
  have same := congrArg (·[index]?) consistent.keys
  simpa [getElem?_map, found] using same

theorem Consistent.callerOf {waiter : ChainWaiter String}
    (found : state.locks.waiters[index]? = some waiter) :
    ∃ caller, state.callers[index]? = some caller ∧ caller.request.deviceId = waiter.key := by
  have same := congrArg (·[index]?) consistent.keys
  simpa [getElem?_map, found, eq_comm] using same

theorem Consistent.keyOf {waiter : ChainWaiter String}
    (waiterFound : state.locks.waiters[index]? = some waiter)
    (callerFound : state.callers[index]? = some caller) : waiter.key = caller.request.deviceId := by
  obtain ⟨other, otherFound, sameKey⟩ := consistent.waiterOf callerFound
  rw [waiterFound] at otherFound
  cases otherFound
  exact sameKey

theorem Consistent.arrive (request : ModelUsageRequest) :
    Consistent { state with
      locks := state.locks.enqueue request.deviceId
      callers := state.callers ++ [⟨request, false, .pending⟩] } where
  chained := consistent.chained.enqueue request.deviceId
  keys := by simp [ChainLock.enqueue, consistent.keys]
  inOrder := by
    intro index caller found admitted
    rcases List.getElem?_append_singleton_eq_some found with known | ⟨-, rfl⟩
    · exact (ChainLock.Moves.enqueue _).hasHeld (consistent.inOrder index caller known admitted)
    · cases admitted
  counted := by
    intro deviceId
    have counted := consistent.counted deviceId
    simpa [outstanding, counterOf, countP_append, UsageLease.isOutstanding] using counted
  __ := consistent
  decrementedBy := by
    intro index mem
    obtain ⟨caller, found, rest⟩ := consistent.decrementedBy index mem
    have inRange := (List.getElem?_eq_some_iff.mp found).1
    exact ⟨caller, (getElem?_append_left inRange).trans found, rest⟩

theorem Consistent.inOrder_set (found : state.callers[index]? = some before)
    (callers : next.callers = state.callers.set index after) (moves : state.locks.Moves next.locks)
    (admitted : after.lease.isAdmitted = true →
      before.lease.isAdmitted = true ∨ state.locks.hasHeld index) : next.AdmittedInOrder := by
  intro other caller otherFound otherAdmitted
  rw [callers] at otherFound
  rcases List.getElem?_set_eq_some found otherFound with ⟨rfl, rfl⟩ | ⟨-, known⟩
  · rcases admitted otherAdmitted with earlier | held
    · exact moves.hasHeld (consistent.inOrder other before found earlier)
    · exact moves.hasHeld held
  · exact moves.hasHeld (consistent.inOrder other caller known otherAdmitted)

theorem Consistent.decrementedBy_set (found : state.callers[index]? = some before)
    (callers : next.callers = state.callers.set index after)
    (kept : before.lease.isAdmitted = true → before.lease.isOutstanding = false →
      after.lease.isAdmitted = true ∧ after.lease.isOutstanding = false) :
    ∀ other ∈ state.decremented, ∃ caller, next.callers[other]? = some caller ∧
      caller.lease.isAdmitted = true ∧ caller.lease.isOutstanding = false := by
  intro other mem
  obtain ⟨caller, callerFound, admitted, released⟩ := consistent.decrementedBy other mem
  rw [callers]
  by_cases own : index = other
  · subst own
    rw [found] at callerFound
    cases callerFound
    exact ⟨after, getElem?_set_self (List.getElem?_eq_some_iff.mp found).1, kept admitted released⟩
  · exact ⟨caller, (getElem?_set_ne own).trans callerFound, admitted, released⟩

theorem Consistent.quiet (found : state.callers[index]? = some before)
    (callers : next.callers = state.callers.set index after)
    (request : after.request = before.request)
    (admitted : after.lease.isAdmitted = before.lease.isAdmitted)
    (outstanding : after.lease.isOutstanding = before.lease.isOutstanding)
    (counters : next.counters = state.counters) (decremented : next.decremented = state.decremented)
    (moves : state.locks.Moves next.locks)
    (keys : next.locks.waiters.map ChainWaiter.key = state.locks.waiters.map ChainWaiter.key) :
    next.Consistent where
  chained := consistent.chained.moves moves
  keys := by
    rw [keys, callers, List.map_set_of_eq _ found (by rw [request])]
    exact consistent.keys
  inOrder := consistent.inOrder_set found callers moves fun now => .inl (admitted ▸ now)
  counted := by
    intro deviceId
    have replaced := outstanding_set found callers request deviceId
    rw [outstanding] at replaced
    have same : next.outstanding deviceId = state.outstanding deviceId := by omega
    rw [same, counterOf, counters]
    exact consistent.counted deviceId
  positive := by
    rw [counters]
    exact consistent.positive
  decrementedOnce := by
    rw [decremented]
    exact consistent.decrementedOnce
  decrementedBy := by
    rw [decremented]
    exact consistent.decrementedBy_set found callers fun was released =>
      ⟨admitted.trans was, outstanding.trans released⟩

theorem Consistent.take {usage : List ModelUsageAggregateRecord}
    {counters : ModelUsageCounters} (found : state.callers[index]? = some caller)
    (holding : state.locks.phaseOf index = some .holding) (pending : caller.lease = .pending)
    (taken : state.counters.take caller.request usage = .ok counters) :
    Consistent { state.setCaller index { caller with lease := .granted } with counters } := by
  obtain ⟨-, -, -, concurrency⟩ := take_eq_ok taken
  have active : ∀ deviceId, counters.active deviceId = if deviceId = caller.request.deviceId then
        state.counters.active caller.request.deviceId + 1
      else state.counters.active deviceId := by
    intro deviceId
    rw [active, concurrency]
    exact active_set _
  exact
    { consistent with
      keys := by
        have same : (state.callers.set index { caller with lease := .granted }).map
            (fun caller => caller.request.deviceId) =
              state.callers.map fun caller => caller.request.deviceId :=
          List.map_set_of_eq _ found rfl
        exact consistent.keys.trans same.symm
      inOrder := consistent.inOrder_set found rfl .stay fun _ => .inr (.inl holding)
      counted := by
        intro deviceId
        have longer : ModelAdmission.outstanding
            { state.setCaller index { caller with lease := .granted } with counters } deviceId =
              state.outstanding deviceId + if deviceId = caller.request.deviceId then 1 else 0 :=
          @outstanding_set_of_taken _ _ index caller { caller with lease := .granted } found
            rfl rfl (by rw [pending]; rfl) rfl deviceId
        have before := consistent.counted deviceId
        rw [longer, counterOf]
        rw [active]
        rw [counterOf] at before
        split
        · next own =>
          subst own
          omega
        · omega
      positive := by
        intro deviceId count present
        rw [concurrency, get?_set] at present
        split at present
        · cases present
          have counted := consistent.counted caller.request.deviceId
          rw [counterOf] at counted
          omega
        · exact consistent.positive deviceId count present
      decrementedBy := consistent.decrementedBy_set found rfl fun admitted _ => by
        rw [pending] at admitted
        cases admitted }

theorem Consistent.release {index : Nat}
    {before after : ModelCaller} (found : state.callers[index]? = some before)
    (request : after.request = before.request) (outstanding : before.lease.isOutstanding = true) :
    (state.releaseLease index after).Consistent := by
  have fewer : ∀ deviceId, (state.releaseLease index after).outstanding deviceId +
      (if deviceId = before.request.deviceId then 1 else 0) = state.outstanding deviceId :=
    outstanding_set_of_released found rfl request outstanding rfl
  have present : ∃ count, state.counters.concurrency.get? before.request.deviceId = some count := by
    cases entry : state.counters.concurrency.get? before.request.deviceId with
    | some count => exact ⟨count, rfl⟩
    | none =>
      have counted := consistent.counted before.request.deviceId
      rw [counterOf, active, entry, getD_none] at counted
      have fewerHere := fewer before.request.deviceId
      rw [if_pos rfl] at fewerHere
      omega
  obtain ⟨count, present⟩ := present
  have positive := consistent.positive _ count present
  exact
    { consistent with
      keys := by
        dsimp only [releaseLease]
        rw [List.map_set_of_eq _ found (by rw [request])]
        exact consistent.keys
      inOrder := consistent.inOrder_set found rfl .stay
        fun _ => .inl (UsageLease.isAdmitted_of_isOutstanding outstanding)
      counted := by
        intro deviceId
        have fewerHere := fewer deviceId
        have counted := consistent.counted deviceId
        rw [counterOf] at counted ⊢
        have active : (state.releaseLease index after).counters.active deviceId =
            if deviceId = before.request.deviceId then count - 1
            else state.counters.active deviceId := by
          dsimp only [releaseLease]
          rw [request]
          exact active_release present positive
        rw [active]
        split at fewerHere
        · next own =>
          subst own
          rw [active_of_present present] at counted
          rw [if_pos rfl]
          omega
        · next differ =>
          rw [if_neg differ]
          omega
      positive := by
        intro deviceId remaining entry
        exact positive_release consistent.positive entry
      decrementedOnce := by
        apply List.Nodup.append consistent.decrementedOnce (nodup_singleton index)
        intro other mem own
        rw [mem_singleton] at own
        subst own
        obtain ⟨caller, callerFound, -, released⟩ := consistent.decrementedBy other mem
        rw [found] at callerFound
        cases callerFound
        rw [outstanding] at released
        cases released
      decrementedBy := by
        intro other mem
        rcases mem_append.mp mem with earlier | own
        · exact consistent.decrementedBy_set found rfl
            (fun _ released => absurd (outstanding.symm.trans released) (by simp)) other earlier
        · rw [mem_singleton.mp own]
          exact ⟨_, getElem?_set_self (List.getElem?_eq_some_iff.mp found).1, rfl, rfl⟩ }

theorem Consistent.effect (effect : state.Effect next) : next.Consistent := by
  cases effect with
  | arrive request result =>
    subst result
    exact consistent.arrive request
  | quiet index before after found callers request admitted outstanding _ counters decremented
      moves keys =>
      exact consistent.quiet found callers request admitted outstanding counters decremented
        moves keys
  | take index caller usage counters found holding pending taken result =>
    subst result
    exact consistent.take found holding pending taken
  | release index before after found request outstanding result =>
    subst result
    exact consistent.release found request outstanding

theorem Consistent.step {action : ModelAdmissionAction}
    (stepTo : state.step action = some next) : next.Consistent :=
  consistent.effect (effect_of_step consistent.inOrder stepTo)

end Consistency

theorem Run.consistent (run : Run state) : state.Consistent :=
  GuardedRun.invariant Consistent consistent_initial
    (fun _ _ _ consistent _ stepTo => consistent.step stepTo) run

end ModelAdmission

end LongHub
