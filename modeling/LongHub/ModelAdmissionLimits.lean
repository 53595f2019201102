import LongHub.ModelAdmissionCounts

/-!
# The limits of the admission

The leases of a device stay within the concurrency limit, and with a clock that
does not go back no 60 seconds contain more admitted requests than the limit
per minute: the admissions of a device follow its arrivals, so the requests
that the counter has dropped are too old for every later one.
-/

namespace LongHub

namespace ModelAdmission

variable {state next : ModelAdmission} {deviceId : String} {limit : Nat}

theorem Effect.callers (effect : state.Effect next) :
    (∃ request, next.callers = state.callers ++ [⟨request, false, .pending⟩]) ∨
      ∃ (index : Nat) (before after : ModelCaller), state.callers[index]? = some before ∧
        next.callers = state.callers.set index after ∧ after.request = before.request ∧
        (before.lease.isAdmitted = true → after.lease.isAdmitted = true) := by
  cases effect with
  | arrive request result =>
    subst result
    exact .inl ⟨request, rfl⟩
  | quiet index before after found callers request admitted =>
    exact .inr ⟨index, before, after, found, callers, request, fun was => admitted.trans was⟩
  | take index caller usage counters found holding pending taken result =>
    subst result
    exact .inr ⟨index, caller, _, found, rfl, rfl, fun _ => rfl⟩
  | release index before after found request outstanding result =>
    subst result
    exact .inr ⟨index, before, _, found, rfl, request, fun _ => rfl⟩

theorem Effect.limitsUpTo (effect : state.Effect next) {limitOf : ModelGatewayConfigRecord → Nat}
    (bounded : next.LimitsUpTo deviceId limitOf limit) :
    state.LimitsUpTo deviceId limitOf limit := by
  intro caller mem own admitted
  rcases effect.callers with ⟨request, callers⟩ |
    ⟨index, before, after, found, callers, request, kept⟩
  · apply bounded caller _ own admitted
    rw [callers]
    exact List.mem_append_left _ mem
  · obtain ⟨position, stored⟩ := List.mem_iff_getElem?.mp mem
    by_cases same : index = position
    · subst same
      rw [found] at stored
      cases stored
      have afterMember : after ∈ next.callers := by
        rw [callers]
        exact List.mem_iff_getElem?.mpr
          ⟨index, List.getElem?_set_self (List.getElem?_eq_some_iff.mp found).1⟩
      rw [← request] at own ⊢
      exact bounded after afterMember own (kept admitted)
    · apply bounded caller _ own admitted
      rw [callers]
      exact List.mem_iff_getElem?.mpr ⟨position, (List.getElem?_set_ne same).trans stored⟩

theorem Effect.clockNondecreasing (effect : state.Effect next)
    (clock : next.ClockNondecreasing) : state.ClockNondecreasing := by
  rw [ClockNondecreasing] at clock ⊢
  rcases effect.callers with ⟨request, callers⟩ | ⟨index, before, after, found, callers, request, -⟩
  · rw [callers, List.map_append] at clock
    exact (List.pairwise_append.mp clock).1
  · rw [callers, List.map_set_of_eq _ found (by rw [request])] at clock
    exact clock

def LeasesWithin (state : ModelAdmission) : Prop :=
  ∀ deviceId limit, state.LimitsUpTo deviceId ModelGatewayConfigRecord.maxDeviceConcurrency limit →
      state.outstanding deviceId ≤ limit

/-- A device gets a lease more only for a caller whose limit has room for it. -/
theorem Effect.outstanding_le (consistent : state.Consistent) (effect : state.Effect next)
    (deviceId : String) : next.outstanding deviceId ≤ state.outstanding deviceId ∨
      ∃ (index : Nat) (caller : ModelCaller), next.callers[index]? = some caller ∧
        caller.request.deviceId = deviceId ∧ caller.lease = .granted ∧
        next.outstanding deviceId ≤ caller.request.config.maxDeviceConcurrency := by
  cases effect with
  | arrive request result =>
    subst result
    exact .inl (by simp [outstanding, List.countP_append, UsageLease.isOutstanding])
  | quiet index was now found callers request admitted outstanding =>
    have replaced := outstanding_set found callers request deviceId
    rw [outstanding] at replaced
    exact .inl (by omega)
  | take index caller usage counters found holding pending taken result =>
    have longer := @outstanding_set_of_taken state next index caller
      { caller with lease := .granted } found (by rw [result]; rfl) rfl (by rw [pending]; rfl)
      rfl deviceId
    split at longer
    · next own =>
      obtain ⟨-, room, -⟩ := ModelUsageCounters.take_eq_ok taken
      have counted := consistent.counted caller.request.deviceId
      refine .inr ⟨index, { caller with lease := .granted }, ?_, own.symm, rfl, ?_⟩
      · rw [result]
        exact List.getElem?_set_self (List.getElem?_eq_some_iff.mp found).1
      · rw [counterOf] at counted
        subst own
        dsimp only
        omega
    · exact .inl (by omega)
  | release index was now found request outstanding result =>
    have fewer := @outstanding_set_of_released state next index was
      { now with lease := .released } found (by rw [result]; rfl) request outstanding rfl
      deviceId
    exact .inl (by omega)

theorem LeasesWithin.effect (within : state.LeasesWithin) (consistent : state.Consistent)
    (effect : state.Effect next) : next.LeasesWithin := by
  intro deviceId limit bounded
  rcases effect.outstanding_le consistent deviceId with
    fewer | ⟨index, caller, found, own, granted, room⟩
  · exact fewer.trans (within deviceId limit (effect.limitsUpTo bounded))
  · apply room.trans
    exact bounded caller (List.mem_iff_getElem?.mpr ⟨index, found⟩) own (by rw [granted]; rfl)

theorem Consistent.admission (consistent : state.Consistent) {action : ModelAdmissionAction}
    (stepTo : state.step action = some next)
    (raised : state.counterOf deviceId < next.counterOf deviceId) :
    ∃ (index : Nat) (caller : ModelCaller), next.callers[index]? = some caller ∧
      caller.request.deviceId = deviceId ∧ caller.lease = .granted ∧
      next.counterOf deviceId ≤ caller.request.config.maxDeviceConcurrency := by
  have effect := effect_of_step consistent.inOrder stepTo
  have counted := consistent.counted deviceId
  have countedNext := (consistent.effect effect).counted deviceId
  rcases effect.outstanding_le consistent deviceId with
    fewer | ⟨index, caller, found, own, granted, room⟩
  · omega
  · exact ⟨index, caller, found, own, granted, by omega⟩

def admittedCount (state : ModelAdmission) (deviceId : String) (test : Instant → Bool) : Nat :=
  state.callers.countP fun caller =>
    caller.request.deviceId = deviceId && caller.lease.isAdmitted && test caller.request.now

theorem admittedWithin_eq (state : ModelAdmission) (deviceId : String) (start : Instant) :
    state.admittedWithin deviceId start =
      state.admittedCount deviceId fun now => start ≤ now && now < start + 60000 :=
  rfl

variable {index : Nat} {before after caller : ModelCaller}

theorem admittedCount_set (found : state.callers[index]? = some before)
    (callers : next.callers = state.callers.set index after)
    (request : after.request = before.request) (deviceId : String) (test : Instant → Bool) :
    next.admittedCount deviceId test +
        (if before.request.deviceId = deviceId ∧ before.lease.isAdmitted = true ∧
          test before.request.now = true then 1 else 0) = state.admittedCount deviceId test +
        if before.request.deviceId = deviceId ∧ after.lease.isAdmitted = true ∧
          test before.request.now = true then 1 else 0 := by
  have replaced := List.countP_set_add (fun caller : ModelCaller =>
    caller.request.deviceId = deviceId && caller.lease.isAdmitted &&
      test caller.request.now) found after
  simpa only [admittedCount, callers, request, Bool.and_eq_true, decide_eq_true_eq,
    and_assoc] using replaced

theorem admittedCount_set_of_same (found : state.callers[index]? = some before)
    (callers : next.callers = state.callers.set index after)
    (request : after.request = before.request)
    (same : after.lease.isAdmitted = before.lease.isAdmitted) (deviceId : String)
    (test : Instant → Bool) :
    next.admittedCount deviceId test = state.admittedCount deviceId test := by
  have replaced := admittedCount_set found callers request deviceId test
  rw [same] at replaced
  omega

theorem admittedCount_set_of_taken (found : state.callers[index]? = some before)
    (callers : next.callers = state.callers.set index after)
    (request : after.request = before.request) (was : before.lease.isAdmitted = false)
    (now : after.lease.isAdmitted = true) (deviceId : String) (test : Instant → Bool) :
    next.admittedCount deviceId test = state.admittedCount deviceId test +
      if before.request.deviceId = deviceId ∧ test before.request.now = true then 1 else 0 := by
  have replaced := admittedCount_set found callers request deviceId test
  simpa only [was, now, Bool.false_eq_true, false_and, and_false, if_false, true_and,
    Nat.add_zero] using replaced

/-- The admissions of a device follow its arrivals. -/
theorem Consistent.admitted_before (consistent : state.Consistent) {other : Nat}
    {earlier : ModelCaller} (found : state.callers[index]? = some caller)
    (holding : state.locks.phaseOf index = some .holding) (pending : caller.lease = .pending)
    (otherFound : state.callers[other]? = some earlier)
    (sameDevice : earlier.request.deviceId = caller.request.deviceId)
    (admitted : earlier.lease.isAdmitted = true) : other < index := by
  obtain ⟨waiter, waiterFound, phase⟩ := Option.map_eq_some_iff.mp holding
  obtain ⟨held, heldFound, settled⟩ := ChainLock.hasHeld_iff.mp
    (consistent.inOrder other earlier otherFound admitted)
  rcases lt_trichotomy other index with less | same | greater
  · exact less
  · subst same
    rw [found] at otherFound
    cases otherFound
    rw [pending] at admitted
    cases admitted
  · have sameKey : waiter.key = held.key := by
      rw [consistent.keyOf waiterFound found, consistent.keyOf heldFound otherFound, sameDevice]
    have done := consistent.chained.inOrder other held heldFound settled index greater waiter
      waiterFound sameKey
    rw [phase] at done
    cases done

theorem ClockNondecreasing.le (clock : state.ClockNondecreasing) {first second : Nat}
    {one two : ModelCaller} (firstFound : state.callers[first]? = some one)
    (secondFound : state.callers[second]? = some two) (before : first < second) :
    one.request.now ≤ two.request.now := by
  obtain ⟨firstBound, firstEq⟩ := List.getElem?_eq_some_iff.mp firstFound
  obtain ⟨secondBound, secondEq⟩ := List.getElem?_eq_some_iff.mp secondFound
  have ordered := List.pairwise_iff_getElem.mp clock first second (by simpa) (by simpa) before
  simpa only [List.getElem_map, firstEq, secondEq] using ordered

def recorded (state : ModelAdmission) (deviceId : String) : List Instant :=
  (state.counters.minuteRequests.get? deviceId).getD []

/-- The requests that count for later ones are recorded, and no 60 seconds
contain too many. -/
structure RateKept (state : ModelAdmission) : Prop where
  recorded : ∀ deviceId cutoff, (∀ caller ∈ state.callers, caller.request.deviceId = deviceId →
      caller.lease.isAdmitted = true → caller.request.now - 60000 ≤ cutoff) →
    (state.recorded deviceId).countP (cutoff < ·) = state.admittedCount deviceId (cutoff < ·)
  window : ∀ deviceId limit,
    state.LimitsUpTo deviceId ModelGatewayConfigRecord.deviceRequestsPerMinute limit →
      ∀ start, state.admittedWithin deviceId start ≤ limit

theorem rateKept_initial : initial.RateKept where
  recorded _ _ _ := rfl
  window _ _ _ _ := Nat.zero_le _

theorem RateKept.of_same (rate : state.RateKept) (effect : state.Effect next)
    (minuteRequests : next.counters.minuteRequests = state.counters.minuteRequests)
    (same : ∀ deviceId test, next.admittedCount deviceId test = state.admittedCount deviceId test)
    (admitted : ∀ caller ∈ state.callers, caller.lease.isAdmitted = true →
      ∃ later ∈ next.callers, later.request = caller.request ∧
        later.lease.isAdmitted = true) : next.RateKept where
  recorded := by
    intro deviceId cutoff recent
    rw [same, ModelAdmission.recorded, minuteRequests]
    apply rate.recorded deviceId cutoff
    intro caller mem own was
    obtain ⟨later, laterMember, request, laterAdmitted⟩ := admitted caller mem was
    rw [← request] at own ⊢
    exact recent later laterMember own laterAdmitted
  window := by
    intro deviceId limit bounded start
    have before := rate.window deviceId limit (effect.limitsUpTo bounded) start
    rw [admittedWithin_eq] at before ⊢
    rw [same]
    exact before

theorem exists_later_of_set (found : state.callers[index]? = some before)
    (callers : next.callers = state.callers.set index after)
    (request : after.request = before.request)
    (kept : before.lease.isAdmitted = true → after.lease.isAdmitted = true)
    (mem : caller ∈ state.callers) (admitted : caller.lease.isAdmitted = true) :
    ∃ later ∈ next.callers, later.request = caller.request ∧ later.lease.isAdmitted = true := by
  obtain ⟨position, stored⟩ := List.mem_iff_getElem?.mp mem
  rw [callers]
  by_cases same : index = position
  · subst same
    rw [found] at stored
    cases stored
    exact ⟨after, List.mem_iff_getElem?.mpr ⟨index, List.getElem?_set_self
      (List.getElem?_eq_some_iff.mp found).1⟩, request, kept admitted⟩
  · exact ⟨caller, List.mem_iff_getElem?.mpr
      ⟨position, (List.getElem?_set_ne same).trans stored⟩, rfl, admitted⟩

variable {usage : List ModelUsageAggregateRecord} {counters : ModelUsageCounters}

theorem recorded_take (taken : state.counters.take caller.request usage = .ok counters)
    (counted : next.counters = counters) (deviceId : String) {cutoff : Instant}
    (recent : deviceId = caller.request.deviceId → caller.request.now - 60000 ≤ cutoff) :
    (next.recorded deviceId).countP (cutoff < ·) = (state.recorded deviceId).countP (cutoff < ·) +
        if caller.request.deviceId = deviceId ∧ decide (cutoff < caller.request.now) = true
        then 1 else 0 := by
  obtain ⟨-, -, minuteRequests, -⟩ := ModelUsageCounters.take_eq_ok taken
  rw [recorded, counted, minuteRequests, InsertionMap.get?_set]
  split
  · next own =>
    subst own
    have late := recent rfl
    have unfiltered : (state.counters.recent caller.request.deviceId
        caller.request.now).countP (cutoff < ·) =
        (state.recorded caller.request.deviceId).countP (cutoff < ·) := by
      rw [ModelUsageCounters.recent, List.countP_filter, recorded]
      apply List.countP_congr
      intro time _
      simp only [Bool.and_eq_true, decide_eq_true_eq]
      unfold Instant at *
      omega
    rw [Option.getD_some, List.countP_append, unfiltered, List.countP_singleton]
    simp
  · next differ =>
    rw [if_neg (fun own => differ own.1.symm), Nat.add_zero, recorded]

theorem RateKept.take (rate : state.RateKept) (consistent : state.Consistent)
    (clock : state.ClockNondecreasing) (found : state.callers[index]? = some caller)
    (holding : state.locks.phaseOf index = some .holding) (pending : caller.lease = .pending)
    (taken : state.counters.take caller.request usage = .ok counters)
    (callers : next.callers = state.callers.set index { caller with lease := .granted })
    (counted : next.counters = counters) (effect : state.Effect next) : next.RateKept := by
  have more := admittedCount_set_of_taken found callers rfl (by rw [pending]; rfl) rfl
  have newMember : { caller with lease := .granted } ∈ next.callers := by
    rw [callers]
    exact List.mem_iff_getElem?.mpr
      ⟨index, List.getElem?_set_self (List.getElem?_eq_some_iff.mp found).1⟩
  exact
    { recorded := by
        intro deviceId cutoff recent
        have late : deviceId = caller.request.deviceId → caller.request.now - 60000 ≤ cutoff :=
          fun own => recent { caller with lease := .granted } newMember own.symm rfl
        rw [recorded_take taken counted deviceId late, more, rate.recorded deviceId cutoff]
        intro earlier mem own admitted
        obtain ⟨later, laterMember, request, laterAdmitted⟩ :=
          exists_later_of_set found callers rfl (fun _ => rfl) mem admitted
        rw [← request] at own ⊢
        exact recent later laterMember own laterAdmitted
      window := by
        intro deviceId limit bounded start
        have before := rate.window deviceId limit (effect.limitsUpTo bounded) start
        have longer := more deviceId fun now => start ≤ now && now < start + 60000
        rw [admittedWithin_eq] at before ⊢
        rw [longer]
        split
        case isFalse => exact before
        next inWindow =>
        obtain ⟨own, here⟩ := inWindow
        subst own
        obtain ⟨room, -⟩ := ModelUsageCounters.take_eq_ok taken
        have allowed : caller.request.config.deviceRequestsPerMinute ≤ limit :=
          bounded { caller with lease := .granted } newMember rfl rfl
        -- Whatever lies in the window before this request is still recorded.
        have known := rate.recorded caller.request.deviceId (caller.request.now - 60000) (by
          intro earlier mem sameDevice admitted
          obtain ⟨position, stored⟩ := List.mem_iff_getElem?.mp mem
          have order := clock.le stored found
            (consistent.admitted_before found holding pending stored sameDevice admitted)
          unfold Instant at *
          omega)
        have fewer : state.admittedCount caller.request.deviceId
            (fun now => start ≤ now && now < start + 60000) ≤
              state.admittedCount caller.request.deviceId
                (fun now => caller.request.now - 60000 < now) := by
          apply List.countP_mono_left
          intro earlier _
          simp only [Bool.and_eq_true, decide_eq_true_eq] at here ⊢
          unfold Instant at *
          rintro ⟨admitted, window⟩
          exact ⟨admitted, by omega⟩
        rw [ModelUsageCounters.recent, ← List.countP_eq_length_filter] at room
        rw [ModelAdmission.recorded] at known
        omega }

theorem RateKept.effect (rate : state.RateKept) (consistent : state.Consistent)
    (clock : state.ClockNondecreasing) (effect : state.Effect next) : next.RateKept := by
  have effectTo := effect
  cases effect with
  | arrive request result =>
    subst result
    apply rate.of_same effectTo rfl
    · intro deviceId test
      simp [admittedCount, List.countP_append, UsageLease.isAdmitted]
    · exact fun caller mem was => ⟨caller, List.mem_append_left _ mem, rfl, was⟩
  | quiet index before after found callers request admitted outstanding _ counters =>
    apply rate.of_same effectTo (by rw [counters])
    · exact admittedCount_set_of_same found callers request admitted
    · exact fun caller mem was =>
        exists_later_of_set found callers request (fun now => admitted.trans now) mem was
  | take index caller usage counters found holding pending taken result =>
    exact rate.take consistent clock found holding pending taken (by rw [result]; rfl)
      (by rw [result]) effectTo
  | release index before after found request outstanding result =>
    have callers : next.callers = state.callers.set index { after with lease := .released } := by
      rw [result]
      rfl
    have admitted := UsageLease.isAdmitted_of_isOutstanding outstanding
    apply rate.of_same effectTo
    · rw [result]
      simp only [releaseLease, ModelUsageCounters.release]
      split <;> rfl
    · exact admittedCount_set_of_same found callers request admitted.symm
    · exact fun caller mem was =>
        exists_later_of_set found callers request (fun _ => rfl) mem was

/-- Everything that a run keeps. -/
structure Kept (state : ModelAdmission) : Prop where
  consistent : state.Consistent
  leases : state.LeasesWithin
  rate : state.ClockNondecreasing → state.RateKept

theorem Run.kept (run : Run state) : state.Kept := by
  apply GuardedRun.invariant Kept _ _ run
  · exact ⟨consistent_initial, fun _ _ _ => Nat.zero_le _, fun _ => rateKept_initial⟩
  · intro before after action kept _ stepTo
    have effect := effect_of_step kept.consistent.inOrder stepTo
    exact
      { consistent := kept.consistent.effect effect
        leases := kept.leases.effect kept.consistent effect
        rate := fun clock =>
          (kept.rate (effect.clockNondecreasing clock)).effect kept.consistent
            (effect.clockNondecreasing clock) effect }

end ModelAdmission

end LongHub
