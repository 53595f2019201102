import LongHub.ModelAdmissionLimits
import Mathlib.Data.Finset.Card

/-!
# What the admission guarantees

At most one critical section of a device runs at a time, the counter of a device is the number of
its leases and within the limit, and the requests of every minute are.
-/

namespace LongHub

open ChainLock Option
namespace ModelAdmission

variable {state next : ModelAdmission} {deviceId : String}

theorem Consistent.exclusive (consistent : state.Consistent) {first second : Nat}
    (firstIn : state.InSection deviceId first) (secondIn : state.InSection deviceId second) :
    first = second := by
  obtain ⟨firstHolds, one, oneFound, oneDevice⟩ := firstIn
  obtain ⟨secondHolds, two, twoFound, twoDevice⟩ := secondIn
  obtain ⟨firstWaiter, firstFound, firstPhase⟩ := map_eq_some_iff.mp firstHolds
  obtain ⟨secondWaiter, secondFound, secondPhase⟩ := map_eq_some_iff.mp secondHolds
  apply consistent.chained.exclusive firstFound secondFound _ firstPhase secondPhase
  rw [consistent.keyOf firstFound oneFound, consistent.keyOf secondFound twoFound, oneDevice,
    twoDevice]

theorem Consistent.isLocked_iff (consistent : state.Consistent) :
    state.isLocked deviceId ↔ ∃ index caller, state.callers[index]? = some caller ∧
      caller.request.deviceId = deviceId ∧ state.locks.phaseOf index ≠ some .finished := by
  rw [isLocked, consistent.chained.tail_isSome_iff]
  constructor
  · rintro ⟨index, waiter, found, sameKey, unfinished⟩
    obtain ⟨caller, callerFound, own⟩ := consistent.callerOf found
    refine ⟨index, caller, callerFound, own.trans sameKey, ?_⟩
    simpa [phaseOf, found] using unfinished
  · rintro ⟨index, caller, callerFound, own, unfinished⟩
    obtain ⟨waiter, found, sameKey⟩ := consistent.waiterOf callerFound
    refine ⟨index, waiter, found, sameKey.trans own, ?_⟩
    simpa [phaseOf, found] using unfinished

theorem Run.guarantees (run : Run state) : state.Guarantees := by
  have kept := run.kept
  have consistent := kept.consistent
  exact
    { exclusive := fun _ _ _ => consistent.exclusive
      locked := fun _ => consistent.isLocked_iff
      __ := consistent
      admission := fun _ _ stepTo _ raised => consistent.admission stepTo raised
      withinLimit := by
        intro deviceId limit bounded
        have within := kept.leases deviceId limit bounded
        rw [consistent.counted deviceId]
        exact_mod_cast within
      decrementedOnce := fun index =>
        List.nodup_iff_count_le_one.mp consistent.decrementedOnce index
      rate := fun clock => (kept.rate clock).window }

/-- Who gives up the lock or has finished with it is decided. -/
@[grind =]
def LeavesDecided (state : ModelAdmission) : Prop :=
  ∀ index caller, state.callers[index]? = some caller →
    state.locks.phaseOf index = some .leaving ∨ state.locks.phaseOf index = some .finished →
      caller.lease ≠ .pending

theorem callers_settleUsage (index : Nat) (caller : ModelCaller)
    (usage : Option (List ModelUsageAggregateRecord)) :
    (state.settleUsage index caller usage).locks = state.locks ∧
      ∃ after, (state.settleUsage index caller usage).callers = state.callers.set index after := by
  unfold settleUsage setCaller
  split
  · exact ⟨rfl, _, rfl⟩
  split
  · exact ⟨rfl, _, rfl⟩
  split <;> exact ⟨rfl, _, rfl⟩

theorem LeavesDecided.step (decided : state.LeavesDecided) (consistent : state.Consistent)
    {action : ModelAdmissionAction} (stepTo : state.step action = some next) :
    next.LeavesDecided := by
  cases action with
  | arrive request =>
    cases stepTo
    intro index caller found leaves
    have sameLength := congrArg List.length consistent.keys
    simp only [List.length_map] at sameLength
    simp only [enqueue, phaseOf] at leaves
    rcases Nat.lt_or_ge index state.callers.length with old | new
    · rw [List.getElem?_append_left old] at found
      rw [List.getElem?_append_left (by omega)] at leaves
      exact decided index caller found leaves
    · grind
  | leave index =>
    simp only [ModelAdmission.step, bind_eq_some_iff] at stepTo
    obtain ⟨caller, found, stepTo⟩ := stepTo
    split at stepTo
    · cases stepTo
    obtain ⟨locks, left, rfl⟩ := map_eq_some_iff.mp stepTo
    obtain ⟨waiter, stored, -, rfl⟩ := leave_eq_some left
    have phases (other : Nat) : (state.locks.move index waiter .leaving).phaseOf other = _ :=
      phaseOf_set stored rfl
    grind [setCaller]
  | acquire index =>
    simp only [ModelAdmission.step, bind_eq_some_iff] at stepTo
    obtain ⟨caller, found, stepTo⟩ := stepTo
    split at stepTo
    · cases stepTo
    obtain ⟨locks, acquired, rfl⟩ := map_eq_some_iff.mp stepTo
    obtain ⟨waiter, stored, -, -, rfl⟩ := acquire_eq_some acquired
    have phases (other : Nat) : (state.locks.move index waiter .holding).phaseOf other = _ :=
      phaseOf_set stored rfl
    grind
  | finish index =>
    simp only [ModelAdmission.step, bind_eq_some_iff] at stepTo
    obtain ⟨caller, found, stepTo⟩ := stepTo
    split at stepTo
    · cases stepTo
    obtain ⟨locks, finished, rfl⟩ := map_eq_some_iff.mp stepTo
    obtain ⟨waiter, stored, ready, waiters, -⟩ := finish_eq_some finished
    grind [mayFinish, phaseOf]
  | answer index usage => grind [callers_settleUsage]
  | _ => grind [setCaller, releaseLease]

/-- The requests of a device are served in the order of their arrival: when one is admitted, or is
in its critical section, every earlier one has been decided and has finished with the lock. -/
theorem served_in_order (run : Run state) {earlier index : Nat} {first caller : ModelCaller}
    (firstFound : state.callers[earlier]? = some first)
    (found : state.callers[index]? = some caller) (arrived : earlier < index)
    (sameDevice : first.request.deviceId = caller.request.deviceId)
    (served : state.locks.phaseOf index = some .holding ∨ caller.lease.isAdmitted = true) :
    state.locks.phaseOf earlier = some .finished ∧ first.lease ≠ .pending := by
  obtain ⟨consistent, decided⟩ :=
    GuardedRun.invariant (fun state => state.Consistent ∧ state.LeavesDecided)
      ⟨consistent_initial, by simp [LeavesDecided, initial]⟩
      (fun _ _ _ kept _ stepTo => ⟨kept.1.step stepTo, kept.2.step kept.1 stepTo⟩) run
  have held : state.locks.hasHeld index := served.elim .inl (consistent.inOrder index caller found)
  obtain ⟨waiter, waiterFound, phase⟩ := hasHeld_iff.mp held
  obtain ⟨before, beforeFound, beforeKey⟩ := consistent.waiterOf firstFound
  have sameKey : before.key = waiter.key := by
    rw [beforeKey, sameDevice, consistent.keyOf waiterFound found]
  have done := consistent.chained.inOrder index waiter waiterFound phase earlier arrived before
    beforeFound sameKey
  have finished : state.locks.phaseOf earlier = some .finished := by
    rw [phaseOf, beforeFound, map_some, done]
  exact ⟨finished, decided earlier first firstFound (.inr finished)⟩

/-- A caller whose turn it is, and who waits for nothing, may resolve its promise. -/
theorem Consistent.finish_isSome (consistent : state.Consistent) {index : Nat}
    (turn : state.locks.IsNext index deviceId)
    (unfinished : index ∈ state.locks.unfinished deviceId)
    (notWaiting : ∀ waiter ∈ state.locks.waiters, waiter.key = deviceId → waiter.phase ≠ .waiting)
    (settled : ∀ caller, state.callers[index]? = some caller →
      state.locks.phaseOf index = some .holding → caller.lease ≠ .pending) :
    (state.step (.finish index)).isSome := by
  obtain ⟨waiter, found, sameKey, open_⟩ := mem_unfinished.mp unfinished
  obtain ⟨again, foundAgain, -, resolved⟩ := turn
  rw [found] at foundAgain
  cases foundAgain
  obtain ⟨caller, callerFound, -⟩ := consistent.callerOf found
  have started := notWaiting waiter (List.mem_of_getElem? found) sameKey
  have ready : state.locks.mayFinish waiter = true := by
    cases phase : waiter.phase with
    | waiting => exact absurd phase started
    | leaving => simp [mayFinish, phase, resolved]
    | holding => simp [mayFinish, phase]
    | finished => exact absurd phase open_
  have decided : ¬ (state.locks.phaseOf index = some .holding ∧ caller.lease = .pending) :=
    fun both => settled caller callerFound both.1 both.2
  simp [ModelAdmission.step, callerFound, decided, finish, found, ready]

theorem not_mem_unfinished_of_finish {index : Nat}
    (stepTo : state.step (.finish index) = some next) : index ∉ next.locks.unfinished deviceId := by
  simp only [step, bind_eq_some_iff] at stepTo
  obtain ⟨caller, -, stepTo⟩ := stepTo
  split at stepTo
  · cases stepTo
  obtain ⟨locks, finished, rfl⟩ := map_eq_some_iff.mp stepTo
  obtain ⟨waiter, found, -, waiters, -⟩ := finish_eq_some finished
  intro mem
  obtain ⟨later, laterFound, -, open_⟩ := mem_unfinished.mp mem
  rw [waiters, List.getElem?_set_self (List.getElem?_eq_some_iff.mp found).1] at laterFound
  cases laterFound
  exact open_ rfl

section Endless

variable {run : EndlessRun step}

theorem consistent_always (start : run.states 0 = initial) (time : Nat) :
    (run.states time).Consistent := by
  have reached := run.reachable time
  rw [start] at reached
  exact Run.consistent reached

theorem moves_always (start : run.states 0 = initial) (time : Nat) :
    (run.states time).locks.Moves (run.states (time + 1)).locks := by
  cases taken : run.actions time with
  | none =>
    rw [run.rests time taken]
    exact .stay
  | some action =>
    have consistent := consistent_always start time
    exact (effect_of_step consistent.inOrder (run.follows time action taken)).moves

/-- A decided lease stays decided along an endless run. -/
theorem settled_always (start : run.states 0 = initial) {time : Nat} {index : Nat}
    (settled : ∃ caller, (run.states time).callers[index]? = some caller ∧
      caller.lease ≠ .pending) :
    ∀ later ≥ time, ∃ caller, (run.states later).callers[index]? = some caller ∧
      caller.lease ≠ .pending := by
  apply EndlessRun.kept_until
    (fun state : ModelAdmission => ∃ caller, state.callers[index]? = some caller ∧
      caller.lease ≠ .pending) _ settled
  rintro now - ⟨caller, found, decided⟩
  cases taken : run.actions now with
  | none =>
    rw [run.rests now taken]
    exact ⟨caller, found, decided⟩
  | some action =>
    have consistent := consistent_always start now
    exact (effect_of_step consistent.inOrder (run.follows now action taken)).settled found decided

theorem unfinished_antitone (start : run.states 0 = initial) {from_ : Nat}
    (nobody : ∀ time ≥ from_, ∀ waiter ∈ (run.states time).locks.waiters,
      waiter.key = deviceId → waiter.phase ≠ .waiting) {time later : Nat} (atLeast : from_ ≤ time)
    (after : time ≤ later) :
    (run.states later).locks.unfinished deviceId ⊆ (run.states time).locks.unfinished deviceId := by
  induction later, after using Nat.le_induction with
  | base => exact subset_rfl
  | succ now reached ih =>
    exact ((moves_always start now).unfinished_subset (nobody (now + 1) (by omega))).trans ih

theorem exists_finished (start : run.states 0 = initial) {from_ index : Nat}
    (fair : run.FairTo (.finish index))
    (nobody : ∀ time ≥ from_, ∀ waiter ∈ (run.states time).locks.waiters,
      waiter.key = deviceId → waiter.phase ≠ .waiting)
    (turn : (run.states from_).locks.IsNext index deviceId)
    (settled : (∃ caller, (run.states from_).callers[index]? = some caller ∧
        caller.lease ≠ .pending) ∨
      ∀ time ≥ from_, (run.states time).locks.phaseOf index ≠ some .holding) :
    ∃ later ≥ from_, index ∉ (run.states later).locks.unfinished deviceId := by
  by_contra never
  push Not at never
  have turnAlways : ∀ time ≥ from_, (run.states time).locks.IsNext index deviceId :=
    EndlessRun.kept_until (fun state : ModelAdmission => state.locks.IsNext index deviceId)
      (fun time _ here => here.moves (moves_always start time)) turn
  have possible : ∀ time ≥ from_, ((run.states time).step (.finish index)).isSome := by
    intro time atLeast
    apply (consistent_always start time).finish_isSome (turnAlways time atLeast)
      (never time atLeast) (nobody time atLeast)
    intro caller found holding
    rcases settled with decided | notHolding
    · obtain ⟨same, sameFound, sameDecided⟩ := settled_always start decided time atLeast
      rw [found] at sameFound
      cases sameFound
      exact sameDecided
    · exact absurd holding (notHolding time atLeast)
  obtain ⟨time, atLeast, taken⟩ := fair from_ possible
  exact not_mem_unfinished_of_finish (run.follows time _ taken) (never (time + 1) (by omega))

end Endless

theorem eventuallyUnlocked : EventuallyUnlocked := by
  intro run start fair answered deviceId from_ nobody
  apply EndlessRun.eventually_of_descends (fun state : ModelAdmission =>
    state.isLocked deviceId = false) fun state => (state.locks.unfinished deviceId).card
  intro time atLeast locked
  have consistent := consistent_always start time
  have present : ((run.states time).locks.tails.get? deviceId).isSome := by
    rwa [isLocked, Bool.not_eq_false] at locked
  obtain ⟨index, turn, unfinished⟩ := consistent.chained.exists_next present
  have nobodyLater : ∀ later ≥ time, ∀ waiter ∈ (run.states later).locks.waiters,
      waiter.key = deviceId → waiter.phase ≠ .waiting :=
    fun later after => nobody later (by omega)
  have finishes : ∃ later ≥ time, index ∉ (run.states later).locks.unfinished deviceId := by
    by_cases everHolds : ∃ holds ≥ time, (run.states holds).locks.phaseOf index = some .holding
    · -- The critical section ends when the store has answered.
      obtain ⟨holds, after, holding⟩ := everHolds
      obtain ⟨waiter, found, -⟩ := map_eq_some_iff.mp holding
      obtain ⟨caller, callerFound, -⟩ := (consistent_always start holds).callerOf found
      obtain ⟨settledAt, onward, settled⟩ := answered holds index caller callerFound holding
      have turnThen : (run.states settledAt).locks.IsNext index deviceId :=
        EndlessRun.kept_until (fun state : ModelAdmission => state.locks.IsNext index deviceId)
          (fun now _ here => here.moves (moves_always start now)) turn settledAt (by omega)
      obtain ⟨later, afterSettled, finished⟩ := exists_finished start (fair index)
        (fun now reached => nobodyLater now (by omega)) turnThen (.inl settled)
      exact ⟨later, by omega, finished⟩
    · push Not at everHolds
      exact exists_finished start (fair index) nobodyLater turn (.inr everHolds)
  obtain ⟨later, after, finished⟩ := finishes
  refine ⟨later, after, .inr (Finset.card_lt_card ?_)⟩
  rw [Finset.ssubset_iff_of_subset (unfinished_antitone start nobody atLeast after)]
  exact ⟨index, unfinished, finished⟩

/-- In every order of arrivals, waits and aborts the admission keeps its
guarantees, and the lock of a device is given up once nobody waits for it. -/
theorem modelAdmission : (∀ state, Run state → state.Guarantees) ∧ EventuallyUnlocked :=
  ⟨fun _ run => run.guarantees, eventuallyUnlocked⟩

def modelRequestAt (now : Instant) : ModelUsageRequest :=
  ⟨"dev-0", "ten-0", defaultModelConfig, now, ⟨2026, 1, 1⟩⟩

def abortedAndReleasedTwice : List ModelAdmissionAction :=
  [.arrive (modelRequestAt 0), .arrive (modelRequestAt 5), .acquire 0, .abort 1, .leave 1,
    .answer 0 (some []), .finish 0, .handOut 0, .finish 1, .release 0, .release 0]

def stateAt : Nat → ModelAdmission
  | 0 => initial
  | time + 1 => (abortedAndReleasedTwice[time]?.bind (stateAt time).step).getD (stateAt time)

/-- These actions, and rest after them. -/
def endlessRun : EndlessRun step where
  states := stateAt
  actions time := abortedAndReleasedTwice[time]?
  rests time absent := by simp [stateAt, absent]
  follows time action taken := by
    have possible : ∀ index : Fin 11,
        ((stateAt index).step abortedAndReleasedTwice[index]).isSome := by decide
    obtain ⟨within, rfl⟩ := List.getElem?_eq_some_iff.mp taken
    obtain ⟨next, stepTo⟩ := Option.isSome_iff_exists.mp (possible ⟨time, within⟩)
    simp_all [stateAt]

theorem endlessRun_rests {time : Nat} (late : 11 ≤ time) : endlessRun.states time = stateAt 11 := by
  induction time, late using Nat.le_induction with
  | base => rfl
  | succ time late ih =>
    exact (endlessRun.rests time (List.getElem?_eq_none_iff.mpr late)).trans ih

theorem modelAdmission_releasedTwice : (stateAt 11).Guarantees ∧
    (stateAt 11).decremented = [0] ∧ (stateAt 11).counterOf "dev-0" = 0 ∧
      ∃ time ≥ 11, (stateAt time).isLocked "dev-0" = false := by
  obtain ⟨guaranteed, unlocked⟩ := modelAdmission
  refine ⟨guaranteed _ (endlessRun.reachable 11), rfl, rfl,
    unlocked endlessRun rfl ?fair ?answered "dev-0" 11 ?nobody⟩
  case fair =>
    intro index time possible
    have later := possible (time + 11) (by omega)
    rw [endlessRun_rests (by omega)] at later
    match index with
    | 0 | 1 | _ + 2 => cases later
  case answered =>
    intro time index caller found _
    have few : ∀ early : Fin 11, (stateAt early).callers.length ≤ 2 := by decide
    have within := (List.getElem?_eq_some_iff.mp found).1
    refine ⟨time + 11, by omega, ?_⟩
    rw [endlessRun_rests (by omega)]
    match index with
    | 0 | 1 => exact ⟨_, rfl, nofun⟩
    | index + 2 =>
      rcases Nat.lt_or_ge time 11 with early | late
      · exact absurd (few ⟨time, early⟩) (Nat.not_le.mpr (lt_of_le_of_lt (by omega) within))
      · rw [endlessRun_rests late] at found
        cases found
  case nobody =>
    intro time late waiter mem _
    have done : ∀ waiter ∈ (stateAt 11).locks.waiters, waiter.phase ≠ .waiting := by decide
    rw [endlessRun_rests late] at mem
    exact done waiter mem

theorem served_in_order_twoRequests : ∃ (state : ModelAdmission) (first : ModelCaller),
    state.callers[0]? = some first ∧ state.locks.phaseOf 0 = some .finished ∧
      first.lease ≠ .pending := by
  obtain ⟨state, first, second, run, firstFound, secondFound, sameDevice, admitted⟩ :
      ∃ (state : ModelAdmission) (first second : ModelCaller), Run state ∧
        state.callers[0]? = some first ∧ state.callers[1]? = some second ∧
        first.request.deviceId = second.request.deviceId ∧ second.lease.isAdmitted = true :=
    ⟨_, ⟨modelRequestAt 0, false, .refused⟩, ⟨modelRequestAt 5, false, .granted⟩,
      GuardedRun.of_runActions (fun _ _ => trivial)
      (rfl : runActions step initial [.arrive (modelRequestAt 0), .arrive (modelRequestAt 5),
        .acquire 0, .answer 0 none, .finish 0, .acquire 1, .answer 1 (some [])] = some _),
      rfl, rfl, rfl, rfl⟩
  exact ⟨state, first, firstFound,
    served_in_order run firstFound secondFound (by omega) sameDevice (.inr admitted)⟩

end ModelAdmission

end LongHub
