import LongHub.StoreRuns

/-!
# The decisions of the two stores

Over any run the two stores decide alike, as long as no two subscriptions of a caller share the
newest date and no release names an empty reservation id beside the task of a reservation.
-/

namespace LongHub.ReservationStores

open CloudSkillTables LeaseStore List
variable {choice : NewestChoice} {stores next : ReservationStores}

namespace Linked

theorem release (linked : stores.Linked) {clock : Instant} {target : ReleaseTarget}
    {params : CloudSkillExecutionReleaseRequest}
    (serial : stores.Serial (.release clock target params))
    (clear : stores.Clear (.release clock target params)) :
    let results := stores.release clock target params
    SameRelease results.1.1 results.2.1 ∧
      Linked ⟨results.1.2, results.2.2, (parseExecutionNow clock params.now).getD stores.now⟩ := by
  dsimp only [ReservationStores.release]
  cases parsed : parseExecutionNow clock params.now with
  | none =>
    simp only [releaseCloudSkillExecution, PgReservationTables.releaseCloudSkillExecution, parsed]
    exact ⟨⟨rfl, trivial⟩, linked⟩
  | some now =>
    have later := serial.1 now parsed
    have bothNamed : ((stores.targetIds target).1.getD "" = "") ↔
        ((stores.targetIds target).2.getD "" = "") := by
      cases target with
      | unnamed => simp [targetIds]
      | unknown text => simp [targetIds]
      | returned position =>
        have sameLength := linked.twins.length_eq
        by_cases inside : position < stores.memory.reservations.values.length
        · have rowAt := getElem?_eq_getElem inside
          have twinAt := getElem?_eq_getElem (sameLength ▸ inside)
          have twinNamed := linked.named _ (mem_of_getElem? twinAt)
          have stored := linked.indexed.get?_of_mem (mem_of_getElem? rowAt)
          obtain ⟨number, -, key⟩ := linked.indexed.fresh stored
          have rowNamed : stores.memory.reservations.values[position].reservationId ≠ "" := by
            rw [key]
            intro empty
            have prefixed := congrArg String.toList empty
            simp [generatedId] at prefixed
          simp [targetIds, rowAt, twinAt, twinNamed, rowNamed]
        · have outside := getElem?_eq_none (not_lt.mp inside)
          have outsidePg : stores.pg.rows[position]? = none :=
            getElem?_eq_none (by omega)
          simp [targetIds, outside, outsidePg]
    by_cases named : (stores.targetIds target).1.getD "" = "" ∧ params.taskId.getD "" = ""
    · have alsoUnnamed := bothNamed.mp named.1
      simp only [releaseCloudSkillExecution, PgReservationTables.releaseCloudSkillExecution, parsed,
        named, alsoUnnamed, decide_true, Bool.and_self, if_true]
      exact ⟨⟨rfl, trivial⟩, linked.wait later⟩
    · have alsoNamed : ¬ ((stores.targetIds target).2.getD "" = "" ∧
          params.taskId.getD "" = "") := fun unnamed =>
        named ⟨bothNamed.mpr unnamed.1, unnamed.2⟩
      have found := linked.sameTarget serial clear (by tauto)
      exact linked.release_found later parsed rfl (by simpa using named)
        (by simpa using alsoNamed) found

theorem step (linked : stores.Linked) {call : StoreCall} (serial : stores.Serial call)
    (clear : stores.Clear call) (stepTo : stores.step choice call = some next) :
    stores.Agrees choice call ∧ next.Linked := by
  cases call with
  | reserve clock generated params =>
    cases stepTo
    exact linked.reserve serial clear
  | release clock target params =>
    cases stepTo
    exact linked.release serial clear

end Linked

/-- The two stores before the first call. -/
structure Start (stores : ReservationStores) : Prop where
  shares : stores.pg.SharesWith stores.memory
  plansKeyed : stores.memory.PlansKeyed
  subscriptionsKeyed : stores.memory.SubscriptionsKeyed
  unreserved : stores.memory.Unreserved
  empty : stores.pg.rows = []

theorem Start.linked (start : stores.Start) : stores.Linked where
  __ := start
  indexed := by
    constructor <;> exact fun found => by simp [start.unreserved.1] at found
  tasks := by
    intro taskId key found
    simp [start.unreserved.2] at found
  twins := by
    rw [start.unreserved.1, start.empty]
    exact .nil
  distinct := by simp [start.empty]
  named := by simp [start.empty]

/-- After every run of serial calls that both stores read alike they decide the next one alike. -/
theorem decidedAlike {start stores : ReservationStores} (begins : start.Start)
    (run : GuardedRun (step choice) (fun stores call => stores.Serial call ∧ stores.Clear call)
      start stores) {call : StoreCall} (serial : stores.Serial call) (clear : stores.Clear call) :
    stores.Agrees choice call := by
  have linked : stores.Linked := by
    apply run.invariant Linked begins.linked
    intro before after call linked guards stepTo
    exact (linked.step guards.1 guards.2 stepTo).2
  cases call with
  | reserve clock generated params => exact (linked.reserve serial clear).1
  | release clock target params => exact (linked.release serial clear).1

/-- The property that every call of every run is decided alike. -/
def DecisionLaw : Prop :=
  ∀ (choice : NewestChoice) (start stores : ReservationStores), start.Start →
    GuardedRun (step choice) Serial start stores →
    ∀ call, stores.Serial call → stores.Agrees choice call

def firstNewest : NewestChoice where
  choose rows := (newestFirst CloudSkillSubscriptionRecord.createdAt rows).head?
  isSome := by
    intro rows absent
    have empty := perm_insertionSort
      (fun left right : CloudSkillSubscriptionRecord => right.createdAt ≤ left.createdAt) rows
    rw [head?_eq_none_iff, newestFirst] at absent
    rwa [absent, nil_perm] at empty
  mem := by
    intro rows subscription chosen
    obtain ⟨older, ordered⟩ := head?_eq_some_iff.mp chosen
    exact (newestFirst_head ordered).1
  newest := by
    intro rows subscription chosen
    obtain ⟨older, ordered⟩ := head?_eq_some_iff.mp chosen
    exact (newestFirst_head ordered).2

def oneUserStores : ReservationStores where
  memory := oneUser
  pg := ⟨oneUser.plans, oneUser.subscriptions,
    oneUser.entitlements, []⟩
  now := 0

theorem start_oneUserStores : oneUserStores.Start where
  shares := ⟨rfl, rfl, rfl⟩
  plansKeyed := by
    intro key plan found
    have stored : oneUserStores.memory.plans = .set .empty "plan" onePlan := rfl
    rw [stored, InsertionMap.get?_set] at found
    split at found
    · next same =>
      rw [← Option.some.inj found, same]
      rfl
    · simp at found
  subscriptionsKeyed := subscriptionsKeyed_oneUser
  unreserved := ⟨rfl, rfl⟩
  empty := rfl

def leasedStores : ReservationStores :=
  let results := oneUserStores.reserve firstNewest 0 "1" shortLease
  ⟨results.1.2, results.2.2, 1⟩

def emptyIdRelease : StoreCall :=
  .release 0 (.unknown "") ⟨none, some "task", none, none, some (.instant 2)⟩

theorem serial_reserve : oneUserStores.Serial (.reserve 0 "1" shortLease) := by
  refine ⟨?_, by intro row member; cases member⟩
  intro now parsed
  cases parsed
  decide

theorem step_leasedStores :
    oneUserStores.step firstNewest (.reserve 0 "1" shortLease) = some leasedStores := rfl

theorem serial_emptyIdRelease : leasedStores.Serial emptyIdRelease := by
  refine ⟨?_, ?_⟩
  · intro now parsed
    cases parsed
    decide
  · intro text unknown
    cases unknown
    decide

theorem decidedAlike_leasedStores : leasedStores.Agrees firstNewest (.release 0 .unnamed
      ⟨none, some "task", none, none, some (.instant 2)⟩) := by
  have clear : oneUserStores.Clear (.reserve 0 "1" shortLease) := by
    intro one oneIn other otherIn _
    have all : oneUserStores.memory.subscriptions.values.filter
        shortLease.matchesSubscription = [oneSubscription] := by
      decide
    rw [all, mem_singleton] at oneIn otherIn
    rw [oneIn, otherIn]
  have run : GuardedRun (step firstNewest)
      (fun stores call => stores.Serial call ∧ stores.Clear call) oneUserStores leasedStores :=
    GuardedRun.refl.tail (.reserve 0 "1" shortLease) ⟨serial_reserve, clear⟩
      step_leasedStores
  apply decidedAlike start_oneUserStores run
  · refine ⟨?_, by intro text unknown; cases unknown⟩
    intro now parsed
    cases parsed
    decide
  · intro unknown
    cases unknown

/-- The in-memory store finds no reservation, the other releases that of the task. -/
theorem not_decisionLaw : ¬ DecisionLaw := by
  intro law
  have run : GuardedRun (step firstNewest) Serial oneUserStores leasedStores :=
    GuardedRun.refl.tail (.reserve 0 "1" shortLease) serial_reserve step_leasedStores
  have agrees := law firstNewest oneUserStores leasedStores start_oneUserStores run
    emptyIdRelease serial_emptyIdRelease
  have same := agrees.1
  cases same

end LongHub.ReservationStores
