import LongHub.GatewaySupervisor

/-!
# The invariant of the supervision of the Gateway

The properties of the supervision, the calls that keep them, and the invariant behind
them: a child that is alive is the one that the supervisor holds, a timer waits only
while none is alive, and a stop waits only for the child that is alive.
-/

namespace LongHub

open List Option

namespace Supervisor

def isRestarting (supervisor : Supervisor) : Bool :=
  supervisor.restartOperation = some .stopping ∨ supervisor.restartOperation = some .resuming

structure Supervised (supervisor : Supervisor) : Prop where
  single : ∀ one other, supervisor.Alive one → supervisor.Alive other → one = other
  silent : ∀ number ∈ supervisor.resolvedStops, supervisor.lastStart ≤ number →
    ∀ process, ¬ supervisor.Alive process
  answered : ∀ number < supervisor.nextStop, number ∈ supervisor.resolvedStops ∨
    ∃ process, (StopWaiter.call number, process) ∈ supervisor.waiting
  waits : ∀ wait ∈ supervisor.waiting, supervisor.Alive wait.2

def isSignalled (supervisor : Supervisor) : Bool :=
  supervisor.child.any fun child => supervisor.processes[child]? = some (some .signal)

def isOrderly (supervisor : Supervisor) : SupervisorAction → Bool
  | .start => supervisor.pid.isSome ∨ supervisor.pendingTimers = []
  | .stop => supervisor.isRestarting = false ∧ supervisor.isSignalled = false
  | .restart => supervisor.restartOperation.isSome ∨ supervisor.isSignalled = false
  | _ => true

abbrev OrderlyRun (options : SupervisorOptions) : Supervisor → Prop :=
  GuardedRun (step options) (fun supervisor action => supervisor.isOrderly action = true) initial

structure HandlesInv (supervisor : Supervisor) : Prop where
  current : ∀ process, supervisor.Alive process → supervisor.child = some process
  spawned : ∀ process, supervisor.child = some process → process < supervisor.processes.length
  handle : ∀ timer ∈ supervisor.pendingTimers, supervisor.restartTimer = some timer

/-- What holds between two orderly steps. -/
structure SupervisorInv (supervisor : Supervisor) : Prop extends HandlesInv supervisor where
  backoff : supervisor.pendingTimers ≠ [] →
    (∀ process, ¬ supervisor.Alive process) ∧ supervisor.isRestarting = false
  waits : ∀ wait ∈ supervisor.waiting, supervisor.Alive wait.2
  stopping : supervisor.waiting ≠ [] → supervisor.stopping = true
  operation : supervisor.restartOperation = some .stopping ↔
    ∃ process, (StopWaiter.restart, process) ∈ supervisor.waiting
  silent : ∀ number ∈ supervisor.resolvedStops, supervisor.lastStart ≤ number →
    (∀ process, ¬ supervisor.Alive process) ∧ supervisor.pendingTimers = [] ∧
      supervisor.isRestarting = false
  waitingCalls : ∀ number process, (StopWaiter.call number, process) ∈ supervisor.waiting →
    number < supervisor.nextStop ∧ (supervisor.lastStart ≤ number → supervisor.isRestarting = false)
  resolved : ∀ number ∈ supervisor.resolvedStops, number < supervisor.nextStop
  answered : ∀ number < supervisor.nextStop, number ∈ supervisor.resolvedStops ∨
    ∃ process, (StopWaiter.call number, process) ∈ supervisor.waiting

section Invariant

variable {options : SupervisorOptions} {supervisor : Supervisor} {process : Nat}

theorem SupervisorInv.supervised (inv : SupervisorInv supervisor) : Supervised supervisor where
  single one other oneAlive otherAlive := by
    have sameChild := (inv.current one oneAlive).symm.trans (inv.current other otherAlive)
    exact Option.some.inj sameChild
  silent number mem recent := (inv.silent number mem recent).1
  __ := inv

theorem supervisorInv_initial : SupervisorInv initial := by
  constructor
  case toHandlesInv => constructor <;> simp [initial, Alive]
  all_goals simp [initial, Alive]

theorem SupervisorInv.waiting_eq_nil (inv : SupervisorInv supervisor)
    (dead : ∀ process, ¬ supervisor.Alive process) : supervisor.waiting = [] := by
  apply eq_nil_iff_forall_not_mem.mpr
  intro wait mem
  exact dead wait.2 (inv.waits wait mem)

theorem SupervisorInv.pid_isSome (inv : SupervisorInv supervisor)
    (alive : supervisor.Alive process) : supervisor.pid.isSome := by
  rw [pid_of_alive alive (inv.current process alive)]
  rfl

theorem SupervisorInv.dead_of_not_pid (inv : SupervisorInv supervisor)
    (hidden : ¬ supervisor.pid.isSome) : ∀ process, ¬ supervisor.Alive process :=
  fun _ alive => hidden (inv.pid_isSome alive)

/-- A stop that clears the kept timer leaves none. -/
theorem HandlesInv.halted (inv : HandlesInv supervisor) :
    ({ supervisor with stopping := true }).clearTimeout supervisor.restartTimer =
      { supervisor with stopping := true, pendingTimers := [] } := by
  cases handle : supervisor.restartTimer with
  | none =>
    have empty : supervisor.pendingTimers = [] := by
      apply eq_nil_iff_forall_not_mem.mpr
      intro timer mem
      have kept := inv.handle timer mem
      simp [handle] at kept
    simp [clearTimeout, empty]
  | some timer =>
    have cleared : supervisor.pendingTimers.filter (fun pending => pending ≠ timer) = [] := by
      apply filter_eq_nil_iff.mpr
      intro pending mem
      have kept := inv.handle pending mem
      simp_all
    simp only [clearTimeout, cleared]

theorem SupervisorInv.spawnChild (inv : SupervisorInv supervisor)
    (dead : ∀ process, ¬ supervisor.Alive process) (untimed : supervisor.pendingTimers = [])
    (old : ∀ number ∈ supervisor.resolvedStops, number < supervisor.lastStart) :
    SupervisorInv supervisor.spawnChild := by
  have idle := inv.waiting_eq_nil dead
  constructor
  case toHandlesInv =>
    refine ⟨?_, ?_, inv.handle⟩
    · intro process alive
      rcases alive_spawnChild_iff.mp alive with earlier | rfl
      · exact absurd earlier (dead process)
      · rfl
    · intro process latest
      have same : supervisor.processes.length = process := Option.some.inj latest
      change process < (supervisor.processes ++ [none]).length
      simp [same]
  case backoff => exact fun timed => absurd untimed timed
  case waits =>
    intro wait mem
    exact alive_spawnChild_iff.mpr (.inl (inv.waits wait mem))
  case stopping => exact fun busy => absurd idle busy
  case operation => exact inv.operation
  case silent =>
    intro number mem recent
    have := old number mem
    exact absurd recent (by simpa [Supervisor.spawnChild, emit] using this)
  case waitingCalls => exact inv.waitingCalls
  case resolved => exact inv.resolved
  case answered => exact inv.answered

theorem SupervisorInv.unstopped (inv : SupervisorInv supervisor) (idle : supervisor.waiting = []) :
    SupervisorInv { supervisor with stopping := false } where
  __ := inv
  stopping busy := absurd idle busy

theorem SupervisorInv.start (inv : SupervisorInv supervisor)
    (untimed : supervisor.pid.isSome ∨ supervisor.pendingTimers = [])
    (old : ∀ number ∈ supervisor.resolvedStops, number < supervisor.lastStart) :
    SupervisorInv supervisor.start := by
  by_cases shown : supervisor.pid.isSome
  · rw [start_of_pid shown]
    exact inv
  · have dead := inv.dead_of_not_pid shown
    rw [start_of_not_pid shown]
    exact (inv.unstopped (inv.waiting_eq_nil dead)).spawnChild dead (untimed.resolve_left shown) old

theorem SupervisorInv.called (inv : SupervisorInv supervisor) :
    SupervisorInv { supervisor with lastStart := supervisor.nextStop } where
  __ := inv
  silent number mem recent := absurd (inv.resolved number mem) (Nat.not_lt.mpr recent)
  waitingCalls number process mem := by
    have issued := (inv.waitingCalls number process mem).1
    exact ⟨issued, fun recent => absurd issued (Nat.not_lt.mpr recent)⟩

def calls (waiters : List StopWaiter) : List Nat :=
  waiters.filterMap fun
    | .restart => none
    | .call number => some number

theorem mem_calls_iff {waiters : List StopWaiter} {number : Nat} :
    number ∈ calls waiters ↔ .call number ∈ waiters := by
  unfold calls
  rw [mem_filterMap]
  constructor
  · rintro ⟨_ | other, mem, found⟩
    · cases found
    · exact Option.some.inj found ▸ mem
  · exact fun mem => ⟨_, mem, rfl⟩

/-- The continuations of the stops let go of the child, resolve the calls, and let a
restart operation go on. -/
theorem finishStops_eq (supervisor : Supervisor) (waiters : List StopWaiter) :
    supervisor.finishStops waiters = { supervisor with
      child := if waiters = [] then supervisor.child else none
      emitted := supervisor.emitted ++ replicate waiters.length .stopped
      resolvedStops := supervisor.resolvedStops ++ calls waiters
      restartOperation :=
        if .restart ∈ waiters then some .resuming else supervisor.restartOperation } := by
  induction waiters generalizing supervisor with
  | nil => simp [finishStops, calls]
  | cons waiter rest ih =>
    rw [finishStops, ih]
    cases waiter <;> simp [resolve, emit, calls, replicate_succ]

theorem alive_of_exitCode {child : Nat} (current : supervisor.child = some child)
    (spawned : child < supervisor.processes.length) (uncoded : supervisor.exitCode child = none)
    (unsignalled : supervisor.isSignalled = false) : supervisor.Alive child := by
  have entry := getElem?_eq_getElem spawned
  simp only [isSignalled, current, any_some, decide_eq_false_iff_not] at unsignalled
  simp only [exitCode, entry] at uncoded
  unfold Alive
  cases ended : supervisor.processes[child] with
  | none => rw [entry, ended]
  | some ended_ =>
    cases ended_ with
    | code value => simp_all [ChildEnd.exitCode]
    | signal => simp_all

theorem HandlesInv.stop_cases (inv : HandlesInv supervisor)
    (unsignalled : supervisor.isSignalled = false) (waiter : StopWaiter) :
    (∃ child, supervisor.Alive child ∧ supervisor.stop waiter = { supervisor with
        stopping := true, pendingTimers := []
        waiting := supervisor.waiting ++ [(waiter, child)] }) ∨
    ((∀ process, ¬ supervisor.Alive process) ∧ supervisor.stop waiter = (({ supervisor with
        stopping := true, pendingTimers := [] }).emit .stopped).resolve waiter) := by
  unfold Supervisor.stop
  rw [inv.halted]
  dsimp only
  cases current : supervisor.child with
  | none =>
    have dead : ∀ process, ¬ supervisor.Alive process := by
      intro process alive
      have shown := inv.current process alive
      simp [current] at shown
    exact .inr ⟨dead, rfl⟩
  | some child =>
    by_cases coded : (supervisor.exitCode child).isSome
    · have dead : ∀ process, ¬ supervisor.Alive process := by
        intro process alive
        have same : child = process :=
          Option.some.inj (current.symm.trans (inv.current process alive))
        rw [same, exitCode_of_alive alive] at coded
        cases coded
      exact .inr ⟨dead, if_pos coded⟩
    · have uncoded : supervisor.exitCode child = none := not_isSome_iff_eq_none.mp coded
      have alive := alive_of_exitCode current (inv.spawned child current) uncoded unsignalled
      exact .inl ⟨child, alive, if_neg coded⟩

theorem SupervisorInv.stopCall (inv : SupervisorInv supervisor)
    (settled : supervisor.isRestarting = false) (unsignalled : supervisor.isSignalled = false) :
    SupervisorInv (({ supervisor with nextStop := supervisor.nextStop + 1 }).stop
      (.call supervisor.nextStop)) := by
  have handles : HandlesInv { supervisor with nextStop := supervisor.nextStop + 1 } :=
    ⟨inv.current, inv.spawned, inv.handle⟩
  rcases handles.stop_cases unsignalled (.call supervisor.nextStop) with
    ⟨child, alive, stopped⟩ | ⟨dead, stopped⟩
  · rw [stopped]
    constructor
    case toHandlesInv => exact ⟨inv.current, inv.spawned, by simp⟩
    case backoff => simp
    case waits =>
      intro wait mem
      rcases mem_append.mp mem with earlier | latest
      · exact inv.waits wait earlier
      · rw [mem_singleton.mp latest]
        exact alive
    case stopping => exact fun _ => rfl
    case operation => simpa using inv.operation
    case silent =>
      intro number mem recent
      exact absurd alive ((inv.silent number mem recent).1 child)
    case waitingCalls =>
      intro number process mem
      refine ⟨?_, fun _ => settled⟩
      rcases mem_append.mp mem with earlier | latest
      · have := (inv.waitingCalls number process earlier).1
        exact Nat.lt_succ_of_lt this
      · simp only [mem_singleton, Prod.mk.injEq, StopWaiter.call.injEq] at latest
        exact latest.1 ▸ Nat.lt_succ_self _
    case resolved => exact fun number mem => Nat.lt_succ_of_lt (inv.resolved number mem)
    case answered =>
      intro number issued
      rcases Nat.lt_succ_iff_lt_or_eq.mp issued with earlier | rfl
      · rcases inv.answered number earlier with resolved | ⟨process, waits⟩
        · exact .inl resolved
        · exact .inr ⟨process, mem_append_left _ waits⟩
      · exact .inr ⟨child, mem_append_right _ (mem_singleton_self _)⟩
  · have idle := inv.waiting_eq_nil dead
    rw [stopped]
    constructor
    case toHandlesInv => exact ⟨inv.current, inv.spawned, by simp [resolve, emit]⟩
    case backoff => simp [resolve, emit]
    case waits => exact inv.waits
    case stopping => exact fun busy => absurd idle busy
    case operation => exact inv.operation
    case silent => exact fun _ _ _ => ⟨dead, rfl, settled⟩
    case waitingCalls =>
      intro number process mem
      have := (inv.waitingCalls number process mem).1
      exact ⟨Nat.lt_succ_of_lt this, fun _ => settled⟩
    case resolved =>
      intro number mem
      rcases mem_append.mp mem with earlier | latest
      · exact Nat.lt_succ_of_lt (inv.resolved number earlier)
      · exact mem_singleton.mp latest ▸ Nat.lt_succ_self _
    case answered =>
      intro number issued
      rcases Nat.lt_succ_iff_lt_or_eq.mp issued with earlier | rfl
      · rcases inv.answered number earlier with resolved | waits
        · exact .inl (mem_append_left _ resolved)
        · exact .inr waits
      · exact .inl (mem_append_right _ (mem_singleton_self _))

theorem SupervisorInv.restart (inv : SupervisorInv supervisor)
    (unsignalled : supervisor.restartOperation.isSome ∨ supervisor.isSignalled = false)
    (called : supervisor.lastStart = supervisor.nextStop) : SupervisorInv supervisor.restart := by
  have old : ∀ number, number < supervisor.nextStop → ¬ supervisor.lastStart ≤ number := by
    omega
  unfold Supervisor.restart
  split
  · exact inv
  · rename_i free
    have unbusy : supervisor.restartOperation = none := not_isSome_iff_eq_none.mp free
    have handles : HandlesInv { supervisor with restartOperation := some .stopping } :=
      ⟨inv.current, inv.spawned, inv.handle⟩
    have noRestart : ∀ process, (StopWaiter.restart, process) ∉ supervisor.waiting := by
      intro process mem
      have := inv.operation.mpr ⟨process, mem⟩
      simp [unbusy] at this
    rcases handles.stop_cases (unsignalled.resolve_left free) .restart with
      ⟨child, alive, stopped⟩ | ⟨dead, stopped⟩
    · rw [stopped]
      constructor
      case toHandlesInv => exact ⟨inv.current, inv.spawned, by simp⟩
      case backoff => simp
      case waits =>
        intro wait mem
        rcases mem_append.mp mem with earlier | latest
        · exact inv.waits wait earlier
        · rw [mem_singleton.mp latest]
          exact alive
      case stopping => exact fun _ => rfl
      case operation => simp
      case silent =>
        intro number mem recent
        exact absurd recent (old number (inv.resolved number mem))
      case waitingCalls =>
        intro number process mem
        have earlier : (StopWaiter.call number, process) ∈ supervisor.waiting := by
          simpa using mem
        have issued := (inv.waitingCalls number process earlier).1
        exact ⟨issued, fun recent => absurd recent (old number issued)⟩
      case resolved => exact inv.resolved
      case answered =>
        intro number issued
        rcases inv.answered number issued with resolved | ⟨process, waits⟩
        · exact .inl resolved
        · exact .inr ⟨process, mem_append_left _ waits⟩
    · have idle := inv.waiting_eq_nil dead
      rw [stopped]
      constructor
      case toHandlesInv => exact ⟨inv.current, inv.spawned, by simp [resolve, emit]⟩
      case backoff => simp [resolve, emit]
      case waits => exact inv.waits
      case stopping => exact fun busy => absurd idle busy
      case operation => simpa [resolve, emit] using noRestart
      case silent =>
        intro number mem recent
        exact absurd recent (old number (inv.resolved number mem))
      case waitingCalls =>
        intro number process mem
        have issued := (inv.waitingCalls number process mem).1
        exact ⟨issued, fun recent => absurd recent (old number issued)⟩
      case resolved => exact inv.resolved
      case answered => exact inv.answered

end Invariant

end Supervisor

end LongHub
