import LongHub.SupervisorInvariant

/-!
# What the supervision of the Gateway guarantees

At most one Gateway child is alive, a stop that has resolved leaves none behind, and
every stop resolves, if the owner does not start during a backoff, does not stop during
the stop of a restart, and does not stop a child that a signal has already ended.
-/

namespace LongHub

open List Option Prod

namespace Supervisor

section Invariant

variable {options : SupervisorOptions} {supervisor : Supervisor} {process : Nat}

theorem onExit_of_stopping {code : Option Int} (stopping : supervisor.stopping = true) :
    supervisor.onExit options code = supervisor := if_pos stopping

theorem onExit_waiting (code : Option Int) :
    (supervisor.onExit options code).waiting = supervisor.waiting := by
  unfold onExit
  split_ifs <;> rfl

theorem partition_eq_of_all {α : Type} {keeps : α → Bool} {entries : List α}
    (all : ∀ entry ∈ entries, keeps entry = true) : entries.partition keeps = (entries, []) := by
  rw [partition_eq_filter_filter]
  congr 1
  · exact filter_eq_self.mpr all
  · apply filter_eq_nil_iff.mpr
    intro entry mem
    simp [all entry mem]

theorem start_restartOperation :
    supervisor.start.restartOperation = supervisor.restartOperation := by
  unfold Supervisor.start
  split <;> rfl

variable (inv : SupervisorInv supervisor)
include inv

theorem SupervisorInv.onExit (code : Option Int)
    (dead : ∀ process, ¬ supervisor.Alive process) (untimed : supervisor.pendingTimers = [])
    (settled : supervisor.isRestarting = false)
    (old : ∀ number ∈ supervisor.resolvedStops, number < supervisor.lastStart) :
    SupervisorInv (supervisor.onExit options code) := by
  unfold Supervisor.onExit
  split_ifs
  · exact inv
  · exact { inv with }
  · exact { inv with }
  · exact { inv with
      handle := by simp [emit, untimed]
      backoff := fun _ => ⟨dead, settled⟩
      silent := fun number mem recent =>
        absurd recent (Nat.not_le.mpr (old number mem)) }

section

variable (alive : supervisor.Alive process)
include alive

theorem SupervisorInv.waits_on : ∀ wait ∈ supervisor.waiting, wait.2 = process := by
  intro wait mem
  have current := inv.current wait.2 (inv.waits wait mem)
  exact some.inj (current.symm.trans (inv.current process alive))

theorem SupervisorInv.exit_eq (ended : ChildEnd) :
    supervisor.exit options process ended = finishStops
      { (supervisor.endProcess process ended).onExit options ended.exitCode with waiting := [] }
      (supervisor.waiting.map fst) := by
  have exited : ((supervisor.endProcess process ended).onExit options ended.exitCode).waiting =
      supervisor.waiting := onExit_waiting _
  simp only [exit, exited]
  rw [partition_eq_of_all]
  intro wait mem
  simpa using inv.waits_on alive wait mem

theorem SupervisorInv.dead_endProcess (ended : ChildEnd) :
    ∀ other, ¬ (supervisor.endProcess process ended).Alive other := by
  intro other otherAlive
  obtain ⟨earlier, differ⟩ := alive_endProcess_iff.mp otherAlive
  have current := inv.current other earlier
  exact differ (some.inj (current.symm.trans (inv.current process alive)))

theorem SupervisorInv.untimed_of_alive : supervisor.pendingTimers = [] := by
  by_contra timed
  exact (inv.backoff timed).1 process alive

theorem SupervisorInv.old_of_alive :
    ∀ number ∈ supervisor.resolvedStops, number < supervisor.lastStart := by
  intro number mem
  by_contra recent
  exact (inv.silent number mem (Nat.not_lt.mp recent)).1 process alive

theorem SupervisorInv.exit_idle (ended : ChildEnd) (idle : supervisor.waiting = [])
    (settled : supervisor.isRestarting = false) :
    SupervisorInv (supervisor.exit options process ended) := by
  have dead := inv.dead_endProcess alive ended
  have untimed := inv.untimed_of_alive alive
  have old := inv.old_of_alive alive
  have ending : SupervisorInv (supervisor.endProcess process ended) := { inv with
    current := fun other otherAlive => absurd otherAlive (dead other)
    spawned := by simpa [endProcess] using inv.spawned
    backoff := fun timed => absurd untimed timed
    waits := by simp [endProcess, idle]
    silent := fun number mem recent => absurd recent (Nat.not_le.mpr (old number mem)) }
  have exited : SupervisorInv ((supervisor.endProcess process ended).onExit options
      ended.exitCode) := ending.onExit ended.exitCode dead untimed settled old
  have rest : ((supervisor.endProcess process ended).onExit options ended.exitCode).waiting = [] :=
    (onExit_waiting _).trans idle
  rw [inv.exit_eq alive, idle, map_nil, finishStops, ← rest]
  exact exited

theorem SupervisorInv.exit_stopping (ended : ChildEnd) (stopping : supervisor.stopping = true) :
    SupervisorInv (supervisor.exit options process ended) := by
  have dead := inv.dead_endProcess alive ended
  have untimed := inv.untimed_of_alive alive
  have old := inv.old_of_alive alive
  have stopped : (supervisor.endProcess process ended).stopping = true := stopping
  have noStopping : (if .restart ∈ supervisor.waiting.map fst then some .resuming
      else supervisor.restartOperation) ≠ some RestartPhase.stopping := by
    split
    · simp
    · rename_i noRestart
      intro phase
      obtain ⟨child, mem⟩ := inv.operation.mp phase
      exact noRestart (List.mem_map_of_mem mem)
  have phase_of_recent : ∀ number, .call number ∈ supervisor.waiting.map fst →
      supervisor.lastStart ≤ number → (if .restart ∈ supervisor.waiting.map fst then
        some .resuming else supervisor.restartOperation) ≠ some RestartPhase.resuming := by
    intro number mem recent
    obtain ⟨⟨_, child⟩, waits, rfl⟩ := List.mem_map.mp mem
    have settled := (inv.waitingCalls number child waits).2 recent
    simp only [isRestarting, decide_eq_false_iff_not, not_or] at settled
    split
    · rename_i restarts
      obtain ⟨⟨_, other⟩, restartWaits, rfl⟩ := List.mem_map.mp restarts
      exact absurd (inv.operation.mpr ⟨other, restartWaits⟩) settled.1
    · exact settled.2
  rw [inv.exit_eq alive, onExit_of_stopping stopped, finishStops_eq]
  constructor
  case toHandlesInv =>
    refine ⟨fun other otherAlive => absurd otherAlive (dead other), ?_, inv.handle⟩
    intro other current
    simp only [endProcess, length_set] at current ⊢
    split at current
    · exact inv.spawned other current
    · cases current
  case backoff => exact fun timed => absurd untimed timed
  case waits => simp
  case stopping => exact fun _ => stopping
  case operation =>
    exact ⟨fun phase => absurd phase noStopping, fun ⟨_, mem⟩ => absurd mem not_mem_nil⟩
  case silent =>
    intro number mem recent
    rcases mem_append.mp mem with earlier | latest
    · exact absurd recent (Nat.not_le.mpr (old number earlier))
    · refine ⟨dead, untimed, ?_⟩
      have notResuming := phase_of_recent number (mem_calls_iff.mp latest) recent
      simp only [isRestarting, decide_eq_false_iff_not, not_or]
      exact ⟨noStopping, notResuming⟩
  case waitingCalls => simp
  case resolved =>
    intro number mem
    rcases mem_append.mp mem with earlier | latest
    · exact inv.resolved number earlier
    · obtain ⟨⟨_, child⟩, waits, same⟩ := List.mem_map.mp (mem_calls_iff.mp latest)
      cases same
      exact (inv.waitingCalls number child waits).1
  case answered =>
    intro number issued
    rcases inv.answered number issued with resolved | ⟨child, waits⟩
    · exact .inl (mem_append_left _ resolved)
    · have mem : .call number ∈ supervisor.waiting.map fst := List.mem_map_of_mem waits
      exact .inl (mem_append_right _ (mem_calls_iff.mpr mem))

theorem SupervisorInv.exit (ended : ChildEnd) (awake : supervisor.isResuming = false) :
    SupervisorInv (supervisor.exit options process ended) := by
  by_cases stopping : supervisor.stopping = true
  · exact inv.exit_stopping alive ended stopping
  · have idle : supervisor.waiting = [] := by
      by_contra busy
      exact stopping (inv.stopping busy)
    have notStopping : supervisor.restartOperation ≠ some .stopping := by
      intro phase
      obtain ⟨child, mem⟩ := inv.operation.mp phase
      simp [idle] at mem
    have settled : supervisor.isRestarting = false := by
      simp only [isResuming, decide_eq_false_iff_not, not_or] at awake
      simp only [isRestarting, decide_eq_false_iff_not, not_or]
      exact ⟨notStopping, awake.1⟩
    exact inv.exit_idle alive ended idle settled

end

theorem SupervisorInv.timer {timer : Nat} (pending : timer ∈ supervisor.pendingTimers) :
    SupervisorInv (supervisor.clearTimeout (some timer)).spawnChild := by
  have timed : supervisor.pendingTimers ≠ [] := ne_nil_of_mem pending
  obtain ⟨dead, settled⟩ := inv.backoff timed
  have old : ∀ number ∈ supervisor.resolvedStops, number < supervisor.lastStart := by
    intro number mem
    by_contra recent
    exact timed (inv.silent number mem (Nat.not_lt.mp recent)).2.1
  have untimed : (supervisor.clearTimeout (some timer)).pendingTimers = [] := by
    apply filter_eq_nil_iff.mpr
    intro other mem
    have same := (inv.handle other mem).symm.trans (inv.handle timer pending)
    simpa using some.inj same
  have cleared : SupervisorInv (supervisor.clearTimeout (some timer)) := { inv with
    handle := by simp [untimed]
    backoff := fun stillTimed => absurd untimed stillTimed
    silent := fun number mem recent => absurd recent (Nat.not_le.mpr (old number mem)) }
  exact cleared.spawnChild dead untimed old

/-- An operation whose stop does not wait any more may be cleared. -/
theorem SupervisorInv.settle {phase : Option RestartPhase}
    (stopped : supervisor.restartOperation ≠ some .stopping)
    (settled : ¬ (phase = some .stopping ∨ phase = some .resuming)) :
    SupervisorInv { supervisor with restartOperation := phase } := by
  have notRestarting : isRestarting { supervisor with restartOperation := phase } = false :=
    decide_eq_false settled
  have noRestart : ¬ ∃ process, (StopWaiter.restart, process) ∈ supervisor.waiting :=
    fun waits => stopped (inv.operation.mpr waits)
  exact { inv with
    backoff := fun timed => ⟨(inv.backoff timed).1, notRestarting⟩
    operation := ⟨fun same => absurd (.inl same) settled, fun waits => absurd waits noRestart⟩
    silent := fun number mem recent =>
      ⟨(inv.silent number mem recent).1, (inv.silent number mem recent).2.1, notRestarting⟩
    waitingCalls := fun number process mem =>
      ⟨(inv.waitingCalls number process mem).1, fun _ => notRestarting⟩ }

theorem SupervisorInv.resume (resuming : supervisor.restartOperation = some .resuming) :
    SupervisorInv { ({ supervisor with restarts := 0 } : Supervisor).start with
      restartOperation := some .finishing } := by
  have restarting : supervisor.isRestarting = true := by simp [isRestarting, resuming]
  have untimed : supervisor.pendingTimers = [] := by
    by_contra timed
    simp [(inv.backoff timed).2] at restarting
  have old : ∀ number ∈ supervisor.resolvedStops, number < supervisor.lastStart := by
    intro number mem
    by_contra recent
    simp [(inv.silent number mem (Nat.not_lt.mp recent)).2.2] at restarting
  have reset : SupervisorInv { supervisor with restarts := 0 } := { inv with }
  have started := reset.start (.inr untimed) old
  apply started.settle
  · rw [start_restartOperation, resuming]
    simp
  · simp

theorem SupervisorInv.step {action : SupervisorAction}
    {after : Supervisor} (orderly : supervisor.isOrderly action = true)
    (stepTo : supervisor.step options action = some after) : SupervisorInv after := by
  cases action with
  | start =>
    have untimed := of_decide_eq_true orderly
    rw [← some.inj stepTo]
    exact inv.called.start untimed inv.resolved
  | stop =>
    have settled := of_decide_eq_true orderly
    rw [← some.inj stepTo]
    exact inv.stopCall settled.1 settled.2
  | restart =>
    have unsignalled := of_decide_eq_true orderly
    rw [← some.inj stepTo]
    exact inv.called.restart unsignalled rfl
  | markHealthy =>
    rw [← some.inj stepTo]
    exact { inv with }
  | exit process ended =>
    obtain ⟨⟨alive, awake⟩, exited⟩ := ite_none_right_eq_some.mp stepTo
    rw [← some.inj exited]
    exact inv.exit alive ended awake
  | timer timer =>
    obtain ⟨⟨pending, _⟩, fired⟩ := ite_none_right_eq_some.mp stepTo
    rw [← some.inj fired]
    exact inv.timer pending
  | resume =>
    obtain ⟨resuming, resumed⟩ := ite_none_right_eq_some.mp stepTo
    rw [← some.inj resumed]
    exact inv.resume resuming
  | finish =>
    obtain ⟨finishing, finished⟩ := ite_none_right_eq_some.mp stepTo
    rw [← some.inj finished]
    exact inv.settle (by simp [finishing]) (by simp)

end Invariant

/-- In every state of an orderly run at most one child is alive, a stop after the last
start or restart that has resolved leaves none, and every stop resolves with the exit of
its child. -/
theorem supervised_of_orderlyRun (options : SupervisorOptions) (supervisor : Supervisor)
    (run : OrderlyRun options supervisor) : Supervised supervisor := by
  have inv : SupervisorInv supervisor := by
    apply run.invariant SupervisorInv supervisorInv_initial
    intro before after action inv orderly stepTo
    exact inv.step orderly stepTo
  exact inv.supervised

/-- A restart after a backoff, one on request, a signal, and a last stop. -/
def orderlyActions : List SupervisorAction :=
  [.start, .exit 0 (.code 1), .timer 0, .markHealthy, .restart, .restart, .exit 1 .signal,
    .resume, .finish, .stop, .stop, .exit 2 .signal]

def defaultOptions : SupervisorOptions := ⟨none, none⟩

theorem supervised_orderlyActions : ∃ supervisor : Supervisor,
    supervisor.resolvedStops = [0, 1] ∧ supervisor.processes.length = 3 ∧
      Supervised supervisor := by
  obtain ⟨supervisor, runs, fact⟩ := map_eq_some_iff.mp (show (runActions (fun state action =>
        if state.isOrderly action then state.step defaultOptions action else none)
      initial orderlyActions).map
        (fun state => (state.resolvedStops, state.processes.length)) = some ([0, 1], 3) by
      decide)
  have run : OrderlyRun defaultOptions supervisor :=
    GuardedRun.of_checkedActions (fun _ _ checked => checked) runs
  simp only [Prod.mk.injEq] at fact
  exact ⟨supervisor, fact.1, fact.2, supervised_of_orderlyRun defaultOptions supervisor run⟩

abbrev AnyRun (options : SupervisorOptions) : Supervisor → Prop :=
  GuardedRun (step options) (fun _ _ => True) initial

theorem exists_anyRun {options : SupervisorOptions} {fact : Supervisor → Prop}
    [DecidablePred fact] (actions : List SupervisorAction)
    (leads : (runActions (step options) initial actions).any (fun state => fact state) = true) :
    ∃ supervisor, AnyRun options supervisor ∧ fact supervisor := by
  cases runs : runActions (step options) initial actions with
  | none => simp [runs] at leads
  | some supervisor =>
    rw [runs] at leads
    have holds : fact supervisor := of_decide_eq_true leads
    exact ⟨supervisor, GuardedRun.of_runActions (fun _ _ => trivial) runs, holds⟩

/-- A start during a backoff leaves two children alive; a stop during the stop of a
restart resolves and the restart spawns a child; a stop after a signal waits forever. -/
theorem not_supervised : (∃ supervisor, AnyRun defaultOptions supervisor ∧
      supervisor.Alive 1 ∧ supervisor.Alive 2) ∧ (∃ supervisor, AnyRun defaultOptions supervisor ∧
      0 ∈ supervisor.resolvedStops ∧ supervisor.lastStart ≤ 0 ∧ supervisor.Alive 1) ∧
    (∃ supervisor, AnyRun defaultOptions supervisor ∧
      (StopWaiter.call 0, 0) ∈ supervisor.waiting ∧ ¬ supervisor.Alive 0) ∧
    ¬ ∀ supervisor, AnyRun defaultOptions supervisor → Supervised supervisor := by
  have doubled : ∃ supervisor, AnyRun defaultOptions supervisor ∧
      supervisor.Alive 1 ∧ supervisor.Alive 2 :=
    exists_anyRun [.start, .exit 0 (.code 1), .start, .timer 0] (by decide)
  refine ⟨doubled, ?_, ?_, ?_⟩
  · exact exists_anyRun [.start, .restart, .stop, .exit 0 .signal, .resume] (by decide)
  · exact exists_anyRun [.start, .exit 0 .signal, .stop] (by decide)
  · intro claim
    obtain ⟨supervisor, run, one, other⟩ := doubled
    have same := (claim supervisor run).single 1 2 one other
    exact absurd same (by decide)

end Supervisor

end LongHub
