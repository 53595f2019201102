import LongHub.GuardedRun
import Mathlib.Algebra.Group.Nat.Defs
import Mathlib.Data.List.Basic

/-!
# The supervisor of the Gateway process

The desktop spawns one Gateway process, spawns it again after a backoff when it exits unexpectedly,
and stops it when the desktop leaves.
-/

namespace LongHub

/-- What the supervisor reports to its owner. -/
inductive GatewayState where
  | starting (attempt : Nat)
  | running (pid : Nat)
  | restarting (attempt delayMs : Nat) (exitCode : Option Int)
  | configError (exitCode : Int)
  | failed (exitCode : Option Int) (restartsExhausted : Bool)
  | stopped

inductive ChildEnd where
  | code (value : Int)
  | signal
  deriving DecidableEq

namespace ChildEnd

def exitCode : ChildEnd → Option Int
  | .code value => some value
  | .signal => none

end ChildEnd

structure SupervisorOptions where
  maxRestarts : Option Nat
  restartBackoffMs : Option Nat

inductive RestartPhase where
  | stopping
  | resuming
  | finishing
  deriving DecidableEq

inductive StopWaiter where
  | restart
  | call (number : Nat)
  deriving DecidableEq

structure Supervisor where
  child : Option Nat
  restarts : Nat
  stopping : Bool
  restartTimer : Option Nat
  restartOperation : Option RestartPhase
  processes : List (Option ChildEnd)
  pendingTimers : List Nat
  nextTimer : Nat
  waiting : List (StopWaiter × Nat)
  emitted : List GatewayState
  resolvedStops : List Nat
  nextStop : Nat
  lastStart : Nat

def EX_CONFIG : Int := 78

namespace Supervisor

def initial : Supervisor where
  child := none
  restarts := 0
  stopping := false
  restartTimer := none
  restartOperation := none
  processes := []
  pendingTimers := []
  nextTimer := 0
  waiting := []
  emitted := []
  resolvedStops := []
  nextStop := 0
  lastStart := 0

def Alive (supervisor : Supervisor) (process : Nat) : Prop :=
  supervisor.processes[process]? = some none

instance (supervisor : Supervisor) (process : Nat) : Decidable (supervisor.Alive process) :=
  inferInstanceAs (Decidable (supervisor.processes[process]? = some none))

def exitCode (supervisor : Supervisor) (process : Nat) : Option Int :=
  (supervisor.processes[process]?).join.bind ChildEnd.exitCode

def pid (supervisor : Supervisor) : Option Nat :=
  supervisor.child.filter fun child => supervisor.exitCode child = none

def emit (state : GatewayState) (supervisor : Supervisor) : Supervisor :=
  { supervisor with emitted := supervisor.emitted ++ [state] }

def spawnChild (supervisor : Supervisor) : Supervisor :=
  let started := supervisor.emit (.starting (supervisor.restarts + 1))
  let child := started.processes.length
  ({ started with
    processes := started.processes ++ [none]
    child := some child }).emit (.running child)

def start (supervisor : Supervisor) : Supervisor :=
  if supervisor.pid.isSome then supervisor
  else ({ supervisor with stopping := false }).spawnChild

def clearTimeout (timer : Option Nat) (supervisor : Supervisor) : Supervisor :=
  match timer with
  | none => supervisor
  | some timer =>
    { supervisor with
      pendingTimers := supervisor.pendingTimers.filter fun pending => pending ≠ timer }

def resolve (waiter : StopWaiter) (supervisor : Supervisor) : Supervisor :=
  match waiter with
  | .restart => { supervisor with restartOperation := some .resuming }
  | .call number => { supervisor with resolvedStops := supervisor.resolvedStops ++ [number] }

def stop (waiter : StopWaiter) (supervisor : Supervisor) : Supervisor :=
  let stopped := ({ supervisor with stopping := true }).clearTimeout supervisor.restartTimer
  match stopped.child with
  | none => (stopped.emit .stopped).resolve waiter
  | some child =>
    if (stopped.exitCode child).isSome then (stopped.emit .stopped).resolve waiter
    else { stopped with waiting := stopped.waiting ++ [(waiter, child)] }

def restart (supervisor : Supervisor) : Supervisor :=
  if supervisor.restartOperation.isSome then supervisor
  else ({ supervisor with restartOperation := some .stopping }).stop .restart

def onExit (options : SupervisorOptions) (code : Option Int) (supervisor : Supervisor) :
    Supervisor :=
  if supervisor.stopping then supervisor
  else if code = some EX_CONFIG then supervisor.emit (.configError EX_CONFIG)
  else if options.maxRestarts.getD 3 ≤ supervisor.restarts then
    supervisor.emit (.failed code true)
  else
    let restarts := supervisor.restarts + 1
    let backoff := options.restartBackoffMs.getD 1000 * 2 ^ (restarts - 1)
    let emitted := ({ supervisor with restarts := restarts }).emit
      (.restarting (restarts + 1) backoff code)
    { emitted with
      restartTimer := some emitted.nextTimer
      pendingTimers := emitted.pendingTimers ++ [emitted.nextTimer]
      nextTimer := emitted.nextTimer + 1 }

def finishStops (supervisor : Supervisor) : List StopWaiter → Supervisor
  | [] => supervisor
  | waiter :: rest =>
    finishStops ((({ supervisor with child := none }).emit .stopped).resolve waiter) rest

def endProcess (process : Nat) (ended : ChildEnd) (supervisor : Supervisor) : Supervisor :=
  { supervisor with processes := supervisor.processes.set process (some ended) }

def exit (options : SupervisorOptions) (process : Nat) (ended : ChildEnd)
    (supervisor : Supervisor) : Supervisor :=
  let exited := (supervisor.endProcess process ended).onExit options ended.exitCode
  let (waiters, waiting) := exited.waiting.partition fun (_, child) => child = process
  finishStops { exited with waiting := waiting } (waiters.map Prod.fst)

/-- A continuation of a restart operation waits in the queue of microtasks. -/
def isResuming (supervisor : Supervisor) : Bool :=
  supervisor.restartOperation = some .resuming ∨ supervisor.restartOperation = some .finishing

end Supervisor

inductive SupervisorAction where
  | start
  | stop
  | restart
  | markHealthy
  | exit (process : Nat) (ended : ChildEnd)
  | timer (timer : Nat)
  | resume
  | finish

namespace Supervisor

/-- Exits and timers wait until the microtasks have run. -/
def step (options : SupervisorOptions) (supervisor : Supervisor) :
    SupervisorAction → Option Supervisor
  | .start => some ({ supervisor with lastStart := supervisor.nextStop }).start
  | .stop =>
    some (({ supervisor with nextStop := supervisor.nextStop + 1 }).stop
      (.call supervisor.nextStop))
  | .restart => some ({ supervisor with lastStart := supervisor.nextStop }).restart
  | .markHealthy => some { supervisor with restarts := 0 }
  | .exit process ended =>
    if supervisor.Alive process ∧ supervisor.isResuming = false then
      some (supervisor.exit options process ended)
    else none
  | .timer timer =>
    if timer ∈ supervisor.pendingTimers ∧ supervisor.isResuming = false then
      some (supervisor.clearTimeout (some timer)).spawnChild
    else none
  | .resume =>
    if supervisor.restartOperation = some .resuming then
      some { ({ supervisor with restarts := 0 }).start with
        restartOperation := some .finishing }
    else none
  | .finish =>
    if supervisor.restartOperation = some .finishing then
      some { supervisor with restartOperation := none }
    else none

section Methods

variable {supervisor : Supervisor} {process : Nat}

theorem pid_eq_some_iff : supervisor.pid = some process ↔
    supervisor.child = some process ∧ supervisor.exitCode process = none := by
  simp [pid, Option.filter_eq_some_iff]

theorem exitCode_of_alive (alive : supervisor.Alive process) :
    supervisor.exitCode process = none := by
  have entry : supervisor.processes[process]? = some none := alive
  simp [exitCode, entry]

theorem pid_of_alive (alive : supervisor.Alive process)
    (current : supervisor.child = some process) : supervisor.pid = some process :=
  pid_eq_some_iff.mpr ⟨current, exitCode_of_alive alive⟩

theorem start_of_pid (shown : supervisor.pid.isSome) : supervisor.start = supervisor :=
  if_pos shown

theorem start_of_not_pid (hidden : ¬ supervisor.pid.isSome) :
    supervisor.start = ({ supervisor with stopping := false }).spawnChild :=
  if_neg hidden

theorem alive_spawnChild_iff : supervisor.spawnChild.Alive process ↔
    supervisor.Alive process ∨ process = supervisor.processes.length := by
  change (supervisor.processes ++ [none])[process]? = some none ↔
    supervisor.processes[process]? = some none ∨ process = supervisor.processes.length
  rw [List.getElem?_append]
  split
  · have differ : process ≠ supervisor.processes.length := by omega
    simp [differ]
  · have absent : supervisor.processes[process]? = none := List.getElem?_eq_none (by omega)
    simp only [absent, reduceCtorEq, false_or]
    constructor
    · intro found
      have := (List.getElem?_eq_some_iff.mp found).1
      simp at this
      omega
    · rintro rfl
      simp

theorem alive_endProcess_iff {ended : ChildEnd} {other : Nat} :
    (supervisor.endProcess process ended).Alive other ↔
      supervisor.Alive other ∧ other ≠ process := by
  unfold Alive endProcess
  rw [List.getElem?_set]
  split
  · rename_i same
    simp [same]
  · rename_i differ
    exact ⟨fun alive => ⟨alive, Ne.symm differ⟩, fun alive => alive.1⟩

end Methods

end Supervisor

end LongHub
