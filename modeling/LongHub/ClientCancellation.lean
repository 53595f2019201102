import LongHub.CloudSkillClient
import LongHub.JsonRoundTrip

/-!
# Whether a cancelled call is cancelled

Once the call listens to the signal, an abort makes the next await fail, and the handler cancels the
task that the call knows.
-/

namespace LongHub

open Device Option

namespace CloudPlugin

def ClientWorld.abortedEarly (world : ClientWorld) : Bool :=
  world.abortPoint.any fun point => !point.listening

structure Running (world : ClientWorld) : Prop where
  listening : world.listening = true
  created : (.createTask, world.abortedEarly) ∈ world.sent
  createdOnce : ∀ flag, (.createTask, flag) ∈ world.sent → flag = world.abortedEarly
  noEmptyId : ∀ flag, (.cancelTask "", flag) ∉ world.sent
  noticed : ∀ point, world.abortPoint = some point → point.listening = true →
    world.controllerAborted = true ∧ point.taskId = world.taskId

section Events

variable {world : ClientWorld}

theorem Running.observe (running : Running world) (event : AbortEvent) :
    Running (world.observe event) := by
  cases event with
  | timeout =>
    refine ⟨running.listening, running.created, running.createdOnce, running.noEmptyId, ?_⟩
    intro point isPoint late
    obtain ⟨aborted, sameTask⟩ := running.noticed point isPoint late
    exact ⟨by simp [ClientWorld.observe, aborted], sameTask⟩
  | caller =>
    unfold ClientWorld.observe
    split_ifs with already
    · exact running
    · have none : world.abortPoint = none := by
        simpa [ClientWorld.callerAborted] using already
      have notEarly : world.abortedEarly = false := by simp [ClientWorld.abortedEarly, none]
      have created := running.created
      have createdOnce := running.createdOnce
      rw [notEarly] at created createdOnce
      refine ⟨running.listening, ?_, ?_, running.noEmptyId, ?_⟩
      · simpa [ClientWorld.abortedEarly, running.listening] using created
      · simpa [ClientWorld.abortedEarly, running.listening] using createdOnce
      · rintro point ⟨⟩ _
        exact ⟨by simp [running.listening], rfl⟩

theorem Running.elapse (running : Running world) (events : List AbortEvent) :
    Running (world.elapse events) := by
  induction events generalizing world with
  | nil => exact running
  | cons event rest ih => exact ih (running.observe event)

theorem Running.send (running : Running world) {request : ClientRequest}
    (notCreate : request ≠ .createTask) (notEmpty : request ≠ .cancelTask "") :
    Running (world.send request) where
  __ := running
  created := List.mem_append_left _ running.created
  createdOnce flag mem := by
    rcases List.mem_append.mp mem with earlier | last
    · exact running.createdOnce flag earlier
    · simp only [List.mem_singleton, Prod.mk.injEq] at last
      exact absurd last.1.symm notCreate
  noEmptyId flag mem := by
    rcases List.mem_append.mp mem with earlier | last
    · exact running.noEmptyId flag earlier
    · simp only [List.mem_singleton, Prod.mk.injEq] at last
      exact absurd last.1.symm notEmpty

theorem Running.setTaskId (running : Running world) (notAborted : world.controllerAborted = false)
    (taskId : String) : Running { world with taskId := some taskId } := by
  refine ⟨running.listening, running.created, running.createdOnce, running.noEmptyId, ?_⟩
  intro point isPoint late
  have aborted := (running.noticed point isPoint late).1
  rw [notAborted] at aborted
  cases aborted

end Events

/-- A running call, without an abort if it goes on. -/
def Awaited {α : Type} (outcome : Except ClientError α) (after : ClientWorld) : Prop :=
  Running after ∧ ∀ value, outcome = .ok value → after.controllerAborted = false

section Awaits

variable {world : ClientWorld} {choice : ClientChoice}

theorem Running.settle {α : Type} (running : Running world) (abortError : ClientError)
    (outcome : Except ClientError α) :
    Awaited (settle world abortError outcome).1 (settle world abortError outcome).2 := by
  refine ⟨running, fun value same => ?_⟩
  cases aborted : world.controllerAborted with
  | false => exact aborted
  | true => simp [CloudPlugin.settle, aborted] at same

theorem sound_check {α β : Type} {check : Except ClientError β} {next : β → ClientProgram α}
    (running : Running world)
    (continues : ∀ value, clientDevice.Ensures Awaited (next value) world) :
    clientDevice.Ensures Awaited (.ofExcept check >>= next) world :=
  sound_ofExcept_bind trivial (fun value _ => continues value) fun _ _ => ⟨running, nofun⟩

end Awaits

/-- A call that has just begun to listen. -/
structure Fresh (world : ClientWorld) : Prop where
  listening : world.listening = true
  notAborted : world.controllerAborted = false
  taskId : world.taskId = none
  sent : world.sent = []
  early : ∀ point, world.abortPoint = some point → point.listening = false

section Task

variable {world : ClientWorld}

theorem Fresh.running (fresh : Fresh world) : Running (world.send .createTask) := by
  have flag : world.callerAborted = world.abortedEarly := by
    cases atPoint : world.abortPoint with
    | none => simp [ClientWorld.callerAborted, ClientWorld.abortedEarly, atPoint]
    | some point =>
      have early := fresh.early point atPoint
      simp [ClientWorld.callerAborted, ClientWorld.abortedEarly, atPoint, early]
  have sent : (world.send .createTask).sent = [(.createTask, world.abortedEarly)] := by
    simp [ClientWorld.send, fresh.sent, flag]
  have sameEarly : (world.send .createTask).abortedEarly = world.abortedEarly := rfl
  refine ⟨fresh.listening, ?_, ?_, ?_, ?_⟩
  · rw [sent, sameEarly]
    exact List.mem_singleton_self _
  · intro flag mem
    rw [sent] at mem
    simpa [sameEarly] using mem
  · intro flag mem
    rw [sent] at mem
    simp at mem
  · intro point atPoint late
    have early := fresh.early point atPoint
    rw [early] at late
    cases late

end Task

def ClientWorld.cancelSent (world : ClientWorld) (taskId : String) : Prop :=
  ∃ flag, (.cancelTask taskId, flag) ∈ world.sent

structure Settled {α : Type} (outcome : Except ClientError α) (after : ClientWorld) : Prop where
  created : (.createTask, after.abortedEarly) ∈ after.sent
  createdOnce : ∀ flag, (.createTask, flag) ∈ after.sent → flag = after.abortedEarly
  noEmptyId : ¬ after.cancelSent ""
  rejected : ∀ point, after.abortPoint = some point → point.listening = true →
    outcome = .error requestCancelled
  cancelled : ∀ point taskId, after.abortPoint = some point → point.listening = true →
    point.taskId = some taskId → taskId ≠ "" → after.cancelSent taskId

section Handler

variable {world : ClientWorld} {α : Type}

theorem Running.settled (running : Running world) (outcome : Except ClientError α)
    (notAborted : world.controllerAborted = false) : Settled outcome world := by
  have notLate (point : AbortPoint) (atPoint : world.abortPoint = some point)
      (late : point.listening = true) : False := by
    have aborted := (running.noticed point atPoint late).1
    rw [notAborted] at aborted
    cases aborted
  refine ⟨running.created, running.createdOnce, ?_, ?_, ?_⟩
  · rintro ⟨flag, mem⟩
    exact running.noEmptyId flag mem
  · intro point atPoint late
    exact (notLate point atPoint late).elim
  · intro point taskId atPoint late
    exact (notLate point atPoint late).elim

def CancelSent (world : ClientWorld) : Prop :=
  Running world ∧ ∀ taskId, world.taskId = some taskId → taskId ≠ "" → world.cancelSent taskId

theorem sound_read {β : Type} {request : ClientCall} {next : request.Answer → ClientProgram β}
    {Final : Except ClientError β → ClientWorld → Prop} {answer : request.Answer}
    (reads : ∀ choice, performClient choice world request = (.ok answer, world))
    (continues : clientDevice.Ensures Final (next answer) world) :
    clientDevice.Ensures Final (callClient request >>= next) world := by
  apply sound_perform_bind trivial
  · intro choice value after acts
    have outcome := (reads choice).symm.trans (some.inj acts)
    cases outcome
    exact continues
  · intro choice error after acts
    have outcome := (reads choice).symm.trans (some.inj acts)
    cases outcome

theorem CancelSent.settled (sends : CancelSent world) (outcome : Except ClientError α)
    (rejects : world.callerAborted = true → outcome = .error requestCancelled) :
    Settled outcome world := by
  obtain ⟨running, cancels⟩ := sends
  refine ⟨running.created, running.createdOnce, ?_, ?_, ?_⟩
  · rintro ⟨flag, mem⟩
    exact running.noEmptyId flag mem
  · intro point atPoint _
    apply rejects
    simp [ClientWorld.callerAborted, atPoint]
  · intro point taskId atPoint late known notEmpty
    have sameTask := (running.noticed point atPoint late).2
    exact cancels taskId (sameTask.symm.trans known) notEmpty

end Handler

section Call

variable {world : ClientWorld}

structure Unheard (world : ClientWorld) : Prop where
  listening : world.listening = false
  notAborted : world.controllerAborted = false
  taskId : world.taskId = none
  sent : world.sent = []
  early : ∀ point, world.abortPoint = some point → point.listening = false

theorem Unheard.observe (unheard : Unheard world) (event : AbortEvent) :
    Unheard (world.observe event) := by
  cases event with
  | timeout =>
    refine ⟨unheard.listening, ?_, unheard.taskId, unheard.sent, unheard.early⟩
    simp [ClientWorld.observe, unheard.notAborted, unheard.listening]
  | caller =>
    unfold ClientWorld.observe
    split_ifs
    · exact unheard
    · refine ⟨unheard.listening, ?_, unheard.taskId, unheard.sent, ?_⟩
      · simp [unheard.notAborted, unheard.listening]
      · rintro point ⟨⟩
        exact unheard.listening

theorem Unheard.elapse (unheard : Unheard world) (events : List AbortEvent) :
    Unheard (world.elapse events) := by
  induction events generalizing world with
  | nil => exact unheard
  | cons event rest ih => exact ih (unheard.observe event)

def answering (events : List AbortEvent) (text : List Char) : ClientChoice where
  events := events
  fails := false
  token := some "token"
  status := 200
  text := text

end Call

end CloudPlugin

end LongHub
