import LongHub.WorkerReplies

/-!
# What an earlier failure costs a later call

An adapter that did not connect, an adapter whose connection has closed and a session that could not
be created are kept by the process, so that a call which needs one of them fails although the
Gateway works.
-/

namespace LongHub

open Option

namespace OpenClaw

namespace SkillWorker

section Failures

variable {worker after : SkillWorker} {call : Nat} {request : WorkerRequest}
variable {position : CallPosition} {action : WorkerAction}

def started (worker : SkillWorker) (call : Nat) (request : WorkerRequest) : SkillWorker :=
  let upstream : SkillWorker :=
    { worker with
      upstreamReady := if worker.upstreamReady = .unset then .connecting
        else worker.upstreamReady }
  upstream.moveTo call request .awaitsUpstream

theorem step_start (fresh : worker.calls call = none) (valid : request.inputError = none) :
    worker.step (.start call request) = some (worker.started call request) := by
  simp [step, started, fresh, valid]

@[simp]
theorem calls_started : (worker.started call request).calls call =
    some ⟨request, .awaitsUpstream⟩ := calls_moveTo

theorem upstreamReady_started (isSet : worker.upstreamReady ≠ .unset) :
    (worker.started call request).upstreamReady = worker.upstreamReady :=
  if_neg isSet

theorem recovers_of_usable (hasSessions : worker.HasSessions) (fresh : worker.calls call = none)
    (valid : request.inputError = none) (adapter : worker.HasUsableAdapter)
    (usable : worker.HasUsableSession request) : worker.Recovers call request := by
  refine ⟨worker.started call request, step_start fresh valid, ?_⟩
  have onTrack : (worker.started call request).OnTrack request .awaitsUpstream := by
    refine ⟨?_, usable⟩
    cases upstream : worker.upstreamReady with
    | unset => exact .inl (if_pos upstream)
    | connecting =>
      exact .inl ((upstreamReady_started (by simp [upstream])).trans upstream)
    | rejected error => exact absurd upstream (adapter.1 error)
    | ready isOpen =>
      cases isOpen with
      | false => exact absurd upstream adapter.2
      | true =>
        right
        rw [isOpen, upstreamReady_started (by simp [upstream]), upstream]
        rfl
  have underWay : (worker.started call request).UnderWay call request :=
    ⟨hasSessions, .awaitsUpstream, calls_started, onTrack⟩
  intro after run
  have later := underWay.run run
  refine ⟨fun outcome ended => ?_, later.canEnd⟩
  obtain ⟨position, found, onTrack⟩ := later.onTrack
  have isFinished : position = .finished outcome := by
    simp only [SkillWorker.outcome, found, bind_some] at ended
    split at ended
    · cases ended
      rfl
    · cases ended
  subst isFinished
  exact onTrack

def CanFail (worker : SkillWorker) (call : Nat) : Prop :=
  ∃ after error, GuardedRun step IsWorking worker after ∧ after.outcome call = some (.error error)

theorem canFail_of_step (steps : worker.step action = some after)
    (working : IsWorking worker action) (canFail : after.CanFail call) : worker.CanFail call := by
  obtain ⟨last, error, run, failed⟩ := canFail
  exact ⟨last, error, (GuardedRun.refl.tail action working steps).trans run, failed⟩

theorem canFail_moveTo (error : String) :
    (worker.moveTo call request (.finished (.error error))).CanFail call :=
  ⟨_, error, .refl, by simp [outcome]⟩

theorem not_replies_of_canFail (canFail : worker.CanFail call) : ¬ worker.Replies call := by
  intro replies
  obtain ⟨after, error, run, failed⟩ := canFail
  obtain ⟨reply, isOk, -⟩ := (replies after run).1 _ failed
  cases isOk

variable {error conversationId message : String} {session : Nat}

theorem canFail_of_rejected (rejected : worker.upstreamReady = .rejected error)
    (found : worker.calls call = some ⟨request, .awaitsUpstream⟩) : worker.CanFail call := by
  have steps : worker.step (.resume call) =
      some (worker.moveTo call request (.finished (.error error))) := by
    simp [step, resume, found, rejected]
  exact canFail_of_step steps trivial (canFail_moveTo error)

theorem canFail_of_open (isOpen : worker.isOpen = true)
    (found : worker.calls call = some ⟨.chat conversationId message, .awaitsUpstream⟩)
    (kept : worker.chatSessions conversationId = some session)
    (rejected : worker.promise session = some (.rejected error)) : worker.CanFail call := by
  have isReady : worker.upstreamReady = .ready true := of_decide_eq_true isOpen
  let next := worker.moveTo call (.chat conversationId message) (.awaitsSession session)
  have steps : worker.step (.resume call) = some next := by
    simp [step, resume, withAdapter, found, isReady, kept, next]
  have rejectedNext : next.promise session = some (.rejected error) := rejected
  have stepsNext : next.step (.resume call) =
      some (next.moveTo call (.chat conversationId message) (.finished (.error error))) := by
    have foundNext : next.calls call =
        some ⟨.chat conversationId message, .awaitsSession session⟩ := calls_moveTo
    simp [step, resume, foundNext, rejectedNext]
  exact canFail_of_step steps trivial (canFail_of_step stepsNext trivial (canFail_moveTo error))

theorem canFail_of_session (adapter : worker.HasUsableAdapter)
    (kept : worker.chatSessions conversationId = some session)
    (rejected : worker.promise session = some (.rejected error)) :
    (worker.started call (.chat conversationId message)).CanFail call := by
  have connects : (worker.started call (.chat conversationId message)).upstreamReady =
      .connecting → (worker.started call (.chat conversationId message)).CanFail call := by
    intro isConnecting
    let connected : SkillWorker :=
      { worker.started call (.chat conversationId message) with upstreamReady := .ready true }
    have steps : (worker.started call (.chat conversationId message)).step .connected =
        some connected := if_pos isConnecting
    have fails : connected.CanFail call := canFail_of_open rfl calls_started kept rejected
    exact canFail_of_step steps trivial fails
  cases upstream : worker.upstreamReady with
  | unset => exact connects (if_pos upstream)
  | connecting => exact connects ((upstreamReady_started (by simp [upstream])).trans upstream)
  | rejected error => exact absurd upstream (adapter.1 error)
  | ready isOpen =>
    cases isOpen with
    | false => exact absurd upstream adapter.2
    | true =>
      have isReady : (worker.started call (.chat conversationId message)).upstreamReady =
          .ready true := (upstreamReady_started (by simp [upstream])).trans upstream
      exact canFail_of_open (decide_eq_true isReady) calls_started kept rejected

def HasNoReply : CallPosition → Prop
  | .awaitsUpstream | .awaitsSession _ => True
  | .awaitsMessage _ _ isOpen => isOpen = false
  | .finished outcome => ∃ error, outcome = .error error

structure CutOff (worker : SkillWorker) (call : Nat) (request : WorkerRequest) : Prop where
  isClosed : worker.upstreamReady = .ready false
  noReply : ∃ position, worker.calls call = some ⟨request, position⟩ ∧ HasNoReply position

theorem upstreamReady_withAdapter :
    (worker.withAdapter call request).upstreamReady = worker.upstreamReady := by
  unfold withAdapter
  split
  · split <;> rfl
  · rfl

theorem upstreamReady_dropSession {events : List UpstreamEvent} :
    (worker.dropSession request events).upstreamReady = worker.upstreamReady := by
  unfold dropSession
  split <;> rfl

/-- Nothing connects the process again. -/
theorem isClosed_step (isClosed : worker.upstreamReady = .ready false)
    (steps : worker.step action = some after) : after.upstreamReady = .ready false := by
  cases action with
  | start call request =>
    simp only [step] at steps
    split_ifs at steps with known unset
    · rw [isClosed] at unset
      cases unset
    · split at steps <;> cases steps
      · exact isClosed
      · exact isClosed
  | connected | connectFailed error =>
    simp [step, isClosed] at steps
  | connectionClosed =>
    simp [step, isOpen, isClosed] at steps
  | sessionCreated session sessionId | sessionFailed session error =>
    simp only [step] at steps
    split_ifs at steps
    cases steps
    exact isClosed
  | resume call =>
    obtain ⟨state, found, resumes⟩ := bind_eq_some_iff.mp steps
    unfold resume at resumes
    split at resumes
    · split at resumes <;> cases resumes
      · exact isClosed
      · exact upstreamReady_withAdapter.trans isClosed
    · split at resumes <;> cases resumes
      · exact isClosed
      · exact isClosed
    · cases resumes
    · cases resumes
  | messageEnded call events thrown =>
    obtain ⟨state, found, ended⟩ := bind_eq_some_iff.mp steps
    split at ended
    · split_ifs at ended
      cases ended
      exact upstreamReady_dropSession.trans isClosed
    · cases ended

theorem calls_withAdapter : ∃ session, (worker.withAdapter call request).calls call =
    some ⟨request, .awaitsSession session⟩ := by
  unfold withAdapter
  split
  · split
    · exact ⟨_, calls_moveTo⟩
    · exact ⟨_, calls_moveTo⟩
  · exact ⟨_, calls_moveTo⟩

theorem noReply_step (isClosed : worker.upstreamReady = .ready false)
    (found : worker.calls call = some ⟨request, position⟩) (noReply : HasNoReply position)
    (isOf : IsOf call action) (working : IsWorking worker action)
    (steps : worker.step action = some after) :
    ∃ position, after.calls call = some ⟨request, position⟩ ∧ HasNoReply position := by
  cases action with
  | start other request =>
    cases isOf
    simp [step, found] at steps
  | connected | connectFailed error | sessionFailed session error | connectionClosed
  | sessionCreated session sessionId => exact isOf.elim
  | resume other =>
    cases isOf
    simp only [step, found, bind_some] at steps
    cases position with
    | awaitsUpstream =>
      simp only [resume, isClosed] at steps
      cases steps
      obtain ⟨session, foundNext⟩ := @calls_withAdapter worker call request
      exact ⟨_, foundNext, trivial⟩
    | awaitsSession session =>
      have notOpen : worker.isOpen = false := by simp [isOpen, isClosed]
      simp only [resume] at steps
      split at steps <;> cases steps
      · exact ⟨_, calls_moveTo, notOpen⟩
      · exact ⟨_, calls_moveTo, _, rfl⟩
    | awaitsMessage sessionId text isOpen => cases steps
    | finished outcome => cases steps
  | messageEnded other events thrown =>
    cases isOf
    obtain ⟨rfl, text, collected, notEmpty⟩ := working
    simp only [step, found, bind_some] at steps
    cases position with
    | awaitsMessage sessionId sent isOpen =>
      cases noReply
      simp at steps
    | awaitsUpstream => cases steps
    | awaitsSession session => cases steps
    | finished outcome => cases steps

theorem CutOff.step (cutOff : worker.CutOff call request) (working : IsWorking worker action)
    (steps : worker.step action = some after) : after.CutOff call request := by
  refine ⟨isClosed_step cutOff.isClosed steps, ?_⟩
  obtain ⟨position, found, noReply⟩ := cutOff.noReply
  by_cases isOf : IsOf call action
  · exact noReply_step cutOff.isClosed found noReply isOf working steps
  · exact ⟨position, (calls_step isOf steps).trans found, noReply⟩

theorem CutOff.run (cutOff : worker.CutOff call request)
    (run : GuardedRun SkillWorker.step IsWorking worker after) : after.CutOff call request :=
  GuardedRun.invariant (fun worker => worker.CutOff call request) cutOff
    (fun _ _ _ cutOff working steps => cutOff.step working steps) run

theorem CutOff.not_replies (cutOff : worker.CutOff call request) : ¬ worker.Replies call := by
  intro replies
  obtain ⟨last, run, ended⟩ := (replies worker .refl).2
  obtain ⟨outcome, hasOutcome⟩ := isSome_iff_exists.mp ended
  obtain ⟨reply, rfl, -⟩ := (replies last run).1 outcome hasOutcome
  obtain ⟨position, found, noReply⟩ := (cutOff.run run).noReply
  simp only [SkillWorker.outcome, found, bind_some] at hasOutcome
  cases position with
  | finished outcome =>
    obtain ⟨error, rfl⟩ := noReply
    cases hasOutcome
  | awaitsUpstream => cases hasOutcome
  | awaitsSession session => cases hasOutcome
  | awaitsMessage sessionId text isOpen => cases hasOutcome

theorem usable_of_recovers (fresh : worker.calls call = none)
    (valid : request.inputError = none) (recovers : worker.Recovers call request) :
    worker.HasUsableAdapter ∧ worker.HasUsableSession request := by
  obtain ⟨started, steps, replies⟩ := recovers
  rw [step_start fresh valid] at steps
  cases steps
  have adapter : worker.HasUsableAdapter := by
    constructor
    · intro error rejected
      have rejectedNext : (worker.started call request).upstreamReady = .rejected error :=
        (upstreamReady_started (by simp [rejected])).trans rejected
      exact not_replies_of_canFail (canFail_of_rejected rejectedNext calls_started) replies
    · intro isClosed
      have closedNext : (worker.started call request).upstreamReady = .ready false :=
        (upstreamReady_started (by simp [isClosed])).trans isClosed
      have cutOff : (worker.started call request).CutOff call request :=
        ⟨closedNext, .awaitsUpstream, calls_started, trivial⟩
      exact cutOff.not_replies replies
  refine ⟨adapter, ?_⟩
  cases request with
  | jdDraft title mustHaves teamContext => trivial
  | chat conversationId message =>
    intro session kept error rejected
    exact not_replies_of_canFail (canFail_of_session adapter kept rejected) replies

/-- After any run of the worker, a later call returns its reply while the Gateway works just when
the process keeps neither an adapter that failed or was closed nor, for the conversation of the
call, a session that could not be created. -/
theorem later_call_recovers_iff (agent : String) (worker : SkillWorker) (call : Nat)
    (request : WorkerRequest) (reached : GuardedRun step (fun _ _ => True) (initial agent) worker)
    (fresh : worker.calls call = none) (valid : request.inputError = none) :
    worker.Recovers call request ↔ worker.HasUsableAdapter ∧ worker.HasUsableSession request := by
  have hasSessions : worker.HasSessions := by
    have nothing : (initial agent).HasSessions := fun _ _ found => nomatch found
    exact GuardedRun.invariant HasSessions nothing
      (fun _ _ _ hasSessions _ steps => hasSessions_step hasSessions steps) reached
  constructor
  · exact usable_of_recovers fresh valid
  · intro usable
    exact recovers_of_usable hasSessions fresh valid usable.1 usable.2

end Failures

section Example

def greeting : WorkerRequest := .chat "conversation" "你好"

/-- The worker whose first call has just begun to connect. -/
theorem reached_started :
    GuardedRun step (fun _ _ => True) (initial "main") ((initial "main").started 0 greeting) :=
  GuardedRun.refl.tail (WorkerAction.start 0 greeting) trivial
    (@step_start (initial "main") 0 greeting rfl (by decide))

def unconnected : SkillWorker :=
  { (initial "main").started 0 greeting with upstreamReady := .rejected "Gateway 连接失败" }

theorem reached_unconnected :
    GuardedRun step (fun _ _ => True) (initial "main") unconnected :=
  reached_started.tail (.connectFailed "Gateway 连接失败") trivial rfl

/-- A second call of the conversation, made while the first one is connecting. -/
theorem later_call_recovers_iff_example :
    ((initial "main").started 0 greeting).Recovers 1 greeting ↔
      ((initial "main").started 0 greeting).HasUsableAdapter ∧
        ((initial "main").started 0 greeting).HasUsableSession greeting :=
  later_call_recovers_iff "main" _ 1 greeting reached_started rfl (by decide)

/-- The process keeps the adapter that did not connect: no later call returns a reply. -/
theorem unconnected_worker_fails :
    ¬ ∀ (agent : String) (worker : SkillWorker) (call : Nat) (request : WorkerRequest),
      GuardedRun step (fun _ _ => True) (initial agent) worker → worker.calls call = none →
        request.inputError = none → worker.Recovers call request := by
  intro recovers
  have usable := usable_of_recovers rfl (by decide)
    (recovers "main" unconnected 1 greeting reached_unconnected rfl (by decide))
  exact usable.1.1 _ rfl

end Example

end SkillWorker

end OpenClaw

end LongHub
