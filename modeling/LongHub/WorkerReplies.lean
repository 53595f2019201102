import LongHub.SkillWorker

/-!
# The calls after a failure

A call that finds a usable adapter and a usable session stays on the way to its reply while the
Gateway works, whatever other calls do.
-/

namespace LongHub

open Function List Option

namespace OpenClaw

namespace SkillWorker

section Replies

variable {worker after started : SkillWorker} {call other session : Nat} {request : WorkerRequest}
variable {position : CallPosition} {action : WorkerAction}

def OnTrack (worker : SkillWorker) (request : WorkerRequest) : CallPosition → Prop
  | .awaitsUpstream =>
    (worker.upstreamReady = .connecting ∨ worker.isOpen = true) ∧ worker.HasUsableSession request
  | .awaitsSession session => worker.isOpen = true ∧ worker.IsLive session
  | .awaitsMessage _ _ isOpen => isOpen = true
  | .finished outcome => ∃ reply, outcome = .ok reply ∧ reply ≠ ""

theorem HasUsableSession.improves (usable : worker.HasUsableSession request)
    (improves : Improves worker after) : after.HasUsableSession request := by
  cases request with
  | jdDraft title mustHaves teamContext => trivial
  | chat conversationId message =>
    intro session found error isRejected
    rcases improves.chatSessions conversationId session found with earlier | notRejected
    · exact usable session earlier error (improves.rejected session error isRejected)
    · exact notRejected error isRejected

theorem OnTrack.improves (onTrack : worker.OnTrack request position)
    (improves : Improves worker after) : after.OnTrack request position := by
  cases position with
  | awaitsUpstream =>
    refine ⟨?_, onTrack.2.improves improves⟩
    rcases onTrack.1 with isConnecting | isOpen
    · exact improves.connecting isConnecting
    · exact .inr (improves.isOpen isOpen)
  | awaitsSession session =>
    exact ⟨improves.isOpen onTrack.1, improves.live session onTrack.2⟩
  | awaitsMessage sessionId text isOpen => exact onTrack
  | finished outcome => exact onTrack

def IsOf (call : Nat) : WorkerAction → Prop
  | .start other _ | .resume other | .messageEnded other _ _ => other = call
  | _ => False

theorem calls_moveTo_of_ne (differ : other ≠ call) :
    (worker.moveTo other request position).calls call = worker.calls call :=
  update_of_ne differ.symm _ _

@[simp]
theorem calls_moveTo : (worker.moveTo call request position).calls call =
    some ⟨request, position⟩ := update_self _ _ _

theorem calls_withAdapter_of_ne (differ : other ≠ call) :
    (worker.withAdapter other request).calls call = worker.calls call := by
  unfold withAdapter
  split
  · split
    · exact calls_moveTo_of_ne differ
    · exact calls_moveTo_of_ne differ
  · exact calls_moveTo_of_ne differ

theorem calls_step (notOf : ¬ IsOf call action) (steps : worker.step action = some after) :
    after.calls call = worker.calls call := by
  cases action with
  | start other request =>
    simp only [step] at steps
    split_ifs at steps <;> split at steps <;> cases steps <;> exact calls_moveTo_of_ne notOf
  | connected | connectFailed error | sessionFailed session error | connectionClosed
  | sessionCreated session sessionId =>
    simp only [step] at steps
    split_ifs at steps
    cases steps
    rfl
  | resume other =>
    obtain ⟨state, found, resumes⟩ := bind_eq_some_iff.mp steps
    unfold resume at resumes
    split at resumes
    · split at resumes <;> cases resumes
      · exact calls_moveTo_of_ne notOf
      · exact calls_withAdapter_of_ne notOf
    · split at resumes <;> cases resumes
      · exact calls_moveTo_of_ne notOf
      · exact calls_moveTo_of_ne notOf
    · cases resumes
    · cases resumes
  | messageEnded other events thrown =>
    obtain ⟨state, found, ended⟩ := bind_eq_some_iff.mp steps
    split at ended
    · split_ifs at ended
      cases ended
      rw [calls_moveTo_of_ne notOf]
      unfold dropSession
      split <;> rfl
    · cases ended

theorem isLive_length (agentId : String) :
    ({ worker with sessions := worker.sessions ++ [⟨agentId, .pending⟩] } : SkillWorker).IsLive
      worker.sessions.length := by
  refine .inl ?_
  simp [promise]

theorem live_withAdapter (call : Nat) (hasSessions : worker.HasSessions)
    (usable : worker.HasUsableSession request) :
    ∃ session, (worker.withAdapter call request).calls call =
        some ⟨request, .awaitsSession session⟩ ∧
      (worker.withAdapter call request).IsLive session := by
  cases request with
  | jdDraft title mustHaves teamContext =>
    exact ⟨_, calls_moveTo, isLive_length hrAgentId⟩
  | chat conversationId message =>
    simp only [withAdapter]
    split
    · next session found =>
        refine ⟨_, calls_moveTo, ?_⟩
        have inside := hasSessions conversationId session found
        have notRejected := usable session found
        have listed : worker.promise session = some (worker.sessions[session]).promise := by
          rw [promise, getElem?_eq_getElem inside]
          rfl
        change worker.IsLive session
        cases isPromise : (worker.sessions[session]).promise with
        | pending => exact .inl (listed.trans (by rw [isPromise]))
        | fulfilled sessionId => exact .inr ⟨sessionId, listed.trans (by rw [isPromise])⟩
        | rejected error => exact absurd (listed.trans (by rw [isPromise])) (notRejected error)
    · exact ⟨_, calls_moveTo, isLive_length worker.chatAgentId⟩

structure UnderWay (worker : SkillWorker) (call : Nat) (request : WorkerRequest) : Prop where
  hasSessions : worker.HasSessions
  onTrack : ∃ position, worker.calls call = some ⟨request, position⟩ ∧
    worker.OnTrack request position

theorem onTrack_step (hasSessions : worker.HasSessions)
    (found : worker.calls call = some ⟨request, position⟩)
    (onTrack : worker.OnTrack request position) (isOf : IsOf call action)
    (working : IsWorking worker action) (steps : worker.step action = some after) :
    ∃ position, after.calls call = some ⟨request, position⟩ ∧ after.OnTrack request position := by
  cases action with
  | start other request =>
    cases isOf
    simp [step, found] at steps
  | connected | connectFailed error | sessionFailed session error | connectionClosed
  | sessionCreated session sessionId => exact isOf.elim
  | resume other =>
    cases isOf
    simp only [step, found, bind_some] at steps
    cases position with
    | awaitsUpstream =>
      obtain ⟨adapter, usable⟩ := onTrack
      rcases adapter with isConnecting | isOpen
      · simp [resume, isConnecting] at steps
      · have isReady : worker.upstreamReady = .ready true := of_decide_eq_true isOpen
        simp only [resume, isReady] at steps
        cases steps
        obtain ⟨session, foundNext, live⟩ := live_withAdapter call hasSessions usable
        exact ⟨_, foundNext, improves_withAdapter.isOpen isOpen, live⟩
    | awaitsSession session =>
      obtain ⟨isOpen, live⟩ := onTrack
      rcases live with pending | ⟨sessionId, fulfilled⟩
      · simp [resume, pending] at steps
      · simp only [resume, fulfilled] at steps
        cases steps
        exact ⟨_, calls_moveTo, isOpen⟩
    | awaitsMessage sessionId text isOpen => cases steps
    | finished outcome => cases steps
  | messageEnded other events thrown =>
    cases isOf
    obtain ⟨rfl, text, collected, notEmpty⟩ := working
    simp only [step, found, bind_some] at steps
    cases position with
    | awaitsMessage sessionId sent isOpen =>
      simp only at steps
      split_ifs at steps
      cases steps
      refine ⟨_, calls_moveTo, text, ?_, notEmpty⟩
      simp only [replyOf, collected, if_neg notEmpty]
    | awaitsUpstream => cases steps
    | awaitsSession session => cases steps
    | finished outcome => cases steps

theorem hasSessions_of_same (hasSessions : worker.HasSessions)
    (sameLength : after.sessions.length = worker.sessions.length)
    (chats : ∀ conversationId session, after.chatSessions conversationId = some session →
      worker.chatSessions conversationId = some session) : after.HasSessions := by
  intro conversationId session found
  rw [sameLength]
  exact hasSessions conversationId session (chats conversationId session found)

theorem hasSessions_withAdapter (hasSessions : worker.HasSessions) :
    (worker.withAdapter call request).HasSessions := by
  have longer : ∀ conversationId session, worker.chatSessions conversationId = some session →
      session < worker.sessions.length + 1 := fun conversationId session found =>
    Nat.lt_succ_of_lt (hasSessions conversationId session found)
  cases request with
  | jdDraft title mustHaves teamContext =>
    intro conversationId session found
    change session < (worker.sessions ++ [_]).length
    rw [length_append]
    exact longer conversationId session found
  | chat conversation message =>
    simp only [withAdapter]
    split
    · exact hasSessions
    · intro conversationId session found
      change session < (worker.sessions ++ [_]).length
      rw [length_append, length_singleton]
      change Function.update _ _ _ conversationId = _ at found
      by_cases same : conversationId = conversation
      · subst same
        rw [update_self] at found
        cases found
        omega
      · rw [update_of_ne same] at found
        exact longer conversationId session found

theorem hasSessions_dropSession {events : List UpstreamEvent} (hasSessions : worker.HasSessions) :
    (worker.dropSession request events).HasSessions := by
  unfold dropSession
  split
  · next conversation message error failed =>
      intro conversationId session found
      change Function.update _ _ _ conversationId = _ at found
      by_cases same : conversationId = conversation
      · subst same
        rw [update_self] at found
        cases found
      · rw [update_of_ne same] at found
        exact hasSessions conversationId session found
  · exact hasSessions

theorem hasSessions_step (hasSessions : worker.HasSessions)
    (steps : worker.step action = some after) : after.HasSessions := by
  cases action with
  | start call request =>
    simp only [step] at steps
    split_ifs at steps <;> split at steps <;> cases steps <;> exact hasSessions
  | connected | connectFailed error =>
    simp only [step] at steps
    split_ifs at steps
    cases steps
    exact hasSessions
  | sessionCreated session sessionId | sessionFailed session error =>
    simp only [step] at steps
    split_ifs at steps
    cases steps
    exact hasSessions_of_same hasSessions (length_modify _ _ _) fun _ _ found => found
  | resume call =>
    obtain ⟨state, found, resumes⟩ := bind_eq_some_iff.mp steps
    unfold resume at resumes
    split at resumes
    · split at resumes <;> cases resumes
      · exact hasSessions
      · exact hasSessions_withAdapter hasSessions
    · split at resumes <;> cases resumes
      · exact hasSessions
      · exact hasSessions
    · cases resumes
    · cases resumes
  | messageEnded call events thrown =>
    obtain ⟨state, found, ended⟩ := bind_eq_some_iff.mp steps
    split at ended
    · split_ifs at ended
      cases ended
      exact hasSessions_dropSession hasSessions
    · cases ended
  | connectionClosed =>
    simp only [step] at steps
    split_ifs at steps
    cases steps
    exact hasSessions_of_same hasSessions (length_map _) fun _ _ found => found

theorem UnderWay.step (underWay : worker.UnderWay call request) (working : IsWorking worker action)
    (steps : worker.step action = some after) : after.UnderWay call request := by
  obtain ⟨position, found, onTrack⟩ := underWay.onTrack
  refine ⟨hasSessions_step underWay.hasSessions steps, ?_⟩
  by_cases isOf : IsOf call action
  · exact onTrack_step underWay.hasSessions found onTrack isOf working steps
  · exact ⟨position, (calls_step isOf steps).trans found,
      onTrack.improves (improves_step working steps)⟩

theorem UnderWay.run (underWay : worker.UnderWay call request)
    (run : GuardedRun SkillWorker.step IsWorking worker after) : after.UnderWay call request :=
  GuardedRun.invariant (fun worker => worker.UnderWay call request) underWay
    (fun _ _ _ underWay working steps => underWay.step working steps) run

def CanEnd (worker : SkillWorker) (call : Nat) : Prop :=
  ∃ last, GuardedRun step IsWorking worker last ∧ (last.outcome call).isSome = true

theorem canEnd_of_step (steps : worker.step action = some after)
    (working : IsWorking worker action) (canEnd : after.CanEnd call) : worker.CanEnd call := by
  obtain ⟨last, run, ended⟩ := canEnd
  exact ⟨last, (GuardedRun.refl.tail action working steps).trans run, ended⟩

theorem canEnd_of_finished {outcome : Except String String}
    (found : worker.calls call = some ⟨request, .finished outcome⟩) : worker.CanEnd call := by
  refine ⟨worker, .refl, ?_⟩
  simp [SkillWorker.outcome, found]

theorem canEnd_of_message {sessionId text : String}
    (found : worker.calls call = some ⟨request, .awaitsMessage sessionId text true⟩) :
    worker.CanEnd call := by
  have steps : worker.step (.messageEnded call [.done "reply"] none) =
      some ((worker.dropSession request [.done "reply"]).moveTo call request
        (.finished (replyOf request [.done "reply"] none))) := by
    simp [step, found]
  exact canEnd_of_step steps ⟨rfl, "reply", rfl, by decide⟩ (canEnd_of_finished calls_moveTo)

theorem canEnd_of_created {sessionId : String} (isOpen : worker.isOpen = true)
    (found : worker.calls call = some ⟨request, .awaitsSession session⟩)
    (created : worker.promise session = some (.fulfilled sessionId)) : worker.CanEnd call := by
  have steps : worker.step (.resume call) =
      some (worker.moveTo call request (.awaitsMessage sessionId request.prompt true)) := by
    simp [step, resume, found, created, isOpen]
  exact canEnd_of_step steps trivial (canEnd_of_message calls_moveTo)

theorem canEnd_of_session (isOpen : worker.isOpen = true)
    (found : worker.calls call = some ⟨request, .awaitsSession session⟩)
    (live : worker.IsLive session) : worker.CanEnd call := by
  rcases live with pending | ⟨sessionId, fulfilled⟩
  · have steps : worker.step (.sessionCreated session "session") =
        some (worker.setPromise session (.fulfilled "session")) := by
      simp [step, pending, isOpen]
    have created : (worker.setPromise session (.fulfilled "session")).promise session =
        some (.fulfilled "session") := by
      rw [promise_setPromise, if_pos rfl, pending]
      rfl
    exact canEnd_of_step steps trivial (canEnd_of_created isOpen found created)
  · exact canEnd_of_created isOpen found fulfilled

theorem canEnd_of_open (hasSessions : worker.HasSessions) (isOpen : worker.isOpen = true)
    (usable : worker.HasUsableSession request)
    (found : worker.calls call = some ⟨request, .awaitsUpstream⟩) : worker.CanEnd call := by
  have isReady : worker.upstreamReady = .ready true := of_decide_eq_true isOpen
  have steps : worker.step (.resume call) = some (worker.withAdapter call request) := by
    simp [step, resume, found, isReady]
  obtain ⟨session, foundNext, live⟩ := live_withAdapter call hasSessions usable
  exact canEnd_of_step steps trivial
    (canEnd_of_session (improves_withAdapter.isOpen isOpen) foundNext live)

theorem UnderWay.canEnd (underWay : worker.UnderWay call request) : worker.CanEnd call := by
  obtain ⟨position, found, onTrack⟩ := underWay.onTrack
  cases position with
  | finished outcome => exact canEnd_of_finished found
  | awaitsMessage sessionId text sent =>
    cases onTrack
    exact canEnd_of_message found
  | awaitsSession session => exact canEnd_of_session onTrack.1 found onTrack.2
  | awaitsUpstream =>
    obtain ⟨adapter, usable⟩ := onTrack
    rcases adapter with isConnecting | isOpen
    · have steps : worker.step .connected = some { worker with upstreamReady := .ready true } := by
        simp [SkillWorker.step, isConnecting]
      exact canEnd_of_step steps trivial (canEnd_of_open underWay.hasSessions rfl usable found)
    · exact canEnd_of_open underWay.hasSessions isOpen usable found

end Replies

end SkillWorker

end OpenClaw

end LongHub
