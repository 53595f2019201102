import LongHub.BridgeAuthorization
import LongHub.MessageStream

/-!
# Skill workers

The worker process and when it recovers from a failure.
-/

namespace LongHub

open Function List Option

/-! ## The worker of the Skills that ask the Gateway -/

namespace OpenClaw

inductive WorkerRequest where
  | chat (conversationId message : String)
  | jdDraft (position : String) (mustHaves : List String) (teamContext : Option String)

namespace WorkerRequest

def inputError : WorkerRequest → Option String
  | chat _ message => if trimText message = "" then some "message 不能为空" else none
  | jdDraft position _ _ => if trimText position = "" then some "position 不能为空" else none

def prompt : WorkerRequest → String
  | chat _ message => message
  | jdDraft position mustHaves teamContext =>
    let joined := "、".intercalate mustHaves
    "\n".intercalate (["请为「" ++ position ++ "」岗位起草一份职位描述（JD）。",
      "硬性要求：" ++ (if joined = "" then "无" else joined) ++ "。"] ++
      ((teamContext.filter (· ≠ "")).map fun context => "团队背景：" ++ context ++ "。").toList)

/-- How the error of an error event begins. -/
def failure : WorkerRequest → String
  | chat _ _ => "底座回复失败"
  | jdDraft _ _ _ => "底座生成失败"

end WorkerRequest

inductive UpstreamReady where
  | unset
  | connecting
  | rejected (error : String)
  /-- The adapter is initialised; its connection may have closed since. -/
  | ready (isOpen : Bool)
  deriving DecidableEq

inductive SessionPromise where
  | pending
  | fulfilled (sessionId : String)
  | rejected (error : String)
  deriving DecidableEq

structure RequestedSession where
  agentId : String
  promise : SessionPromise

inductive CallPosition where
  | awaitsUpstream
  | awaitsSession (session : Nat)
  /-- The message was sent on an open connection or on a closed one. -/
  | awaitsMessage (sessionId text : String) (isOpen : Bool)
  | finished (outcome : Except String String)

structure WorkerCall where
  request : WorkerRequest
  position : CallPosition

structure SkillWorker where
  chatAgentId : String
  upstreamReady : UpstreamReady
  /-- The sessions by conversation, as numbers of requested sessions. -/
  chatSessions : String → Option Nat
  sessions : List RequestedSession
  calls : Nat → Option WorkerCall

inductive WorkerAction where
  | start (call : Nat) (request : WorkerRequest)
  | connected
  | connectFailed (error : String)
  | sessionCreated (session : Nat) (sessionId : String)
  | sessionFailed (session : Nat) (error : String)
  /-- A call goes on with the promise that it awaits. -/
  | resume (call : Nat)
  | messageEnded (call : Nat) (events : List UpstreamEvent) (thrown : Option String)
  | connectionClosed

def hrAgentId : String := "longhub.agent.hr"

def collectText : String → List UpstreamEvent → Except (String × String) String
  | text, [] => .ok text
  | text, .delta _ :: rest => collectText text rest
  | _, .done finalText :: rest => collectText finalText rest
  | _, .error code message _ :: _ => .error (code, message)

def replyOf (request : WorkerRequest) (events : List UpstreamEvent) (thrown : Option String) :
    Except String String :=
  match collectText "" events with
  | .error (code, message) => .error (request.failure ++ " [" ++ code ++ "] " ++ message)
  | .ok text =>
    match thrown with
    | some error => .error error
    | none => if text = "" then .error "底座未返回内容" else .ok text

namespace SkillWorker

/-- A worker process that has just started. -/
def initial (chatAgentId : String) : SkillWorker :=
  ⟨chatAgentId, .unset, fun _ => none, [], fun _ => none⟩

def promise (worker : SkillWorker) (session : Nat) : Option SessionPromise :=
  worker.sessions[session]?.map RequestedSession.promise

def outcome (worker : SkillWorker) (call : Nat) : Option (Except String String) :=
  (worker.calls call).bind fun state =>
    match state.position with
    | .finished outcome => some outcome
    | _ => none

def moveTo (worker : SkillWorker) (call : Nat) (request : WorkerRequest)
    (position : CallPosition) : SkillWorker :=
  { worker with calls := Function.update worker.calls call (some ⟨request, position⟩) }

def createSession (worker : SkillWorker) (call : Nat) (request : WorkerRequest)
    (agentId : String) : SkillWorker :=
  let requested : SkillWorker :=
    { worker with sessions := worker.sessions ++ [⟨agentId, .pending⟩] }
  requested.moveTo call request (.awaitsSession worker.sessions.length)

def withAdapter (worker : SkillWorker) (call : Nat) (request : WorkerRequest) : SkillWorker :=
  match request with
  | .chat conversationId _ =>
    match worker.chatSessions conversationId with
    | some session => worker.moveTo call request (.awaitsSession session)
    | none =>
      { worker.createSession call request worker.chatAgentId with
        chatSessions :=
          Function.update worker.chatSessions conversationId (some worker.sessions.length) }
  | .jdDraft _ _ _ => worker.createSession call request hrAgentId

def setPromise (worker : SkillWorker) (session : Nat) (promise : SessionPromise) : SkillWorker :=
  { worker with
    sessions := worker.sessions.modify session fun requested => { requested with promise } }

def isOpen (worker : SkillWorker) : Bool := worker.upstreamReady = .ready true

def resume (worker : SkillWorker) (call : Nat) (request : WorkerRequest) :
    CallPosition → Option SkillWorker
  | .awaitsUpstream =>
    match worker.upstreamReady with
    | .unset | .connecting => none
    | .rejected error => some (worker.moveTo call request (.finished (.error error)))
    | .ready _ => some (worker.withAdapter call request)
  | .awaitsSession session =>
    match worker.promise session with
    | some (.fulfilled sessionId) =>
      some (worker.moveTo call request (.awaitsMessage sessionId request.prompt worker.isOpen))
    | some (.rejected error) => some (worker.moveTo call request (.finished (.error error)))
    | some .pending | none => none
  | .awaitsMessage _ _ _ | .finished _ => none

def dropSession (worker : SkillWorker) (request : WorkerRequest) (events : List UpstreamEvent) :
    SkillWorker :=
  match request, collectText "" events with
  | .chat conversationId _, .error _ =>
    { worker with chatSessions := Function.update worker.chatSessions conversationId none }
  | _, _ => worker

@[grind =]
def step (worker : SkillWorker) : WorkerAction → Option SkillWorker
  | .start call request =>
    if (worker.calls call).isSome then none
    else
      match request.inputError with
      | some error => some (worker.moveTo call request (.finished (.error error)))
      | none =>
        let upstream : SkillWorker :=
          { worker with
            upstreamReady := if worker.upstreamReady = .unset then .connecting
              else worker.upstreamReady }
        some (upstream.moveTo call request .awaitsUpstream)
  | .connected =>
    if worker.upstreamReady = .connecting then
      some { worker with upstreamReady := .ready true }
    else none
  | .connectFailed error =>
    if worker.upstreamReady = .connecting then
      some { worker with upstreamReady := .rejected error }
    else none
  | .sessionCreated session sessionId =>
    if worker.promise session = some .pending ∧ worker.isOpen ∧ sessionId ≠ "" then
      some (worker.setPromise session (.fulfilled sessionId))
    else none
  | .sessionFailed session error =>
    if worker.promise session = some .pending then
      some (worker.setPromise session (.rejected error))
    else none
  | .resume call => (worker.calls call).bind fun state =>
    worker.resume call state.request state.position
  | .messageEnded call events thrown => (worker.calls call).bind fun state =>
    match state.position with
    | .awaitsMessage _ _ isOpen =>
      if isOpen ∨ (events = [] ∧ thrown.isSome) then
        some ((worker.dropSession state.request events).moveTo call state.request
          (.finished (replyOf state.request events thrown)))
      else none
    | _ => none
  | .connectionClosed =>
    if worker.isOpen then
      some { worker with
        upstreamReady := .ready false
        sessions := worker.sessions.map fun requested =>
          if requested.promise = .pending then
            { requested with promise := .rejected "Gateway 连接已关闭" }
          else requested }
    else none

def IsWorking (_ : SkillWorker) : WorkerAction → Prop
  | .connectFailed _ | .sessionFailed _ _ | .connectionClosed => False
  | .messageEnded _ events thrown =>
    thrown = none ∧ ∃ text, collectText "" events = .ok text ∧ text ≠ ""
  | .start _ _ | .connected | .sessionCreated _ _ | .resume _ => True

/-- While the Gateway works, the call cannot end without a reply, and it can always go on to its
end. -/
def Replies (worker : SkillWorker) (call : Nat) : Prop :=
  ∀ after, GuardedRun step IsWorking worker after →
    (∀ outcome, after.outcome call = some outcome → ∃ reply, outcome = .ok reply ∧ reply ≠ "") ∧
      ∃ last, GuardedRun step IsWorking after last ∧ (last.outcome call).isSome = true

/-- A call that is made now returns the reply. -/
def Recovers (worker : SkillWorker) (call : Nat) (request : WorkerRequest) : Prop :=
  ∃ started, worker.step (.start call request) = some started ∧ started.Replies call

def HasUsableSession (worker : SkillWorker) : WorkerRequest → Prop
  | .chat conversationId _ => ∀ session, worker.chatSessions conversationId = some session →
      ∀ error, worker.promise session ≠ some (.rejected error)
  | .jdDraft _ _ _ => True

def HasUsableAdapter (worker : SkillWorker) : Prop :=
  (∀ error, worker.upstreamReady ≠ .rejected error) ∧ worker.upstreamReady ≠ .ready false

end SkillWorker

end OpenClaw

/-! ## When the Skill worker recovers -/

namespace OpenClaw

namespace SkillWorker

section Working

variable {worker after : SkillWorker} {call other session : Nat} {request : WorkerRequest}
variable {position : CallPosition} {action : WorkerAction}

/-- The session has been created or may be. -/
def IsLive (worker : SkillWorker) (session : Nat) : Prop :=
  worker.promise session = some .pending ∨
    ∃ sessionId, worker.promise session = some (.fulfilled sessionId)

def HasSessions (worker : SkillWorker) : Prop :=
  ∀ conversationId session, worker.chatSessions conversationId = some session →
    session < worker.sessions.length

/-- What the calls share does not get worse. -/
structure Improves (worker after : SkillWorker) : Prop where
  connecting : worker.upstreamReady = .connecting →
    after.upstreamReady = .connecting ∨ after.isOpen = true
  isOpen : worker.isOpen = true → after.isOpen = true
  live : ∀ session, worker.IsLive session → after.IsLive session
  rejected : ∀ session error, after.promise session = some (.rejected error) →
    worker.promise session = some (.rejected error)
  chatSessions : ∀ conversationId session, after.chatSessions conversationId = some session →
    worker.chatSessions conversationId = some session ∨
      ∀ error, after.promise session ≠ some (.rejected error)

theorem improves_refl (sameUpstream : after.upstreamReady = worker.upstreamReady)
    (sameSessions : after.sessions = worker.sessions)
    (sameChats : after.chatSessions = worker.chatSessions) : Improves worker after := by
  have promises : ∀ session, after.promise session = worker.promise session := by
    intro session
    rw [promise, sameSessions, promise]
  exact
    { connecting := fun isConnecting => .inl (sameUpstream.trans isConnecting)
      isOpen := fun isOpen => by
        rw [SkillWorker.isOpen, sameUpstream]
        exact isOpen
      live := fun session live => by
        rw [IsLive, promises]
        exact live
      rejected := fun session error same => (promises session).symm.trans same
      chatSessions := fun conversationId session found => .inl (sameChats ▸ found) }

theorem improves_moveTo : Improves worker (worker.moveTo call request position) :=
  improves_refl rfl rfl rfl

theorem improves_append {agentId : String}
    (sameUpstream : after.upstreamReady = worker.upstreamReady)
    (appended : after.sessions = worker.sessions ++ [⟨agentId, .pending⟩])
    (chats : ∀ conversationId session, after.chatSessions conversationId = some session →
      worker.chatSessions conversationId = some session ∨ session = worker.sessions.length) :
    Improves worker after := by
  have older : ∀ session promise, worker.promise session = some promise →
      after.promise session = some promise := by
    intro session promise found
    obtain ⟨requested, listed, rfl⟩ := map_eq_some_iff.mp found
    have inside : session < worker.sessions.length := (List.getElem?_eq_some_iff.mp listed).1
    rw [SkillWorker.promise, appended, getElem?_append_left inside, listed]
    rfl
  have newer : ∀ session error, after.promise session = some (.rejected error) →
      worker.promise session = some (.rejected error) := by
    intro session error found
    obtain ⟨requested, listed, isRejected⟩ := map_eq_some_iff.mp found
    rw [appended] at listed
    by_cases inside : session < worker.sessions.length
    · rw [getElem?_append_left inside] at listed
      rw [SkillWorker.promise, listed, map_some, isRejected]
    · rw [getElem?_append_right (by omega), getElem?_singleton] at listed
      split_ifs at listed
      cases listed
      cases isRejected
  refine
    { connecting := fun isConnecting => .inl (sameUpstream.trans isConnecting)
      isOpen := fun isOpen => by
        rw [SkillWorker.isOpen, sameUpstream]
        exact isOpen
      live := fun session live => ?_
      rejected := newer
      chatSessions := fun conversationId session found => ?_ }
  · rcases live with pending | ⟨sessionId, fulfilled⟩
    · exact .inl (older session _ pending)
    · exact .inr ⟨sessionId, older session _ fulfilled⟩
  · rcases chats conversationId session found with earlier | isNew
    · exact .inl earlier
    · refine .inr fun error isRejected => ?_
      have listed := newer session error isRejected
      rw [SkillWorker.promise, isNew, getElem?_eq_none (le_refl _)] at listed
      cases listed

theorem promise_setPromise (session other : Nat) (promise : SessionPromise) :
    (worker.setPromise session promise).promise other =
      if other = session then (worker.promise other).map fun _ => promise
      else worker.promise other := by
  unfold setPromise SkillWorker.promise
  by_cases same : session = other
  · subst same
    simp [Option.map_map, comp_def]
  · have differ : other ≠ session := fun equal => same equal.symm
    simp [same, differ]

theorem improves_fulfil {sessionId : String} (isOpen : worker.isOpen = true) :
    Improves worker (worker.setPromise session (.fulfilled sessionId)) where
  connecting := fun isConnecting => .inl isConnecting
  isOpen := fun _ => isOpen
  live other live := by
    rw [IsLive, promise_setPromise]
    split_ifs with same
    · rcases live with found | ⟨sessionId, found⟩
      · exact .inr ⟨_, by rw [found]; rfl⟩
      · exact .inr ⟨_, by rw [found]; rfl⟩
    · exact live
  rejected other error found := by
    rw [promise_setPromise] at found
    split_ifs at found with same
    · obtain ⟨_, -, different⟩ := map_eq_some_iff.mp found
      cases different
    · exact found
  chatSessions _ _ found := .inl found

theorem improves_withAdapter : Improves worker (worker.withAdapter call request) := by
  cases request with
  | jdDraft title mustHaves teamContext =>
    exact improves_append rfl rfl fun _ _ found => .inl found
  | chat conversationId message =>
    simp only [withAdapter]
    split
    · exact improves_moveTo
    · refine improves_append rfl rfl fun conversation session found => ?_
      change Function.update _ _ _ conversation = _ at found
      by_cases same : conversation = conversationId
      · subst same
        rw [update_self] at found
        exact .inr (Option.some.inj found).symm
      · rw [update_of_ne same] at found
        exact .inl found

theorem dropSession_of_ok {events : List UpstreamEvent} {text : String}
    (collected : collectText "" events = .ok text) :
    worker.dropSession request events = worker := by
  unfold dropSession
  cases request with
  | jdDraft title mustHaves teamContext => rfl
  | chat conversationId message => simp only [collected]

/-- Whatever happens while the Gateway works, what the calls share does not get worse. -/
theorem improves_step (working : IsWorking worker action)
    (steps : worker.step action = some after) : Improves worker after := by
  cases action with
  | start call request =>
    simp only [step] at steps
    split_ifs at steps with known unset
    · split at steps
      · cases steps
        exact improves_moveTo
      · cases steps
        exact
          { connecting := fun isConnecting => by rw [unset] at isConnecting; cases isConnecting
            isOpen := fun isOpen => by
              have isReady : worker.upstreamReady = .ready true := of_decide_eq_true isOpen
              rw [unset] at isReady
              cases isReady
            live := fun _ live => live
            rejected := fun _ _ found => found
            chatSessions := fun _ _ found => .inl found }
    · split at steps
      · cases steps
        exact improves_moveTo
      · cases steps
        exact improves_refl rfl rfl rfl
  | connected =>
    simp only [step] at steps
    split_ifs at steps with isConnecting
    cases steps
    exact
      { connecting := fun _ => .inr rfl
        isOpen := fun _ => rfl
        live := fun _ live => live
        rejected := fun _ _ found => found
        chatSessions := fun _ _ found => .inl found }
  | connectFailed error => exact working.elim
  | sessionCreated session sessionId =>
    simp only [step] at steps
    split_ifs at steps with created
    cases steps
    exact improves_fulfil created.2.1
  | sessionFailed session error => exact working.elim
  | resume call =>
    obtain ⟨state, found, resumes⟩ := bind_eq_some_iff.mp steps
    unfold resume at resumes
    split at resumes
    · split at resumes <;> cases resumes
      · exact improves_moveTo
      · exact improves_withAdapter
    · split at resumes <;> cases resumes
      · exact improves_moveTo
      · exact improves_moveTo
    · cases resumes
    · cases resumes
  | messageEnded call events thrown =>
    obtain ⟨state, found, ended⟩ := bind_eq_some_iff.mp steps
    obtain ⟨-, text, collected, -⟩ := working
    split at ended
    · split_ifs at ended
      cases ended
      rw [dropSession_of_ok collected]
      exact improves_moveTo
    · cases ended
  | connectionClosed => exact working.elim

end Working

end SkillWorker

end OpenClaw

end LongHub
