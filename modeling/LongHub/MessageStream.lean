import LongHub.GuardedRun

/-!
# The stream of a chat message

`sendMessage` of the OpenClaw adapter: a listener queues the chat events of the session, and a
generator hands them on.  The events that have been yielded and the queue together are the events
received, as long as the generator goes round its loop.
-/

namespace LongHub

namespace OpenClaw

inductive ChatState where
  | status
  | delta
  | final
  | aborted
  | error
  deriving DecidableEq

structure ChatEventPayload where
  sessionKey : String
  state : ChatState
  deltaText : Option String := none
  replace : Bool := false
  errorKind : Option String := none
  errorMessage : Option String := none
  deriving DecidableEq

inductive UpstreamEvent where
  | delta (text : String)
  | done (finalText : String)
  | error (code message : String) (retryable : Bool)
  deriving DecidableEq

def UpstreamEvent.isDelta : UpstreamEvent → Bool
  | .delta _ => true
  | .done _ | .error .. => false

def mapChatEvent (payload : ChatEventPayload) (sessionKey accumulated : String) :
    Option UpstreamEvent × String :=
  if payload.sessionKey ≠ sessionKey then (none, accumulated)
  else
    match payload.state with
    | .delta =>
      let delta := payload.deltaText.getD ""
      (some (.delta delta), if payload.replace then delta else accumulated ++ delta)
    | .final => (some (.done accumulated), accumulated)
    | .aborted => (some (.error "ABORTED" "运行已被取消" false), accumulated)
    | .error =>
      (some (.error (payload.errorKind.getD "UPSTREAM_ERROR") (payload.errorMessage.getD "上游运行失败")
        (payload.errorKind = some "timeout" ∨ payload.errorKind = some "rate_limit")), accumulated)
    | .status => (none, accumulated)

def connectionClosed : UpstreamEvent := .error "CONNECTION_CLOSED" "Gateway 连接已关闭" true

/-- Where the generator stands. -/
inductive Position where
  /-- It awaits the answer of `chat.send`. -/
  | requesting
  /-- It awaits the notification or the timer. -/
  | waiting
  /-- What it awaited is settled; it goes on at the head of the loop. -/
  | woken
  /-- It has yielded the event. -/
  | suspended (event : UpstreamEvent)
  | returned
  | threw
  /-- The consumer has called `return`. -/
  | abandoned
  deriving DecidableEq

@[grind =]
def Position.listens : Position → Bool
  | .requesting | .waiting | .woken | .suspended _ => true
  | .returned | .threw | .abandoned => false

structure MessageStream where
  sessionId : String
  connected : Bool := true
  closed : Bool := false
  accumulated : String := ""
  queue : List UpstreamEvent := []
  terminal : Bool := false
  position : Position := .requesting
  received : List ChatEventPayload := []
  yielded : List UpstreamEvent := []

inductive StreamAction where
  /-- A chat frame arrives. -/
  | chat (payload : ChatEventPayload)
  /-- The answer of `chat.send` arrives. -/
  | acknowledge
  | reject
  | requestTimeout
  /-- The timer of an await runs out. -/
  | timer
  /-- The generator goes on after an await. -/
  | resume
  /-- The consumer asks for the next event. -/
  | pull
  | abandon
  | close
  | dispose
  deriving DecidableEq

namespace MessageStream

def listener (stream : MessageStream) (payload : ChatEventPayload) : MessageStream :=
  let (mapped, accumulated) := mapChatEvent payload stream.sessionId stream.accumulated
  let stream := { stream with accumulated, received := stream.received ++ [payload] }
  match mapped with
  | none => stream
  | some event =>
    { stream with
      terminal := stream.terminal || !event.isDelta
      queue := stream.queue ++ [event]
      position := if stream.position = .waiting then .woken else stream.position }

def yield (stream : MessageStream) (event : UpstreamEvent) : MessageStream :=
  { stream with yielded := stream.yielded ++ [event], position := .suspended event }

/-- The inner loop, and the await after it. -/
def drain (stream : MessageStream) : MessageStream :=
  match stream.queue with
  | event :: rest => { stream with queue := rest }.yield event
  | [] =>
    if stream.terminal then { stream with position := .returned }
    else { stream with position := .waiting }

def loop (stream : MessageStream) : MessageStream :=
  if stream.closed then stream.yield connectionClosed else stream.drain

/-- One action.  A transport delivers nothing after it has closed, and the end of the connection
rejects the request that is pending. -/
@[grind =]
def step (stream : MessageStream) : StreamAction → Option MessageStream
  | .chat payload =>
    if stream.connected then
      some (if stream.position.listens then stream.listener payload else stream)
    else none
  | .acknowledge =>
    if stream.connected ∧ stream.position = .requesting then
      some { stream with position := .woken }
    else none
  | .reject =>
    if stream.connected ∧ stream.position = .requesting then
      some { stream with position := .threw }
    else none
  | .requestTimeout =>
    if stream.position = .requesting then some { stream with position := .threw } else none
  | .timer =>
    if stream.position = .waiting then some { stream with position := .woken } else none
  | .resume => if stream.position = .woken then some stream.loop else none
  | .pull =>
    match stream.position with
    | .suspended event =>
      some (if event.isDelta then stream.drain else { stream with position := .returned })
    | _ => none
  | .abandon =>
    match stream.position with
    | .suspended _ => some { stream with position := .abandoned }
    | _ => none
  | .close =>
    let stream := { stream with closed := true, connected := false }
    some (if stream.position = .requesting then { stream with position := .threw } else stream)
  | .dispose => some { stream with closed := true, connected := false }

end MessageStream

def mappedEvents (sessionId : String) : String → List ChatEventPayload → List UpstreamEvent
  | _, [] => []
  | accumulated, payload :: rest =>
    (mapChatEvent payload sessionId accumulated).1.toList ++
      mappedEvents sessionId (mapChatEvent payload sessionId accumulated).2 rest

def accumulatedText (sessionId : String) : String → List ChatEventPayload → String
  | accumulated, [] => accumulated
  | accumulated, payload :: rest =>
    accumulatedText sessionId (mapChatEvent payload sessionId accumulated).2 rest

def upToTerminal : List UpstreamEvent → List UpstreamEvent
  | [] => []
  | event :: rest => if event.isDelta then event :: upToTerminal rest else [event]

namespace MessageStream

def events (stream : MessageStream) : List UpstreamEvent :=
  mappedEvents stream.sessionId "" stream.received

/-- The events up to the terminal one; without a terminal one, all of them, and an error when
the connection has closed. -/
def expected (stream : MessageStream) : List UpstreamEvent :=
  if stream.events.any (fun event => !event.isDelta) then upToTerminal stream.events
  else if stream.closed then stream.events ++ [connectionClosed]
  else stream.events

/-- The connection closes although the generator, which has been woken, has not yet seen what is
in its queue. -/
def Overtaken (stream : MessageStream) (action : StreamAction) : Prop :=
  (action = .close ∨ action = .dispose) ∧ stream.position = .woken ∧ stream.queue ≠ []

def InTime (stream : MessageStream) : List StreamAction → Prop
  | [] => True
  | action :: rest =>
    ¬ stream.Overtaken action ∧ ∀ next, stream.step action = some next → next.InTime rest

end MessageStream

open List Option

section Events

variable {sessionId accumulated : String} {payload : ChatEventPayload}
variable {received : List ChatEventPayload} {events more : List UpstreamEvent}

theorem mappedEvents_append : mappedEvents sessionId accumulated (received ++ [payload]) =
    mappedEvents sessionId accumulated received ++
      (mapChatEvent payload sessionId
        (accumulatedText sessionId accumulated received)).1.toList := by
  induction received generalizing accumulated with
  | nil => simp [mappedEvents, accumulatedText]
  | cons first rest ih => simp [mappedEvents, accumulatedText, ih]

theorem accumulatedText_append : accumulatedText sessionId accumulated (received ++ [payload]) =
    (mapChatEvent payload sessionId (accumulatedText sessionId accumulated received)).2 := by
  induction received generalizing accumulated with
  | nil => rfl
  | cons first rest ih => exact ih

theorem mapChatEvent_ne_connectionClosed {event : UpstreamEvent}
    (mapped : (mapChatEvent payload sessionId accumulated).1 = some event) :
    event ≠ connectionClosed := by
  unfold mapChatEvent at mapped
  split at mapped
  · cases mapped
  · rintro rfl
    cases state : payload.state with
    | error =>
      simp only [state, connectionClosed, some.injEq, UpstreamEvent.error.injEq] at mapped
      obtain ⟨code, -, retryable⟩ := mapped
      cases kind : payload.errorKind with
      | none => simp [kind] at retryable
      | some errorKind =>
        simp only [kind, getD_some] at code
        simp [kind, code] at retryable
    | _ => simp [state, connectionClosed] at mapped

theorem connectionClosed_not_mem :
    connectionClosed ∉ mappedEvents sessionId accumulated received := by
  induction received generalizing accumulated with
  | nil => exact not_mem_nil
  | cons first rest ih =>
    intro mem
    rcases mem_append.mp mem with isFirst | isLater
    · have mapped := mem_toList.mp isFirst
      exact mapChatEvent_ne_connectionClosed mapped rfl
    · exact ih isLater

theorem upToTerminal_of_deltas (deltas : events.all UpstreamEvent.isDelta = true) :
    upToTerminal (events ++ more) = events ++ upToTerminal more := by
  induction events with
  | nil => rfl
  | cons event rest ih =>
    simp only [all_cons, Bool.and_eq_true] at deltas
    simp [upToTerminal, deltas.1, ih deltas.2]

theorem upToTerminal_append (hasTerminal : events.any (fun event => !event.isDelta) = true) :
    upToTerminal (events ++ more) = upToTerminal events := by
  induction events with
  | nil => cases hasTerminal
  | cons event rest ih =>
    cases delta : event.isDelta with
    | false => simp [upToTerminal, delta]
    | true =>
      simp only [any_cons, delta, Bool.not_true, Bool.false_or] at hasTerminal
      simp [upToTerminal, delta, ih hasTerminal]

theorem upToTerminal_isPrefix : upToTerminal events <+: events := by
  induction events with
  | nil => exact prefix_rfl
  | cons event rest ih =>
    unfold upToTerminal
    split
    · exact cons_prefix_cons.mpr ⟨rfl, ih⟩
    · exact cons_prefix_cons.mpr ⟨rfl, nil_prefix⟩

end Events

namespace MessageStream

variable {stream next : MessageStream} {action : StreamAction}

/-- What holds of the listener and the connection in every run. -/
structure Consistent (stream : MessageStream) : Prop where
  text : stream.accumulated = accumulatedText stream.sessionId "" stream.received
  terminal : stream.terminal = stream.events.any fun event => !event.isDelta
  disconnected : stream.closed = true → stream.connected = false

structure Looping (stream : MessageStream) : Prop where
  split : stream.yielded ++ stream.queue = stream.events
  deltas : stream.yielded.all UpstreamEvent.isDelta = true

/-- All that should be yielded has been, and nothing can be added to it. -/
structure Complete (stream : MessageStream) : Prop where
  yielded : stream.yielded = stream.expected
  sealed : stream.terminal = true ∨ stream.closed = true

@[grind =]
def OnTimeAt (stream : MessageStream) : Position → Prop
  | .requesting => stream.yielded = [] ∧ stream.Looping
  | .waiting => stream.queue = [] ∧ stream.Looping
  | .woken => stream.Looping ∧ (stream.closed = true → stream.queue = [])
  | .suspended event => if event.isDelta then stream.Looping else stream.Complete
  | .returned => stream.Complete
  | .threw => stream.yielded = []
  | .abandoned => stream.yielded <+: stream.expected

def OnTime (stream : MessageStream) : Prop := stream.OnTimeAt stream.position

theorem onTime_iff {position : Position} (isAt : stream.position = position) :
    stream.OnTime ↔ stream.OnTimeAt position := by
  rw [OnTime, isAt]

theorem Looping.yieldedFirst (looping : stream.Looping) : stream.yielded <+: stream.expected := by
  unfold expected
  rw [← looping.split]
  split
  · rw [upToTerminal_of_deltas looping.deltas]
    exact prefix_append _ _
  · split
    · rw [append_assoc]
      exact prefix_append _ _
    · exact prefix_append _ _

theorem OnTime.yieldedFirst (onTime : stream.OnTime) : stream.yielded <+: stream.expected := by
  cases isAt : stream.position with
  | requesting =>
    obtain ⟨-, looping⟩ := (onTime_iff isAt).mp onTime
    exact looping.yieldedFirst
  | waiting =>
    obtain ⟨-, looping⟩ := (onTime_iff isAt).mp onTime
    exact looping.yieldedFirst
  | woken =>
    obtain ⟨looping, -⟩ := (onTime_iff isAt).mp onTime
    exact looping.yieldedFirst
  | suspended event =>
    have here := (onTime_iff isAt).mp onTime
    simp only [OnTimeAt] at here
    split at here
    · exact here.yieldedFirst
    · exact here.yielded ▸ prefix_rfl
  | returned =>
    have complete : stream.Complete := (onTime_iff isAt).mp onTime
    exact complete.yielded ▸ prefix_rfl
  | threw =>
    have nothing : stream.yielded = [] := (onTime_iff isAt).mp onTime
    exact nothing ▸ nil_prefix
  | abandoned => exact (onTime_iff isAt).mp onTime

theorem events_of_received (sameSession : next.sessionId = stream.sessionId)
    (sameReceived : next.received = stream.received) : next.events = stream.events := by
  unfold events
  rw [sameSession, sameReceived]

theorem expected_of_events (sameEvents : next.events = stream.events)
    (sameClosed : next.closed = stream.closed) : next.expected = stream.expected := by
  unfold expected
  rw [sameEvents, sameClosed]

theorem events_listener (consistent : stream.Consistent) (payload : ChatEventPayload) :
    (stream.listener payload).events = stream.events ++
      (mapChatEvent payload stream.sessionId stream.accumulated).1.toList := by
  have appended := @mappedEvents_append stream.sessionId "" payload stream.received
  rw [← consistent.text] at appended
  unfold listener
  dsimp only
  split
  · exact appended
  · exact appended

/-- The action that gives the listener a payload, or leaves what it has. -/
theorem drain_feed (stream : MessageStream) :
    stream.drain.sessionId = stream.sessionId ∧ stream.drain.accumulated = stream.accumulated ∧
      stream.drain.received = stream.received ∧ stream.drain.terminal = stream.terminal ∧
      stream.drain.closed = stream.closed ∧ stream.drain.connected = stream.connected := by
  unfold drain
  split
  · exact ⟨rfl, rfl, rfl, rfl, rfl, rfl⟩
  · split
    · exact ⟨rfl, rfl, rfl, rfl, rfl, rfl⟩
    · exact ⟨rfl, rfl, rfl, rfl, rfl, rfl⟩

theorem Consistent.drain (consistent : stream.Consistent) : stream.drain.Consistent := by
  obtain ⟨session, accumulated, received, terminal, closed, connected⟩ := stream.drain_feed
  constructor
  · rw [accumulated, session, received]
    exact consistent.text
  · rw [terminal, events_of_received session received]
    exact consistent.terminal
  · rw [closed, connected]
    exact consistent.disconnected

theorem Consistent.listener (consistent : stream.Consistent) (payload : ChatEventPayload) :
    (stream.listener payload).Consistent := by
  have appended := @accumulatedText_append stream.sessionId "" payload stream.received
  rw [← consistent.text] at appended
  have newEvents := events_listener consistent payload
  constructor
  · unfold MessageStream.listener
    dsimp only
    split
    · exact appended.symm
    · exact appended.symm
  · rw [newEvents, any_append, ← consistent.terminal]
    unfold MessageStream.listener
    dsimp only
    split
    · next isNone => simp [isNone]
    · next event isSome => simp [isSome]
  · unfold MessageStream.listener
    dsimp only
    split
    · exact consistent.disconnected
    · exact consistent.disconnected

theorem Consistent.step (consistent : stream.Consistent) (steps : stream.step action = some next) :
    next.Consistent := by
  have keeps {changed : MessageStream} (session : changed.sessionId = stream.sessionId)
      (text : changed.accumulated = stream.accumulated)
      (received : changed.received = stream.received)
      (terminal : changed.terminal = stream.terminal)
      (disconnected : changed.closed = true → changed.connected = false) : changed.Consistent := by
    constructor
    · rw [text, session, received]
      exact consistent.text
    · rw [terminal, events_of_received session received]
      exact consistent.terminal
    · exact disconnected
  cases action with
  | chat payload =>
    cases (ite_none_right_eq_some.mp steps).2
    split
    · exact consistent.listener payload
    · exact consistent
  | resume =>
    cases (ite_none_right_eq_some.mp steps).2
    unfold loop
    split
    · exact keeps rfl rfl rfl rfl consistent.disconnected
    · exact consistent.drain
  | pull =>
    simp only [MessageStream.step] at steps
    split at steps
    · cases steps
      split
      · exact consistent.drain
      · exact keeps rfl rfl rfl rfl consistent.disconnected
    · cases steps
  | abandon =>
    simp only [MessageStream.step] at steps
    split at steps
    · cases steps
      exact keeps rfl rfl rfl rfl consistent.disconnected
    · cases steps
  | close =>
    cases steps
    split
    · exact keeps rfl rfl rfl rfl fun _ => rfl
    · exact keeps rfl rfl rfl rfl fun _ => rfl
  | dispose =>
    cases steps
    exact keeps rfl rfl rfl rfl fun _ => rfl
  | _ =>
    cases (ite_none_right_eq_some.mp steps).2
    exact keeps rfl rfl rfl rfl consistent.disconnected

theorem Looping.terminal_iff (looping : stream.Looping) (consistent : stream.Consistent) :
    stream.terminal = stream.queue.any fun event => !event.isDelta := by
  have noTerminal : stream.yielded.any (fun event => !event.isDelta) = false := by
    simpa using looping.deltas
  rw [consistent.terminal, ← looping.split, any_append, noTerminal, Bool.false_or]

/-- The inner loop yields the next event, or awaits more. -/
theorem Looping.drain (looping : stream.Looping) (consistent : stream.Consistent) :
    stream.drain.OnTime := by
  have terminal := looping.terminal_iff consistent
  unfold MessageStream.drain
  split
  · next event rest queued =>
    have whole : (stream.yielded ++ [event]) ++ rest = stream.events := by
      rw [← looping.split, queued, append_assoc]
      rfl
    simp only [OnTime, OnTimeAt, yield]
    cases delta : event.isDelta with
    | true =>
      constructor
      · exact whole
      · have deltas := looping.deltas
        simp [all_append, deltas, delta]
    | false =>
      have hasTerminal : stream.terminal = true := by simp [terminal, queued, delta]
      have inEvents : stream.events.any (fun event => !event.isDelta) = true :=
        consistent.terminal.symm.trans hasTerminal
      constructor
      · change stream.yielded ++ [event] = expected _
        change _ = if stream.events.any (fun event => !event.isDelta) then
          upToTerminal stream.events else _
        rw [if_pos inEvents, ← looping.split, queued, upToTerminal_of_deltas looping.deltas]
        simp [upToTerminal, delta]
      · exact .inl hasTerminal
  · next queued =>
    have noTerminal : stream.terminal = false := by simp [terminal, queued]
    rw [noTerminal, if_neg Bool.false_ne_true]
    exact ⟨queued, looping.split, looping.deltas⟩

theorem Looping.loop (looping : stream.Looping) (consistent : stream.Consistent)
    (closed : stream.closed = true → stream.queue = []) : stream.loop.OnTime := by
  unfold MessageStream.loop
  split
  · next isClosed =>
    have all : stream.yielded = stream.events := by
      rw [← looping.split, closed isClosed, append_nil]
    have noTerminal : stream.events.any (fun event => !event.isDelta) = false := by
      rw [← all]
      simpa using looping.deltas
    constructor
    · change stream.yielded ++ [connectionClosed] = expected _
      change _ = if stream.events.any (fun event => !event.isDelta) then _
        else if stream.closed then stream.events ++ [connectionClosed] else _
      rw [noTerminal, if_neg Bool.false_ne_true, if_pos isClosed, all]
    · exact .inr isClosed
  · exact looping.drain consistent

theorem Consistent.isOpen (consistent : stream.Consistent) (connected : stream.connected = true) :
    stream.closed = false := by
  cases closed : stream.closed with
  | false => rfl
  | true =>
    rw [consistent.disconnected closed] at connected
    cases connected

theorem Complete.listener (complete : stream.Complete) (consistent : stream.Consistent)
    (connected : stream.connected = true) (payload : ChatEventPayload) :
    (stream.listener payload).yielded = (stream.listener payload).expected ∧
      (stream.listener payload).terminal = true := by
  have isOpen := consistent.isOpen connected
  have hasTerminal : stream.terminal = true := by
    rcases complete.sealed with terminal | closed
    · exact terminal
    · rw [isOpen] at closed
      cases closed
  have inEvents : stream.events.any (fun event => !event.isDelta) = true :=
    consistent.terminal.symm.trans hasTerminal
  have same : (stream.listener payload).expected = stream.expected := by
    unfold expected
    rw [events_listener consistent payload, any_append, inEvents, Bool.true_or, if_pos rfl,
      if_pos rfl, upToTerminal_append inEvents]
  constructor
  · rw [same, ← complete.yielded]
    unfold MessageStream.listener
    dsimp only
    split
    · rfl
    · rfl
  · unfold MessageStream.listener
    dsimp only
    split
    · exact hasTerminal
    · rw [hasTerminal, Bool.true_or]

theorem Looping.listener (looping : stream.Looping) (consistent : stream.Consistent)
    (payload : ChatEventPayload) : (stream.listener payload).Looping := by
  have newEvents := events_listener consistent payload
  unfold MessageStream.listener at newEvents ⊢
  dsimp only at newEvents ⊢
  split
  · next isNone =>
    simp only [isNone, toList_none, append_nil] at newEvents
    exact ⟨looping.split.trans newEvents.symm, looping.deltas⟩
  · next event isSome =>
    simp only [isSome, toList_some] at newEvents
    refine ⟨?_, looping.deltas⟩
    rw [newEvents, ← looping.split, append_assoc]

theorem yielded_listener (stream : MessageStream) (payload : ChatEventPayload) :
    (stream.listener payload).yielded = stream.yielded := by
  unfold MessageStream.listener
  dsimp only
  split
  · rfl
  · rfl

theorem closed_listener (stream : MessageStream) (payload : ChatEventPayload) :
    (stream.listener payload).closed = stream.closed := by
  unfold MessageStream.listener
  dsimp only
  split
  · rfl
  · rfl

theorem position_listener (payload : ChatEventPayload) (working : stream.position ≠ .waiting) :
    (stream.listener payload).position = stream.position := by
  unfold MessageStream.listener
  dsimp only
  split
  · rfl
  · exact if_neg working

theorem OnTime.listener (onTime : stream.OnTime) (consistent : stream.Consistent)
    (connected : stream.connected = true) (listens : stream.position.listens = true)
    (payload : ChatEventPayload) : (stream.listener payload).OnTime := by
  have isOpen : (stream.listener payload).closed = false :=
    (closed_listener stream payload).trans (consistent.isOpen connected)
  have notClosed {goal : Prop} (closed : (stream.listener payload).closed = true) : goal := by
    rw [isOpen] at closed
    cases closed
  have keeps {position : Position} (isAt : stream.position = position)
      (working : position ≠ .waiting) : (stream.listener payload).position = position :=
    (position_listener payload (isAt ▸ working)).trans isAt
  cases isAt : stream.position with
  | requesting =>
    obtain ⟨nothing, looping⟩ := (onTime_iff isAt).mp onTime
    apply (onTime_iff (keeps isAt nofun)).mpr
    exact ⟨(yielded_listener stream payload).trans nothing, looping.listener consistent payload⟩
  | waiting =>
    obtain ⟨empty, looping⟩ := (onTime_iff isAt).mp onTime
    have isLooping := looping.listener consistent payload
    cases mapped : (mapChatEvent payload stream.sessionId stream.accumulated).1 with
    | none =>
      have isWaiting : (stream.listener payload).position = .waiting := by
        simp only [MessageStream.listener, mapped, isAt]
      apply (onTime_iff isWaiting).mpr
      refine ⟨?_, isLooping⟩
      simp only [MessageStream.listener, mapped, empty]
    | some event =>
      have isWoken : (stream.listener payload).position = .woken := by
        simp only [MessageStream.listener, mapped, isAt, if_pos]
      exact (onTime_iff isWoken).mpr ⟨isLooping, notClosed⟩
  | woken =>
    obtain ⟨looping, -⟩ := (onTime_iff isAt).mp onTime
    apply (onTime_iff (keeps isAt nofun)).mpr
    exact ⟨looping.listener consistent payload, notClosed⟩
  | suspended last =>
    have here := (onTime_iff isAt).mp onTime
    apply (onTime_iff (keeps isAt nofun)).mpr
    simp only [OnTimeAt] at here ⊢
    split
    · next delta =>
      rw [if_pos delta] at here
      exact here.listener consistent payload
    · next terminal =>
      rw [if_neg terminal] at here
      obtain ⟨yielded, hasTerminal⟩ := here.listener consistent connected payload
      exact ⟨yielded, .inl hasTerminal⟩
  | returned => simp [isAt, Position.listens] at listens
  | threw => simp [isAt, Position.listens] at listens
  | abandoned => simp [isAt, Position.listens] at listens

theorem expected_disconnect (consistent : stream.Consistent)
    (sealed : stream.terminal = true ∨ stream.closed = true) {position : Position} :
    expected { stream with closed := true, connected := false, position } = stream.expected := by
  change (if stream.events.any (fun event => !event.isDelta) then _ else _) = _
  unfold expected
  rw [← consistent.terminal]
  cases terminal : stream.terminal with
  | true => rfl
  | false =>
    have closed : stream.closed = true := by simpa [terminal] using sealed
    simp [closed, events]

theorem expected_prefix_disconnect {position : Position} : stream.expected <+:
    expected { stream with closed := true, connected := false, position } := by
  change _ <+: (if stream.events.any (fun event => !event.isDelta) then _ else _)
  unfold expected
  split
  · exact prefix_rfl
  · split
    · exact prefix_rfl
    · exact prefix_append _ _

theorem OnTime.disconnect (onTime : stream.OnTime) (consistent : stream.Consistent)
    (notOvertaken : ¬ (stream.position = .woken ∧ stream.queue ≠ [])) :
    OnTime { stream with closed := true, connected := false } := by
  have looping (isLooping : stream.Looping) :
      Looping { stream with closed := true, connected := false } :=
    ⟨isLooping.split, isLooping.deltas⟩
  have complete (isComplete : stream.Complete) :
      Complete { stream with closed := true, connected := false } :=
    ⟨isComplete.yielded.trans (expected_disconnect consistent isComplete.sealed).symm, .inr rfl⟩
  have samePosition {position : Position} (isAt : stream.position = position) :
      ({ stream with closed := true, connected := false } : MessageStream).position = position :=
    isAt
  obtain ⟨position, isAt⟩ : ∃ position, stream.position = position := ⟨_, rfl⟩
  cases position with
  | requesting =>
    obtain ⟨nothing, isLooping⟩ := (onTime_iff isAt).mp onTime
    exact (onTime_iff (samePosition isAt)).mpr ⟨nothing, looping isLooping⟩
  | waiting =>
    obtain ⟨empty, isLooping⟩ := (onTime_iff isAt).mp onTime
    exact (onTime_iff (samePosition isAt)).mpr ⟨empty, looping isLooping⟩
  | woken =>
    obtain ⟨isLooping, -⟩ := (onTime_iff isAt).mp onTime
    have empty : stream.queue = [] := by
      cases queued : stream.queue with
      | nil => rfl
      | cons event rest =>
        have waits : stream.queue ≠ [] := by simp [queued]
        exact absurd ⟨isAt, waits⟩ notOvertaken
    exact (onTime_iff (samePosition isAt)).mpr ⟨looping isLooping, fun _ => empty⟩
  | suspended last =>
    have here := (onTime_iff isAt).mp onTime
    apply (onTime_iff (samePosition isAt)).mpr
    simp only [OnTimeAt] at here ⊢
    split
    · next delta =>
      rw [if_pos delta] at here
      exact looping here
    · next terminal =>
      rw [if_neg terminal] at here
      exact complete here
  | returned =>
    have here := (onTime_iff isAt).mp onTime
    exact (onTime_iff (samePosition isAt)).mpr (complete here)
  | threw =>
    have here := (onTime_iff isAt).mp onTime
    exact (onTime_iff (samePosition isAt)).mpr here
  | abandoned =>
    have here := (onTime_iff isAt).mp onTime
    exact (onTime_iff (samePosition isAt)).mpr (List.IsPrefix.trans here expected_prefix_disconnect)

theorem OnTime.step (onTime : stream.OnTime) (consistent : stream.Consistent)
    (inTime : ¬ stream.Overtaken action) (steps : stream.step action = some next) :
    next.OnTime := by
  cases action with
  | chat payload =>
    obtain ⟨connected, same⟩ := ite_none_right_eq_some.mp steps
    cases same
    split
    · next listens => exact onTime.listener consistent connected listens payload
    · exact onTime
  | acknowledge =>
    obtain ⟨⟨connected, isAt⟩, same⟩ := ite_none_right_eq_some.mp steps
    cases same
    obtain ⟨-, looping⟩ := (onTime_iff isAt).mp onTime
    refine ⟨⟨looping.split, looping.deltas⟩, fun closed => ?_⟩
    have isOpen := consistent.isOpen connected
    rw [isOpen] at closed
    cases closed
  | reject =>
    obtain ⟨⟨-, isAt⟩, same⟩ := ite_none_right_eq_some.mp steps
    cases same
    obtain ⟨nothing, -⟩ := (onTime_iff isAt).mp onTime
    exact nothing
  | requestTimeout =>
    obtain ⟨isAt, same⟩ := ite_none_right_eq_some.mp steps
    cases same
    obtain ⟨nothing, -⟩ := (onTime_iff isAt).mp onTime
    exact nothing
  | timer =>
    obtain ⟨isAt, same⟩ := ite_none_right_eq_some.mp steps
    cases same
    obtain ⟨empty, looping⟩ := (onTime_iff isAt).mp onTime
    exact ⟨⟨looping.split, looping.deltas⟩, fun _ => empty⟩
  | resume =>
    obtain ⟨isAt, same⟩ := ite_none_right_eq_some.mp steps
    cases same
    obtain ⟨looping, whenClosed⟩ := (onTime_iff isAt).mp onTime
    exact looping.loop consistent whenClosed
  | pull =>
    simp only [MessageStream.step] at steps
    split at steps
    · next event isAt =>
      cases steps
      have here := (onTime_iff isAt).mp onTime
      simp only [OnTimeAt] at here
      split
      · next delta =>
        rw [if_pos delta] at here
        exact here.drain consistent
      · next terminal =>
        rw [if_neg terminal] at here
        exact ⟨here.yielded, here.sealed⟩
    · cases steps
  | abandon =>
    simp only [MessageStream.step] at steps
    split at steps
    · cases steps
      exact onTime.yieldedFirst
    · cases steps
  | close =>
    cases steps
    have disconnected := onTime.disconnect consistent fun early => inTime ⟨.inl rfl, early⟩
    split
    · next isAt =>
      have wasAt : stream.position = .requesting := isAt
      obtain ⟨nothing, -⟩ := (onTime_iff wasAt).mp onTime
      exact nothing
    · exact disconnected
  | dispose =>
    cases steps
    exact onTime.disconnect consistent fun early => inTime ⟨.inr rfl, early⟩

end MessageStream

end OpenClaw

end LongHub
