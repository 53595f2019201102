import LongHub.CloudTaskStore
import LongHub.GuardedRun
import LongHub.ListLemmas
import LongHub.ReplayFeed

/-!
# The event stream of a task

The handler of `GET /v1/tasks/{id}/events` awaits the events after `Last-Event-ID`, writes them to
the response, and then subscribes to the store.
-/

namespace LongHub

open CloudTaskEvent List Option TaskTables

structure EventStreamRequest where
  taskId : Nat
  lastEventId : Option Nat

namespace EventStreamRequest

/-- The number after which the client wants every event. -/
def position (request : EventStreamRequest) : Nat := request.lastEventId.getD 0

def ofTask (request : EventStreamRequest) (events : List CloudTaskEvent) : List CloudTaskEvent :=
  events.filter fun event => event.taskId == request.taskId

abbrev missing (request : EventStreamRequest) (events : List CloudTaskEvent) :
    List CloudTaskEvent :=
  ReplayFeed.after eventId request.position events

end EventStreamRequest

/-- One open connection: what it read, whether it listens, what it wrote. -/
structure EventStreamHandler where
  replay : Option (List CloudTaskEvent)
  subscribed : Bool
  written : List CloudTaskEvent

namespace EventStreamHandler

def start : EventStreamHandler := ⟨none, false, []⟩

def send (handler : EventStreamHandler) (event : CloudTaskEvent) : EventStreamHandler :=
  { handler with written := handler.written ++ [event] }

def read (handler : EventStreamHandler) (events : List CloudTaskEvent) :
    Option EventStreamHandler :=
  match handler.replay with
  | none => some { handler with replay := some events }
  | some _ => none

/-- Send every replayed event, then subscribe. -/
def resume (handler : EventStreamHandler) : Option EventStreamHandler :=
  match handler.replay, handler.subscribed with
  | some events, false => some { events.foldl send handler with subscribed := true }
  | _, _ => none

def receive (request : EventStreamRequest) (handler : EventStreamHandler)
    (event : CloudTaskEvent) : EventStreamHandler :=
  if handler.subscribed ∧ event.taskId = request.taskId then handler.send event
  else handler

@[simp]
theorem replay_receive (request : EventStreamRequest) (handler : EventStreamHandler)
    (event : CloudTaskEvent) : (handler.receive request event).replay = handler.replay := by
  unfold receive
  split <;> rfl

@[simp]
theorem subscribed_receive (request : EventStreamRequest) (handler : EventStreamHandler)
    (event : CloudTaskEvent) : (handler.receive request event).subscribed = handler.subscribed := by
  unfold receive
  split <;> rfl

theorem foldl_send (events : List CloudTaskEvent) (handler : EventStreamHandler) :
    events.foldl send handler = { handler with written := handler.written ++ events } := by
  induction events generalizing handler with
  | nil => simp
  | cons event rest ih => simp [ih, send]

theorem resume_eq_some_iff {handler next : EventStreamHandler} :
    handler.resume = some next ↔ ∃ events, handler.replay = some events ∧
      handler.subscribed = false ∧
      next = { handler with written := handler.written ++ events, subscribed := true } := by
  unfold resume
  split
  · next events replayed waiting =>
    simp only [foldl_send, Option.some.injEq, replayed, waiting, true_and]
    constructor
    · rintro rfl
      exact ⟨events, rfl, rfl⟩
    · rintro ⟨_, rfl, rfl⟩
      rfl
  · next other =>
    refine iff_of_false (by simp) ?_
    rintro ⟨events, replayed, waiting, -⟩
    exact other events replayed waiting

theorem read_eq_some_iff {handler next : EventStreamHandler} {events : List CloudTaskEvent} :
    handler.read events = some next ↔
      handler.replay = none ∧ next = { handler with replay := some events } := by
  unfold read
  split <;> simp_all [eq_comm]

def feed (request : EventStreamRequest) (handler : EventStreamHandler)
    (stored unnotified : List CloudTaskEvent) : ReplayFeed CloudTaskEvent where
  log := stored
  undelivered := unnotified
  replay := handler.replay.map request.missing
  listening := handler.subscribed
  received := request.missing handler.written

end EventStreamHandler

/-- The client has every event after its position that was announced to the
listeners, once, and in increasing order. -/
structure ReceivedExactly (request : EventStreamRequest) (handler : EventStreamHandler)
    (stored unnotified : List CloudTaskEvent) : Prop where
  increasing : (request.missing handler.written).Pairwise fun first second =>
    first.eventId < second.eventId
  genuine : ∀ event ∈ request.missing handler.written, event ∈ stored
  everything : handler.subscribed = true → ∀ event ∈ stored,
    request.position < event.eventId → event ∉ unnotified → event ∈ handler.written

variable {request : EventStreamRequest} {handler : EventStreamHandler}
  {unnotified : List CloudTaskEvent}

theorem ReceivedExactly.of_exact {stored : List CloudTaskEvent}
    (exact : ReplayFeed.Exact eventId request.position (handler.feed request stored unnotified)) :
    ReceivedExactly request handler stored unnotified where
  increasing := exact.received_increasing
  genuine := fun _ mem =>
    mem_of_mem_filter (exact.received_sublist.subset mem)
  everything := fun subscribed _ mem later announced =>
    mem_of_mem_filter (exact.mem_received subscribed mem later announced)

theorem EventStreamHandler.feed_receive {event : CloudTaskEvent}
    (ofTask : event.taskId = request.taskId) (handler : EventStreamHandler)
    (stored unnotified : List CloudTaskEvent) :
    (handler.receive request event).feed request stored unnotified =
      { handler.feed request stored unnotified with
        received :=
          if handler.subscribed ∧ request.position < event.eventId then
            request.missing handler.written ++ [event]
          else request.missing handler.written } := by
  by_cases subscribed : handler.subscribed = true
  · by_cases later : request.position < event.eventId
    · simp [feed, receive, send, ofTask, subscribed, later, ReplayFeed.after, filter_append]
    · simp [feed, receive, send, ofTask, subscribed, later, ReplayFeed.after, filter_append]
  · simp [feed, receive, subscribed]

theorem EventStreamHandler.step_resume {next : EventStreamHandler}
    {stored events : List CloudTaskEvent}
    (exact : ReplayFeed.Exact eventId request.position (handler.feed request stored unnotified))
    (resumed : handler.resume = some next) (replayed : handler.replay = some events)
    (current : request.missing stored = request.missing events ++ request.missing unnotified) :
    ReplayFeed.Step eventId request.position
      (handler.feed request stored unnotified) (next.feed request stored unnotified) := by
  obtain ⟨_, replayedEq, waiting, rfl⟩ := resume_eq_some_iff.mp resumed
  cases replayed.symm.trans replayedEq
  have nothing : request.missing handler.written = [] := exact.waiting waiting
  have replayedFeed : (handler.feed request stored unnotified).replay =
      some (request.missing events) := by
    simp [feed, replayed]
  have step := ReplayFeed.Step.listen waiting replayedFeed current
  simpa [feed, EventStreamRequest.missing, ReplayFeed.after, filter_append,
    show List.filter _ handler.written = [] from nothing] using step

theorem EventStreamHandler.step_read {next : EventStreamHandler}
    {stored events : List CloudTaskEvent} (read : handler.read events = some next)
    (waiting : handler.subscribed = false)
    (everything : request.missing events = request.missing stored) :
    ReplayFeed.Step eventId request.position
      (handler.feed request stored unnotified) (next.feed request stored unnotified) := by
  obtain ⟨-, rfl⟩ := read_eq_some_iff.mp read
  have step : ReplayFeed.Step eventId request.position
      (handler.feed request stored unnotified) _ := .read waiting
  simpa [feed, everything] using step

structure MemoryStream where
  tables : TaskTables
  handler : EventStreamHandler

inductive MemoryStreamAction where
  | emit (now : Instant) (taskId : Nat) (type : String) (error : Option TaskError)
  | eventsAfter
  | subscribe

namespace MemoryStream

def step (request : EventStreamRequest) (stream : MemoryStream) :
    MemoryStreamAction → Option MemoryStream
  | .emit now taskId type error => some {
      tables := stream.tables.emit now taskId type error
      handler := stream.handler.receive request
        (stream.tables.nextEvent now taskId type error) }
  | .eventsAfter =>
    (stream.handler.read (stream.tables.eventsAfter request.taskId
      request.lastEventId)).map fun handler => { stream with handler }
  | .subscribe => stream.handler.resume.map fun handler => { stream with handler }

def Undisturbed (request : EventStreamRequest) (stream : MemoryStream) : MemoryStreamAction → Prop
  | .emit .. => True
  | .eventsAfter => True
  | .subscribe => stream.handler.replay =
      some (stream.tables.eventsAfter request.taskId request.lastEventId)

def stored (request : EventStreamRequest) (stream : MemoryStream) : List CloudTaskEvent :=
  (stream.tables.eventsByTask.get? request.taskId).getD []

def feed (request : EventStreamRequest) (stream : MemoryStream) : ReplayFeed CloudTaskEvent :=
  stream.handler.feed request (stream.stored request) []

structure Inv (request : EventStreamRequest) (stream : MemoryStream) : Prop where
  numbered : stream.tables.EventsNumbered
  listed : stream.tables.eventsByTask.get? request.taskId ≠ none
  ordered : stream.handler.replay = none → stream.handler.subscribed = false
  exact : (stream.feed request).Exact eventId request.position

theorem missing_eventsAfter (request : EventStreamRequest) (tables : TaskTables) :
    request.missing (tables.eventsAfter request.taskId request.lastEventId) =
      request.missing ((tables.eventsByTask.get? request.taskId).getD []) := by
  cases lastEventId : request.lastEventId with
  | none => simp [eventsAfter]
  | some after =>
    simp [eventsAfter, EventStreamRequest.missing, ReplayFeed.after,
      EventStreamRequest.position, lastEventId]

theorem stored_emit {request : EventStreamRequest} {stream : MemoryStream}
    (listed : stream.tables.eventsByTask.get? request.taskId ≠ none) (now : Instant) (taskId : Nat)
    (type : String) (error : Option TaskError) (handler : EventStreamHandler) :
    (MemoryStream.mk (stream.tables.emit now taskId type error) handler).stored request =
      if taskId = request.taskId then
        stream.stored request ++ [stream.tables.nextEvent now taskId type error]
      else stream.stored request := by
  obtain ⟨events, found⟩ := ne_none_iff_exists'.mp listed
  by_cases same : taskId = request.taskId
  · simp [stored, get?_eventsByTask_emit, found, same]
  · simp [stored, get?_eventsByTask_emit, found, same, Ne.symm same]

/-- An emission appends the event and delivers it at once. -/
theorem feed_emit {request : EventStreamRequest} {stream : MemoryStream} (inv : stream.Inv request)
    (now : Instant) (taskId : Nat) (type : String) (error : Option TaskError) :
    Relation.ReflTransGen (ReplayFeed.Step eventId request.position)
      (stream.feed request) (MemoryStream.feed request
        ⟨stream.tables.emit now taskId type error, stream.handler.receive request
          (stream.tables.nextEvent now taskId type error)⟩) := by
  by_cases same : taskId = request.taskId
  · obtain ⟨events, found⟩ := ne_none_iff_exists'.mp inv.listed
    set event := stream.tables.nextEvent now taskId type error with eventEq
    have later : ∀ earlier ∈ (stream.feed request).log, earlier.eventId < event.eventId := by
      intro earlier mem
      have given := inv.numbered.given request.taskId events found earlier
        (by simpa [feed, EventStreamHandler.feed, stored, found] using mem)
      simp only [eventEq, nextEvent]
      omega
    have storedEq := stored_emit inv.listed now taskId type error
      (stream.handler.receive request event)
    rw [if_pos same, ← eventEq] at storedEq
    refine .tail (.single (.append event later)) ?_
    rw [feed, feed, storedEq, EventStreamHandler.feed_receive same]
    exact .deliver rfl
  · have unchanged : stream.handler.receive request
        (stream.tables.nextEvent now taskId type error) = stream.handler := by
      simp [EventStreamHandler.receive, nextEvent, same]
    rw [unchanged, feed, feed, stored_emit inv.listed, if_neg same]

theorem Inv.step {request : EventStreamRequest} {stream next : MemoryStream}
    {action : MemoryStreamAction} (inv : stream.Inv request)
    (undisturbed : stream.Undisturbed request action)
    (stepTo : stream.step request action = some next) : next.Inv request := by
  cases action with
  | emit now taskId type error =>
    cases stepTo
    refine ⟨inv.numbered.emit now taskId type error, ?_, by simpa using inv.ordered,
      inv.exact.run (feed_emit inv now taskId type error)⟩
    rw [get?_eventsByTask_emit]
    simpa using inv.listed
  | eventsAfter =>
    obtain ⟨handler, read, rfl⟩ := map_eq_some_iff.mp stepTo
    obtain ⟨unread, handlerEq⟩ := EventStreamHandler.read_eq_some_iff.mp read
    have waiting := inv.ordered unread
    refine ⟨inv.numbered, inv.listed, by simp [handlerEq], inv.exact.step ?_⟩
    exact EventStreamHandler.step_read read waiting (missing_eventsAfter request stream.tables)
  | subscribe =>
    obtain ⟨handler, resumed, rfl⟩ := map_eq_some_iff.mp stepTo
    obtain ⟨events, replayed, -, handlerEq⟩ := EventStreamHandler.resume_eq_some_iff.mp resumed
    refine ⟨inv.numbered, inv.listed, ?_, inv.exact.step ?_⟩
    · simp [handlerEq, replayed]
    · refine EventStreamHandler.step_resume inv.exact resumed undisturbed ?_
      rw [missing_eventsAfter]
      exact (append_nil _).symm

end MemoryStream

structure PgStream where
  rows : List CloudTaskEvent
  unnotified : List CloudTaskEvent
  handler : EventStreamHandler

inductive PgStreamAction where
  | insertEvent (row : CloudTaskEvent)
  | notify (row : CloudTaskEvent)
  | eventsAfter
  | subscribe

namespace PgStream

def start : PgStream := ⟨[], [], .start⟩

def eventsAfter (rows : List CloudTaskEvent) (taskId : Nat)
    (afterEventId : Option Nat) : List CloudTaskEvent :=
  (rows.filter fun row =>
    row.taskId == taskId && decide (afterEventId.getD 0 < row.eventId)).insertionSort
      fun first second => first.eventId ≤ second.eventId

/-- A sequence gives every row another number, but not in commit order. -/
def step (request : EventStreamRequest) (stream : PgStream) : PgStreamAction → Option PgStream
  | .insertEvent row =>
    if 0 < row.eventId ∧ ∀ other ∈ stream.rows, other.eventId ≠ row.eventId then
      some { stream with
        rows := stream.rows ++ [row]
        unnotified := stream.unnotified ++ [row] }
    else none
  | .notify row =>
    if row ∈ stream.unnotified then
      some { stream with
        unnotified := stream.unnotified.erase row
        handler := stream.handler.receive request row }
    else none
  | .eventsAfter =>
    (stream.handler.read
      (eventsAfter stream.rows request.taskId request.lastEventId)).map fun handler =>
        { stream with handler }
  | .subscribe => stream.handler.resume.map fun handler => { stream with handler }

def Undisturbed (request : EventStreamRequest) (stream : PgStream) : PgStreamAction → Prop
  | .insertEvent row => ∀ earlier ∈ stream.rows, earlier.eventId < row.eventId
  | .notify row => row.taskId = request.taskId → (request.ofTask stream.unnotified).head? = some row
  | .eventsAfter => True
  | .subscribe => ∀ events, stream.handler.replay = some events →
      request.missing (request.ofTask stream.rows) =
        request.missing events ++ request.missing (request.ofTask stream.unnotified)

def feed (request : EventStreamRequest) (stream : PgStream) : ReplayFeed CloudTaskEvent :=
  stream.handler.feed request (request.ofTask stream.rows) (request.ofTask stream.unnotified)

structure Inv (request : EventStreamRequest) (stream : PgStream) : Prop where
  numbered : stream.rows.Pairwise fun first second => first.eventId < second.eventId
  ordered : stream.handler.replay = none → stream.handler.subscribed = false
  exact : (stream.feed request).Exact eventId request.position

theorem missing_eventsAfter (request : EventStreamRequest) {rows : List CloudTaskEvent}
    (numbered : rows.Pairwise fun first second => first.eventId < second.eventId) :
    request.missing (eventsAfter rows request.taskId request.lastEventId) =
      request.missing (request.ofTask rows) := by
  have sorted : (rows.filter fun row => row.taskId == request.taskId &&
      decide (request.position < row.eventId)).Pairwise
        fun first second => first.eventId ≤ second.eventId :=
    (numbered.imp fun less => less.le).sublist filter_sublist
  rw [eventsAfter, ← EventStreamRequest.position, sorted.insertionSort_eq]
  simp only [ReplayFeed.after, EventStreamRequest.ofTask, List.filter_filter]
  congr 1
  funext row
  cases row.taskId == request.taskId <;> simp

variable {request : EventStreamRequest} {row : CloudTaskEvent}

theorem ofTask_erase {unnotified rest : List CloudTaskEvent}
    (oldest : request.ofTask unnotified = row :: rest) :
    request.ofTask (unnotified.erase row) = rest := by
  rw [EventStreamRequest.ofTask, List.filter_erase_comm, ← EventStreamRequest.ofTask, oldest,
    erase_cons_head]

theorem ofTask_erase_of_ne (differ : row.taskId ≠ request.taskId)
    (unnotified : List CloudTaskEvent) :
    request.ofTask (unnotified.erase row) = request.ofTask unnotified := by
  exact List.filter_erase_of_not (by simpa using differ) unnotified

theorem feed_insertEvent {stream : PgStream}
    (later : ∀ earlier ∈ stream.rows, earlier.eventId < row.eventId) :
    Relation.ReflTransGen (ReplayFeed.Step eventId request.position)
      (stream.feed request)
      (PgStream.feed request { stream with
        rows := stream.rows ++ [row]
        unnotified := stream.unnotified ++ [row] }) := by
  by_cases same : row.taskId = request.taskId
  · have laterOfTask : ∀ earlier ∈ request.ofTask stream.rows, earlier.eventId < row.eventId :=
      fun earlier mem => later earlier (mem_of_mem_filter mem)
    have step : ReplayFeed.Step eventId request.position
        (stream.feed request) _ := .append row laterOfTask
    refine .single ?_
    simpa [feed, EventStreamHandler.feed, EventStreamRequest.ofTask, filter_append, same] using step
  · have unchanged : PgStream.feed request { stream with
        rows := stream.rows ++ [row]
        unnotified := stream.unnotified ++ [row] } = stream.feed request := by
      simp [feed, EventStreamHandler.feed, EventStreamRequest.ofTask, filter_append, same]
    rw [unchanged]

theorem feed_notify {stream : PgStream}
    (oldest : row.taskId = request.taskId → (request.ofTask stream.unnotified).head? = some row) :
    Relation.ReflTransGen (ReplayFeed.Step eventId request.position)
      (stream.feed request)
      (PgStream.feed request { stream with
        unnotified := stream.unnotified.erase row
        handler := stream.handler.receive request row }) := by
  by_cases same : row.taskId = request.taskId
  · obtain ⟨rest, restEq⟩ := head?_eq_some_iff.mp (oldest same)
    refine .single ?_
    rw [feed, feed, EventStreamHandler.feed_receive same, ofTask_erase restEq]
    exact .deliver restEq
  · have unchanged : stream.handler.receive request row = stream.handler := by
      simp [EventStreamHandler.receive, same]
    rw [unchanged, feed, feed, ofTask_erase_of_ne same]

theorem Inv.step {request : EventStreamRequest} {stream next : PgStream} {action : PgStreamAction}
    (inv : stream.Inv request) (undisturbed : stream.Undisturbed request action)
    (stepTo : stream.step request action = some next) : next.Inv request := by
  cases action with
  | insertEvent row =>
    simp only [PgStream.step] at stepTo
    split at stepTo
    · cases stepTo
      have later : ∀ earlier ∈ stream.rows, earlier.eventId < row.eventId := undisturbed
      refine ⟨?_, inv.ordered, inv.exact.run (feed_insertEvent later)⟩
      rw [pairwise_append]
      exact ⟨inv.numbered, pairwise_singleton _ _, by simpa using later⟩
    · cases stepTo
  | notify row =>
    simp only [PgStream.step] at stepTo
    split at stepTo
    · cases stepTo
      exact ⟨inv.numbered, by simpa using inv.ordered, inv.exact.run (feed_notify undisturbed)⟩
    · cases stepTo
  | eventsAfter =>
    obtain ⟨handler, read, rfl⟩ := map_eq_some_iff.mp stepTo
    obtain ⟨unread, handlerEq⟩ := EventStreamHandler.read_eq_some_iff.mp read
    refine ⟨inv.numbered, by simp [handlerEq], inv.exact.step ?_⟩
    exact EventStreamHandler.step_read read (inv.ordered unread)
      (missing_eventsAfter request inv.numbered)
  | subscribe =>
    obtain ⟨handler, resumed, rfl⟩ := map_eq_some_iff.mp stepTo
    obtain ⟨events, replayed, -, handlerEq⟩ := EventStreamHandler.resume_eq_some_iff.mp resumed
    refine ⟨inv.numbered, by simp [handlerEq, replayed], inv.exact.step ?_⟩
    exact EventStreamHandler.step_resume inv.exact resumed replayed (undisturbed events replayed)

end PgStream

/-- With either store, when every step of a run is undisturbed, the client has
in every state received every announced event after its position exactly once
and in increasing order. -/
theorem receivedExactly_of_undisturbed (request : EventStreamRequest) :
    (∀ tables : TaskTables, tables.EventsNumbered →
      tables.eventsByTask.get? request.taskId ≠ none → ∀ last,
      GuardedRun (MemoryStream.step request) (MemoryStream.Undisturbed request)
        ⟨tables, .start⟩ last → ReceivedExactly request last.handler (last.stored request) []) ∧
    (∀ last, GuardedRun (PgStream.step request) (PgStream.Undisturbed request) .start last →
      ReceivedExactly request last.handler (request.ofTask last.rows)
        (request.ofTask last.unnotified)) := by
  constructor
  · intro tables numbered listed last run
    have exact : ((MemoryStream.mk tables .start).feed request).Exact
        eventId request.position := by
      obtain ⟨events, found⟩ := ne_none_iff_exists'.mp listed
      refine ⟨?_, nil_suffix, fun _ => rfl, fun bad => by cases bad⟩
      simpa [MemoryStream.feed, EventStreamHandler.feed, MemoryStream.stored, found]
        using numbered.increasing request.taskId events found
    have inv : last.Inv request :=
      run.invariant (MemoryStream.Inv request) ⟨numbered, listed, fun _ => rfl, exact⟩
        fun _ _ _ inv undisturbed stepTo => inv.step undisturbed stepTo
    exact .of_exact inv.exact
  · intro last run
    have exact : (PgStream.start.feed request).Exact eventId request.position :=
      ⟨List.Pairwise.nil, nil_suffix, fun _ => rfl, fun bad => by cases bad⟩
    have inv : last.Inv request :=
      run.invariant (PgStream.Inv request) ⟨List.Pairwise.nil, fun _ => rfl, exact⟩
        fun _ _ _ inv undisturbed stepTo => inv.step undisturbed stepTo
    exact .of_exact inv.exact

theorem eventsNumbered_oneTaskTables : oneTaskTables.EventsNumbered :=
  eventsNumbered_empty.insertTask _ _ _ _

def startedRow : CloudTaskEvent := ⟨2, 1, "task.started", 1, none⟩

theorem receivedExactly_started : ReceivedExactly ⟨1, some 1⟩ ⟨some [], true, [startedRow]⟩
      ((oneTaskTables.emit 1 1 "task.started" none).eventsByTask.get? 1 |>.getD []) [] ∧
    ReceivedExactly ⟨1, some 1⟩ ⟨some [], true, [startedRow]⟩ [startedRow] [] := by
  have delivery := receivedExactly_of_undisturbed ⟨1, some 1⟩
  constructor
  · exact delivery.1 oneTaskTables eventsNumbered_oneTaskTables (by decide) _
      (.tail (.tail (.tail .refl .eventsAfter trivial rfl) .subscribe rfl rfl)
        (.emit 1 1 "task.started" none) trivial rfl)
  · exact delivery.2 ⟨[startedRow], [], ⟨some [], true, [startedRow]⟩⟩
      (.tail (.tail (.tail (.tail .refl .eventsAfter trivial rfl) .subscribe
        (fun _ replayed => by cases replayed; rfl) rfl) (.insertEvent startedRow)
        (by simp [PgStream.Undisturbed, PgStream.start]) rfl) (.notify startedRow)
        (fun _ => rfl) rfl)

/-- The in-memory store loses an event that is emitted between the read of the
replay and the subscription. -/
theorem not_receivedExactly_of_run :
    ¬ ∀ (request : EventStreamRequest) (tables : TaskTables), tables.EventsNumbered →
      tables.eventsByTask.get? request.taskId ≠ none → ∀ last,
      GuardedRun (MemoryStream.step request) (fun _ _ => True) ⟨tables, .start⟩ last →
      ReceivedExactly request last.handler (last.stored request) [] := by
  intro delivery
  have lost := delivery ⟨1, some 1⟩ oneTaskTables eventsNumbered_oneTaskTables (by decide) _
    (.tail (.tail (.tail .refl .eventsAfter trivial rfl)
      (.emit 1 1 "task.started" none) trivial rfl) .subscribe trivial rfl)
  exact absurd (lost.everything rfl startedRow (by decide) (by decide) (by simp)) (by decide)

end LongHub
