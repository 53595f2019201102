import LongHub.MessageStream

/-!
# When the stream of a chat message is exact

A run of `sendMessage` either never closes the connection over the head of a woken generator, and
the consumer gets exactly the events up to the terminal one or the error of the closed
connection; or it does, and the events in the queue are lost for good.
-/

namespace LongHub

open List Option

namespace OpenClaw

namespace MessageStream

variable {stream next : MessageStream} {action : StreamAction} {actions : List StreamAction}
variable {before left : List UpstreamEvent}

structure Lost (stream : MessageStream) (before left : List UpstreamEvent) : Prop where
  closed : stream.closed = true
  split : before ++ left = stream.events
  nonempty : left ≠ []
  position : stream.position = .woken ∧ stream.yielded = before ∨
      (stream.position = .suspended connectionClosed ∨ stream.position = .returned ∨
        stream.position = .abandoned) ∧ stream.yielded = before ++ [connectionClosed]

theorem Lost.not_expected (lost : stream.Lost before left)
    (returned : stream.position = .returned) : stream.yielded ≠ stream.expected := by
  have yielded : stream.yielded = before ++ [connectionClosed] := by
    rcases lost.position with ⟨woken, -⟩ | ⟨-, yielded⟩
    · rw [returned] at woken
      cases woken
    · exact yielded
  have notMem : connectionClosed ∉ stream.events := connectionClosed_not_mem
  intro same
  rw [yielded] at same
  unfold expected at same
  split at same
  · have mem : connectionClosed ∈ upToTerminal stream.events := by
      rw [← same]
      simp
    exact notMem (upToTerminal_isPrefix.mem mem)
  · rw [if_pos lost.closed, ← lost.split] at same
    have sameLength := congrArg List.length same
    have positive := length_pos_iff.mpr lost.nonempty
    simp only [length_append, length_singleton] at sameLength
    omega

theorem Lost.step (lost : stream.Lost before left) (consistent : stream.Consistent)
    (steps : stream.step action = some next) : next.Lost before left := by
  have disconnected := consistent.disconnected lost.closed
  have notRequesting : stream.position ≠ .requesting := by
    rcases lost.position with ⟨woken, -⟩ | ⟨suspended | returned | abandoned, -⟩
    · simp [woken]
    · simp [suspended]
    · simp [returned]
    · simp [abandoned]
  have notWaiting : stream.position ≠ .waiting := by
    rcases lost.position with ⟨woken, -⟩ | ⟨suspended | returned | abandoned, -⟩
    · simp [woken]
    · simp [suspended]
    · simp [returned]
    · simp [abandoned]
  cases action with
  | chat payload => simp [MessageStream.step, disconnected] at steps
  | acknowledge => simp [MessageStream.step, disconnected] at steps
  | reject => simp [MessageStream.step, disconnected] at steps
  | requestTimeout => simp [MessageStream.step, notRequesting] at steps
  | timer => simp [MessageStream.step, notWaiting] at steps
  | resume =>
    obtain ⟨isAt, same⟩ := ite_none_right_eq_some.mp steps
    cases same
    have yielded : stream.yielded = before := by
      rcases lost.position with ⟨-, yielded⟩ | ⟨suspended | returned | abandoned, -⟩
      · exact yielded
      · rw [isAt] at suspended
        cases suspended
      · rw [isAt] at returned
        cases returned
      · rw [isAt] at abandoned
        cases abandoned
    unfold loop
    rw [if_pos lost.closed]
    exact ⟨lost.closed, lost.split, lost.nonempty, .inr ⟨.inl rfl, by simp [yield, yielded]⟩⟩
  | pull =>
    simp only [MessageStream.step] at steps
    split at steps
    · next event isAt =>
      cases steps
      rcases lost.position with ⟨woken, -⟩ | ⟨suspended | returned | abandoned, yielded⟩
      · rw [isAt] at woken
        cases woken
      · rw [isAt] at suspended
        cases suspended
        exact ⟨lost.closed, lost.split, lost.nonempty, .inr ⟨.inr (.inl rfl), yielded⟩⟩
      · rw [isAt] at returned
        cases returned
      · rw [isAt] at abandoned
        cases abandoned
    · cases steps
  | abandon =>
    simp only [MessageStream.step] at steps
    split at steps
    · next event isAt =>
      cases steps
      rcases lost.position with ⟨woken, -⟩ | ⟨-, yielded⟩
      · rw [isAt] at woken
        cases woken
      · exact ⟨lost.closed, lost.split, lost.nonempty, .inr ⟨.inr (.inr rfl), yielded⟩⟩
    · cases steps
  | close =>
    cases steps
    rw [if_neg notRequesting]
    exact ⟨rfl, lost.split, lost.nonempty, lost.position⟩
  | dispose =>
    cases steps
    exact ⟨rfl, lost.split, lost.nonempty, lost.position⟩

/-- The connection closes while a woken generator has events in its queue. -/
theorem OnTime.lost (onTime : stream.OnTime) (overtaken : stream.Overtaken action)
    (steps : stream.step action = some next) : ∃ before left, next.Lost before left := by
  obtain ⟨ends, isAt, nonempty⟩ := overtaken
  obtain ⟨looping, -⟩ := (onTime_iff isAt).mp onTime
  have notRequesting : stream.position ≠ .requesting := by simp [isAt]
  refine ⟨stream.yielded, stream.queue, ?_⟩
  rcases ends with rfl | rfl
  · cases steps
    rw [if_neg notRequesting]
    exact ⟨rfl, looping.split, nonempty, .inl ⟨isAt, rfl⟩⟩
  · cases steps
    exact ⟨rfl, looping.split, nonempty, .inl ⟨isAt, rfl⟩⟩

theorem Consistent.run (consistent : stream.Consistent)
    (runs : runActions MessageStream.step stream actions = some next) : next.Consistent := by
  induction actions generalizing stream with
  | nil => exact some.inj runs ▸ consistent
  | cons action rest ih =>
    obtain ⟨middle, steps, restRuns⟩ := bind_eq_some_iff.mp runs
    exact ih (consistent.step steps) restRuns

theorem Lost.run (lost : stream.Lost before left) (consistent : stream.Consistent)
    (runs : runActions MessageStream.step stream actions = some next) : next.Lost before left := by
  induction actions generalizing stream with
  | nil => exact some.inj runs ▸ lost
  | cons action rest ih =>
    obtain ⟨middle, steps, restRuns⟩ := bind_eq_some_iff.mp runs
    exact ih (lost.step consistent steps) (consistent.step steps) restRuns

theorem OnTime.run (onTime : stream.OnTime) (consistent : stream.Consistent)
    (runs : runActions MessageStream.step stream actions = some next) :
    stream.InTime actions ∧ next.OnTime ∨
      ¬ stream.InTime actions ∧ ∃ before left, next.Lost before left := by
  induction actions generalizing stream with
  | nil => exact .inl ⟨trivial, some.inj runs ▸ onTime⟩
  | cons action rest ih =>
    obtain ⟨middle, steps, restRuns⟩ := bind_eq_some_iff.mp runs
    have isConsistent := consistent.step steps
    by_cases overtaken : stream.Overtaken action
    · obtain ⟨before, left, lost⟩ := onTime.lost overtaken steps
      exact .inr ⟨fun inTime => inTime.1 overtaken, before, left, lost.run isConsistent restRuns⟩
    · rcases ih (onTime.step consistent overtaken steps) isConsistent restRuns with
        ⟨inTime, last⟩ | ⟨notInTime, last⟩
      · refine .inl ⟨⟨overtaken, fun other sameStep => ?_⟩, last⟩
        rw [steps] at sameStep
        cases sameStep
        exact inTime
      · exact .inr ⟨fun inTime => notInTime (inTime.2 middle steps), last⟩

def ownSteps : List StreamAction := [.timer, .resume, .pull]

/-- The generator returns by its own steps. -/
def Finishes (stream : MessageStream) : Prop :=
  ∃ more last, (∀ action ∈ more, action ∈ ownSteps) ∧
    runActions MessageStream.step stream more = some last ∧ last.position = .returned

theorem finishes_step (own : action ∈ ownSteps) (steps : stream.step action = some next)
    (finishes : next.Finishes) : stream.Finishes := by
  obtain ⟨more, last, areOwn, runs, returned⟩ := finishes
  refine ⟨action :: more, last, ?_, bind_eq_some_iff.mpr ⟨next, steps, runs⟩, returned⟩
  intro other mem
  rcases mem_cons.mp mem with rfl | later
  · exact own
  · exact areOwn other later

theorem finishes_returned (returned : stream.position = .returned) : stream.Finishes :=
  ⟨[], stream, fun _ mem => absurd mem not_mem_nil, rfl, returned⟩

theorem finishes_suspended {event : UpstreamEvent} (isAt : stream.position = .suspended event)
    (terminal : event.isDelta = false) : stream.Finishes := by
  have pulls : stream.step .pull = some { stream with position := .returned } := by
    simp [MessageStream.step, isAt, terminal]
  exact finishes_step (by decide) pulls (finishes_returned rfl)

theorem finishes_loop_closed (closed : stream.closed = true) : stream.loop.Finishes := by
  unfold loop
  rw [if_pos closed]
  exact finishes_suspended rfl rfl

theorem Looping.finishes (looping : stream.Looping) (consistent : stream.Consistent)
    (sealed : stream.terminal = true ∨ stream.closed = true) : stream.drain.Finishes := by
  obtain ⟨length, isLength⟩ : ∃ length, stream.queue.length = length := ⟨_, rfl⟩
  induction length generalizing stream with
  | zero =>
    have empty := eq_nil_of_length_eq_zero isLength
    have noTerminal : stream.terminal = false := by
      rw [looping.terminal_iff consistent, empty]
      rfl
    have closed : stream.closed = true := by simpa [noTerminal] using sealed
    have waits : stream.drain = { stream with position := .waiting } := by
      unfold MessageStream.drain
      rw [empty]
      simp [noTerminal]
    rw [waits]
    have wakes : step { stream with position := .waiting } .timer =
        some { stream with position := .woken } := rfl
    have resumes : step { stream with position := .woken } .resume =
        some (MessageStream.loop { stream with position := .woken }) := rfl
    exact finishes_step (by decide) wakes (finishes_step (by decide) resumes
      (finishes_loop_closed closed))
  | succ length ih =>
    cases queued : stream.queue with
    | nil => simp [queued] at isLength
    | cons event rest =>
      have yields : stream.drain = { stream with queue := rest }.yield event := by
        unfold MessageStream.drain
        rw [queued]
      have onTime := looping.drain consistent
      have isConsistent := consistent.drain
      rw [yields] at onTime isConsistent ⊢
      cases delta : event.isDelta with
      | false => exact finishes_suspended rfl delta
      | true =>
        have isLooping : Looping ({ stream with queue := rest }.yield event) := by
          have isAt : ({ stream with queue := rest }.yield event).position = .suspended event := rfl
          have here := (onTime_iff isAt).mp onTime
          simp only [OnTimeAt, delta, if_pos] at here
          exact here
        have pulls : step ({ stream with queue := rest }.yield event) .pull =
            some (MessageStream.drain ({ stream with queue := rest }.yield event)) := by
          simp [MessageStream.step, yield, delta]
        have shorter : rest.length = length := by
          rw [queued, length_cons] at isLength
          omega
        exact finishes_step (by decide) pulls (ih isLooping isConsistent sealed shorter)

theorem OnTime.finishes (onTime : stream.OnTime) (consistent : stream.Consistent)
    (sealed : stream.terminal = true ∨ stream.closed = true)
    (acknowledged : stream.position ∉ [.requesting, .threw, .abandoned]) : stream.Finishes := by
  have fromWoken (isAt : stream.position = .woken) (looping : stream.Looping) :
      stream.Finishes := by
    have resumes : stream.step .resume = some stream.loop := if_pos isAt
    apply finishes_step (by decide) resumes
    cases closed : stream.closed with
    | true => exact finishes_loop_closed closed
    | false =>
      have drains : stream.loop = stream.drain := by
        unfold loop
        rw [closed]
        rfl
      rw [drains]
      exact looping.finishes consistent sealed
  obtain ⟨position, isAt⟩ : ∃ position, stream.position = position := ⟨_, rfl⟩
  cases position with
  | requesting => simp [isAt] at acknowledged
  | waiting =>
    obtain ⟨empty, looping⟩ := (onTime_iff isAt).mp onTime
    have noTerminal : stream.terminal = false := by
      rw [looping.terminal_iff consistent, empty]
      rfl
    have closed : stream.closed = true := by simpa [noTerminal] using sealed
    have wakes : stream.step .timer = some { stream with position := .woken } := if_pos isAt
    have resumes : MessageStream.step { stream with position := .woken } .resume =
        some (loop { stream with position := .woken }) := rfl
    exact finishes_step (by decide) wakes (finishes_step (by decide) resumes
      (finishes_loop_closed closed))
  | woken =>
    obtain ⟨looping, -⟩ := (onTime_iff isAt).mp onTime
    exact fromWoken isAt looping
  | suspended event =>
    have here := (onTime_iff isAt).mp onTime
    cases delta : event.isDelta with
    | false => exact finishes_suspended isAt delta
    | true =>
      simp only [OnTimeAt, delta, if_pos] at here
      have pulls : stream.step .pull = some stream.drain := by
        simp [MessageStream.step, isAt, delta]
      exact finishes_step (by decide) pulls (here.finishes consistent sealed)
  | returned => exact finishes_returned isAt
  | threw => simp [isAt] at acknowledged
  | abandoned => simp [isAt] at acknowledged

def sendMessage (sessionId : String) : MessageStream := { sessionId }

theorem consistent_sendMessage (sessionId : String) : (sendMessage sessionId).Consistent :=
  ⟨rfl, rfl, fun closed => by cases closed⟩

theorem onTime_sendMessage (sessionId : String) : (sendMessage sessionId).OnTime :=
  ⟨rfl, rfl, rfl⟩

theorem expected_ownStep (own : action ∈ ownSteps) (steps : stream.step action = some next) :
    next.expected = stream.expected ∧ ¬ stream.Overtaken action := by
  have drained : stream.drain.expected = stream.expected := by
    obtain ⟨session, -, received, -, closed, -⟩ := stream.drain_feed
    exact expected_of_events (events_of_received session received) closed
  simp only [ownSteps, mem_cons, not_mem_nil, or_false] at own
  rcases own with rfl | rfl | rfl
  · simp only [MessageStream.step, ite_none_right_eq_some, some.injEq] at steps
    obtain ⟨-, rfl⟩ := steps
    exact ⟨rfl, by simp [Overtaken]⟩
  · simp only [MessageStream.step, ite_none_right_eq_some, some.injEq] at steps
    obtain ⟨-, rfl⟩ := steps
    refine ⟨?_, by simp [Overtaken]⟩
    unfold loop
    split
    · rfl
    · exact drained
  · simp only [MessageStream.step] at steps
    split at steps
    · cases steps
      refine ⟨?_, by simp [Overtaken]⟩
      split
      · exact drained
      · rfl
    · cases steps

theorem onTime_ownSteps (onTime : stream.OnTime) (consistent : stream.Consistent)
    (own : ∀ action ∈ actions, action ∈ ownSteps)
    (runs : runActions MessageStream.step stream actions = some next) :
    next.OnTime ∧ next.expected = stream.expected := by
  induction actions generalizing stream with
  | nil => exact some.inj runs ▸ ⟨onTime, rfl⟩
  | cons action rest ih =>
    obtain ⟨middle, steps, restRuns⟩ := bind_eq_some_iff.mp runs
    obtain ⟨sameExpected, inTime⟩ := expected_ownStep (own action mem_cons_self) steps
    obtain ⟨last, same⟩ := ih (onTime.step consistent inTime steps) (consistent.step steps)
      (fun other mem => own other (mem_cons_of_mem _ mem)) restRuns
    exact ⟨last, same.trans sameExpected⟩

/-- In a run of `sendMessage` in which the connection never closes over the head of a woken
generator, the consumer has got the beginning of what is expected, and by asking on it gets exactly
this once a terminal event was received or the connection has closed. -/
theorem message_stream_exact_iff (sessionId : String) (actions : List StreamAction)
    (stream : MessageStream)
    (runs : runActions MessageStream.step (sendMessage sessionId) actions = some stream) :
    ((sendMessage sessionId).InTime actions → stream.yielded <+: stream.expected ∧
      (stream.terminal = true ∨ stream.closed = true →
        stream.position ∉ [.requesting, .threw, .abandoned] →
        ∃ more last, (∀ action ∈ more, action ∈ ownSteps) ∧
          runActions MessageStream.step stream more = some last ∧ last.position = .returned ∧
          last.yielded = stream.expected)) ∧ (stream.position = .returned →
      (stream.yielded = stream.expected ↔ (sendMessage sessionId).InTime actions)) := by
  have start := consistent_sendMessage sessionId
  have consistent := start.run runs
  constructor
  · intro inTime
    have onTime : stream.OnTime := by
      rcases (onTime_sendMessage sessionId).run start runs with ⟨-, onTime⟩ | ⟨notInTime, -⟩
      · exact onTime
      · exact absurd inTime notInTime
    refine ⟨onTime.yieldedFirst, fun sealed acknowledged => ?_⟩
    obtain ⟨more, last, own, moreRuns, returned⟩ := onTime.finishes consistent sealed acknowledged
    obtain ⟨lastOnTime, same⟩ := onTime_ownSteps onTime consistent own moreRuns
    have complete : last.Complete := (onTime_iff returned).mp lastOnTime
    exact ⟨more, last, own, moreRuns, returned, complete.yielded.trans same⟩
  · intro returned
    rcases (onTime_sendMessage sessionId).run start runs with
      ⟨inTime, onTime⟩ | ⟨notInTime, before, left, lost⟩
    · have complete : stream.Complete := (onTime_iff returned).mp onTime
      exact ⟨fun _ => inTime, fun _ => complete.yielded⟩
    · exact ⟨fun same => absurd same (lost.not_expected returned), fun inTime =>
        absurd inTime notInTime⟩

section Example

def finalFrame : ChatEventPayload := { sessionKey := "session", state := .final }

theorem final_frame_overtaken_by_close : ¬ ∀ actions stream,
      runActions MessageStream.step (sendMessage "session") actions = some stream →
      stream.position = .returned → stream.yielded = stream.expected := by
  intro exact
  have same := exact [.acknowledge, .resume, .chat finalFrame, .close, .resume, .pull] _ rfl rfl
  have differs : [connectionClosed] ≠ [UpstreamEvent.done ""] := by decide
  exact differs same

theorem message_stream_exact_iff_example :
    ∃ stream, runActions MessageStream.step (sendMessage "session")
        [.acknowledge, .resume, .chat finalFrame, .resume, .close, .pull] = some stream ∧
      stream.yielded = stream.expected := by
  have runs : runActions MessageStream.step (sendMessage "session")
      [.acknowledge, .resume, .chat finalFrame, .resume, .close, .pull] = some _ := rfl
  have inTime : (sendMessage "session").InTime
      [.acknowledge, .resume, .chat finalFrame, .resume, .close, .pull] := by
    refine ⟨by simp [Overtaken], fun _ first => ?_⟩
    cases first
    refine ⟨by simp [Overtaken], fun _ second => ?_⟩
    cases second
    refine ⟨by simp [Overtaken], fun _ third => ?_⟩
    cases third
    refine ⟨by simp [Overtaken], fun _ fourth => ?_⟩
    cases fourth
    refine ⟨fun overtaken => ?_, fun _ fifth => ?_⟩
    · have isAt := overtaken.2.1
      cases isAt
    · cases fifth
      exact ⟨by simp [Overtaken], fun _ _ => trivial⟩
  exact ⟨_, runs, ((message_stream_exact_iff "session" _ _ runs).2 rfl).mpr inTime⟩

end Example

end MessageStream

end OpenClaw

end LongHub
