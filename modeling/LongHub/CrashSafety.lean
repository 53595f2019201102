import LongHub.AsyncProgram

/-!
# Programs that a crash may stop

A device performs the calls of a program on a state that outlives the program.
-/

structure Device (σ Call : Type) (Answer : Call → Type) (ε Choice : Type) where
  perform : (request : Call) → Choice → σ → Option (Except ε (Answer request) × σ)

namespace Device

variable {σ Call : Type} {Answer : Call → Type} {ε Choice α β : Type}

def advance (device : Device σ Call Answer ε Choice) :
    Program Call Answer ε α → σ → List Choice → Option (Program Call Answer ε α × σ)
  | program, state, [] => some (program, state)
  | .call request next, state, choice :: rest =>
    (device.perform request choice state).bind fun outcome =>
      advance device (next outcome.1) outcome.2 rest
  | .pure _, _, _ :: _ | .throw _, _, _ :: _ => none

def Stops (device : Device σ Call Answer ε Choice) (program : Program Call Answer ε α)
    (state : σ) (after : σ) : Prop :=
  ∃ choices rest, device.advance program state choices = some (rest, after)

def Ends (device : Device σ Call Answer ε Choice) (program : Program Call Answer ε α)
    (state : σ) (outcome : Except ε α) (after : σ) : Prop :=
  ∃ choices, device.advance program state choices = some (.ofExcept outcome, after)

def finish (device : Device σ Call Answer ε Choice) (program : Program Call Answer ε α)
    (state : σ) (choices : List Choice) : Option (Except ε α × σ) :=
  (device.advance program state choices).bind fun reached =>
    match reached.1 with
    | .pure value => some (.ok value, reached.2)
    | .throw error => some (.error error, reached.2)
    | .call _ _ => none

variable {device : Device σ Call Answer ε Choice} {state middle after : σ} {choice : Choice}
variable {choices : List Choice} {rest : Program Call Answer ε α}

@[simp] theorem advance_nil (program : Program Call Answer ε α) :
    device.advance program state [] = some (program, state) := by
  cases program <;> rfl

theorem advance_call {request : Call} {answer : Except ε (Answer request)}
    (acts : device.perform request choice state = some (answer, middle))
    (next : Except ε (Answer request) → Program Call Answer ε α) (choices : List Choice) :
    device.advance (.call request next) state (choice :: choices) =
      device.advance (next answer) middle choices := by
  change (device.perform request choice state).bind _ = _
  rw [acts]
  rfl

theorem advance_cons_cases {program : Program Call Answer ε α}
    (runs : device.advance program state (choice :: choices) = some (rest, after)) :
    ∃ request next answer middle, program = .call request next ∧
      device.perform request choice state = some (answer, middle) ∧
      device.advance (next answer) middle choices = some (rest, after) := by
  cases program with
  | pure value => cases runs
  | throw error => cases runs
  | call request next =>
    obtain ⟨⟨answer, middle⟩, acts, continues⟩ := Option.bind_eq_some_iff.mp runs
    exact ⟨request, next, answer, middle, rfl, acts, continues⟩

theorem ends_of_finish {program : Program Call Answer ε α} {outcome : Except ε α}
    (finishes : device.finish program state choices = some (outcome, after)) :
    device.Ends program state outcome after := by
  obtain ⟨⟨rest, reached⟩, runs, ended⟩ := Option.bind_eq_some_iff.mp finishes
  cases rest with
  | pure value =>
    cases ended
    exact ⟨choices, runs⟩
  | throw error =>
    cases ended
    exact ⟨choices, runs⟩
  | call request next => cases ended

def restrict (device : Device σ Call Answer ε Choice) (condition : Call → Choice → σ → Bool) :
    Device σ Call Answer ε Choice where
  perform request choice state :=
    if condition request choice state then device.perform request choice state else none

theorem perform_restrict_iff {condition : Call → Choice → σ → Bool} {request : Call}
    {choice : Choice} {reached : Except ε (Answer request) × σ} :
    (device.restrict condition).perform request choice state = some reached ↔
      condition request choice state = true ∧
        device.perform request choice state = some reached := by
  change (if condition request choice state then device.perform request choice state else none) =
    some reached ↔ _
  rw [Option.ite_none_right_eq_some]

/-- The program keeps the assertion wherever it may stop and ends in the
postcondition. -/
def Sound (device : Device σ Call Answer ε Choice) (Keep : σ → Prop)
    (Post : Except ε α → σ → Prop) : Program Call Answer ε α → σ → Prop
  | .pure value => fun state => Keep state ∧ Post (.ok value) state
  | .throw error => fun state => Keep state ∧ Post (.error error) state
  | .call request next => fun state => Keep state ∧ ∀ choice answer after,
      device.perform request choice state = some (answer, after) →
        Sound device Keep Post (next answer) after

/-- The program ends in the postcondition, wherever it may stop. -/
abbrev Ensures (device : Device σ Call Answer ε Choice) (Post : Except ε α → σ → Prop) :
    Program Call Answer ε α → σ → Prop :=
  device.Sound (fun _ => True) Post

section Rules

variable {Keep : σ → Prop} {Post : Except ε α → σ → Prop}
variable {program : Program Call Answer ε α} {outcome : Except ε α} {Final : Except ε β → σ → Prop}

theorem Sound.keep (sound : device.Sound Keep Post program state) : Keep state := by
  cases program with
  | pure value => exact sound.1
  | throw error => exact sound.1
  | call request next => exact sound.1

theorem Sound.advance (sound : device.Sound Keep Post program state)
    (runs : device.advance program state choices = some (rest, after)) :
    device.Sound Keep Post rest after := by
  induction choices generalizing program state with
  | nil =>
    obtain ⟨rfl, rfl⟩ : program = rest ∧ state = after := by simpa using runs
    exact sound
  | cons choice choices ih =>
    obtain ⟨request, next, answer, middle, rfl, acts, continues⟩ := advance_cons_cases runs
    exact ih (sound.2 choice answer middle acts) continues

theorem Sound.stops (sound : device.Sound Keep Post program state)
    (stops : device.Stops program state after) : Keep after := by
  obtain ⟨choices, rest, runs⟩ := stops
  exact (sound.advance runs).keep

theorem Sound.ends (sound : device.Sound Keep Post program state)
    (ends : device.Ends program state outcome after) : Post outcome after := by
  obtain ⟨choices, runs⟩ := ends
  have last := sound.advance runs
  cases outcome with
  | ok value => exact last.2
  | error error => exact last.2

theorem Ends.stops (ends : device.Ends program state outcome after) :
    device.Stops program state after := by
  obtain ⟨choices, runs⟩ := ends
  exact ⟨choices, _, runs⟩

theorem Sound.weaken {WeakKeep : σ → Prop} {WeakPost : Except ε α → σ → Prop}
    (weakKeep : ∀ state, Keep state → WeakKeep state)
    (weakPost : ∀ outcome state, Keep state → Post outcome state → WeakPost outcome state)
    (sound : device.Sound Keep Post program state) :
    device.Sound WeakKeep WeakPost program state := by
  induction program generalizing state with
  | pure value => exact ⟨weakKeep _ sound.1, weakPost _ _ sound.1 sound.2⟩
  | throw error => exact ⟨weakKeep _ sound.1, weakPost _ _ sound.1 sound.2⟩
  | call request next ih =>
    exact ⟨weakKeep _ sound.1, fun choice answer after acts =>
      ih answer (sound.2 choice answer after acts)⟩

theorem Sound.mono {Weaker : Except ε α → σ → Prop}
    (weaker : ∀ outcome state, Keep state → Post outcome state → Weaker outcome state)
    (sound : device.Sound Keep Post program state) : device.Sound Keep Weaker program state :=
  sound.weaken (fun _ => id) weaker

theorem Sound.mono_keep {Weaker : σ → Prop} (weaker : ∀ state, Keep state → Weaker state)
    (sound : device.Sound Keep Post program state) : device.Sound Weaker Post program state :=
  sound.weaken weaker fun _ _ _ => id

theorem sound_pure {value : α} (keep : Keep state) (post : Post (.ok value) state) :
    device.Sound Keep Post (pure value) state := ⟨keep, post⟩

theorem sound_throw {error : ε} (keep : Keep state) (post : Post (.error error) state) :
    device.Sound Keep Post (.throw error) state := ⟨keep, post⟩

variable {next : α → Program Call Answer ε β} {request : Call}

theorem sound_bind (sound : device.Sound Keep Post program state)
    (continues : ∀ value after, Keep after → Post (.ok value) after →
      device.Sound Keep Final (next value) after)
    (fails : ∀ error after, Keep after → Post (.error error) after → Final (.error error) after) :
    device.Sound Keep Final (program >>= next) state := by
  change device.Sound Keep Final (program.bind next) state
  induction program generalizing state with
  | pure value => exact continues value state sound.1 sound.2
  | throw error => exact ⟨sound.1, fails error state sound.1 sound.2⟩
  | call request following ih =>
    exact ⟨sound.1, fun choice answer after acts =>
      ih answer (sound.2 choice answer after acts)⟩

theorem sound_tryCatch {Final : Except ε α → σ → Prop} {handler : ε → Program Call Answer ε α}
    (sound : device.Sound Keep Post program state)
    (returns : ∀ value after, Keep after → Post (.ok value) after → Final (.ok value) after)
    (handles : ∀ error after, Keep after → Post (.error error) after →
      device.Sound Keep Final (handler error) after) :
    device.Sound Keep Final (program.tryCatch handler) state := by
  induction program generalizing state with
  | pure value => exact ⟨sound.1, returns value state sound.1 sound.2⟩
  | throw error => exact handles error state sound.1 sound.2
  | call request following ih =>
    exact ⟨sound.1, fun choice answer after acts =>
      ih answer (sound.2 choice answer after acts)⟩

theorem Sound.attempt (sound : device.Sound Keep Post program state) :
    device.Sound Keep (fun outcome after => ∃ inner, outcome = .ok inner ∧ Post inner after)
      program.attempt state := by
  induction program generalizing state with
  | pure value => exact ⟨sound.1, _, rfl, sound.2⟩
  | throw error => exact ⟨sound.1, _, rfl, sound.2⟩
  | call request following ih =>
    exact ⟨sound.1, fun choice answer after acts =>
      ih answer (sound.2 choice answer after acts)⟩

theorem sound_perform {Done : Except ε (Answer request) → σ → Prop} (keep : Keep state)
    (acts : ∀ choice answer after, device.perform request choice state = some (answer, after) →
        Keep after ∧ Done answer after) : device.Sound Keep Done (.perform request) state := by
  refine ⟨keep, fun choice answer after done => ?_⟩
  obtain ⟨keepAfter, post⟩ := acts choice answer after done
  cases answer with
  | ok value => exact ⟨keepAfter, post⟩
  | error error => exact ⟨keepAfter, post⟩

theorem sound_perform_bind {next : Answer request → Program Call Answer ε β} (keep : Keep state)
    (continues : ∀ choice value after,
      device.perform request choice state = some (.ok value, after) →
        device.Sound Keep Final (next value) after) (fails : ∀ choice error after,
      device.perform request choice state = some (.error error, after) →
        Keep after ∧ Final (.error error) after) :
    device.Sound Keep Final (.perform request >>= next) state := by
  refine ⟨keep, fun choice answer after acts => ?_⟩
  cases answer with
  | ok value => exact continues choice value after acts
  | error error => exact fails choice error after acts

theorem sound_ofExcept_bind (keep : Keep state)
    (passes : ∀ value, outcome = .ok value → device.Sound Keep Final (next value) state)
    (fails : ∀ error, outcome = .error error → Final (.error error) state) :
    device.Sound Keep Final (.ofExcept outcome >>= next) state := by
  cases outcome with
  | ok value => exact passes value rfl
  | error error => exact ⟨keep, fails error rfl⟩

end Rules

section Ends

variable {program : Program Call Answer ε α}

theorem advance_append (runs : device.advance program state choices = some (rest, middle))
    (more : List Choice) :
    device.advance program state (choices ++ more) = device.advance rest middle more := by
  induction choices generalizing program state with
  | nil =>
    obtain ⟨rfl, rfl⟩ : program = rest ∧ state = middle := by simpa using runs
    rfl
  | cons choice choices ih =>
    obtain ⟨request, next, answer, reached, rfl, acts, continues⟩ := advance_cons_cases runs
    exact (advance_call acts next _).trans (ih continues)

variable {outcome : Except ε α}

theorem Ends.mono {other : Device σ Call Answer ε Choice}
    (steps : ∀ request choice state reached, device.perform request choice state = some reached →
      other.perform request choice state = some reached)
    (ends : device.Ends program state outcome after) : other.Ends program state outcome after := by
  obtain ⟨choices, runs⟩ := ends
  refine ⟨choices, ?_⟩
  induction choices generalizing program state with
  | nil => simpa using runs
  | cons choice choices ih =>
    obtain ⟨request, next, answer, reached, rfl, acts, continues⟩ := advance_cons_cases runs
    exact (advance_call (steps request choice state _ acts) next _).trans (ih continues)

theorem advance_bind (runs : device.advance program state choices = some (rest, after))
    (next : α → Program Call Answer ε β) :
    device.advance (program.bind next) state choices = some (rest.bind next, after) := by
  induction choices generalizing program state with
  | nil =>
    obtain ⟨rfl, rfl⟩ : program = rest ∧ state = after := by simpa using runs
    simp
  | cons choice choices ih =>
    obtain ⟨request, following, answer, reached, rfl, acts, continues⟩ :=
      advance_cons_cases runs
    exact (advance_call acts _ _).trans (ih continues)

theorem advance_tryCatch (runs : device.advance program state choices = some (rest, after))
    (handler : ε → Program Call Answer ε α) :
    device.advance (program.tryCatch handler) state choices =
      some (rest.tryCatch handler, after) := by
  induction choices generalizing program state with
  | nil =>
    obtain ⟨rfl, rfl⟩ : program = rest ∧ state = after := by simpa using runs
    simp
  | cons choice choices ih =>
    obtain ⟨request, following, answer, reached, rfl, acts, continues⟩ :=
      advance_cons_cases runs
    exact (advance_call acts _ _).trans (ih continues)

variable {value : α} {next : α → Program Call Answer ε β}

theorem ends_bind {outcome : Except ε β} (first : device.Ends program state (.ok value) middle)
    (second : device.Ends (next value) middle outcome after) :
    device.Ends (program >>= next) state outcome after := by
  obtain ⟨choices, runs⟩ := first
  obtain ⟨more, continues⟩ := second
  exact ⟨choices ++ more, (advance_append (advance_bind runs next) more).trans continues⟩

theorem ends_perform {request : Call} {choice : Choice} {answer : Except ε (Answer request)}
    (acts : device.perform request choice state = some (answer, after)) :
    device.Ends (.perform request) state answer after := by
  refine ⟨[choice], ?_⟩
  rw [Program.perform, advance_call acts]
  cases answer with
  | ok value => rfl
  | error error => rfl

theorem ends_ofExcept : device.Ends (.ofExcept outcome) state outcome state := by
  refine ⟨[], ?_⟩
  cases outcome with
  | ok value => rfl
  | error error => rfl

theorem ends_bind_error {error : ε} (ends : device.Ends program state (.error error) after) :
    device.Ends (program >>= next) state (.error error) after := by
  obtain ⟨choices, runs⟩ := ends
  exact ⟨choices, advance_bind runs next⟩

theorem Ends.stops_bind (ends : device.Ends program state outcome after)
    (next : α → Program Call Answer ε β) : device.Stops (program >>= next) state after := by
  obtain ⟨choices, runs⟩ := ends
  exact ⟨choices, _, advance_bind runs next⟩

theorem Ends.attempt (ends : device.Ends program state outcome after) :
    device.Ends program.attempt state (.ok outcome) after := by
  obtain ⟨choices, runs⟩ := ends
  refine ⟨choices, (advance_tryCatch (advance_bind runs _) _).trans ?_⟩
  cases outcome with
  | ok value => rfl
  | error error => rfl

theorem Ends.tryCatch (ends : device.Ends program state (.ok value) after)
    (handler : ε → Program Call Answer ε α) :
    device.Ends (program.tryCatch handler) state (.ok value) after := by
  obtain ⟨choices, runs⟩ := ends
  exact ⟨choices, advance_tryCatch runs handler⟩

end Ends

/-- The program keeps the assertion wherever it may stop, and what it returns
satisfies the postcondition; nothing is said of the errors it throws. -/
def Keeps (device : Device σ Call Answer ε Choice) (Keep : σ → Prop) (Done : α → σ → Prop)
    (program : Program Call Answer ε α) (state : σ) : Prop :=
  device.Sound Keep (fun outcome after => ∀ value, outcome = .ok value → Done value after)
    program state

section Keeps

variable {Keep : σ → Prop} {Done : α → σ → Prop} {value : α}

theorem keeps_pure (keep : Keep state) (done : Done value state) :
    device.Keeps Keep Done (pure value) state :=
  ⟨keep, fun _ same => Except.ok.inj same ▸ done⟩

theorem keeps_throw {error : ε} (keep : Keep state) : device.Keeps Keep Done (.throw error) state :=
  ⟨keep, fun _ differ => by cases differ⟩

theorem Keeps.then {Middle : β → σ → Prop} {program : Program Call Answer ε β}
    {next : β → Program Call Answer ε α} (first : device.Keeps Keep Middle program state)
    (continues : ∀ value after, Keep after → Middle value after →
      device.Keeps Keep Done (next value) after) :
    device.Keeps Keep Done (program >>= next) state :=
  sound_bind first (fun value after keep middle => continues value after keep (middle value rfl))
    (fun _ _ _ _ _ differ => by cases differ)

variable {program : Program Call Answer ε α}

theorem Keeps.mono {Weaker : α → σ → Prop}
    (weaker : ∀ value after, Keep after → Done value after → Weaker value after)
    (keeps : device.Keeps Keep Done program state) : device.Keeps Keep Weaker program state :=
  Sound.mono (fun _ _ keep done value same => weaker value _ keep (done value same)) keeps

theorem Keeps.stops (keeps : device.Keeps Keep Done program state)
    (stops : device.Stops program state after) : Keep after := Sound.stops keeps stops

theorem Keeps.ends (keeps : device.Keeps Keep Done program state)
    (ends : device.Ends program state (.ok value) after) : Done value after :=
  Sound.ends keeps ends value rfl

end Keeps

end Device
