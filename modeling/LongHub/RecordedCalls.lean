import LongHub.CrashSafety

/-!
# Recorded calls

Devices and pools of threads that record the calls they perform.
-/

/-! ## Histories of the calls of a program -/

namespace Device

abbrev Event {Call : Type} (Answer : Call → Type) (ε : Type) : Type :=
  (request : Call) × Except ε (Answer request)

def recorder {Call : Type} {Answer : Call → Type} {ε : Type} :
    Device (List (Event Answer ε)) Call Answer ε
      ((request : Call) → Except ε (Answer request)) where
  perform request choice history :=
    some (choice request, history ++ [⟨request, choice request⟩])

section Each

variable {α : Type*}

def Each (related : List α → α → Prop) (elements : List α) : Prop :=
  ∀ before element after, elements = before ++ element :: after → related before element

variable {related : List α → α → Prop} {elements : List α} {element : α}

theorem each_nil : Each related [] := by
  intro before element after split
  simp at split

theorem each_append_singleton :
    Each related (elements ++ [element]) ↔ Each related elements ∧ related elements element := by
  constructor
  · intro each
    constructor
    · intro before other after split
      apply each before other (after ++ [element])
      rw [split]
      simp
    · exact each elements element [] rfl
  · rintro ⟨each, last⟩ before other after split
    rcases List.eq_nil_or_concat after with rfl | ⟨front, final, rfl⟩
    · have parts := List.append_inj' split rfl
      obtain ⟨rfl, same⟩ := parts
      cases same
      exact last
    · have regrouped : elements ++ [element] = (before ++ other :: front) ++ [final] := by
        simpa using split
      have parts := List.append_inj' regrouped rfl
      exact each before other front parts.1

end Each

section Rules

variable {Call : Type} {Answer : Call → Type} {ε α β : Type}
variable {Keep : List (Event Answer ε) → Prop} {history : List (Event Answer ε)}

variable {request : Call}

theorem sound_recorded {Post : Except ε α → List (Event Answer ε) → Prop}
    {next : Answer request → Program Call Answer ε α} (keep : Keep history)
    (fails : ∀ error, Keep (history ++ [⟨request, .error error⟩]) ∧
      Post (.error error) (history ++ [⟨request, .error error⟩]))
    (answers : ∀ value, recorder.Sound Keep Post (next value) (history ++ [⟨request, .ok value⟩])) :
    recorder.Sound Keep Post (.perform request >>= next) history := by
  apply sound_perform_bind keep
  · intro choice value after acts
    obtain ⟨answer, rfl⟩ := Prod.mk.inj (Option.some.inj acts)
    rw [answer]
    exact answers value
  · intro choice error after acts
    obtain ⟨answer, rfl⟩ := Prod.mk.inj (Option.some.inj acts)
    rw [answer]
    exact fails error

theorem keeps_recorded {Done : α → List (Event Answer ε) → Prop}
    {next : Answer request → Program Call Answer ε α} (keep : Keep history)
    (fails : ∀ error, Keep (history ++ [⟨request, .error error⟩]))
    (answers : ∀ value, recorder.Keeps Keep Done (next value) (history ++ [⟨request, .ok value⟩])) :
    recorder.Keeps Keep Done (.perform request >>= next) history :=
  sound_recorded keep (fun error => ⟨fails error, fun _ different => by cases different⟩) answers

end Rules

end Device

/-! ## Pools that record their calls -/

namespace Machine

variable {σ Call : Type} {Answer : Call → Type}
variable {ε Choice Request Environment : Type}

def recorded (machine : Machine σ Call Answer ε Choice Request Environment) :
    Machine (σ × List (Nat × Device.Event Answer ε)) Call Answer ε Choice Request Environment where
  perform thread request choice state :=
    (machine.perform thread request choice state.1).map fun outcome =>
      (outcome.1, outcome.2, state.2 ++ [(thread, ⟨request, outcome.1⟩)])
  program := machine.program
  environment event state := (machine.environment event state.1).map fun after => (after, state.2)

def Unrecorded (start : σ → Prop) (state : σ × List (Nat × Device.Event Answer ε)) : Prop :=
  start state.1 ∧ state.2 = []

section Histories

variable {α : Type}

def historyOf (thread : Nat) (history : List (Nat × α)) : List α :=
  (history.filter fun entry => entry.1 = thread).map Prod.snd

theorem historyOf_append (thread : Nat) (first second : List (Nat × α)) :
    historyOf thread (first ++ second) = historyOf thread first ++ historyOf thread second := by
  simp [historyOf]

theorem historyOf_cons_self (thread : Nat) (event : α) (rest : List (Nat × α)) :
    historyOf thread ((thread, event) :: rest) = event :: historyOf thread rest := by
  simp [historyOf]

theorem historyOf_append_self (thread : Nat) (history : List (Nat × α)) (event : α) :
    historyOf thread (history ++ [(thread, event)]) = historyOf thread history ++ [event] := by
  simp [historyOf]

variable {thread : Nat} {event : α}

theorem historyOf_append_of_ne {other : Nat} (differ : thread ≠ other) (history : List (Nat × α))
    (event : α) : historyOf thread (history ++ [(other, event)]) = historyOf thread history := by
  simp [historyOf, Ne.symm differ]

theorem mem_of_mem_historyOf {history : List (Nat × α)}
    (mem : event ∈ historyOf thread history) : (thread, event) ∈ history := by
  obtain ⟨⟨other, found⟩, recorded, rfl⟩ := List.mem_map.mp mem
  obtain ⟨inHistory, same⟩ := List.mem_filter.mp recorded
  have isThread : other = thread := by simpa using same
  exact isThread ▸ inHistory

theorem each_of_historyOf {related : List α → α → Prop} {before after : List (Nat × α)}
    (each : Device.Each related (historyOf thread (before ++ (thread, event) :: after))) :
    related (historyOf thread before) event := by
  apply each _ _ (historyOf thread after)
  rw [historyOf_append, historyOf_cons_self]

end Histories

section Pools

variable {machine : Machine σ Call Answer ε Choice Request Environment}
variable {start : σ → Prop}

theorem exists_recorder_choice [Inhabited ε] (request : Call) (answer : Except ε (Answer request)) :
    ∃ choice : (asked : Call) → Except ε (Answer asked), choice request = answer := by
  classical
  exact ⟨Function.update (fun _ => .error default) request answer, Function.update_self ..⟩

variable {Keep : List (Device.Event Answer ε) → Prop}
  {Post : Except ε Unit → List (Device.Event Answer ε) → Prop}
  {pool : Pool (σ × List (Nat × Device.Event Answer ε)) Call Answer ε}

theorem Reachable.sound_historyOf [Inhabited ε]
    (reachable : machine.recorded.Reachable (Unrecorded start) pool)
    (sound : ∀ request, Device.recorder.Sound Keep Post (machine.program request) [])
    (thread : Nat) : match pool.threads thread with
    | none => historyOf thread pool.shared.2 = []
    | some program => Device.recorder.Sound Keep Post program (historyOf thread pool.shared.2) := by
  induction reachable with
  | @initial shared started => exact congrArg (historyOf thread) started.2
  | @step pool next action _ stepTo ih =>
    cases action with
    | start other request =>
      simp only [Machine.step] at stepTo
      split at stepTo
      · next idle =>
        cases stepTo
        by_cases same : thread = other
        · subst same
          rw [idle] at ih
          simp only [Function.update_self]
          rw [ih]
          exact sound request
        · simpa [Function.update_of_ne same] using ih
      · cases stepTo
    | perform other choice =>
      simp only [Machine.step] at stepTo
      split at stepTo
      · next request following running =>
        obtain ⟨outcome, ran, rfl⟩ := Option.map_eq_some_iff.mp stepTo
        obtain ⟨⟨answer, after⟩, acts, rfl⟩ := Option.map_eq_some_iff.mp ran
        by_cases same : thread = other
        · subst same
          rw [running] at ih
          obtain ⟨chosen, answers⟩ := exists_recorder_choice request answer
          simp only [Function.update_self, historyOf_append_self]
          apply ih.2 chosen
          rw [← answers]
          rfl
        · simpa [Function.update_of_ne same, historyOf_append_of_ne same] using ih
      · cases stepTo
    | environment event =>
      obtain ⟨shared, changed, rfl⟩ := Option.map_eq_some_iff.mp stepTo
      obtain ⟨store, _, rfl⟩ := Option.map_eq_some_iff.mp changed
      exact ih

theorem Reachable.keep_historyOf [Inhabited ε]
    (reachable : machine.recorded.Reachable (Unrecorded start) pool) (empty : Keep [])
    (sound : ∀ request, Device.recorder.Sound Keep Post (machine.program request) [])
    (thread : Nat) : Keep (historyOf thread pool.shared.2) := by
  have fact := reachable.sound_historyOf sound thread
  cases running : pool.threads thread with
  | none =>
    rw [running] at fact
    rw [fact]
    exact empty
  | some program =>
    rw [running] at fact
    exact Device.Sound.keep fact

theorem Reachable.shared_invariant {Inv : σ → Prop} {pool : Pool σ Call Answer ε}
    (reachable : machine.Reachable start pool) (starts : ∀ state, start state → Inv state)
    (acts : ∀ thread request choice before answer after, Inv before →
      machine.perform thread request choice before = some (answer, after) → Inv after)
    (changes : ∀ event before after, Inv before →
      machine.environment event before = some after → Inv after) : Inv pool.shared := by
  induction reachable with
  | initial started => exact starts _ started
  | @step pool next action _ stepTo ih =>
    cases action with
    | start thread request =>
      simp only [Machine.step] at stepTo
      split at stepTo
      · cases stepTo
        exact ih
      · cases stepTo
    | perform thread choice =>
      simp only [Machine.step] at stepTo
      split at stepTo
      · obtain ⟨⟨answer, after⟩, ran, rfl⟩ := Option.map_eq_some_iff.mp stepTo
        exact acts _ _ _ _ _ _ ih ran
      · cases stepTo
    | environment event =>
      obtain ⟨after, changed, rfl⟩ := Option.map_eq_some_iff.mp stepTo
      exact changes _ _ _ ih changed

end Pools

end Machine
