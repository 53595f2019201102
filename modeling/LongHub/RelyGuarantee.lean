import LongHub.AsyncProgram
import Mathlib.Logic.Relation

/-!
# Rely-guarantee reasoning for asynchronous programs

`Safe` says that a program keeps an invariant, changes the state only as its thread may, and ends in
its postcondition, whatever the other threads do between its calls.
-/

namespace Machine

variable {σ Call : Type} {Answer : Call → Type}
variable {ε Choice Request Environment : Type}

section RelyGuarantee

variable (machine : Machine σ Call Answer ε Choice Request Environment)
variable (Inv : σ → Prop) (Guarantee : Nat → σ → σ → Prop)

/-- A change that some other thread or the environment may make. -/
def Rely (thread : Nat) (before after : σ) : Prop :=
  (∃ other, other ≠ thread ∧ Guarantee other before after) ∨
    ∃ event, machine.environment event before = some after

def Stable (thread : Nat) (assertion : σ → Prop) : Prop :=
  ∀ before after, Inv before → Inv after →
    machine.Rely Guarantee thread before after → assertion before → assertion after

/-- The states that a thread may find when it goes on. -/
def Later (thread : Nat) : σ → σ → Prop :=
  Relation.ReflTransGen fun before after =>
    Inv before ∧ Inv after ∧ machine.Rely Guarantee thread before after

/-- The program keeps the invariant and the guarantee of its thread and ends
in the postcondition, in every interleaving that keeps the rely. -/
def Safe {α : Type} (thread : Nat) (Post : Except ε α → σ → Prop) :
    Program Call Answer ε α → σ → Prop
  | .pure value => fun shared =>
    ∀ later, machine.Later Inv Guarantee thread shared later → Inv later → Post (.ok value) later
  | .throw error => fun shared =>
    ∀ later, machine.Later Inv Guarantee thread shared later → Inv later → Post (.error error) later
  | .call request next => fun shared =>
    ∀ later, machine.Later Inv Guarantee thread shared later → Inv later → ∀ choice answer after,
        machine.perform thread request choice later = some (answer, after) →
          Guarantee thread later after ∧ Inv after ∧ Safe thread Post (next answer) after

end RelyGuarantee

section Rules

variable {machine : Machine σ Call Answer ε Choice Request Environment}
variable {Inv : σ → Prop} {Guarantee : Nat → σ → σ → Prop}
variable {α β : Type} {thread : Nat} {shared : σ}

theorem Stable.and {first second : σ → Prop}
    (firstStable : machine.Stable Inv Guarantee thread first)
    (secondStable : machine.Stable Inv Guarantee thread second) :
    machine.Stable Inv Guarantee thread fun state => first state ∧ second state :=
  fun before after invBefore invAfter rely holds =>
    ⟨firstStable before after invBefore invAfter rely holds.1,
      secondStable before after invBefore invAfter rely holds.2⟩

theorem Stable.const (claim : Prop) : machine.Stable Inv Guarantee thread fun _ => claim :=
  fun _ _ _ _ _ holds => holds

variable {assertion : σ → Prop} {Post Mid : Except ε α → σ → Prop}
  {program : Program Call Answer ε α} {after : σ} {request : Call} {allowed : Call → Prop}

theorem Stable.later (stable : machine.Stable Inv Guarantee thread assertion) {later : σ}
    (laterState : machine.Later Inv Guarantee thread shared later) (holds : assertion shared) :
    assertion later := by
  induction laterState with
  | refl => exact holds
  | tail _ edge ih => exact stable _ _ edge.1 edge.2.1 edge.2.2 ih

theorem Safe.later (safe : machine.Safe Inv Guarantee thread Post program shared)
    (laterState : machine.Later Inv Guarantee thread shared after) :
    machine.Safe Inv Guarantee thread Post program after := by
  cases program with
  | pure value => exact fun last rest inv => safe last (laterState.trans rest) inv
  | throw error => exact fun last rest inv => safe last (laterState.trans rest) inv
  | call request next =>
    exact fun last rest inv => safe last (laterState.trans rest) inv

theorem Safe.mono {Post' : Except ε α → σ → Prop}
    (weaker : ∀ outcome state, Inv state → Post outcome state → Post' outcome state)
    (safe : machine.Safe Inv Guarantee thread Post program shared) :
    machine.Safe Inv Guarantee thread Post' program shared := by
  induction program generalizing shared with
  | pure value =>
    exact fun last rest inv => weaker _ _ inv (safe last rest inv)
  | throw error =>
    exact fun last rest inv => weaker _ _ inv (safe last rest inv)
  | call request next ih =>
    intro last rest inv choice answer after ran
    obtain ⟨guarantee, invAfter, safeNext⟩ := safe last rest inv choice answer after ran
    exact ⟨guarantee, invAfter, ih answer safeNext⟩

/-- A finished program needs a postcondition that others keep. -/
theorem safe_pure {value : α} (stable : machine.Stable Inv Guarantee thread (Post (.ok value)))
    (holds : Post (.ok value) shared) :
    machine.Safe Inv Guarantee thread Post (.pure value) shared :=
  fun _ laterState _ => stable.later laterState holds

theorem safe_throw {error : ε} (stable : machine.Stable Inv Guarantee thread (Post (.error error)))
    (holds : Post (.error error) shared) :
    machine.Safe Inv Guarantee thread Post (.throw error) shared :=
  fun _ laterState _ => stable.later laterState holds

theorem safe_call {next : Except ε (Answer request) → Program Call Answer ε α}
    (stable : machine.Stable Inv Guarantee thread assertion) (holds : assertion shared)
    (calls : ∀ before choice answer after, Inv before → assertion before →
      machine.perform thread request choice before = some (answer, after) →
        Guarantee thread before after ∧ Inv after ∧
          machine.Safe Inv Guarantee thread Post (next answer) after) :
    machine.Safe Inv Guarantee thread Post (.call request next) shared :=
  fun later laterState inv choice answer after ran =>
    calls later choice answer after inv (stable.later laterState holds) ran

theorem safe_bind {Post : Except ε β → σ → Prop} {next : α → Program Call Answer ε β}
    (inv : Inv shared) (safe : machine.Safe Inv Guarantee thread Mid program shared)
    (continues : ∀ value state, Inv state → Mid (.ok value) state →
      machine.Safe Inv Guarantee thread Post (next value) state)
    (throws : ∀ error state, Inv state → Mid (.error error) state → Post (.error error) state) :
    machine.Safe Inv Guarantee thread Post (program >>= next) shared := by
  change machine.Safe Inv Guarantee thread Post (program.bind next) shared
  induction program generalizing shared with
  | pure value => exact continues value shared inv (safe shared .refl inv)
  | throw error =>
    exact fun last rest invLast => throws error last invLast (safe last rest invLast)
  | call request rest ih =>
    intro last laterState invLast choice answer after ran
    obtain ⟨guarantee, invAfter, safeNext⟩ :=
      safe last laterState invLast choice answer after ran
    exact ⟨guarantee, invAfter, ih answer invAfter safeNext⟩

theorem safe_tryCatch {handler : ε → Program Call Answer ε α} (inv : Inv shared)
    (safe : machine.Safe Inv Guarantee thread Mid program shared)
    (handles : ∀ error state, Inv state → Mid (.error error) state →
      machine.Safe Inv Guarantee thread Post (handler error) state)
    (returns : ∀ value state, Inv state → Mid (.ok value) state → Post (.ok value) state) :
    machine.Safe Inv Guarantee thread Post (program.tryCatch handler) shared := by
  induction program generalizing shared with
  | pure value =>
    exact fun last rest invLast => returns value last invLast (safe last rest invLast)
  | throw error => exact handles error shared inv (safe shared .refl inv)
  | call request rest ih =>
    intro last laterState invLast choice answer after ran
    obtain ⟨guarantee, invAfter, safeNext⟩ :=
      safe last laterState invLast choice answer after ran
    exact ⟨guarantee, invAfter, ih answer invAfter safeNext⟩

theorem safe_perform_bind {Post : Except ε β → σ → Prop}
    {next : Answer request → Program Call Answer ε β}
    (stable : machine.Stable Inv Guarantee thread assertion) (holds : assertion shared)
    (answers : ∀ before choice answer after, Inv before → assertion before →
      machine.perform thread request choice before = some (.ok answer, after) →
        Guarantee thread before after ∧ Inv after ∧
          machine.Safe Inv Guarantee thread Post (next answer) after)
    (throws : ∀ before choice error after, Inv before → assertion before →
      machine.perform thread request choice before = some (.error error, after) →
        Guarantee thread before after ∧ Inv after ∧
          machine.Safe Inv Guarantee thread Post (.throw error) after) :
    machine.Safe Inv Guarantee thread Post (Program.perform request >>= next) shared := by
  apply safe_call stable holds
  intro before choice answer after invBefore holdsBefore ran
  cases answer with
  | ok answer => exact answers before choice answer after invBefore holdsBefore ran
  | error error => exact throws before choice error after invBefore holdsBefore ran

theorem safe_perform {Post : Except ε (Answer request) → σ → Prop}
    (stable : machine.Stable Inv Guarantee thread assertion) (holds : assertion shared)
    (postStable : ∀ outcome : Except ε (Answer request),
      machine.Stable Inv Guarantee thread (Post outcome))
    (acts : ∀ before choice (outcome : Except ε (Answer request)) after, Inv before →
      assertion before → machine.perform thread request choice before = some (outcome, after) →
        Guarantee thread before after ∧ Inv after ∧ Post outcome after) :
    machine.Safe Inv Guarantee thread Post (Program.perform request) shared := by
  apply safe_call stable holds
  intro before choice outcome after invBefore holdsBefore ran
  obtain ⟨guarantee, invAfter, post⟩ :=
    acts before choice outcome after invBefore holdsBefore ran
  refine ⟨guarantee, invAfter, ?_⟩
  cases outcome with
  | ok answer => exact safe_pure (postStable _) post
  | error error => exact safe_throw (postStable _) post

theorem safe_attempt (safe : machine.Safe Inv Guarantee thread Post program shared) :
    machine.Safe Inv Guarantee thread
      (fun outcome state => ∃ result, outcome = .ok result ∧ Post result state)
      program.attempt shared := by
  induction program generalizing shared with
  | pure value => exact fun last rest inv => ⟨_, rfl, safe last rest inv⟩
  | throw error => exact fun last rest inv => ⟨_, rfl, safe last rest inv⟩
  | call request next ih =>
    intro last rest inv choice answer after ran
    obtain ⟨guarantee, invAfter, safeNext⟩ := safe last rest inv choice answer after ran
    exact ⟨guarantee, invAfter, ih answer safeNext⟩

theorem safe_tryFinally {cleanup : Program Call Answer ε Unit} (inv : Inv shared)
    (stable : ∀ outcome, machine.Stable Inv Guarantee thread (Post outcome))
    (safe : machine.Safe Inv Guarantee thread Mid program shared)
    (cleans : ∀ outcome state, Inv state → Mid outcome state → machine.Safe Inv Guarantee thread
        (fun result last => Post (result.bind fun _ => outcome) last) cleanup state) :
    machine.Safe Inv Guarantee thread Post (program.tryFinally cleanup) shared := by
  refine safe_bind inv (safe_attempt safe) ?_ ?_
  · rintro value state invState ⟨outcome, equal, mid⟩
    cases equal
    refine safe_bind invState (cleans value state invState mid) ?_ ?_
    · intro _ last _ post
      cases value with
      | ok value => exact safe_pure (stable _) post
      | error error => exact safe_throw (stable _) post
    · exact fun error last _ post => post
  · rintro error state - ⟨outcome, bad, -⟩
    cases bad

theorem safe_of_calls (stable : machine.Stable Inv Guarantee thread assertion)
    (keeps : ∀ request, allowed request → ∀ before choice answer after, Inv before →
      assertion before → machine.perform thread request choice before = some (answer, after) →
        Guarantee thread before after ∧ Inv after ∧ assertion after) (calls : program.Calls allowed)
    (holds : assertion shared) :
    machine.Safe Inv Guarantee thread (fun _ => assertion) program shared := by
  induction program generalizing shared with
  | pure value => exact safe_pure stable holds
  | throw error => exact safe_throw stable holds
  | call request next ih =>
    refine safe_call stable holds ?_
    intro before choice answer after inv holdsBefore ran
    obtain ⟨guarantee, invAfter, holdsAfter⟩ :=
      keeps request calls.1 before choice answer after inv holdsBefore ran
    exact ⟨guarantee, invAfter, ih answer (calls.2 answer) holdsAfter⟩

theorem safe_of_callsOnce {once : Call → Prop} {first second : σ → Prop}
    (firstStable : machine.Stable Inv Guarantee thread first)
    (secondStable : machine.Stable Inv Guarantee thread second)
    (weaker : ∀ state, first state → second state)
    (keepsFirst : ∀ request, allowed request → ∀ before choice answer after, Inv before →
      first before → machine.perform thread request choice before = some (answer, after) →
        Guarantee thread before after ∧ Inv after ∧ first after)
    (keepsSecond : ∀ request, allowed request → ∀ before choice answer after, Inv before →
      second before → machine.perform thread request choice before = some (answer, after) →
        Guarantee thread before after ∧ Inv after ∧ second after)
    (crosses : ∀ request, once request → ∀ before choice answer after, Inv before →
      first before → machine.perform thread request choice before = some (answer, after) →
        Guarantee thread before after ∧ Inv after ∧ second after)
    (calls : program.CallsOnce allowed once) (holds : first shared) :
    machine.Safe Inv Guarantee thread (fun _ => second) program shared := by
  induction program generalizing shared with
  | pure value => exact safe_pure secondStable (weaker _ holds)
  | throw error => exact safe_throw secondStable (weaker _ holds)
  | call request next ih =>
    refine safe_call firstStable holds ?_
    intro before choice answer after inv holdsBefore ran
    rcases calls with ⟨isAllowed, continues⟩ | ⟨isOnce, continues⟩
    · obtain ⟨guarantee, invAfter, holdsAfter⟩ :=
        keepsFirst request isAllowed before choice answer after inv holdsBefore ran
      exact ⟨guarantee, invAfter, ih answer (continues answer) holdsAfter⟩
    · obtain ⟨guarantee, invAfter, holdsAfter⟩ :=
        crosses request isOnce before choice answer after inv holdsBefore ran
      exact ⟨guarantee, invAfter,
        safe_of_calls secondStable keepsSecond (continues answer) holdsAfter⟩

theorem Later.mono {Weaker : σ → Prop} {Guarantee' : Nat → σ → σ → Prop} {before : σ}
    (weaker : ∀ state, Inv state → Weaker state)
    (stronger : ∀ other before after, Guarantee other before after → Guarantee' other before after)
    (later : machine.Later Inv Guarantee thread before after) :
    machine.Later Weaker Guarantee' thread before after := by
  refine Relation.ReflTransGen.mono (fun _ _ edge => ⟨weaker _ edge.1, weaker _ edge.2.1, ?_⟩)
    before after later
  rcases edge.2.2 with ⟨other, differ, guarantee⟩ | environment
  · exact .inl ⟨other, differ, stronger _ _ _ guarantee⟩
  · exact .inr environment

theorem Safe.strengthen {more : σ → Prop} {Stronger : Nat → σ → σ → Prop}
    (safe : machine.Safe Inv Guarantee thread Post program shared)
    (weaker : ∀ other before after, Stronger other before after → Guarantee other before after)
    (calls : program.Calls allowed) (stable : machine.Stable Inv Guarantee thread assertion)
    (holds : assertion shared)
    (keeps : ∀ request, allowed request → ∀ before choice answer after, assertion before →
      more before → Guarantee thread before after →
        machine.perform thread request choice before = some (answer, after) →
          Stronger thread before after ∧ assertion after ∧ more after) :
    machine.Safe (fun state => Inv state ∧ more state) Stronger thread Post program shared := by
  have restore {last : σ}
      (rest : machine.Later (fun state => Inv state ∧ more state) Stronger thread shared last) :
      machine.Later Inv Guarantee thread shared last :=
    Later.mono (fun _ both => both.1) weaker rest
  induction program generalizing shared with
  | pure value => exact fun last rest inv => safe last (restore rest) inv.1
  | throw error => exact fun last rest inv => safe last (restore rest) inv.1
  | call request next ih =>
    intro last rest inv choice answer after ran
    obtain ⟨guarantee, invAfter, safeNext⟩ :=
      safe last (restore rest) inv.1 choice answer after ran
    obtain ⟨stronger, holdsAfter, moreAfter⟩ := keeps request calls.1 last choice answer after
      (stable.later (restore rest) holds) inv.2 guarantee ran
    exact ⟨stronger, ⟨invAfter, moreAfter⟩, ih answer safeNext (calls.2 answer) holdsAfter
        (Later.mono (fun _ both => both.1) weaker)⟩

theorem Safe.of_execute {choices : List Choice} {outcome : Except ε α} (inv : Inv shared)
    (safe : machine.Safe Inv Guarantee thread Post program shared)
    (executed : machine.execute thread program shared choices = some (outcome, after)) :
    Inv after ∧ Post outcome after := by
  induction program generalizing shared choices with
  | pure value =>
    cases choices with
    | nil =>
      cases executed
      exact ⟨inv, safe _ .refl inv⟩
    | cons choice rest => cases executed
  | throw error =>
    cases choices with
    | nil =>
      cases executed
      exact ⟨inv, safe _ .refl inv⟩
    | cons choice rest => cases executed
  | call request next ih =>
    cases choices with
    | nil => cases executed
    | cons choice rest =>
      obtain ⟨⟨answer, middle⟩, ran, restExecuted⟩ := Option.bind_eq_some_iff.mp executed
      obtain ⟨-, invMiddle, safeNext⟩ := safe shared .refl inv choice answer middle ran
      exact ih answer invMiddle safeNext restExecuted

variable (Inv Guarantee) in
theorem safe_of_reachable {start : σ → Prop} (Fresh : Nat → σ → Prop)
    (Post : Nat → Except ε Unit → σ → Prop)
    (starts : ∀ state, start state → Inv state ∧ ∀ thread, Fresh thread state)
    (freshStable : ∀ thread, machine.Stable Inv Guarantee thread (Fresh thread))
    (environmentKeeps : ∀ event before after, Inv before →
      machine.environment event before = some after → Inv after)
    (programs : ∀ request thread state, Inv state → Fresh thread state →
      machine.Safe Inv Guarantee thread (Post thread) (machine.program request) state)
    {pool : Pool σ Call Answer ε} (reachable : machine.Reachable start pool) :
    Inv pool.shared ∧ ∀ thread, match pool.threads thread with
      | none => Fresh thread pool.shared
      | some program => machine.Safe Inv Guarantee thread (Post thread) program pool.shared := by
  induction reachable with
  | initial started =>
    obtain ⟨inv, fresh⟩ := starts _ started
    exact ⟨inv, fresh⟩
  | @step pool next action _ stepTo ih =>
    obtain ⟨inv, threads⟩ := ih
    -- what another thread or the environment does keeps both kinds of fact
    have keeps {after : σ} (invAfter : Inv after) {other : Nat}
        (rely : machine.Rely Guarantee other pool.shared after) :
        match pool.threads other with
        | none => Fresh other after
        | some program => machine.Safe Inv Guarantee other (Post other) program after := by
      have fact := threads other
      cases running : pool.threads other with
      | none =>
        rw [running] at fact
        exact freshStable other _ _ inv invAfter rely fact
      | some program =>
        rw [running] at fact
        exact fact.later (.single ⟨inv, invAfter, rely⟩)
    cases action with
    | start thread request =>
      simp only [Machine.step] at stepTo
      split at stepTo
      · next idle =>
        cases stepTo
        refine ⟨inv, fun other => ?_⟩
        by_cases same : other = thread
        · subst same
          have fresh := threads other
          rw [idle] at fresh
          simpa using programs request other pool.shared inv fresh
        · simpa [Function.update_of_ne same] using threads other
      · cases stepTo
    | perform thread choice =>
      simp only [Machine.step] at stepTo
      split at stepTo
      · next request rest running =>
        obtain ⟨⟨answer, after⟩, ran, rfl⟩ := Option.map_eq_some_iff.mp stepTo
        have safe := threads thread
        rw [running] at safe
        obtain ⟨guarantee, invAfter, safeNext⟩ :=
          safe pool.shared .refl inv choice answer after ran
        refine ⟨invAfter, fun other => ?_⟩
        by_cases same : other = thread
        · subst same
          simpa using safeNext
        · simpa [Function.update_of_ne same] using
            keeps invAfter (Or.inl ⟨thread, Ne.symm same, guarantee⟩)
      · cases stepTo
    | environment event =>
      obtain ⟨after, changed, rfl⟩ := Option.map_eq_some_iff.mp stepTo
      have invAfter := environmentKeeps event _ _ inv changed
      exact ⟨invAfter, fun other => keeps invAfter (Or.inr ⟨event, changed⟩)⟩

end Rules

end Machine
