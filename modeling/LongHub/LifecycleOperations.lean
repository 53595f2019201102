import LongHub.LifecycleRules

/-!
# The operations of the coordinator

The three operations read what they need, apply one change and leave the queue.
-/

namespace LongHub

open Machine

open AgentLifecycleCoordinator

def LifecycleCall.IsReading : LifecycleCall → Prop
  | .acquire | .activeVersion _ | .verifyActivePack _ | .eligiblePackIds _ | .installedVersions
  | .onSyncError _ | .enabledEntries | .snapshotRegistry | .getConfig | .listAgents => True
  | _ => False

section Reading

variable {setup : LifecycleSetup} {thread : Nat} {state : LifecycleState}

theorem state_perform {call : LifecycleCall} (reading : call.IsReading) {choice : LifecycleChoice}
    {outcome : Except LifecycleError call.Answer} {after : LifecycleState}
    (acts : state.perform setup thread choice call = some (outcome, after)) :
    after = state := by
  cases call with
  | enabledEntries | snapshotRegistry =>
    cases acts
    rfl
  | eligiblePackIds packs => exact (answered_cases acts).1
  | onSyncError message => exact (answered_cases acts).1
  | listAgents => exact (answered_cases acts).1
  | acquire =>
    by_cases isFirst : state.queue.head? = some thread
    · cases (if_pos isFirst).symm.trans acts
      rfl
    · cases (if_neg isFirst).symm.trans acts
  | getConfig =>
    by_cases noHash : choice.hash = ""
    · cases (if_pos noHash).symm.trans acts
      rfl
    · exact (answered_cases ((if_neg noHash).symm.trans acts)).1
  | activeVersion packId | verifyActivePack packId | installedVersions =>
    unfold LifecycleState.perform at acts
    dsimp only at acts
    split at acts <;> cases acts <;> rfl
  | _ => exact reading.elim

end Reading

section Rules

variable (setup : LifecycleSetup)
variable (condition : Nat → LifecycleCall → LifecycleChoice → LifecycleState → Bool)
variable (Inv : LifecycleState → Prop)
variable (Guarantee : Nat → LifecycleState → LifecycleState → Prop) (thread : Nat)

structure OperationRules (Waiting First : LifecycleState → Prop)
    (Ended Done : Except LifecycleError Unit → LifecycleState → Prop) : Prop where
  quiet : ∀ state, Guarantee thread state state
  waitingStable : (guardedMachine setup condition).Stable Inv Guarantee thread Waiting
  firstStable : (guardedMachine setup condition).Stable Inv Guarantee thread First
  endedStable : ∀ outcome, (guardedMachine setup condition).Stable Inv Guarantee thread
    (Ended outcome)
  doneStable : ∀ outcome, (guardedMachine setup condition).Stable Inv Guarantee thread
    (Done outcome)
  enqueues : ∀ state, Inv state → Waiting state →
    let after := { state with queue := state.queue ++ [thread] }
    Guarantee thread state after ∧ Inv after ∧ Waiting after
  acquires : ∀ state, Inv state → Waiting state → state.queue.head? = some thread → First state
  applies : ∀ mutation state, Inv state → First state →
    (guardedMachine setup condition).Safe Inv Guarantee thread
      (fun outcome => Ended (outcome.map fun _ => ())) (applyMutation mutation) state
  unchanged : ∀ outcome state, First state → Ended outcome state
  wraps : ∀ code message error state, Ended (.error error) state →
    Ended (.error (wrapError code message error)) state
  leaves : ∀ outcome choice state, Inv state → Ended outcome state →
    condition thread (.leave (failureOf outcome)) choice state = true →
    let after := { state with queue := state.queue.tail, window := none }
    Guarantee thread state after ∧ Inv after ∧ Done outcome after

end Rules

section Operations

variable {setup : LifecycleSetup}
variable {condition : Nat → LifecycleCall → LifecycleChoice → LifecycleState → Bool}
variable {Inv : LifecycleState → Prop}
variable {Guarantee : Nat → LifecycleState → LifecycleState → Prop} {thread : Nat}
variable {Waiting First : LifecycleState → Prop}
variable {Ended Done : Except LifecycleError Unit → LifecycleState → Prop}
variable {state : LifecycleState} {α : Type}

/-- The outcome of an operation without its value. -/
abbrev Ignoring (claims : Except LifecycleError Unit → LifecycleState → Prop) :
    Except LifecycleError α → LifecycleState → Prop :=
  fun outcome => claims (outcome.map fun _ => ())

namespace OperationRules

variable (rules : OperationRules setup condition Inv Guarantee thread Waiting First Ended Done)
include rules

theorem safe_read {call : LifecycleCall} (reading : call.IsReading) (first : First state) :
    (guardedMachine setup condition).Safe Inv Guarantee thread (fun _ => First) (ask call)
      state := by
  refine safe_perform rules.firstStable first (fun _ => rules.firstStable) ?_
  intro before choice outcome after inv holds ran
  have same := state_perform reading (perform_guarded.mp ran).2
  subst same
  exact ⟨rules.quiet _, inv, holds⟩

theorem safe_ended_throw {error : LifecycleError} (first : First state) :
    (guardedMachine setup condition).Safe Inv Guarantee thread (Ignoring Ended)
      (.throw error : LifecycleProgram α) state :=
  safe_throw (rules.endedStable _) (rules.unchanged _ _ first)

theorem safe_ended_pure {value : α} (first : First state) :
    (guardedMachine setup condition).Safe Inv Guarantee thread (Ignoring Ended)
      (.pure value) state :=
  safe_pure (rules.endedStable _) (rules.unchanged _ _ first)

theorem safe_wrapped (inv : Inv state) (first : First state) {mutation : PackMutation}
    {code : PackLifecycleCode} {message : String} {result : List String → α} :
    (guardedMachine setup condition).Safe Inv Guarantee thread (Ignoring Ended)
      (((applyMutation mutation).tryCatch fun error => .throw (wrapError code message error)).bind
        fun ids => .pure (result ids)) state := by
  have wrapped : (guardedMachine setup condition).Safe Inv Guarantee thread (Ignoring Ended)
      ((applyMutation mutation).tryCatch fun error => .throw (wrapError code message error))
      state :=
    safe_tryCatch inv (rules.applies mutation state inv first) (fun error last _ ended =>
        safe_throw (rules.endedStable _) (rules.wraps code message error last ended))
      fun _ _ _ ended => ended
  exact safe_bind inv wrapped
    (fun _ _ _ ended => safe_pure (rules.endedStable _) ended) fun _ _ _ ended => ended

theorem safe_enablePackBody (packId : String) (inv : Inv state) (first : First state) :
    (guardedMachine setup condition).Safe Inv Guarantee thread (Ignoring Ended)
      (enablePackBody packId) state := by
  have activeVersion : LifecycleCall.IsReading (.activeVersion packId) := trivial
  refine safe_bind inv (rules.safe_read activeVersion first) ?_
    fun _ _ _ first => rules.unchanged _ _ first
  rintro version now invNow firstNow
  cases version with
  | none => exact rules.safe_ended_throw firstNow
  | some version =>
    have verify : LifecycleCall.IsReading (.verifyActivePack packId) := trivial
    have verified : (guardedMachine setup condition).Safe Inv Guarantee thread (fun _ => First)
        ((ask (.verifyActivePack packId)).tryCatch fun _ => .throw
          (.ofCode .packVerificationFailed ("Pack " ++ packId ++ " 无法安全启用"))) now :=
      safe_tryCatch invNow (rules.safe_read verify firstNow)
        (fun _ _ _ first => safe_throw rules.firstStable first) fun _ _ _ first => first
    refine safe_bind invNow verified ?_ fun _ _ _ first => rules.unchanged _ _ first
    rintro (pack : ActivePack) checked invChecked firstChecked
    have eligible : LifecycleCall.IsReading
        (.eligiblePackIds [(packId, pack.manifest.packVersion)]) := trivial
    refine safe_bind invChecked (rules.safe_read eligible firstChecked) ?_
      fun _ _ _ first => rules.unchanged _ _ first
    rintro eligibleIds asked invAsked firstAsked
    split
    · exact rules.safe_ended_throw firstAsked
    · exact rules.safe_wrapped invAsked firstAsked

theorem safe_disablePackBody (packId : String) (inv : Inv state) (first : First state) :
    (guardedMachine setup condition).Safe Inv Guarantee thread (Ignoring Ended)
      (disablePackBody packId) state :=
  rules.safe_wrapped inv first

theorem safe_syncEntitlementsBody (inv : Inv state) (first : First state) :
    (guardedMachine setup condition).Safe Inv Guarantee thread (Ignoring Ended)
      syncEntitlementsBody state := by
  have versions : LifecycleCall.IsReading .installedVersions := trivial
  refine safe_bind inv (rules.safe_read versions first) ?_
    fun _ _ _ first => rules.unchanged _ _ first
  rintro listed now invNow firstNow
  have eligible : LifecycleCall.IsReading (.eligiblePackIds listed) := trivial
  refine safe_bind invNow (safe_attempt (rules.safe_read eligible firstNow)) ?_ ?_
  · rintro answer asked invAsked ⟨result, equal, firstAsked⟩
    cases equal
    cases answer with
    | error error =>
      have report : LifecycleCall.IsReading (.onSyncError error.message) := trivial
      exact safe_bind invAsked (rules.safe_read report firstAsked)
        (fun _ _ _ first => rules.safe_ended_pure first)
        fun _ _ _ first => rules.unchanged _ _ first
    | ok eligibleIds =>
      have entries : LifecycleCall.IsReading .enabledEntries := trivial
      refine safe_bind invAsked (rules.safe_read entries firstAsked) ?_
        fun _ _ _ first => rules.unchanged _ _ first
      rintro enabled last invLast firstLast
      dsimp only
      split
      · exact rules.safe_ended_pure firstLast
      · exact safe_bind invLast (rules.applies _ last invLast firstLast)
          (fun _ _ _ ended => safe_pure (rules.endedStable _) ended)
          fun _ _ _ ended => ended
  · rintro error last - ⟨result, bad, -⟩
    cases bad

theorem safe_exclusive {operation : LifecycleProgram α} (inv : Inv state) (waiting : Waiting state)
    (safe : ∀ now, Inv now → First now →
      (guardedMachine setup condition).Safe Inv Guarantee thread (Ignoring Ended) operation now) :
    (guardedMachine setup condition).Safe Inv Guarantee thread (Ignoring Done)
      (exclusive operation) state := by
  have enqueued : (guardedMachine setup condition).Safe Inv Guarantee thread
      (fun outcome now => outcome = .ok () ∧ Waiting now) (ask .enqueue) state := by
    refine safe_perform rules.waitingStable waiting
      (fun _ => (Machine.Stable.const _).and rules.waitingStable) ?_
    intro before choice outcome after invBefore holds ran
    cases (perform_guarded.mp ran).2
    obtain ⟨guarantee, invAfter, still⟩ := rules.enqueues before invBefore holds
    exact ⟨guarantee, invAfter, rfl, still⟩
  refine safe_bind inv enqueued ?_ ?_
  · rintro answer now invNow ⟨-, waitingNow⟩
    have acquired : (guardedMachine setup condition).Safe Inv Guarantee thread
        (fun outcome now => outcome = .ok () ∧ First now) (ask .acquire) now := by
      refine safe_perform rules.waitingStable waitingNow
        (fun _ => (Machine.Stable.const _).and rules.firstStable) ?_
      intro before choice outcome after invBefore holds ran
      have acts := (perform_guarded.mp ran).2
      by_cases isFirst : before.queue.head? = some thread
      · cases (if_pos isFirst).symm.trans acts
        exact ⟨rules.quiet _, invBefore, rfl, rules.acquires _ invBefore holds isFirst⟩
      · cases (if_neg isFirst).symm.trans acts
    refine safe_bind invNow acquired ?_ ?_
    · rintro answer first invFirst ⟨-, isFirst⟩
      refine safe_bind invFirst (safe_attempt (safe first invFirst isFirst)) ?_ ?_
      · rintro outcome ended invEnded ⟨result, equal, ends⟩
        cases equal
        have failure : failureOf (outcome.map fun _ => ()) = failureOf outcome := by
          cases outcome <;> rfl
        have left : (guardedMachine setup condition).Safe Inv Guarantee thread
            (fun answer now => answer = .ok () ∧ Ignoring Done outcome now)
            (ask (.leave (failureOf outcome))) ended := by
          refine safe_perform (rules.endedStable _) ends
            (fun _ => (Machine.Stable.const _).and (rules.doneStable _)) ?_
          intro before choice answer after invBefore holds ran
          obtain ⟨allowed, acts⟩ := perform_guarded.mp ran
          cases acts
          rw [← failure] at allowed
          obtain ⟨guarantee, invAfter, done⟩ := rules.leaves _ choice before invBefore holds allowed
          exact ⟨guarantee, invAfter, rfl, done⟩
        refine safe_bind invEnded left ?_ ?_
        · rintro answer last - ⟨-, done⟩
          cases outcome with
          | ok value => exact safe_pure (rules.doneStable _) done
          | error problem => exact safe_throw (rules.doneStable _) done
        · rintro error last - ⟨bad, -⟩
          cases bad
      · rintro error last - ⟨result, bad, -⟩
        cases bad
    · rintro error last - ⟨bad, -⟩
      cases bad
  · rintro error last - ⟨bad, -⟩
    cases bad

theorem safe_program (operation : PackOperation) (inv : Inv state) (waiting : Waiting state) :
    (guardedMachine setup condition).Safe Inv Guarantee thread Done operation.program state := by
  have finishes {α : Type} {program : LifecycleProgram α}
      (safe : (guardedMachine setup condition).Safe Inv Guarantee thread (Ignoring Done) program
        state) :
      (guardedMachine setup condition).Safe Inv Guarantee thread Done
        (program.bind fun _ => .pure ()) state :=
    safe_bind inv safe
      (fun _ _ _ done => safe_pure (rules.doneStable _) done) fun _ _ _ done => done
  cases operation with
  | enablePack packId =>
    exact finishes (rules.safe_exclusive inv waiting fun _ => rules.safe_enablePackBody packId)
  | disablePack packId =>
    exact finishes (rules.safe_exclusive inv waiting fun _ => rules.safe_disablePackBody packId)
  | syncEntitlements =>
    exact finishes (rules.safe_exclusive inv waiting fun _ => rules.safe_syncEntitlementsBody)

end OperationRules

end Operations

end LongHub
