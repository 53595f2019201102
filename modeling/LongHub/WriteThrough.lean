import LongHub.GuardedRun

/-!
# A memory that every change writes to a file

An action changes the memory first and then writes the whole of it to the file; a write may fail.
Opening reads the file again.
-/

structure WriteThrough (σ φ ι ε : Type*) where
  empty : σ
  encode : σ → φ
  decode : φ → Except ε σ
  change : ι → σ → Except ε (Option σ)

namespace WriteThrough

variable {σ φ ι ε : Type*}

structure Cell (σ φ : Type*) where
  memory : σ
  file : Option φ

/-- What may happen: an action that meets a failure of the disk or not, or opening again. -/
inductive Event (ι ε : Type*) where
  | act (input : ι) (failure : Option ε)
  | reopen

section Operations

variable (store : WriteThrough σ φ ι ε)

def blank : Cell σ φ := ⟨store.empty, none⟩

def act (input : ι) (failure : Option ε) (cell : Cell σ φ) : Except ε Unit × Cell σ φ :=
  match store.change input cell.memory with
  | .error problem => (.error problem, cell)
  | .ok none => (.ok (), cell)
  | .ok (some next) =>
    match failure with
    | some problem => (.error problem, { cell with memory := next })
    | none => (.ok (), ⟨next, some (store.encode next)⟩)

def reopen (file : Option φ) : Except ε (Cell σ φ) :=
  match file with
  | none => .ok store.blank
  | some text => (store.decode text).map fun memory => ⟨memory, some text⟩

def step (cell : Cell σ φ) : Event ι ε → Option (Cell σ φ)
  | .act input failure =>
    match store.act input failure cell with
    | (.ok _, after) => some after
    | (.error _, _) => none
  | .reopen => (store.reopen cell.file).toOption

abbrev Run : Cell σ φ → Prop := GuardedRun store.step (fun _ _ => True) store.blank

/-- The file holds the memory; without a file the memory is empty. -/
def Saved (cell : Cell σ φ) : Prop :=
  (cell.file = none ∧ cell.memory = store.empty) ∨ cell.file = some (store.encode cell.memory)

/-- Opening gives the memory back. -/
def Reopens (cell : Cell σ φ) : Prop :=
  ∃ opened, store.reopen cell.file = .ok opened ∧ opened.memory = cell.memory

end Operations

/-- The reader takes exactly the files that fit, and reads in them what has been written. -/
structure Lawful (store : WriteThrough σ φ ι ε) (Valid : σ → Prop) (Fits : φ → Prop) : Prop where
  empty : Valid store.empty
  change : ∀ input memory next, Valid memory → store.change input memory = .ok (some next) →
    Valid next
  decode : ∀ memory, Valid memory → Fits (store.encode memory) →
    store.decode (store.encode memory) = .ok memory
  refuse : ∀ text, ¬ Fits text → ∃ problem, store.decode text = .error problem

section Act

variable {store : WriteThrough σ φ ι ε} {input : ι} {failure : Option ε}
variable {cell after : Cell σ φ} {problem : ε}

/-- An action that succeeds writes the memory that it leaves, or changes nothing. -/
theorem act_ok (acted : store.act input failure cell = (.ok (), after)) :
    (store.change input cell.memory = .ok none ∧ after = cell) ∨
      ∃ next, store.change input cell.memory = .ok (some next) ∧ failure = none ∧
        after = ⟨next, some (store.encode next)⟩ := by
  unfold act at acted
  split at acted
  · cases acted
  · next unchanged =>
    cases acted
    exact .inl ⟨unchanged, rfl⟩
  · next memory changed =>
    split at acted
    · cases acted
    · cases acted
      exact .inr ⟨memory, changed, rfl, rfl⟩

/-- An action that fails leaves the file, and the memory too unless the disk has failed. -/
theorem act_error (acted : store.act input failure cell = (.error problem, after)) :
    (store.change input cell.memory = .error problem ∧ after = cell) ∨
      ∃ next, store.change input cell.memory = .ok (some next) ∧ failure = some problem ∧
        after = { cell with memory := next } := by
  unfold act at acted
  split at acted
  · next refused =>
    cases acted
    exact .inl ⟨refused, rfl⟩
  · cases acted
  · next memory changed =>
    split at acted
    · cases acted
      exact .inr ⟨memory, changed, rfl, rfl⟩
    · cases acted

theorem act_error_iff
    (differs : ∀ next, store.change input cell.memory = .ok (some next) → next ≠ cell.memory)
    (acted : store.act input failure cell = (.error problem, after)) : after = cell ↔
      ¬ (failure.isSome ∧ ∃ next, store.change input cell.memory = .ok (some next)) := by
  rcases act_error acted with ⟨refused, same⟩ | ⟨next, changed, failed, rfl⟩
  · constructor
    · rintro - ⟨-, next, changed⟩
      rw [refused] at changed
      cases changed
    · intro _
      exact same
  · constructor
    · intro same
      exact absurd (congrArg Cell.memory same) (differs next changed)
    · intro succeeds
      exact absurd ⟨by rw [failed]; rfl, next, changed⟩ succeeds

end Act

namespace Lawful

variable {store : WriteThrough σ φ ι ε} {Valid : σ → Prop} {Fits : φ → Prop}
variable {cell after : Cell σ φ}

theorem reopen_of_saved (lawful : store.Lawful Valid Fits) (valid : Valid cell.memory)
    (saved : store.Saved cell) :
    ((∀ text, cell.file = some text → Fits text) ∧ store.reopen cell.file = .ok cell) ∨
      ((∃ text, cell.file = some text ∧ ¬ Fits text) ∧
        ∃ problem, store.reopen cell.file = .error problem) := by
  obtain ⟨memory, file⟩ := cell
  rcases saved with ⟨noFile, isEmpty⟩ | written
  · simp only at noFile isEmpty
    subst noFile isEmpty
    exact .inl ⟨nofun, rfl⟩
  · simp only at written valid
    subst written
    by_cases fits : Fits (store.encode memory)
    · left
      refine ⟨fun text found => Option.some.inj found ▸ fits, ?_⟩
      rw [reopen, lawful.decode memory valid fits]
      rfl
    · right
      obtain ⟨problem, refused⟩ := lawful.refuse _ fits
      refine ⟨⟨_, rfl, fits⟩, problem, ?_⟩
      rw [reopen, refused]
      rfl

theorem saved_step (lawful : store.Lawful Valid Fits) (event : Event ι ε)
    (saved : Valid cell.memory ∧ store.Saved cell) (steps : store.step cell event = some after) :
    Valid after.memory ∧ store.Saved after := by
  obtain ⟨valid, saved⟩ := saved
  cases event with
  | act input failure =>
    simp only [step] at steps
    split at steps
    · next next acted =>
      cases steps
      rcases act_ok acted with ⟨-, rfl⟩ | ⟨memory, changed, -, rfl⟩
      · exact ⟨valid, saved⟩
      · exact ⟨lawful.change _ _ _ valid changed, .inr rfl⟩
    · cases steps
  | reopen =>
    simp only [step] at steps
    rcases lawful.reopen_of_saved valid saved with ⟨-, same⟩ | ⟨-, problem, refused⟩
    · rw [same] at steps
      cases steps
      exact ⟨valid, saved⟩
    · rw [refused] at steps
      cases steps

/-- After any actions that succeed the file holds the memory. -/
theorem saved_of_run (lawful : store.Lawful Valid Fits) (run : store.Run cell) :
    Valid cell.memory ∧ store.Saved cell :=
  run.invariant (fun cell => Valid cell.memory ∧ store.Saved cell)
    ⟨lawful.empty, .inl ⟨rfl, rfl⟩⟩
      fun _ _ event saved _ steps => lawful.saved_step event saved steps

/-- What has been reached is opened again exactly if its file fits. -/
theorem reopens_iff (lawful : store.Lawful Valid Fits) (run : store.Run cell) :
    store.Reopens cell ↔ ∀ text, cell.file = some text → Fits text := by
  obtain ⟨valid, saved⟩ := lawful.saved_of_run run
  rcases lawful.reopen_of_saved valid saved with
    ⟨fits, same⟩ | ⟨⟨text, found, beyond⟩, problem, refused⟩
  · exact ⟨fun _ => fits, fun _ => ⟨cell, same, rfl⟩⟩
  · constructor
    · rintro ⟨opened, opens, -⟩
      rw [refused] at opens
      cases opens
    · intro fits
      exact absurd (fits text found) beyond

end Lawful

end WriteThrough
