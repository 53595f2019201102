import LongHub.GuardedRun

/-!
# Concurrent updates of one row that read first and write later

An update sets some fields of a row. A call reads the whole row and later writes it back with its
fields changed, so fields that it does not set are written as they were when it read them.
-/

variable {φ : Type*}

/-- The fields that an update sets, with their new values. -/
abbrev RowPatch (ν : φ → Type*) := ∀ field, Option (ν field)

namespace RowPatch

variable {ν : φ → Type*}

def applyTo (patch : RowPatch ν) (row : ∀ field, ν field) : ∀ field, ν field :=
  fun field => (patch field).getD (row field)

/-- The row after updates one after the other. -/
def serial (row : ∀ field, ν field) (patches : List (RowPatch ν)) : ∀ field, ν field :=
  patches.foldl (fun current patch => patch.applyTo current) row

theorem serial_append_singleton (row : ∀ field, ν field) (patches : List (RowPatch ν))
    (patch : RowPatch ν) :
    serial row (patches ++ [patch]) = patch.applyTo (serial row patches) := by
  simp [serial]

theorem serial_of_unset {row : ∀ field, ν field} {patches : List (RowPatch ν)} {field : φ}
    (unset : ∀ patch ∈ patches, patch field = none) : serial row patches field = row field := by
  induction patches generalizing row with
  | nil => rfl
  | cons patch rest ih =>
    have tail : serial (patch.applyTo row) rest field = patch.applyTo row field :=
      ih fun other mem => unset other (List.mem_cons_of_mem patch mem)
    have head := unset patch List.mem_cons_self
    exact tail.trans (by simp [applyTo, head])

theorem serial_of_last {row : ∀ field, ν field} {earlier later : List (RowPatch ν)}
    {patch : RowPatch ν} {field : φ} {value : ν field} (sets : patch field = some value)
    (unset : ∀ other ∈ later, other field = none) :
    serial row (earlier ++ patch :: later) field = value := by
  have split : serial row (earlier ++ patch :: later) =
      serial (patch.applyTo (serial row earlier)) later := by
    simp [serial]
  rw [split, serial_of_unset unset, applyTo, sets, Option.getD_some]

theorem unset_or_last (patches : List (RowPatch ν)) (field : φ) :
    (∀ patch ∈ patches, patch field = none) ∨
      ∃ earlier patch later value, patches = earlier ++ patch :: later ∧
        patch field = some value ∧ ∀ other ∈ later, other field = none := by
  induction patches with
  | nil => simp
  | cons patch rest ih =>
    rcases ih with unset | ⟨earlier, last, later, value, rfl, sets, unset⟩
    · cases set : patch field with
      | none =>
        left
        intro other mem
        rcases List.mem_cons.mp mem with rfl | inRest
        · exact set
        · exact unset other inRest
      | some value => exact Or.inr ⟨[], patch, rest, value, rfl, set, unset⟩
    · exact Or.inr ⟨patch :: earlier, last, later, value, rfl, sets, unset⟩

end RowPatch

structure RowCall (ν : φ → Type*) where
  patch : RowPatch ν
  read : Option ((∀ field, ν field) × Nat)
  written : Bool

structure SharedRow (ν : φ → Type*) where
  row : ∀ field, ν field
  calls : List (RowCall ν)
  writes : List (RowPatch ν)

inductive RowAction (ν : φ → Type*) where
  | start (patch : RowPatch ν)
  | read (index : Nat)
  | write (index : Nat)

namespace SharedRow

variable {ν : φ → Type*} (fromRead : φ → Bool)

def initial (row : ∀ field, ν field) : SharedRow ν := ⟨row, [], []⟩

def written (current read : ∀ field, ν field) (patch : RowPatch ν) : ∀ field, ν field :=
  fun field => (patch field).getD (if fromRead field then read field else current field)

def step (state : SharedRow ν) : RowAction ν → Option (SharedRow ν)
  | .start patch => some { state with calls := state.calls ++ [⟨patch, none, false⟩] }
  | .read index =>
    match state.calls[index]? with
    | some ⟨patch, none, false⟩ => some { state with
        calls := state.calls.set index
          ⟨patch, some (state.row, state.writes.length), false⟩ }
    | _ => none
  | .write index =>
    match state.calls[index]? with
    | some ⟨patch, some (read, before), false⟩ => some
        { row := written fromRead state.row read patch
          calls := state.calls.set index ⟨patch, some (read, before), true⟩
          writes := state.writes ++ [patch] }
    | _ => none

variable (row : ∀ field, ν field)

/-- The row is the result of the updates one after the other. -/
def KeepsWrites (state : SharedRow ν) : Prop :=
  state.row = RowPatch.serial row state.writes

/-- Every field has the value of the last update that sets it. -/
def NoWriteLost (state : SharedRow ν) : Prop :=
  ∀ field value earlier later (patch : RowPatch ν),
    state.writes = earlier ++ patch :: later → patch field = some value →
    (∀ other ∈ later, other field = none) → state.row field = value

def WritesCurrent (state : SharedRow ν) : RowAction ν → Prop
  | .write index =>
    ∀ patch read before, state.calls[index]? = some ⟨patch, some (read, before), false⟩ →
      ∀ field, fromRead field = true → patch field = none →
        RowPatch.serial row (state.writes.take before) field =
          RowPatch.serial row state.writes field
  | _ => True

structure InOrder (state : SharedRow ν) : Prop where
  keeps : state.KeepsWrites row
  reads : ∀ patch read before done, ⟨patch, some (read, before), done⟩ ∈ state.calls →
      before ≤ state.writes.length ∧ read = RowPatch.serial row (state.writes.take before)

variable {fromRead row} {state next : SharedRow ν}

variable {index : Nat}

theorem writesCurrent_of_latest (latest : ∀ patch read before,
      state.calls[index]? = some ⟨patch, some (read, before), false⟩ →
        before = state.writes.length) : state.WritesCurrent fromRead row (.write index) := by
  intro patch read before found field _ _
  rw [latest patch read before found, List.take_length]

theorem KeepsWrites.noWriteLost (keeps : state.KeepsWrites row) : state.NoWriteLost := by
  intro field value earlier later patch writes sets unset
  have rowEq : state.row = RowPatch.serial row state.writes := keeps
  rw [rowEq, writes]
  exact RowPatch.serial_of_last sets unset

theorem inOrder_initial : (initial row).InOrder row where
  keeps := rfl
  reads := by simp [initial]

theorem InOrder.read (inOrder : state.InOrder row)
    (stepTo : state.step fromRead (.read index) = some next) : next.InOrder row := by
  simp only [step] at stepTo
  split at stepTo
  case h_2 => cases stepTo
  next patch found =>
  cases stepTo
  refine ⟨inOrder.keeps, ?_⟩
  intro other read before done mem
  rcases List.mem_or_eq_of_mem_set mem with earlier | now
  · exact inOrder.reads other read before done earlier
  · obtain ⟨-, ⟨rfl, rfl⟩, -⟩ := now
    refine ⟨Nat.le_refl _, ?_⟩
    rw [List.take_length]
    exact inOrder.keeps

theorem InOrder.keeps_write (inOrder : state.InOrder row)
    (current : state.WritesCurrent fromRead row (.write index))
    (stepTo : state.step fromRead (.write index) = some next) : next.KeepsWrites row := by
  simp only [step] at stepTo
  split at stepTo
  case h_2 => cases stepTo
  next patch read before found =>
  cases stepTo
  obtain ⟨-, readEq⟩ := inOrder.reads patch read before false (List.mem_of_getElem? found)
  have rowEq : state.row = RowPatch.serial row state.writes := inOrder.keeps
  simp only [KeepsWrites, RowPatch.serial_append_singleton]
  funext field
  simp only [written, RowPatch.applyTo]
  cases set : patch field with
  | some value => rfl
  | none =>
    split
    · next stale =>
      rw [readEq]
      exact current patch read before found field stale set
    · rw [rowEq]

theorem InOrder.write (inOrder : state.InOrder row)
    (current : state.WritesCurrent fromRead row (.write index))
    (stepTo : state.step fromRead (.write index) = some next) : next.InOrder row := by
  have keeps := inOrder.keeps_write current stepTo
  simp only [step] at stepTo
  split at stepTo
  case h_2 => cases stepTo
  next patch read before found =>
  cases stepTo
  refine ⟨keeps, ?_⟩
  have extended : ∀ patch' read' before' done',
      ⟨patch', some (read', before'), done'⟩ ∈ state.calls →
        before' ≤ (state.writes ++ [patch]).length ∧
          read' = RowPatch.serial row ((state.writes ++ [patch]).take before') := by
    intro patch' read' before' done' earlier
    obtain ⟨bounded, readEq⟩ := inOrder.reads patch' read' before' done' earlier
    rw [List.take_append_of_le_length bounded, List.length_append]
    exact ⟨by omega, readEq⟩
  intro patch' read' before' done' mem
  rcases List.mem_or_eq_of_mem_set mem with earlier | now
  · exact extended patch' read' before' done' earlier
  · simp only [RowCall.mk.injEq, Option.some.injEq, Prod.mk.injEq] at now
    obtain ⟨rfl, ⟨rfl, rfl⟩, -⟩ := now
    exact extended patch' read' before' false (List.mem_of_getElem? found)

theorem InOrder.step (inOrder : state.InOrder row) {action : RowAction ν}
    (current : state.WritesCurrent fromRead row action)
    (stepTo : state.step fromRead action = some next) : next.InOrder row := by
  cases action with
  | start patch =>
    cases stepTo
    refine ⟨inOrder.keeps, ?_⟩
    intro other read before done mem
    rcases List.mem_append.mp mem with earlier | now
    · exact inOrder.reads other read before done earlier
    · simp at now
  | read index => exact inOrder.read stepTo
  | write index => exact inOrder.write current stepTo

theorem InOrder.current_of_noWriteLost (inOrder : state.InOrder row)
    (stepTo : state.step fromRead (.write index) = some next) (noneLost : next.NoWriteLost) :
    state.WritesCurrent fromRead row (.write index) := by
  simp only [SharedRow.step] at stepTo
  split at stepTo
  case h_2 => cases stepTo
  next patch read before found =>
  cases stepTo
  intro other read' before' found' field stale unset
  rw [found] at found'
  cases found'
  obtain ⟨-, readEq⟩ := inOrder.reads patch read before false (List.mem_of_getElem? found)
  rcases RowPatch.unset_or_last state.writes field with
    never | ⟨earlier, last, later, value, writes, sets, afterwards⟩
  · have untouched : ∀ patch' ∈ state.writes.take before, patch' field = none :=
      fun patch' mem => never patch' (List.mem_of_mem_take mem)
    rw [RowPatch.serial_of_unset never, RowPatch.serial_of_unset untouched]
  · have kept : written fromRead state.row read patch field = value := by
      apply noneLost field value earlier (later ++ [patch]) last (by simp [writes]) sets
      intro patch' mem
      rcases List.mem_append.mp mem with inLater | now
      · exact afterwards patch' inLater
      · rw [List.mem_singleton.mp now]
        exact unset
    simp only [written, unset, Option.getD_none, stale, if_true] at kept
    calc RowPatch.serial row (state.writes.take before) field
        = read field := by rw [readEq]
      _ = value := kept
      _ = RowPatch.serial row state.writes field := by
          rw [writes, RowPatch.serial_of_last sets afterwards]

theorem InOrder.step_iff (inOrder : state.InOrder row) {action : RowAction ν}
    (stepTo : state.step fromRead action = some next) :
    next.NoWriteLost ↔ state.WritesCurrent fromRead row action := by
  cases action with
  | start patch =>
    cases stepTo
    exact iff_of_true inOrder.keeps.noWriteLost trivial
  | read index => exact iff_of_true (inOrder.read stepTo).keeps.noWriteLost trivial
  | write index =>
    constructor
    · exact inOrder.current_of_noWriteLost stepTo
    · intro current
      exact (inOrder.keeps_write current stepTo).noWriteLost

end SharedRow
