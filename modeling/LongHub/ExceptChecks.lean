import Mathlib.Data.List.Forall2

/-!
# Checks that end a computation

A computation that may fail is written as a sequence of checks, each with the
error it ends in.  When it succeeds, every check has passed.
-/

namespace Except

open List
variable {ε α β : Type*} {problem : ε} {value : α}

def ensure (condition : Bool) (problem : ε) : Except ε Unit :=
  if condition then .ok () else .error problem

/-- Go on only with a value. -/
def require (found : Option α) (problem : ε) : Except ε α :=
  match found with
  | some value => .ok value
  | none => .error problem

variable {first : Except ε α} {next check : α → Except ε β} {condition : Bool} {found : Option α}
  {other : ε} {elements : List α} {results : List β}

@[simp]
theorem bind_eq_ok_iff {result : β} :
    (first.bind next) = .ok result ↔ ∃ value, first = .ok value ∧ next value = .ok result := by
  cases first with
  | error problem => simp [Except.bind]
  | ok value => simp [Except.bind]

theorem bind_eq_ok {α β : Type _} {first : Except ε α} {next : α → Except ε β} {result : β} :
    first >>= next = .ok result ↔ ∃ value, first = .ok value ∧ next value = .ok result :=
  bind_eq_ok_iff

theorem pure_eq_ok {result : α} : (pure value : Except ε α) = .ok result ↔ value = result := by
  simp [pure, Except.pure]

@[simp]
theorem ensure_eq_ok {done : Unit} :
    ensure condition problem = .ok done ↔ condition = true := by
  cases condition <;> simp [ensure]

@[simp]
theorem require_eq_ok : require found problem = .ok value ↔ found = some value := by
  cases found <;> simp [require]

theorem bind_eq_error_iff : first.bind next = .error problem ↔
      first = .error problem ∨ ∃ value, first = .ok value ∧ next value = .error problem := by
  cases first with
  | error other => simp [Except.bind]
  | ok value => simp [Except.bind]

theorem ensure_eq_error_iff :
    ensure condition problem = .error other ↔ condition = false ∧ problem = other := by
  cases condition <;> simp [ensure]

theorem require_eq_error_iff :
    require found problem = .error other ↔ found = none ∧ problem = other := by
  cases found <;> simp [require]

theorem mapM_eq_ok_iff : elements.mapM check = .ok results ↔
      List.Forall₂ (fun element result => check element = .ok result) elements results := by
  induction elements generalizing results with
  | nil =>
    rw [mapM_nil, forall₂_nil_left_iff]
    exact ⟨fun same => (Except.ok.inj same).symm, fun same => same ▸ rfl⟩
  | cons element rest ih =>
    rw [mapM_cons, forall₂_cons_left_iff]
    simp only [bind_eq_ok, pure_eq_ok, ih]
    constructor
    · rintro ⟨result, checked, others, paired, rfl⟩
      exact ⟨result, others, checked, paired, rfl⟩
    · rintro ⟨result, others, checked, paired, rfl⟩
      exact ⟨result, checked, others, paired, rfl⟩

theorem mapM_map_eq_ok_iff {print : β → α} {accepted : β → Prop}
    (reads : ∀ element result, check (print element) = .ok result ↔
      accepted element ∧ result = element) {elements : List β} :
    (elements.map print).mapM check = .ok results ↔
      (∀ element ∈ elements, accepted element) ∧ results = elements := by
  rw [mapM_eq_ok_iff, forall₂_map_left_iff]
  simp only [reads]
  induction elements generalizing results with
  | nil => simp
  | cons element rest ih =>
    rw [forall₂_cons_left_iff, forall_mem_cons]
    constructor
    · rintro ⟨result, others, ⟨isAccepted, rfl⟩, paired, rfl⟩
      obtain ⟨restAccepted, rfl⟩ := ih.mp paired
      exact ⟨⟨isAccepted, restAccepted⟩, rfl⟩
    · rintro ⟨⟨isAccepted, restAccepted⟩, rfl⟩
      exact ⟨element, rest, ⟨isAccepted, rfl⟩, ih.mpr ⟨restAccepted, rfl⟩, rfl⟩

theorem forM_eq_ok_iff {check : α → Except ε PUnit} {done : PUnit} :
    elements.forM check = .ok done ↔ ∀ element ∈ elements, check element = .ok ⟨⟩ := by
  induction elements with
  | nil => exact ⟨fun _ _ mem => absurd mem not_mem_nil, fun _ => rfl⟩
  | cons element rest ih =>
    change (check element).bind (fun _ => rest.forM check) = .ok done ↔ _
    rw [bind_eq_ok_iff, forall_mem_cons, ← ih]
    exact ⟨fun ⟨_, first, others⟩ => ⟨first, others⟩, fun ⟨first, others⟩ => ⟨_, first, others⟩⟩

end Except
