import Mathlib.Data.List.Basic
import Mathlib.Data.List.Forall2
import Mathlib.Data.List.Nodup
import Mathlib.Data.List.Sort

/-!
# Lists

Removing, finding and replacing elements, lists with related elements, and what a stable sort
depends on.
-/

/-! ## Lists: removing and finding one element -/

namespace List

variable {α : Type*} [DecidableEq α] {keep : α → Bool}

theorem filter_erase_comm (element : α) (elements : List α) :
    (elements.erase element).filter keep = (elements.filter keep).erase element := by
  induction elements with
  | nil => rfl
  | cons other rest ih =>
    by_cases same : other = element
    · subst same
      by_cases kept : keep other = true
      · simp [kept]
      · simp only [erase_cons_head, filter_cons, kept]
        rw [if_neg (by simp), erase_of_not_mem]
        exact fun mem => kept (of_mem_filter mem)
    · by_cases kept : keep other = true <;> simp [kept, ih, same]

variable {element : α}

theorem filter_erase_of_not (dropped : keep element = false) (elements : List α) :
    (elements.erase element).filter keep = elements.filter keep := by
  rw [filter_erase_comm, erase_of_not_mem]
  simp [dropped]

theorem filter_eq_cons_of_find? {elements : List α} (first : elements.find? keep = some element) :
    elements.filter keep = element :: (elements.erase element).filter keep := by
  have kept := find?_some first
  obtain ⟨_, front, back, rfl, notFront⟩ := find?_eq_some_iff_append.mp first
  have dropped : front.filter keep = [] := by
    simpa [filter_eq_nil_iff] using notFront
  have absent : element ∉ front := fun mem => by simpa [kept] using notFront _ mem
  simp [erase_append_right _ absent, dropped, kept]

theorem find?_eq_some_iff_of_nodup {γ β : Type*} [DecidableEq β] {name : γ → β}
    {elements : List γ} (distinct : (elements.map name).Nodup) {sought : β} {found : γ} :
    elements.find? (fun element => name element = sought) = some found ↔
      found ∈ elements ∧ name found = sought := by
  induction elements with
  | nil => simp
  | cons first rest ih =>
    rw [List.map_cons, List.nodup_cons] at distinct
    rw [List.find?_cons]
    by_cases isFirst : name first = sought
    · simp only [isFirst, decide_true, Option.some.injEq, List.mem_cons]
      constructor
      · rintro rfl
        exact ⟨.inl rfl, isFirst⟩
      · rintro ⟨rfl | later, same⟩
        · rfl
        · exact absurd (List.mem_map.mpr ⟨found, later, same.trans isFirst.symm⟩) distinct.1
    · simp only [isFirst, decide_false, ih distinct.2, List.mem_cons]
      constructor
      · rintro ⟨later, same⟩
        exact ⟨.inr later, same⟩
      · rintro ⟨rfl | later, same⟩
        · exact absurd same isFirst
        · exact ⟨later, same⟩

end List

/-! ## Lists with one element replaced or appended -/

namespace List

variable {α β : Type*} {elements : List α} {index : Nat} {old new found : α}

theorem getElem?_append_singleton_eq_some (lookup : (elements ++ [new])[index]? = some found) :
    elements[index]? = some found ∨ index = elements.length ∧ found = new := by
  rw [getElem?_append] at lookup
  split at lookup
  · exact .inl lookup
  · next beyond =>
    right
    rw [getElem?_singleton] at lookup
    split at lookup
    · next atStart => exact ⟨by omega, (Option.some.inj lookup).symm⟩
    · cases lookup

theorem getElem?_set_eq_some {other : Nat} (stored : elements[index]? = some old)
    (lookup : (elements.set index new)[other]? = some found) :
    other = index ∧ found = new ∨ other ≠ index ∧ elements[other]? = some found := by
  rw [getElem?_set] at lookup
  split at lookup
  · next same =>
    left
    have inRange : index < elements.length := (getElem?_eq_some_iff.mp stored).1
    rw [if_pos (same ▸ inRange)] at lookup
    exact ⟨same.symm, (Option.some.inj lookup).symm⟩
  · next differ => exact .inr ⟨Ne.symm differ, lookup⟩

theorem map_set_of_eq (image : α → β) (stored : elements[index]? = some old)
    (same : image new = image old) : (elements.set index new).map image = elements.map image := by
  induction elements generalizing index with
  | nil => rfl
  | cons element rest ih =>
    cases index with
    | zero =>
      simp only [getElem?_cons_zero, Option.some.injEq] at stored
      subst stored
      simp [same]
    | succ index =>
      simp [ih stored]

theorem set_of_getElem? (stored : elements[index]? = some old) :
    elements.set index old = elements := by
  simpa using map_set_of_eq id stored rfl

theorem countP_set_add (test : α → Bool) (stored : elements[index]? = some old) (new : α) :
    (elements.set index new).countP test + (if test old then 1 else 0) =
      elements.countP test + if test new then 1 else 0 := by
  induction elements generalizing index with
  | nil => simp at stored
  | cons element rest ih =>
    cases index with
    | zero =>
      simp only [getElem?_cons_zero, Option.some.injEq] at stored
      subst stored
      simp only [set_cons_zero, countP_cons]
      omega
    | succ index =>
      have := ih stored
      simp only [set_cons_succ, countP_cons]
      omega

theorem countP_le_one_of_pairwise {test : α → Bool}
    (never : elements.Pairwise fun first second => test first = true → test second = false) :
    elements.countP test ≤ 1 := by
  induction elements with
  | nil => simp
  | cons element rest ih =>
    obtain ⟨head, tail⟩ := pairwise_cons.mp never
    by_cases passes : test element = true
    · have none_ : rest.countP test = 0 := by
        rw [countP_eq_zero]
        intro other mem
        simp [head other mem passes]
      simp [none_, passes]
    · have := ih tail
      rw [countP_cons, if_neg passes]
      omega

end List

/-! ## Two lists with related elements -/

namespace List

variable {α β γ : Type*} {related : α → β → Prop} {left : List α} {right : List β}
variable {test : α → Bool} {other : β → Bool}
variable {index : Nat} {a : α} {b : β} {elements : List α} {key : α → γ}

section

variable (paired : Forall₂ related left right)
include paired

theorem Forall₂.countP_eq
    (same : ∀ a b, related a b → test a = other b) : left.countP test = right.countP other := by
  induction paired with
  | nil => rfl
  | cons pair rest ih => simp [countP_cons, ih, same _ _ pair]

theorem Forall₂.map_filter_eq
    (same : ∀ a b, related a b → test a = other b) {image : α → γ} {otherImage : β → γ}
    (sameImage : ∀ a b, related a b → image a = otherImage b) :
    (left.filter test).map image = (right.filter other).map otherImage := by
  induction paired with
  | nil => rfl
  | cons pair rest ih =>
    rw [filter_cons, filter_cons, same _ _ pair]
    split
    · rw [map_cons, map_cons, ih, sameImage _ _ pair]
    · exact ih

/-- Two searches end at the same place. -/
theorem Forall₂.find?_cases (same : ∀ a b, related a b → test a = other b) :
    (left.find? test = none ∧ right.find? other = none) ∨
      ∃ (index : Nat) (a : α) (b : β), left.find? test = some a ∧ right.find? other = some b ∧
        left[index]? = some a ∧ right[index]? = some b := by
  induction paired with
  | nil => exact .inl ⟨rfl, rfl⟩
  | @cons a b left right pair rest ih =>
    rw [find?_cons, find?_cons, same _ _ pair]
    cases passes : other b with
    | true => exact .inr ⟨0, a, b, rfl, rfl, rfl, rfl⟩
    | false =>
      rcases ih with absent | ⟨index, one, another, leftFound, rightFound, leftAt, rightAt⟩
      · exact .inl absent
      · exact .inr ⟨index + 1, one, another, leftFound, rightFound, leftAt, rightAt⟩

theorem Forall₂.getElem? (leftAt : left[index]? = some a)
    (rightAt : right[index]? = some b) : related a b := by
  induction paired generalizing index with
  | nil => cases leftAt
  | cons pair rest ih =>
    cases index with
    | zero =>
      cases leftAt
      cases rightAt
      exact pair
    | succ index => exact ih leftAt rightAt

theorem Forall₂.set (pair : related a b) (index : Nat) :
    Forall₂ related (left.set index a) (right.set index b) := by
  induction paired generalizing index with
  | nil => exact .nil
  | cons head rest ih =>
    cases index with
    | zero => exact .cons pair rest
    | succ index => exact .cons head (ih index)

theorem Forall₂.exists_of_mem_left (mem : a ∈ left) : ∃ b ∈ right, related a b := by
  induction paired with
  | nil => cases mem
  | @cons head other left right pair rest ih =>
    rcases mem_cons.mp mem with rfl | inRest
    · exact ⟨other, mem_cons_self, pair⟩
    · obtain ⟨b, inRight, found⟩ := ih inRest
      exact ⟨b, mem_cons_of_mem _ inRight, found⟩

theorem Forall₂.exists_of_mem_right (mem : b ∈ right) : ∃ a ∈ left, related a b := by
  induction paired with
  | nil => cases mem
  | @cons head other left right pair rest ih =>
    rcases mem_cons.mp mem with rfl | inRest
    · exact ⟨head, mem_cons_self, pair⟩
    · obtain ⟨a, inLeft, found⟩ := ih inRest
      exact ⟨a, mem_cons_of_mem _ inLeft, found⟩

end

/-- The partners of two lists in a row. -/
theorem Forall₂.split {more : List α} (paired : Forall₂ related (left ++ more) right) :
    ∃ first second, right = first ++ second ∧ Forall₂ related left first ∧
      Forall₂ related more second := by
  induction left generalizing right with
  | nil => exact ⟨[], right, rfl, .nil, paired⟩
  | cons a left ih =>
    rw [cons_append, forall₂_cons_left_iff] at paired
    obtain ⟨b, rest, relatedHere, others, rfl⟩ := paired
    obtain ⟨first, second, rfl, firstPaired, secondPaired⟩ := ih others
    exact ⟨b :: first, second, rfl, .cons relatedHere firstPaired, secondPaired⟩

theorem map_ite_eq_set [DecidableEq γ] (distinct : (elements.map key).Nodup) {old new : α}
    (found : elements[index]? = some old) :
    elements.map (fun element => if key element = key old then new else element) =
      elements.set index new := by
  induction elements generalizing index with
  | nil => rfl
  | cons head rest ih =>
    rw [map_cons, nodup_cons] at distinct
    cases index with
    | zero =>
      cases found
      have unchanged : rest.map (fun element => if key element = key old then new else element) =
          rest := by
        conv_rhs => rw [← map_id rest]
        apply map_congr_left
        intro element mem
        apply if_neg
        intro same
        exact distinct.1 (mem_map.mpr ⟨element, mem, same⟩)
      simp [unchanged]
    | succ index =>
      have oldIn : old ∈ rest := mem_of_getElem? found
      have differ : key head ≠ key old := fun same =>
        distinct.1 (mem_map.mpr ⟨old, oldIn, same.symm⟩)
      rw [map_cons, if_neg differ, set_cons_succ, ih distinct.2 found]

theorem find?_key_eq [DecidableEq γ] (distinct : (elements.map key).Nodup) {found : α}
    (mem : found ∈ elements) :
    elements.find? (fun element => key element = key found) = some found := by
  induction elements with
  | nil => cases mem
  | cons head rest ih =>
    rw [map_cons, nodup_cons] at distinct
    rcases mem_cons.mp mem with rfl | inRest
    · simp
    · have differ : key head ≠ key found := fun same =>
        distinct.1 (mem_map.mpr ⟨found, inRest, same.symm⟩)
      simpa [differ] using ih distinct.2 inRest

end List

/-! ## What a stable sort depends on -/

namespace List

variable {α : Type*} {first second : α} {elements others : List α}

theorem pair_sublist_or (firstIn : first ∈ elements) (secondIn : second ∈ elements)
    (differ : first ≠ second) : [first, second] <+ elements ∨ [second, first] <+ elements := by
  induction elements with
  | nil => cases firstIn
  | cons head rest ih =>
    rcases mem_cons.mp firstIn with rfl | firstRest
    · have secondRest := (mem_cons.mp secondIn).resolve_left differ.symm
      exact .inl (.cons_cons _ (singleton_sublist.mpr secondRest))
    rcases mem_cons.mp secondIn with rfl | secondRest
    · exact .inr (.cons_cons _ (singleton_sublist.mpr firstRest))
    rcases ih firstRest secondRest with before | after_
    · exact .inl (before.cons _)
    · exact .inr (after_.cons _)

theorem Nodup.not_pair_sublist (distinct : elements.Nodup)
    (before : [first, second] <+ elements) : ¬ [second, first] <+ elements := by
  induction elements with
  | nil => cases before
  | cons head rest ih =>
    rw [nodup_cons] at distinct
    intro after_
    cases before with
    | cons _ before =>
      cases after_ with
      | cons _ after_ => exact ih distinct.2 before after_
      | cons_cons _ after_ =>
        exact distinct.1 (before.subset (mem_cons_of_mem _ mem_cons_self))
    | cons_cons _ before =>
      have secondRest : second ∈ rest := singleton_sublist.mp before
      cases after_ with
      | cons _ after_ => exact distinct.1 (after_.subset (mem_cons_of_mem _ mem_cons_self))
      | cons_cons _ after_ => exact distinct.1 secondRest

theorem pairwise_pair_sublist (elements : List α) :
    elements.Pairwise fun first second => [first, second] <+ elements := by
  apply pairwise_iff_forall_sublist.mpr
  intro first second before
  exact before

variable (le : α → α → Prop) [DecidableRel le]

theorem pair_sublist_of_insertionSort (distinct : elements.Nodup)
    (sorted : [first, second] <+ elements.insertionSort le) (back : le second first) :
    [first, second] <+ elements := by
  have sameElements := perm_insertionSort le elements
  have sortedDistinct := sameElements.nodup_iff.mpr distinct
  have firstIn := sameElements.subset (sorted.subset mem_cons_self)
  have secondIn := sameElements.subset (sorted.subset (mem_cons_of_mem _ mem_cons_self))
  have differ : first ≠ second := by
    have pair := sortedDistinct.sublist sorted
    simpa using pair
  rcases pair_sublist_or firstIn secondIn differ with before | after_
  · exact before
  · exact absurd (pair_sublist_insertionSort back after_) (sortedDistinct.not_pair_sublist sorted)

variable [Std.Total le] [IsTrans α le]

/-- Two orders of the same elements are sorted alike if and only if elements that
compare as equal come in the same order. -/
theorem insertionSort_eq_iff (same : elements.Perm others) (distinct : elements.Nodup) :
    elements.insertionSort le = others.insertionSort le ↔
      ∀ first second, le first second → le second first →
        [first, second] <+ elements → [first, second] <+ others := by
  have otherDistinct := same.nodup_iff.mp distinct
  constructor
  · intro sortedAlike first second forth back before
    have sorted := pair_sublist_insertionSort forth before
    rw [sortedAlike] at sorted
    exact pair_sublist_of_insertionSort le otherDistinct sorted back
  · intro sameTies
    have sorted := pairwise_insertionSort le elements
    have otherSorted := pairwise_insertionSort le others
    -- ties are in the order that both lists have
    have told : (elements.insertionSort le).Pairwise fun first second =>
        le first second ∧ (le second first → [first, second] <+ others) := by
      refine (sorted.and (pairwise_pair_sublist _)).imp ?_
      intro first second both
      refine ⟨both.1, fun back => sameTies first second both.1 back ?_⟩
      exact pair_sublist_of_insertionSort le distinct both.2 back
    have otherTold : (others.insertionSort le).Pairwise fun first second =>
        le first second ∧ (le second first → [first, second] <+ others) := by
      refine (otherSorted.and (pairwise_pair_sublist _)).imp ?_
      intro first second both
      exact ⟨both.1, pair_sublist_of_insertionSort le otherDistinct both.2⟩
    have sameElements := (perm_insertionSort le elements).trans
      (same.trans (perm_insertionSort le others).symm)
    refine sameElements.eq_of_pairwise ?_ told otherTold
    intro first second firstIn secondIn forth back
    exact absurd (back.2 forth.1) (otherDistinct.not_pair_sublist (forth.2 back.1))

end List
