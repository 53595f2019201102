import LongHub.CanonicalKeys

/-!
# Keys that compare as equal

The text of an object with two such keys depends on which of them was inserted first.
-/

namespace LongHub

open Option Prod

namespace CoreAuthorization

open JsonValue
open scoped List

variable {node : NodePlatform} {ν : Type} {value : String → ν}

variable {content : JsonValue} {fields : List (String × JsonValue)} {text : String}

theorem sameJson_refl (wellFormed : content.WellFormed) : SameJson value content content := by
  induction wellFormed with
  | null => exact .null
  | bool content => exact .bool content
  | number literal => exact .number rfl
  | text content => exact .text content
  | @array items each ih =>
    apply SameJson.array rfl
    intro index item other itemAt otherAt
    rw [itemAt] at otherAt
    cases otherAt
    exact ih item (List.mem_of_getElem? itemAt)
  | @record fields distinct ordered each ih =>
    apply SameJson.record fun key => Iff.rfl
    intro key one other oneIn otherIn
    rw [← eq_of_same_key distinct oneIn otherIn]
    exact ih (key, one) oneIn

def reverseNames (fields : List (String × JsonValue)) : List (String × JsonValue) :=
  fields.filter (fun field => (arrayIndex field.1).isSome) ++
    (fields.filter fun field => (arrayIndex field.1).isNone).reverse

theorem perm_reverseNames (fields : List (String × JsonValue)) :
    (reverseNames fields).Perm fields := by
  have split := List.filter_append_perm (fun field : String × JsonValue =>
    (arrayIndex field.1).isSome) fields
  refine List.Perm.trans ?_ split
  apply List.Perm.append_left
  refine (List.reverse_perm _).trans (List.Perm.of_eq ?_)
  apply List.filter_congr
  intro field _
  cases arrayIndex field.1 <;> rfl

theorem wellFormed_reverseNames (wellFormed : (JsonValue.record fields).WellFormed) :
    (JsonValue.record (reverseNames fields)).WellFormed := by
  cases wellFormed with
  | record distinct ordered each =>
  have perm := perm_reverseNames fields
  apply WellFormed.record
  · exact (perm.map fst).nodup_iff.mpr distinct
  · rw [reverseNames, List.pairwise_append]
    refine ⟨ordered.filter _, ?_, ?_⟩
    · rw [List.pairwise_reverse]
      apply List.Pairwise.imp_of_mem (R := fun _ _ => True)
      · intro first second firstIn secondIn _
        have firstName := (List.mem_filter.mp firstIn).2
        have secondName := (List.mem_filter.mp secondIn).2
        rw [isNone_iff_eq_none] at firstName secondName
        simp [MayPrecede, firstName, secondName]
      · exact List.pairwise_of_forall fun _ _ => trivial
    · intro first firstIn second secondIn
      have firstIndex := (List.mem_filter.mp firstIn).2
      have secondName := (List.mem_filter.mp (List.mem_reverse.mp secondIn)).2
      obtain ⟨index, isIndex⟩ := isSome_iff_exists.mp firstIndex
      rw [isNone_iff_eq_none] at secondName
      simp [MayPrecede, isIndex, secondName]
  · intro field mem
    exact each field (perm.mem_iff.mp mem)

theorem sameJson_reverseNames (wellFormed : (JsonValue.record fields).WellFormed) :
    SameJson value (.record fields) (.record (reverseNames fields)) := by
  have perm := perm_reverseNames fields
  cases wellFormed with
  | record distinct ordered each =>
  apply SameJson.record
  · intro key
    exact (perm.map fst).mem_iff.symm
  · intro key one other oneIn otherIn
    rw [← eq_of_same_key distinct oneIn (perm.mem_iff.mp otherIn)]
    exact sameJson_refl (each _ oneIn)

theorem swapped_reverseNames {first second : String} (firstName : arrayIndex first = none)
    (secondName : arrayIndex second = none) (before : [first, second] <+ fields.map fst) :
    [second, first] <+ (reverseNames fields).map fst := by
  have keys : (reverseNames fields).map fst =
      (fields.map fst).filter (fun key => (arrayIndex key).isSome) ++
        ((fields.map fst).filter fun key => (arrayIndex key).isNone).reverse := by
    simp only [reverseNames, List.map_append, List.map_reverse, List.filter_map]
    rfl
  have names := before.filter fun key => (arrayIndex key).isNone
  simp only [List.filter_cons, firstName, secondName, isNone_none, if_true,
    List.filter_nil] at names
  rw [keys]
  exact (List.reverse_sublist.mpr names).trans (List.sublist_append_right _ _)

/-- The tied keys of an object come in the other order in another text. -/
theorem reverseNames_text_ne (documented : node.Documented value)
    (distinct : (fields.map fst).Nodup) {first second : String}
    (firstName : arrayIndex first = none) (secondName : arrayIndex second = none)
    (forth : node.localeCompare first second = true) (back : node.localeCompare second first = true)
    (before : [first, second] <+ fields.map fst)
    (printed : canonicalJson node (.record fields) = some text) :
    canonicalJson node (.record (reverseNames fields)) ≠ some text := by
  intro otherPrinted
  have : Std.Total fun first second : String × String =>
      node.localeCompare first.1 second.1 = true :=
    ⟨fun first second => documented.compareTotal first.1 second.1⟩
  have : IsTrans (String × String) fun first second =>
      node.localeCompare first.1 second.1 = true :=
    ⟨fun first second third => documented.compareTrans first.1 second.1 third.1⟩
  obtain ⟨texts, found, rfl⟩ := map_eq_some_iff.mp printed
  obtain ⟨otherTexts, otherFound, same⟩ := map_eq_some_iff.mp otherPrinted
  have sorted := perm_of_recordText_eq documented otherFound found same
  have perm : texts.Perm otherTexts :=
    (List.perm_insertionSort _ texts).symm.trans (sorted ▸ List.perm_insertionSort _ otherTexts)
  have keys := keys_canonicalFields found
  have textsDistinct : texts.Nodup := by
    apply List.Nodup.of_map fst
    rw [keys]
    exact distinct
  have sameTies := (List.insertionSort_eq_iff (fun first second : String × String =>
    node.localeCompare first.1 second.1 = true) perm textsDistinct).mp sorted.symm
  rw [← keys] at before
  obtain ⟨pair, pairIn, pairKeys⟩ := List.sublist_map_iff.mp before
  match pair, pairKeys with
  | [one, other], pairKeys =>
    obtain ⟨rfl, rfl⟩ := pairKeys
    have stillBefore := (sameTies one other forth back pairIn).map fst
    rw [keys_canonicalFields otherFound] at stillBefore
    have otherDistinct : ((reverseNames fields).map fst).Nodup :=
      ((perm_reverseNames fields).map fst).nodup_iff.mpr distinct
    rw [keys] at before
    exact otherDistinct.not_pair_sublist stillBefore
      (swapped_reverseNames firstName secondName before)

theorem exists_other_text (documented : node.Documented value)
    (tie : HasTie node.localeCompare content) (wellFormed : content.WellFormed)
    (printed : canonicalJson node content = some text) :
    ∃ other : JsonValue, other.WellFormed ∧ SameJson value content other ∧
      canonicalJson node other ≠ some text := by
  induction tie generalizing text with
  | @keys fields first second firstIn secondIn differ firstName secondName forth back =>
    refine ⟨_, wellFormed_reverseNames wellFormed, sameJson_reverseNames wellFormed, ?_⟩
    cases wellFormed with
    | record distinct ordered each =>
    rcases List.pair_sublist_or firstIn secondIn differ with before | after_
    · exact reverseNames_text_ne documented distinct firstName secondName forth back before printed
    · exact reverseNames_text_ne documented distinct secondName firstName back forth after_ printed
  | @item items item mem inside ih =>
    cases wellFormed with
    | array each =>
    obtain ⟨texts, found, rfl⟩ := map_eq_some_iff.mp printed
    obtain ⟨index, itemAt⟩ := List.getElem?_of_mem mem
    obtain ⟨itemText, textAt, itemPrinted⟩ := canonicalItems_getElem? found itemAt
    obtain ⟨other, otherWellFormed, same, differs⟩ := ih (each item mem) itemPrinted
    refine ⟨.array (items.set index other), ?_, ?_, ?_⟩
    · apply WellFormed.array
      intro another anotherIn
      rcases List.mem_or_eq_of_mem_set anotherIn with old | rfl
      · exact each another old
      · exact otherWellFormed
    · apply SameJson.array (List.length_set).symm
      intro place one another oneAt anotherAt
      rcases List.getElem?_set_eq_some itemAt anotherAt with ⟨rfl, rfl⟩ | ⟨-, anotherAt⟩
      · rw [itemAt] at oneAt
        cases oneAt
        exact same
      · rw [oneAt] at anotherAt
        cases anotherAt
        exact sameJson_refl (each one (List.mem_of_getElem? oneAt))
    · intro otherPrinted
      obtain ⟨otherTexts, otherFound, sameText⟩ := map_eq_some_iff.mp otherPrinted
      have sameTexts := items_of_text_eq documented otherFound found sameText
      subst sameTexts
      have otherAt : (items.set index other)[index]? = some other := by
        obtain ⟨inside, -⟩ := List.getElem?_eq_some_iff.mp itemAt
        rw [List.getElem?_set_self inside]
      obtain ⟨otherText, otherTextAt, nowPrinted⟩ := canonicalItems_getElem? otherFound otherAt
      rw [textAt] at otherTextAt
      cases otherTextAt
      exact differs nowPrinted
  | @field fields field mem inside ih =>
    obtain ⟨key, content⟩ := field
    obtain ⟨texts, found, rfl⟩ := map_eq_some_iff.mp printed
    obtain ⟨index, fieldAt⟩ := List.getElem?_of_mem mem
    obtain ⟨⟨entryKey, contentText⟩, entryIn, sameKey, contentPrinted⟩ :=
      (canonicalFields_eq_some.mp found).exists_of_mem_left mem
    cases wellFormed with
    | record distinct ordered each =>
    obtain ⟨other, otherWellFormed, same, differs⟩ := ih (each _ mem) contentPrinted
    have keys : (fields.set index (key, other)).map fst = fields.map fst :=
      List.map_set_of_eq fst fieldAt rfl
    have otherDistinct : ((fields.set index (key, other)).map fst).Nodup := by
      rw [keys]
      exact distinct
    have otherIn : (key, other) ∈ fields.set index (key, other) := by
      obtain ⟨inside, -⟩ := List.getElem?_eq_some_iff.mp fieldAt
      exact List.mem_set inside _
    refine ⟨.record (fields.set index (key, other)), ?_, ?_, ?_⟩
    · refine .record otherDistinct ?_ ?_
      · rw [← List.pairwise_map (f := fst) (R := MayPrecede)] at ordered ⊢
        rwa [keys]
      · intro another anotherIn
        rcases List.mem_or_eq_of_mem_set anotherIn with old | rfl
        · exact each another old
        · exact otherWellFormed
    · apply SameJson.record
      · intro name
        rw [keys]
      · intro name one another oneIn anotherIn
        rcases List.mem_or_eq_of_mem_set anotherIn with old | new
        · rw [← eq_of_same_key distinct oneIn old]
          exact sameJson_refl (each _ oneIn)
        · obtain ⟨rfl, rfl⟩ := Prod.mk.inj new
          rw [eq_of_same_key distinct oneIn mem]
          exact same
    · intro otherPrinted
      obtain ⟨otherTexts, otherFound, sameText⟩ := map_eq_some_iff.mp otherPrinted
      have sorted := perm_of_recordText_eq documented otherFound found sameText
      have perm : texts.Perm otherTexts :=
        (List.perm_insertionSort _ texts).symm.trans (sorted ▸ List.perm_insertionSort _ otherTexts)
      obtain ⟨⟨otherKey, otherContent⟩, fieldIn, alsoKey, nowPrinted⟩ :=
        (mem_canonicalFields otherFound).mp (perm.mem_iff.mp entryIn)
      have sameName : otherKey = key := alsoKey.symm.trans sameKey
      subst sameName
      rw [eq_of_same_key otherDistinct fieldIn otherIn] at nowPrinted
      exact differs nowPrinted

theorem faithful_iff (documented : node.Documented value) (wellFormed : content.WellFormed)
    (printed : canonicalJson node content = some text) : (∀ other : JsonValue, other.WellFormed →
      (canonicalJson node content = canonicalJson node other ↔ SameJson value content other)) ↔
        ¬ HasTie node.localeCompare content := by
  constructor
  · intro faithful tie
    obtain ⟨other, otherWellFormed, same, differs⟩ :=
      exists_other_text documented tie wellFormed printed
    have sameText := (faithful other otherWellFormed).mpr same
    rw [printed] at sameText
    exact differs sameText.symm
  · intro untied other otherWellFormed
    constructor
    · intro sameText
      exact sameJson_of_text_eq documented wellFormed otherWellFormed printed
        (sameText.symm.trans printed)
    · intro same
      exact canonicalJson_eq documented same wellFormed otherWellFormed untied

end CoreAuthorization

end LongHub
