import LongHub.CanonicalTies

/-!
# The canonical JSON of the Executor and of Core

The text of the Executor is that of Core for values that are at most one
hundred levels deep, and there is none for deeper values.  So both stand for
their values in the same way.
-/

namespace LongHub

open List

namespace JsonValue

mutual

/-- How many levels deep a value is. -/
def height : JsonValue → Nat
  | .array items => itemsHeight items
  | .record fields => fieldsHeight fields
  | _ => 0

def itemsHeight : List JsonValue → Nat
  | [] => 0
  | item :: rest => max (height item + 1) (itemsHeight rest)

def fieldsHeight : List (String × JsonValue) → Nat
  | [] => 0
  | (_, value) :: rest => max (height value + 1) (fieldsHeight rest)

end

theorem itemsHeight_le {items : List JsonValue} {bound : Nat} :
    itemsHeight items ≤ bound ↔ ∀ item ∈ items, item.height + 1 ≤ bound := by
  induction items with
  | nil => simp [itemsHeight]
  | cons item rest ih => simp [itemsHeight, ih]

theorem fieldsHeight_le {fields : List (String × JsonValue)} {bound : Nat} :
    fieldsHeight fields ≤ bound ↔ ∀ field ∈ fields, field.2.height + 1 ≤ bound := by
  induction fields with
  | nil => simp [fieldsHeight]
  | cons field rest ih =>
    simp [fieldsHeight, ih]

variable {ν : Type} {value : String → ν}

/-- Equal values are equally deep. -/
theorem SameJson.height_eq {one other : JsonValue} (same : SameJson value one other) :
    one.height = other.height := by
  induction same with
  | null => rfl
  | bool content => rfl
  | number same => rfl
  | text content => rfl
  | @array items others length each ih =>
    apply Nat.le_antisymm
    · apply itemsHeight_le.mpr
      intro item itemIn
      obtain ⟨index, itemAt⟩ := getElem?_of_mem itemIn
      obtain ⟨inside, -⟩ := List.getElem?_eq_some_iff.mp itemAt
      have otherAt := getElem?_eq_getElem (length ▸ inside)
      rw [ih index item _ itemAt otherAt]
      exact itemsHeight_le.mp le_rfl _ (mem_of_getElem? otherAt)
    · apply itemsHeight_le.mpr
      intro other otherIn
      obtain ⟨index, otherAt⟩ := getElem?_of_mem otherIn
      obtain ⟨inside, -⟩ := List.getElem?_eq_some_iff.mp otherAt
      have itemAt := getElem?_eq_getElem (length.symm ▸ inside)
      rw [← ih index _ other itemAt otherAt]
      exact itemsHeight_le.mp le_rfl _ (mem_of_getElem? itemAt)
  | @record fields others keys each ih =>
    apply Nat.le_antisymm
    · apply fieldsHeight_le.mpr
      rintro ⟨key, content⟩ fieldIn
      have keyIn := (keys key).mp (mem_map_of_mem (f := Prod.fst) fieldIn)
      obtain ⟨⟨otherKey, otherContent⟩, otherIn, rfl⟩ := mem_map.mp keyIn
      rw [ih otherKey content otherContent fieldIn otherIn]
      exact fieldsHeight_le.mp le_rfl _ otherIn
    · apply fieldsHeight_le.mpr
      rintro ⟨key, content⟩ otherIn
      have keyIn := (keys key).mpr (mem_map_of_mem (f := Prod.fst) otherIn)
      obtain ⟨⟨fieldKey, fieldContent⟩, fieldIn, rfl⟩ := mem_map.mp keyIn
      rw [← ih fieldKey fieldContent content fieldIn otherIn]
      exact fieldsHeight_le.mp le_rfl _ fieldIn

end JsonValue

open JsonValue

variable {node : NodePlatform}

theorem canonicalItems_eq {depth : Nat} (within : depth ≤ 100) {items : List JsonValue}
    (each : ∀ item ∈ items, ∀ depth, canonicalJson node depth item =
      if depth + item.height ≤ 100 then CoreAuthorization.canonicalJson node item else none) :
    canonicalItems node (depth + 1) items =
      if depth + itemsHeight items ≤ 100 then CoreAuthorization.canonicalItems node items
      else none := by
  induction items with
  | nil => simp [canonicalItems, CoreAuthorization.canonicalItems, itemsHeight, within]
  | cons item rest ih =>
    have inRest := ih fun item mem => each item (mem_cons_of_mem _ mem)
    simp only [canonicalItems, CoreAuthorization.canonicalItems, itemsHeight,
      each item mem_cons_self, inRest]
    by_cases shallow : depth + 1 + item.height ≤ 100
    · by_cases restShallow : depth + itemsHeight rest ≤ 100
      · have both : depth + max (item.height + 1) (itemsHeight rest) ≤ 100 := by omega
        simp only [shallow, restShallow, both, if_true]
      · have deep : ¬ depth + max (item.height + 1) (itemsHeight rest) ≤ 100 := by omega
        simp only [shallow, restShallow, deep, if_true, if_false]
        cases CoreAuthorization.canonicalJson node item <;> rfl
    · have deep : ¬ depth + max (item.height + 1) (itemsHeight rest) ≤ 100 := by omega
      simp only [shallow, deep, if_false]
      rfl

theorem canonicalFields_eq {depth : Nat} (within : depth ≤ 100) {fields : List (String × JsonValue)}
    (each : ∀ field ∈ fields, ∀ depth, canonicalJson node depth field.2 =
      if depth + field.2.height ≤ 100 then CoreAuthorization.canonicalJson node field.2 else none) :
    canonicalFields node (depth + 1) fields =
      if depth + fieldsHeight fields ≤ 100 then CoreAuthorization.canonicalFields node fields
      else none := by
  induction fields with
  | nil => simp [canonicalFields, CoreAuthorization.canonicalFields, fieldsHeight, within]
  | cons field rest ih =>
    obtain ⟨key, content⟩ := field
    have inRest := ih fun field mem => each field (mem_cons_of_mem _ mem)
    have here := each (key, content) mem_cons_self (depth + 1)
    simp only [canonicalFields, CoreAuthorization.canonicalFields, fieldsHeight, here, inRest]
    by_cases shallow : depth + 1 + content.height ≤ 100
    · by_cases restShallow : depth + fieldsHeight rest ≤ 100
      · have both : depth + max (content.height + 1) (fieldsHeight rest) ≤ 100 := by omega
        simp only [shallow, restShallow, both, if_true]
      · have deep : ¬ depth + max (content.height + 1) (fieldsHeight rest) ≤ 100 := by omega
        simp only [shallow, restShallow, deep, if_true, if_false]
        cases CoreAuthorization.canonicalJson node content <;> rfl
    · have deep : ¬ depth + max (content.height + 1) (fieldsHeight rest) ≤ 100 := by omega
      simp only [shallow, deep, if_false]
      rfl

theorem canonicalJson_eq_core (depth : Nat) (content : JsonValue) :
    canonicalJson node depth content =
      if depth + content.height ≤ 100 then CoreAuthorization.canonicalJson node content
      else none := by
  have limit {text : Option String} {depth : Nat} : (if 100 < depth then none else text) =
      if depth + 0 ≤ 100 then text else none := by
    by_cases deep : 100 < depth
    · have notWithin : ¬ depth ≤ 100 := by omega
      simp [deep, notWithin]
    · have within : depth ≤ 100 := by omega
      simp [deep, within]
  induction content using values_induction generalizing depth with
  | null => exact limit
  | bool content => exact limit
  | number literal => exact limit
  | text content => exact limit
  | array items ih =>
    have heightEq : (JsonValue.array items).height = itemsHeight items := rfl
    simp only [canonicalJson, CoreAuthorization.canonicalJson]
    rw [heightEq]
    by_cases deep : 100 < depth
    · have tooDeep : ¬ depth + itemsHeight items ≤ 100 := by omega
      simp only [deep, tooDeep, if_true, if_false]
    · rw [if_neg deep, canonicalItems_eq (not_lt.mp deep) ih]
      by_cases shallow : depth + itemsHeight items ≤ 100
      · rw [if_pos shallow, if_pos shallow]
      · rw [if_neg shallow, if_neg shallow, Option.map_none]
  | record fields ih =>
    have heightEq : (JsonValue.record fields).height = fieldsHeight fields := rfl
    simp only [canonicalJson, CoreAuthorization.canonicalJson]
    rw [heightEq]
    by_cases deep : 100 < depth
    · have tooDeep : ¬ depth + fieldsHeight fields ≤ 100 := by omega
      simp only [deep, tooDeep, if_true, if_false]
    · rw [if_neg deep, canonicalFields_eq (not_lt.mp deep) ih]
      by_cases shallow : depth + fieldsHeight fields ≤ 100
      · rw [if_pos shallow, if_pos shallow]
        rfl
      · rw [if_neg shallow, if_neg shallow, Option.map_none]

variable {ν : Type} {value : String → ν}

def FaithfulText (print : JsonValue → Option String) (value : String → ν)
    (content : JsonValue) : Prop :=
  ∀ other : JsonValue, other.WellFormed →
    (print content = print other ↔ SameJson value content other)

theorem executorText_faithful_iff (documented : node.Documented value) {content : JsonValue}
    (wellFormed : content.WellFormed) {text : String}
    (printed : canonicalJson node 0 content = some text) :
    FaithfulText (canonicalJson node 0) value content ↔ ¬ HasTie node.localeCompare content := by
  have shallow : 0 + content.height ≤ 100 := by
    by_contra deep
    rw [canonicalJson_eq_core, if_neg deep] at printed
    cases printed
  have core : CoreAuthorization.canonicalJson node content = some text := by
    rw [canonicalJson_eq_core, if_pos shallow] at printed
    exact printed
  rw [← CoreAuthorization.faithful_iff documented wellFormed core]
  have sameTexts (other : JsonValue) (same : SameJson value content other) :
      canonicalJson node 0 other = CoreAuthorization.canonicalJson node other := by
    rw [canonicalJson_eq_core, if_pos (same.height_eq ▸ shallow)]
  constructor
  · intro faithful other otherWellFormed
    constructor
    · intro sameText
      exact CoreAuthorization.sameJson_of_text_eq documented wellFormed otherWellFormed core
        (sameText.symm.trans core)
    · intro same
      have equal := (faithful other otherWellFormed).mpr same
      rw [printed, sameTexts other same] at equal
      exact core.trans equal
  · intro faithful other otherWellFormed
    constructor
    · intro sameText
      rw [printed, canonicalJson_eq_core] at sameText
      split at sameText
      · exact (faithful other otherWellFormed).mp (core.trans sameText)
      · cases sameText
    · intro same
      rw [sameTexts other same, printed, ← core]
      exact (faithful other otherWellFormed).mpr same

/-- Both texts of a value stand for it exactly when no object inside has two keys
that compare as equal and are not array indices. -/
theorem faithfulTexts_iff (documented : node.Documented value) {content : JsonValue}
    (wellFormed : content.WellFormed) : (∀ text, canonicalJson node 0 content = some text →
      (FaithfulText (canonicalJson node 0) value content ↔ ¬ HasTie node.localeCompare content)) ∧
    ∀ text, CoreAuthorization.canonicalJson node content = some text →
      (FaithfulText (CoreAuthorization.canonicalJson node) value content ↔
        ¬ HasTie node.localeCompare content) := by
  constructor
  · intro text printed
    exact executorText_faithful_iff documented wellFormed printed
  · intro text printed
    exact CoreAuthorization.faithful_iff documented wellFormed printed

/-- The property that the texts of every value stand for it. -/
def FaithfulLaw : Prop :=
  ∀ (node : NodePlatform) (ν : Type) (value : String → ν), node.Documented value →
    ∀ content : JsonValue, content.WellFormed → (∀ text, canonicalJson node 0 content = some text →
        FaithfulText (canonicalJson node 0) value content) ∧
      ∀ text, CoreAuthorization.canonicalJson node content = some text →
        FaithfulText (CoreAuthorization.canonicalJson node) value content

def composingNode : NodePlatform where
  parseJson _ := none
  utf8Text _ := ""
  hmacSha256 _ _ := []
  sha256Hex := id
  integerOf _ := none
  printNumber literal :=
    if literal ≠ "" && literal.toList.all (· ∈ "0123456789-+.e".toList) then some literal else none
  quote := JsonText.quote
  localeCompare first second :=
    let compose := fun key => if key = "e\u0301" then "\u00e9" else key
    compose first ≤ compose second

theorem documented_composingNode : composingNode.Documented id where
  quote _ := rfl
  printed := by
    intro literal text printed
    simp only [composingNode, Bool.and_eq_true, decide_eq_true_eq, all_eq_true] at printed
    split at printed
    · next valid =>
      cases printed
      refine ⟨?_, valid.2⟩
      intro empty
      exact valid.1 (String.toList_inj.mp empty)
    · cases printed
  numbers := by
    intro one other text printed
    simp only [composingNode] at printed ⊢
    split at printed
    · next valid =>
      cases printed
      constructor
      · intro otherPrinted
        split at otherPrinted
        · exact (Option.some.inj otherPrinted).symm
        · cases otherPrinted
      · intro same
        rw [show other = one from same.symm, if_pos valid]
    · cases printed
  compareTotal first second := by
    simp only [composingNode, decide_eq_true_eq]
    exact String.le_total _ _
  compareTrans first second third := by
    simp only [composingNode, decide_eq_true_eq]
    exact String.le_trans

def bothForms : JsonValue :=
  .record [("\u00e9", .number "1"), ("e\u0301", .number "2")]

theorem wellFormed_bothForms : bothForms.WellFormed := by
  refine .record (by decide) (by simp [MayPrecede, arrayIndex]) ?_
  intro field mem
  simp only [mem_cons, not_mem_nil, or_false] at mem
  rcases mem with rfl | rfl
  · exact .number "1"
  · exact .number "2"

theorem faithfulTexts_iff_bothForms :
    (∀ text, canonicalJson composingNode 0 bothForms = some text →
      (FaithfulText (canonicalJson composingNode 0) id bothForms ↔
        ¬ HasTie composingNode.localeCompare bothForms)) ∧
    ∀ text, CoreAuthorization.canonicalJson composingNode bothForms = some text →
      (FaithfulText (CoreAuthorization.canonicalJson composingNode) id bothForms ↔
        ¬ HasTie composingNode.localeCompare bothForms) :=
  faithfulTexts_iff documented_composingNode wellFormed_bothForms

/-- The two orders of the keys have two texts. -/
theorem not_faithfulLaw : ¬ FaithfulLaw := by
  intro law
  have printed : canonicalJson composingNode 0 bothForms =
      some "\x7b\"\u00e9\":1,\"e\u0301\":2\x7d" := by decide
  have faithful := (law composingNode String id documented_composingNode bothForms
    wellFormed_bothForms).1 _ printed
  have tie : HasTie composingNode.localeCompare bothForms :=
    @HasTie.keys _ _ "\u00e9" "e\u0301" (by decide) (by decide) (by decide) (by decide) (by decide)
      (by decide) (by decide)
  exact (executorText_faithful_iff documented_composingNode wellFormed_bothForms printed).mp
    faithful tie

end LongHub
