import LongHub.CanonicalJson

/-!
# What canonical JSON tells apart

Canonical JSON tells any two values apart that are not equal up to the order of keys.
-/

namespace LongHub

open List Prod String

structure NodePlatform.Documented (node : NodePlatform) {ν : Type} (value : String → ν) :
    Prop where
  quote : ∀ text, node.quote text = JsonText.quote text
  printed : ∀ literal text, node.printNumber literal = some text →
    text.toList ≠ [] ∧ ∀ char ∈ text.toList, char ∈ "0123456789-+.e".toList
  numbers : ∀ one other text, node.printNumber one = some text →
    (node.printNumber other = some text ↔ value one = value other)
  compareTotal : ∀ first second, node.localeCompare first second ∨ node.localeCompare second first
  compareTrans : ∀ first second third, node.localeCompare first second →
    node.localeCompare second third → node.localeCompare first third

namespace CoreAuthorization

open JsonValue

variable {node : NodePlatform} {ν : Type} {value : String → ν}

theorem FieldText.functional {field : String × JsonValue} {one other : String × String}
    (first : FieldText node field one) (second : FieldText node field other) : one = other := by
  have sameText := first.2.symm.trans second.2
  exact Prod.ext (first.1.trans second.1.symm) (Option.some.inj sameText)

section Fields

variable {fields : List (String × JsonValue)} {texts : List (String × String)}

theorem mem_canonicalFields (found : canonicalFields node fields = some texts)
    {entry : String × String} : entry ∈ texts ↔ ∃ field ∈ fields, FieldText node field entry := by
  have paired := canonicalFields_eq_some.mp found
  constructor
  · exact paired.exists_of_mem_right
  · rintro ⟨field, mem, fieldText⟩
    obtain ⟨other, otherIn, otherText⟩ := paired.exists_of_mem_left mem
    rw [fieldText.functional otherText]
    exact otherIn

theorem keys_canonicalFields (found : canonicalFields node fields = some texts) :
    texts.map fst = fields.map fst := by
  have paired := canonicalFields_eq_some.mp found
  clear found
  induction paired with
  | nil => rfl
  | cons pair rest ih => rw [map_cons, map_cons, ih, pair.1]

theorem canonicalFields_eq_none :
    canonicalFields node fields = none ↔ ∃ field ∈ fields, canonicalJson node field.2 = none := by
  induction fields with
  | nil => simp [canonicalFields]
  | cons field rest ih =>
    obtain ⟨key, content⟩ := field
    cases printed : canonicalJson node content with
    | none => simp [canonicalFields, printed]
    | some text =>
      have split : canonicalFields node ((key, content) :: rest) =
          (canonicalFields node rest).map ((key, text) :: ·) := by
        simp only [canonicalFields, printed]
        cases canonicalFields node rest <;> rfl
      rw [split, Option.map_eq_none_iff, ih]
      simp [printed]

end Fields

section Items

variable {items : List JsonValue} {texts : List String}

theorem canonicalItems_getElem? (found : canonicalItems node items = some texts) {index : Nat}
    {item : JsonValue} (itemAt : items[index]? = some item) :
    ∃ text, texts[index]? = some text ∧ canonicalJson node item = some text := by
  have paired := canonicalItems_eq_some.mp found
  have sameLength := paired.length_eq
  obtain ⟨inside, -⟩ := List.getElem?_eq_some_iff.mp itemAt
  have textAt := getElem?_eq_getElem (sameLength ▸ inside)
  exact ⟨_, textAt, paired.getElem? itemAt textAt⟩

theorem length_canonicalItems (found : canonicalItems node items = some texts) :
    texts.length = items.length :=
  (canonicalItems_eq_some.mp found).length_eq.symm

theorem canonicalItems_congr {others : List JsonValue}
    (same : items.map (canonicalJson node) = others.map (canonicalJson node)) :
    canonicalItems node items = canonicalItems node others := by
  induction items generalizing others with
  | nil =>
    cases others with
    | nil => rfl
    | cons other others => cases same
  | cons item items ih =>
    cases others with
    | nil => cases same
    | cons other others =>
      obtain ⟨head, tail⟩ := List.cons.inj same
      simp only [canonicalItems, head, ih tail]

end Items

/-- The characters of an object. -/
theorem toList_recordText (documented : node.Documented value) (texts : List (String × String)) :
    (recordText node texts).toList = '\x7b' :: JsonText.join
        (((texts.insertionSort fun first second => node.localeCompare first.1 second.1).map
          fun entry => (entry.1, entry.2.toList)).map JsonText.field) ++ ['\x7d'] := by
  have field (entry : String × String) : (node.quote entry.1 ++ ":" ++ entry.2).toList =
      JsonText.field (entry.1, entry.2.toList) := by
    simp [JsonText.field, documented.quote]
  simp only [recordText, toList_append, JsonText.toList_intercalate, List.map_map,
    Function.comp_def, field]
  rfl

theorem isPlain_of_number {char : Char} (mem : char ∈ "0123456789-+.e".toList) :
    JsonText.isPlain char = true := by
  have each : "0123456789-+.e".toList.all JsonText.isPlain = true := by decide
  exact all_eq_true.mp each char mem

variable {text : String} {one other : JsonValue}

variable {content : JsonValue} {fields others : List (String × JsonValue)}
  {texts otherTexts : List (String × String)}

theorem value_canonicalJson (documented : node.Documented value)
    (printed : canonicalJson node content = some text) : JsonText.Value text.toList := by
  induction content using values_induction generalizing text with
  | null =>
    cases printed
    exact .word _ (by decide) (all_eq_true.mp (by decide))
  | bool content =>
    cases printed
    cases content
    · exact .word _ (by decide) (all_eq_true.mp (by decide))
    · exact .word _ (by decide) (all_eq_true.mp (by decide))
  | number literal =>
    obtain ⟨present, characters⟩ := documented.printed literal text printed
    exact .word _ present fun char mem => isPlain_of_number (characters char mem)
  | text content =>
    cases printed
    rw [documented.quote]
    exact .text content
  | array items ih =>
    obtain ⟨texts, found, rfl⟩ := Option.map_eq_some_iff.mp printed
    simp only [toList_append, JsonText.toList_intercalate]
    refine .array (texts.map toList) ?_
    intro chars mem
    obtain ⟨itemText, textIn, rfl⟩ := mem_map.mp mem
    obtain ⟨item, itemIn, itemPrinted⟩ :=
      (canonicalItems_eq_some.mp found).exists_of_mem_right textIn
    exact ih item itemIn itemPrinted
  | record fields ih =>
    obtain ⟨texts, found, rfl⟩ := Option.map_eq_some_iff.mp printed
    rw [toList_recordText documented]
    refine .record _ ?_
    intro entry mem
    obtain ⟨sorted, sortedIn, rfl⟩ := mem_map.mp mem
    rw [mem_insertionSort] at sortedIn
    obtain ⟨field, fieldIn, -, fieldPrinted⟩ := (mem_canonicalFields found).mp sortedIn
    exact ih field fieldIn fieldPrinted

def kind : JsonValue → Nat
  | .null => 0
  | .bool _ => 1
  | .number _ => 2
  | .text _ => 3
  | .array _ => 4
  | .record _ => 5

def kindOfText (chars : List Char) : Nat :=
  match chars.head? with
  | some 'n' => 0
  | some 't' => 1
  | some 'f' => 1
  | some '"' => 3
  | some '[' => 4
  | some '\x7b' => 5
  | _ => 2

theorem kindOfText_canonicalJson (documented : node.Documented value)
    (printed : canonicalJson node content = some text) : kindOfText text.toList = kind content := by
  cases content with
  | null =>
    cases printed
    rfl
  | bool content =>
    cases printed
    cases content <;> rfl
  | number literal =>
    obtain ⟨present, characters⟩ := documented.printed literal text printed
    cases chars : text.toList with
    | nil => exact absurd chars present
    | cons head tail =>
      rw [chars] at characters
      have isNumber := characters head mem_cons_self
      have each : ∀ char ∈ "0123456789-+.e".toList, ∀ tail, kindOfText (char :: tail) = 2 := by
        simp [kindOfText]
      exact each head isNumber tail
  | text content =>
    cases printed
    rw [documented.quote, JsonText.toList_quote]
    rfl
  | array items =>
    obtain ⟨texts, -, rfl⟩ := Option.map_eq_some_iff.mp printed
    rw [toList_append, toList_append]
    rfl
  | record fields =>
    obtain ⟨texts, -, rfl⟩ := Option.map_eq_some_iff.mp printed
    rw [toList_recordText documented]
    rfl

theorem perm_of_recordText_eq (documented : node.Documented value)
    (found : canonicalFields node fields = some texts)
    (otherFound : canonicalFields node others = some otherTexts)
    (same : recordText node texts = recordText node otherTexts) :
    (texts.insertionSort fun first second => node.localeCompare first.1 second.1) =
      otherTexts.insertionSort fun first second => node.localeCompare first.1 second.1 := by
  have isValue {fields : List (String × JsonValue)} {texts : List (String × String)}
      (found : canonicalFields node fields = some texts) : ∀ entry ∈
        (texts.insertionSort fun first second => node.localeCompare first.1 second.1).map
          fun entry => (entry.1, entry.2.toList), JsonText.Value entry.2 := by
    intro entry mem
    obtain ⟨sorted, sortedIn, rfl⟩ := mem_map.mp mem
    rw [mem_insertionSort] at sortedIn
    obtain ⟨field, fieldIn, -, fieldPrinted⟩ := (mem_canonicalFields found).mp sortedIn
    exact value_canonicalJson documented fieldPrinted
  have characters := congrArg toList same
  rw [toList_recordText documented, toList_recordText documented] at characters
  have entries := JsonText.record_injective (isValue found) (isValue otherFound) characters
  have injective : Function.Injective fun entry : String × String =>
      (entry.1, entry.2.toList) := by
    intro one other equal
    obtain ⟨sameKey, sameText⟩ := Prod.mk.inj equal
    exact Prod.ext sameKey (toList_inj.mp sameText)
  exact injective.list_map entries

theorem items_of_text_eq (documented : node.Documented value) {items others : List JsonValue}
    {texts otherTexts : List String} (found : canonicalItems node items = some texts)
    (otherFound : canonicalItems node others = some otherTexts)
    (same : "[" ++ ",".intercalate texts ++ "]" = "[" ++ ",".intercalate otherTexts ++ "]") :
    texts = otherTexts := by
  have isValue {items : List JsonValue} {texts : List String}
      (found : canonicalItems node items = some texts) :
      ∀ chars ∈ texts.map toList, JsonText.Value chars := by
    intro chars mem
    obtain ⟨text, textIn, rfl⟩ := mem_map.mp mem
    obtain ⟨item, -, itemPrinted⟩ := (canonicalItems_eq_some.mp found).exists_of_mem_right textIn
    exact value_canonicalJson documented itemPrinted
  have characters := congrArg toList same
  simp only [toList_append, JsonText.toList_intercalate] at characters
  have chars := JsonText.array_injective (isValue found) (isValue otherFound) characters
  have injective : Function.Injective toList := fun _ _ equal => toList_inj.mp equal
  exact injective.list_map chars

theorem eq_of_same_key {entries : List (String × JsonValue)}
    (distinct : (entries.map fst).Nodup) {key : String} (oneIn : (key, one) ∈ entries)
    (otherIn : (key, other) ∈ entries) : one = other := by
  have same := inj_on_of_nodup_map distinct oneIn otherIn rfl
  exact (Prod.mk.inj same).2

theorem sameJson_of_text_eq (documented : node.Documented value) (wellFormed : one.WellFormed)
    (otherWellFormed : other.WellFormed) (printed : canonicalJson node one = some text)
    (otherPrinted : canonicalJson node other = some text) : SameJson value one other := by
  have sameKind : kind one = kind other :=
    (kindOfText_canonicalJson documented printed).symm.trans
      (kindOfText_canonicalJson documented otherPrinted)
  induction one using values_induction generalizing other text with
  | null =>
    cases other with
    | null => exact .null
    | _ => cases sameKind
  | bool content =>
    cases other with
    | bool otherContent =>
      have same := printed.trans otherPrinted.symm
      cases content <;> cases otherContent
      · exact .bool _
      · exact absurd (Option.some.inj same) (by decide)
      · exact absurd (Option.some.inj same) (by decide)
      · exact .bool _
    | _ => cases sameKind
  | number literal =>
    cases other with
    | number otherLiteral =>
      exact .number ((documented.numbers literal otherLiteral text printed).mp otherPrinted)
    | _ => cases sameKind
  | text content =>
    cases other with
    | text otherContent =>
      have same := Option.some.inj (printed.trans otherPrinted.symm)
      rw [documented.quote, documented.quote] at same
      have contents := (@JsonText.quote_unique content otherContent [] [] (by rw [same])).1
      rw [contents]
      exact .text otherContent
    | _ => cases sameKind
  | array items ih =>
    cases other with
    | array others =>
      obtain ⟨texts, found, rfl⟩ := Option.map_eq_some_iff.mp printed
      obtain ⟨otherTexts, otherFound, same⟩ := Option.map_eq_some_iff.mp otherPrinted
      have sameTexts := items_of_text_eq documented otherFound found same
      subst sameTexts
      cases wellFormed with
      | array each =>
      cases otherWellFormed with
      | array otherEach =>
      apply SameJson.array
      · rw [← length_canonicalItems found, length_canonicalItems otherFound]
      · intro index item otherItem itemAt otherAt
        obtain ⟨itemText, textAt, itemPrinted⟩ := canonicalItems_getElem? found itemAt
        obtain ⟨otherText, otherTextAt, otherItemPrinted⟩ :=
          canonicalItems_getElem? otherFound otherAt
        rw [textAt] at otherTextAt
        cases otherTextAt
        have itemIn := mem_of_getElem? itemAt
        have sameItemKind := (kindOfText_canonicalJson documented itemPrinted).symm.trans
          (kindOfText_canonicalJson documented otherItemPrinted)
        exact ih item itemIn (each item itemIn) (otherEach otherItem (mem_of_getElem? otherAt))
          itemPrinted otherItemPrinted sameItemKind
    | _ => cases sameKind
  | record fields ih =>
    cases other with
    | record others =>
      obtain ⟨texts, found, rfl⟩ := Option.map_eq_some_iff.mp printed
      obtain ⟨otherTexts, otherFound, same⟩ := Option.map_eq_some_iff.mp otherPrinted
      have sorted := perm_of_recordText_eq documented otherFound found same
      have perm : otherTexts.Perm texts :=
        (perm_insertionSort _ otherTexts).symm.trans (sorted ▸ perm_insertionSort _ texts)
      cases wellFormed with
      | record distinct ordered each =>
      cases otherWellFormed with
      | record otherDistinct otherOrdered otherEach =>
      apply SameJson.record
      · intro key
        rw [← keys_canonicalFields found, ← keys_canonicalFields otherFound]
        exact (perm.map fst).mem_iff.symm
      · intro key content otherContent fieldIn otherIn
        obtain ⟨entry, entryIn, entryKey, contentPrinted⟩ :=
          (canonicalFields_eq_some.mp found).exists_of_mem_left fieldIn
        obtain ⟨field, otherFieldIn, otherKey, otherPrinted⟩ :=
          (mem_canonicalFields otherFound).mp (perm.mem_iff.mpr entryIn)
        have sameKey : field.1 = key := otherKey.symm.trans entryKey
        have same := eq_of_same_key otherDistinct (sameKey ▸ otherFieldIn : (key, field.2) ∈ _)
          otherIn
        rw [same] at otherPrinted
        have sameItemKind := (kindOfText_canonicalJson documented contentPrinted).symm.trans
          (kindOfText_canonicalJson documented otherPrinted)
        exact ih (key, content) fieldIn (each _ fieldIn) (otherEach _ otherIn) contentPrinted
          otherPrinted sameItemKind
    | _ => cases sameKind

/-- Two keys of one object: either may come first, or their order is given. -/
theorem precede_cases (first second : String) :
    (arrayIndex first = none ∧ arrayIndex second = none) ∨
      ¬ MayPrecede first second ∨ ¬ MayPrecede second first := by
  unfold MayPrecede
  cases arrayIndex first with
  | none =>
    cases arrayIndex second with
    | none => exact .inl ⟨rfl, rfl⟩
    | some other => exact .inr (.inl id)
  | some one =>
    cases arrayIndex second with
    | none => exact .inr (.inr id)
    | some other =>
      right
      by_cases smaller : one < other
      · exact .inr (by simpa using smaller.le)
      · exact .inl smaller

theorem recordText_eq (documented : node.Documented value)
    (found : canonicalFields node fields = some texts)
    (otherFound : canonicalFields node others = some otherTexts) (distinct : (fields.map fst).Nodup)
    (ordered : fields.Pairwise fun first second => MayPrecede first.1 second.1)
    (otherOrdered : others.Pairwise fun first second => MayPrecede first.1 second.1)
    (untied : ¬ HasTie node.localeCompare (.record fields)) (perm : texts.Perm otherTexts) :
    recordText node texts = recordText node otherTexts := by
  have : Std.Total fun first second : String × String =>
      node.localeCompare first.1 second.1 = true :=
    ⟨fun first second => documented.compareTotal first.1 second.1⟩
  have : IsTrans (String × String) fun first second =>
      node.localeCompare first.1 second.1 = true :=
    ⟨fun first second third => documented.compareTrans first.1 second.1 third.1⟩
  have keys := keys_canonicalFields found
  have keysDistinct : (texts.map fst).Nodup := by rw [keys]; exact distinct
  have inOrder {fields : List (String × JsonValue)} {texts : List (String × String)}
      (found : canonicalFields node fields = some texts)
      (ordered : fields.Pairwise fun first second => MayPrecede first.1 second.1) :
      texts.Pairwise fun first second => MayPrecede first.1 second.1 := by
    rw [← pairwise_map (f := fst) (R := MayPrecede)] at ordered ⊢
    rwa [keys_canonicalFields found]
  have sorted := (List.insertionSort_eq_iff
    (fun first second : String × String => node.localeCompare first.1 second.1 = true) perm
    (List.Nodup.of_map _ keysDistinct)).mpr ?_
  · unfold recordText
    rw [sorted]
  intro first second forth back before
  have firstIn := before.subset mem_cons_self
  have secondIn := before.subset (mem_cons_of_mem _ mem_cons_self)
  have differ : first ≠ second := by
    have pair := (List.Nodup.of_map _ keysDistinct).sublist before
    simpa using pair
  have differentKeys : first.1 ≠ second.1 := fun same =>
    differ (inj_on_of_nodup_map keysDistinct firstIn secondIn same)
  have precedes := pairwise_iff_forall_sublist.mp (inOrder found ordered) before
  rcases precede_cases first.1 second.1 with ⟨firstName, secondName⟩ | notFirst | notSecond
  · have firstKey : first.1 ∈ fields.map fst := keys ▸ mem_map_of_mem firstIn
    have secondKey : second.1 ∈ fields.map fst := keys ▸ mem_map_of_mem secondIn
    exact absurd (.keys firstKey secondKey differentKeys firstName secondName forth back) untied
  · exact absurd precedes notFirst
  · rcases List.pair_sublist_or (perm.mem_iff.mp firstIn) (perm.mem_iff.mp secondIn)
      differ with sameOrder | swapped
    · exact sameOrder
    · exact absurd
        (pairwise_iff_forall_sublist.mp (inOrder otherFound otherOrdered) swapped) notSecond

/-- Equal values have equal texts, if no keys of one object compare as equal. -/
theorem canonicalJson_eq (documented : node.Documented value) (same : SameJson value one other)
    (wellFormed : one.WellFormed) (otherWellFormed : other.WellFormed)
    (untied : ¬ HasTie node.localeCompare one) :
    canonicalJson node one = canonicalJson node other := by
  induction same with
  | null => rfl
  | bool content => rfl
  | text content => rfl
  | @number one other same =>
    simp only [canonicalJson]
    cases printed : node.printNumber one with
    | some text => exact ((documented.numbers one other text printed).mpr same).symm
    | none =>
      cases otherPrinted : node.printNumber other with
      | none => rfl
      | some text =>
        have alsoPrinted := (documented.numbers other one text otherPrinted).mpr same.symm
        rw [printed] at alsoPrinted
        cases alsoPrinted
  | @array items others length each ih =>
    cases wellFormed with
    | array wellFormed =>
    cases otherWellFormed with
    | array otherWellFormed =>
    have eachSame (index : Nat) (item other : JsonValue) (itemAt : items[index]? = some item)
        (otherAt : others[index]? = some other) :
        canonicalJson node item = canonicalJson node other := by
      have itemIn := mem_of_getElem? itemAt
      exact ih index item other itemAt otherAt (wellFormed item itemIn)
        (otherWellFormed other (mem_of_getElem? otherAt))
        fun tie => untied (.item itemIn tie)
    have texts : items.map (canonicalJson node) = others.map (canonicalJson node) := by
      apply ext_getElem?
      intro index
      rw [getElem?_map, getElem?_map]
      cases itemAt : items[index]? with
      | none =>
        rw [List.getElem?_eq_none_iff, length, ← List.getElem?_eq_none_iff] at itemAt
        rw [itemAt]
      | some item =>
        obtain ⟨inside, -⟩ := List.getElem?_eq_some_iff.mp itemAt
        have otherAt := getElem?_eq_getElem (length ▸ inside)
        rw [otherAt, Option.map_some, Option.map_some, eachSame index item _ itemAt otherAt]
    simp only [canonicalJson, canonicalItems_congr texts]
  | @record fields others keys each ih =>
    cases wellFormed with
    | record distinct ordered wellFormed =>
    cases otherWellFormed with
    | record otherDistinct otherOrdered otherWellFormed =>
    have eachSame {key : String} {content otherContent : JsonValue}
        (fieldIn : (key, content) ∈ fields) (otherIn : (key, otherContent) ∈ others) :
        canonicalJson node content = canonicalJson node otherContent :=
      ih key content otherContent fieldIn otherIn (wellFormed _ fieldIn)
        (otherWellFormed _ otherIn) fun tie => untied (.field fieldIn tie)
    have partner {key : String} {content : JsonValue} (fieldIn : (key, content) ∈ fields) :
        ∃ otherContent, (key, otherContent) ∈ others := by
      have keyIn := (keys key).mp (mem_map_of_mem (f := fst) fieldIn)
      obtain ⟨⟨otherKey, otherContent⟩, otherIn, rfl⟩ := mem_map.mp keyIn
      exact ⟨otherContent, otherIn⟩
    have otherPartner {key : String} {content : JsonValue} (otherIn : (key, content) ∈ others) :
        ∃ otherContent, (key, otherContent) ∈ fields := by
      have keyIn := (keys key).mpr (mem_map_of_mem (f := fst) otherIn)
      obtain ⟨⟨otherKey, otherContent⟩, fieldIn, rfl⟩ := mem_map.mp keyIn
      exact ⟨otherContent, fieldIn⟩
    simp only [canonicalJson]
    cases found : canonicalFields node fields with
    | none =>
      obtain ⟨⟨key, content⟩, fieldIn, unprinted⟩ := canonicalFields_eq_none.mp found
      obtain ⟨otherContent, otherIn⟩ := partner fieldIn
      have otherNone := canonicalFields_eq_none.mpr
        ⟨_, otherIn, (eachSame fieldIn otherIn).symm.trans unprinted⟩
      rw [otherNone]
    | some texts =>
      cases otherFound : canonicalFields node others with
      | none =>
        obtain ⟨⟨key, content⟩, otherIn, unprinted⟩ := canonicalFields_eq_none.mp otherFound
        obtain ⟨fieldContent, fieldIn⟩ := otherPartner otherIn
        have absent := canonicalFields_eq_none.mpr
          ⟨_, fieldIn, (eachSame fieldIn otherIn).trans unprinted⟩
        rw [found] at absent
        cases absent
      | some otherTexts =>
        have nodup {fields : List (String × JsonValue)} {texts : List (String × String)}
            (found : canonicalFields node fields = some texts)
            (distinct : (fields.map fst).Nodup) : texts.Nodup := by
          apply List.Nodup.of_map fst
          rw [keys_canonicalFields found]
          exact distinct
        have perm : texts.Perm otherTexts := by
          rw [perm_ext_iff_of_nodup (nodup found distinct) (nodup otherFound otherDistinct)]
          intro entry
          rw [mem_canonicalFields found, mem_canonicalFields otherFound]
          constructor
          · rintro ⟨⟨key, content⟩, fieldIn, entryKey, printed⟩
            obtain ⟨otherContent, otherIn⟩ := partner fieldIn
            exact ⟨_, otherIn, entryKey, (eachSame fieldIn otherIn).symm.trans printed⟩
          · rintro ⟨⟨key, content⟩, otherIn, entryKey, printed⟩
            obtain ⟨fieldContent, fieldIn⟩ := otherPartner otherIn
            exact ⟨_, fieldIn, entryKey, (eachSame fieldIn otherIn).trans printed⟩
        exact congrArg some (recordText_eq documented found otherFound distinct ordered
          otherOrdered untied perm)

end CoreAuthorization

end LongHub
