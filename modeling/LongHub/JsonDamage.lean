import LongHub.JsonRoundTrip
import LongHub.Utf8Decoder
import Mathlib.Algebra.Order.BigOperators.Group.List
import Mathlib.Algebra.Order.Ring.Nat

/-!
# Damaged JSON texts

Characters outside ASCII stand only between quotes. Whatever replaces them, the text of a value
becomes the text of a value of the same shape.
-/

namespace LongHub

open Function JsonText List

namespace JsonValue

open Utf8Decoder (Damaged replacement)

variable {char : Char} {whole : List Char} {value : JsonValue}

theorem ascii_escape (narrow : char.toNat < 128) : ∀ other ∈ escape char, other.toNat < 128 := by
  have each : ∀ code : Fin 128, (escape (Char.ofNat code)).all
      fun other => other.toNat < 128 := by decide
  have all := each ⟨char.toNat, narrow⟩
  rw [Char.ofNat_toNat] at all
  intro other mem
  exact of_decide_eq_true (all_eq_true.mp all other mem)

theorem escape_of_wide (wide : 128 ≤ char.toNat) : escape char = [char] := by
  have other (code : Nat) (small : code < 128) : char.toNat ≠ code := by omega
  have notQuote : char ≠ '"' := fun same => other 34 (by decide) (same ▸ rfl)
  have notSlash : char ≠ '\\' := fun same => other 92 (by decide) (same ▸ rfl)
  rw [escape, if_neg notQuote, if_neg notSlash, if_neg (by omega), if_neg (by omega),
    if_neg (by omega), if_neg (by omega), if_neg (by omega), if_neg (by omega)]

theorem escape_replacement : escape replacement = [replacement] := by decide

theorem flatMap_escape_replicate (count : Nat) :
    (replicate count replacement).flatMap escape = replicate count replacement := by
  induction count with
  | zero => rfl
  | succ count ih =>
    rw [replicate_succ, flatMap_cons, ih, escape_replacement]
    rfl

variable {after text : List Char} {texts afters : List (List Char)}

theorem damaged_escape (damaged : Damaged (escape char) after) :
    ∃ chars : List Char, after = chars.flatMap escape := by
  have kept : escape char = [char].flatMap escape := by simp
  by_cases narrow : char.toNat < 128
  · exact ⟨[char], (damaged.eq_of_ascii (ascii_escape narrow)).trans kept⟩
  · have plain := escape_of_wide (Nat.le_of_not_lt narrow)
    rw [plain] at damaged
    cases damaged with
    | kept _ rest =>
      cases rest with
      | nil => exact ⟨[char], plain.symm.trans kept⟩
    | @broken _ count _ _ wide many rest =>
      cases rest with
      | nil =>
        refine ⟨replicate count replacement, ?_⟩
        rw [flatMap_escape_replicate, append_nil]

theorem damaged_escapes {chars : List Char} (damaged : Damaged (chars.flatMap escape) after) :
    ∃ others : List Char, after = others.flatMap escape := by
  induction chars generalizing after with
  | nil =>
    cases damaged with
    | nil => exact ⟨[], rfl⟩
  | cons char chars ih =>
    obtain ⟨first, rest, rfl, firstDamaged, restDamaged⟩ := damaged.split
    obtain ⟨here, rfl⟩ := damaged_escape firstDamaged
    obtain ⟨others, rfl⟩ := ih restDamaged
    exact ⟨here ++ others, flatMap_append.symm⟩

theorem damaged_ascii_cons (ascii : char.toNat < 128) (damaged : Damaged (char :: text) whole) :
    ∃ after, whole = char :: after ∧ Damaged text after := by
  cases damaged with
  | kept _ rest => exact ⟨_, rfl, rest⟩
  | broken wide many rest => omega

theorem damaged_ascii_last (ascii : char.toNat < 128) (damaged : Damaged (text ++ [char]) whole) :
    ∃ after, whole = after ++ [char] ∧ Damaged text after := by
  obtain ⟨after, last, rfl, textDamaged, lastDamaged⟩ := damaged.split
  obtain ⟨rest, rfl, restDamaged⟩ := damaged_ascii_cons ascii lastDamaged
  cases restDamaged with
  | nil => exact ⟨after, rfl, textDamaged⟩

theorem damaged_quote {content : String} (damaged : Damaged (quote content).toList whole) :
    ∃ other : String, whole = (quote other).toList := by
  rw [toList_quote] at damaged
  obtain ⟨rest, rfl, restDamaged⟩ := damaged_ascii_cons (by decide) damaged
  obtain ⟨inside, rfl, insideDamaged⟩ := damaged_ascii_last (by decide) restDamaged
  obtain ⟨others, rfl⟩ := damaged_escapes insideDamaged
  exact ⟨String.ofList others, by rw [toList_quote, String.toList_ofList]⟩

theorem damaged_join (damaged : Damaged (join texts) whole) :
    ∃ afters, whole = join afters ∧ List.Forall₂ Damaged texts afters := by
  induction texts generalizing whole with
  | nil =>
    cases damaged with
    | nil => exact ⟨[], rfl, .nil⟩
  | cons text rest ih =>
    cases rest with
    | nil => exact ⟨[whole], rfl, .cons damaged .nil⟩
    | cons next rest =>
      obtain ⟨first, more, rfl, firstDamaged, moreDamaged⟩ := Damaged.split damaged
      obtain ⟨others, rfl, othersDamaged⟩ := damaged_ascii_cons (by decide) moreDamaged
      obtain ⟨afters, rfl, paired⟩ := ih othersDamaged
      refine ⟨first :: afters, ?_, .cons firstDamaged paired⟩
      cases paired with
      | cons _ _ => rfl

theorem newLine_notMem_escapes (chars : List Char) : '\n' ∉ chars.flatMap escape := by
  intro mem
  obtain ⟨char, -, inEscape⟩ := mem_flatMap.mp mem
  by_cases narrow : char.toNat < 128
  · have each : ∀ code : Fin 128, '\n' ∉ escape (Char.ofNat code) := by decide
    have absent := each ⟨char.toNat, narrow⟩
    rw [Char.ofNat_toNat] at absent
    exact absent inEscape
  · rw [escape_of_wide (Nat.le_of_not_lt narrow), mem_singleton] at inEscape
    subst inEscape
    exact narrow (by decide)

theorem newLine_notMem_quote (content : String) : '\n' ∉ (quote content).toList := by
  have inside := newLine_notMem_escapes content.toList
  simp [toList_quote, inside]

theorem newLine_notMem_join (each : ∀ text ∈ texts, '\n' ∉ text) : '\n' ∉ join texts := by
  induction texts with
  | nil => simp [join]
  | cons text rest ih =>
    have here := each text mem_cons_self
    have later := ih fun other mem => each other (mem_cons_of_mem _ mem)
    cases rest with
    | nil => simpa [join] using here
    | cons next rest => simp [join, here, later]

theorem newLine_notMem_print (numerals : value.Numerals) : '\n' ∉ print value := by
  induction numerals with
  | null => decide
  | bool value => cases value <;> decide
  | number numeral =>
    intro mem
    have number := isNumberChar_of_readNumeral numeral _ mem
    exact absurd number (by decide)
  | text content => exact newLine_notMem_quote content
  | @array items each ih =>
    have inside : '\n' ∉ join (printItems items) := by
      apply newLine_notMem_join
      intro text mem
      rw [printItems_eq] at mem
      obtain ⟨item, itemIn, rfl⟩ := mem_map.mp mem
      exact ih item itemIn
    simp [print, inside]
  | @record fields each ih =>
    have inside : '\n' ∉ join (printFields fields) := by
      apply newLine_notMem_join
      intro text mem
      rw [printFields_eq] at mem
      obtain ⟨field, fieldIn, rfl⟩ := mem_map.mp mem
      simp [JsonText.field, newLine_notMem_quote, ih field fieldIn]
    simp [print, inside]

mutual

def nodes : JsonValue → Nat
  | .array items => 1 + nodesOfItems items
  | .record fields => 1 + nodesOfFields fields
  | _ => 1

def nodesOfItems : List JsonValue → Nat
  | [] => 0
  | item :: rest => nodes item + nodesOfItems rest

def nodesOfFields : List (String × JsonValue) → Nat
  | [] => 0
  | (_, value) :: rest => nodes value + nodesOfFields rest

end

def Reshaped (value : JsonValue) (whole : List Char) : Prop :=
  ∃ other : JsonValue, whole = print other ∧ other.Numerals ∧ other.nodes = value.nodes

theorem reshaped_items {items : List JsonValue}
    (each : ∀ item ∈ items, ∀ whole, Damaged (print item) whole → Reshaped item whole)
    (paired : List.Forall₂ Damaged (printItems items) afters) :
    ∃ others : List JsonValue, afters = printItems others ∧ (∀ other ∈ others, other.Numerals) ∧
      nodesOfItems others = nodesOfItems items := by
  induction items generalizing afters with
  | nil =>
    cases paired with
    | nil => exact ⟨[], rfl, by simp, rfl⟩
  | cons item rest ih =>
    rw [printItems, forall₂_cons_left_iff] at paired
    obtain ⟨after, rest_, damaged, more, rfl⟩ := paired
    obtain ⟨other, rfl, numerals, size⟩ := each item mem_cons_self _ damaged
    obtain ⟨others, rfl, restNumerals, restSize⟩ :=
      ih (fun later mem => each later (mem_cons_of_mem _ mem)) more
    refine ⟨other :: others, rfl, ?_, ?_⟩
    · intro later mem
      rcases mem_cons.mp mem with rfl | inRest
      · exact numerals
      · exact restNumerals later inRest
    · rw [nodesOfItems, nodesOfItems, size, restSize]

theorem reshaped_fields {fields : List (String × JsonValue)}
    (each : ∀ field ∈ fields, ∀ whole, Damaged (print field.2) whole → Reshaped field.2 whole)
    (paired : List.Forall₂ Damaged (printFields fields) afters) :
    ∃ others : List (String × JsonValue), afters = printFields others ∧
      (∀ other ∈ others, other.2.Numerals) ∧ nodesOfFields others = nodesOfFields fields := by
  induction fields generalizing afters with
  | nil =>
    cases paired with
    | nil => exact ⟨[], rfl, by simp, rfl⟩
  | cons field rest ih =>
    obtain ⟨name, content⟩ := field
    rw [printFields, forall₂_cons_left_iff] at paired
    obtain ⟨after, rest_, damaged, more, rfl⟩ := paired
    obtain ⟨key, value, rfl, keyDamaged, valueDamaged⟩ := damaged.split
    obtain ⟨otherKey, rfl⟩ := damaged_quote keyDamaged
    obtain ⟨text, rfl, textDamaged⟩ := damaged_ascii_cons (by decide) valueDamaged
    obtain ⟨other, rfl, numerals, size⟩ := each (name, content) mem_cons_self _ textDamaged
    obtain ⟨others, rfl, restNumerals, restSize⟩ :=
      ih (fun later mem => each later (mem_cons_of_mem _ mem)) more
    refine ⟨(otherKey, other) :: others, rfl, ?_, ?_⟩
    · intro later mem
      rcases mem_cons.mp mem with rfl | inRest
      · exact numerals
      · exact restNumerals later inRest
    · rw [nodesOfFields, nodesOfFields, size, restSize]

theorem reshaped_of_damaged (numerals : value.Numerals) (damaged : Damaged (print value) whole) :
    Reshaped value whole := by
  induction numerals generalizing whole with
  | null => exact ⟨.null, damaged.eq_of_ascii (by simp [print]), .null, rfl⟩
  | bool value =>
    cases value with
    | false => exact ⟨.bool false, damaged.eq_of_ascii (by simp [print]), .bool _, rfl⟩
    | true => exact ⟨.bool true, damaged.eq_of_ascii (by simp [print]), .bool _, rfl⟩
  | @number literal numeral =>
    refine ⟨.number literal, damaged.eq_of_ascii fun char mem => ?_, .number numeral, rfl⟩
    have number := isNumberChar_of_readNumeral numeral char mem
    simp only [isNumberChar, Bool.or_eq_true, decide_eq_true_eq] at number
    rcases number with ((((isDigit | rfl) | rfl) | rfl) | rfl) | rfl
    · simp only [Char.isDigit, Bool.and_eq_true, decide_eq_true_eq, ge_iff_le] at isDigit
      have most : char.toNat ≤ 57 := isDigit.2
      omega
    all_goals decide
  | text content =>
    obtain ⟨other, rfl⟩ := damaged_quote damaged
    exact ⟨.text other, rfl, .text other, rfl⟩
  | @array items each ih =>
    obtain ⟨rest, rfl, restDamaged⟩ := damaged_ascii_cons (by decide) damaged
    obtain ⟨inside, rfl, insideDamaged⟩ := damaged_ascii_last (by decide) restDamaged
    obtain ⟨afters, rfl, paired⟩ := damaged_join insideDamaged
    obtain ⟨others, rfl, numerals, size⟩ :=
      reshaped_items (fun item mem _ => ih item mem) paired
    exact ⟨.array others, rfl, .array numerals, by rw [nodes, nodes, size]⟩
  | @record fields each ih =>
    obtain ⟨rest, rfl, restDamaged⟩ := damaged_ascii_cons (by decide) damaged
    obtain ⟨inside, rfl, insideDamaged⟩ := damaged_ascii_last (by decide) restDamaged
    obtain ⟨afters, rfl, paired⟩ := damaged_join insideDamaged
    obtain ⟨others, rfl, numerals, size⟩ :=
      reshaped_fields (fun field mem _ => ih field mem) paired
    exact ⟨.record others, rfl, .record numerals, by rw [nodes, nodes, size]⟩

theorem nodesOfItems_eq (items : List JsonValue) : nodesOfItems items = (items.map nodes).sum := by
  induction items with
  | nil => rfl
  | cons item rest ih => rw [nodesOfItems, ih]; rfl

variable (fields : List (String × JsonValue))

theorem nodesOfFields_eq : nodesOfFields fields = (fields.map fun field => nodes field.2).sum := by
  induction fields with
  | nil => rfl
  | cons field rest ih => rw [nodesOfFields, ih]; rfl

theorem nodesOfFields_append (fields others : List (String × JsonValue)) :
    nodesOfFields (fields ++ others) = nodesOfFields fields + nodesOfFields others := by
  simp [nodesOfFields_eq]

theorem nodes_pos (value : JsonValue) : 0 < nodes value := by
  cases value <;> simp only [nodes] <;> omega

theorem length_join (texts : List (List Char)) :
    (join texts).length = (texts.map length).sum + (texts.length - 1) := by
  induction texts with
  | nil => rfl
  | cons text rest ih =>
    cases rest with
    | nil => simp [join]
    | cons next rest =>
      rw [join, length_append, length_cons, ih]
      · simp only [map_cons, sum_cons, length_cons]
        omega
      · simp

theorem nodesOfFields_replace {done : List (String × JsonValue)} {field : String × JsonValue}
    (distinct : (done.map Prod.fst).Nodup) (mem : field.1 ∈ done.map Prod.fst) :
    ∃ old ∈ done, nodesOfFields (done.map fun other =>
        if other.1 = field.1 then field else other) + nodes old.2 =
      nodesOfFields done + nodes field.2 := by
  induction done with
  | nil => simp at mem
  | cons head tail ih =>
    rw [map_cons, nodup_cons] at distinct
    by_cases isHead : head.1 = field.1
    · have others : (tail.map fun other => if other.1 = field.1 then field else other) = tail := by
        apply (map_congr_left fun other inTail => ?_).trans (map_id tail)
        apply if_neg
        intro same
        apply distinct.1
        rw [isHead, ← same]
        exact mem_map_of_mem inTail
      refine ⟨head, mem_cons_self, ?_⟩
      rw [map_cons, if_pos isHead, others, nodesOfFields, nodesOfFields]
      omega
    · have inTail : field.1 ∈ tail.map Prod.fst := by
        rcases mem_cons.mp mem with same | inTail
        · exact absurd same.symm isHead
        · exact inTail
      obtain ⟨old, oldIn, sum⟩ := ih distinct.2 inTail
      refine ⟨old, mem_cons_of_mem _ oldIn, ?_⟩
      rw [map_cons, if_neg isHead, nodesOfFields, nodesOfFields]
      omega

theorem keys_replace (done : List (String × JsonValue)) (field : String × JsonValue) :
    (done.map fun other => if other.1 = field.1 then field else other).map Prod.fst =
      done.map Prod.fst := by
  rw [map_map]
  apply map_congr_left
  intro other _
  by_cases same : other.1 = field.1 <;> simp [same]

theorem nodes_foldl_assign {fields done : List (String × JsonValue)}
    (distinct : (done.map Prod.fst).Nodup) :
    nodesOfFields (fields.foldl assign done) ≤ nodesOfFields done + nodesOfFields fields ∧
      (nodesOfFields (fields.foldl assign done) = nodesOfFields done + nodesOfFields fields →
        fields.foldl assign done = done ++ fields) := by
  induction fields generalizing done with
  | nil => simp [nodesOfFields]
  | cons field rest ih =>
    rw [foldl_cons, assign]
    split
    · next mem =>
      obtain ⟨old, oldIn, sum⟩ := nodesOfFields_replace distinct mem
      have bound := (ih ((keys_replace done field).symm ▸ distinct)).1
      have positive := nodes_pos old.2
      rw [nodesOfFields]
      constructor
      · omega
      · intro same
        omega
    · next isNew =>
      have stillDistinct : ((done ++ [field]).map Prod.fst).Nodup := by
        rw [map_append, nodup_append]
        refine ⟨distinct, by simp, ?_⟩
        rintro key inDone other inField rfl
        rw [map_singleton, mem_singleton] at inField
        exact isNew (inField ▸ inDone)
      obtain ⟨bound, equal⟩ := ih stillDistinct
      have sum : nodesOfFields (done ++ [field]) = nodesOfFields done + nodes field.2 := by
        simp [nodesOfFields_append, nodesOfFields]
      rw [nodesOfFields]
      constructor
      · omega
      · intro same
        rw [equal (by omega), append_assoc]
        rfl

theorem nodes_objectOf :
    nodesOfFields (objectOf fields) ≤ nodesOfFields fields ∧
      (nodesOfFields (objectOf fields) = nodesOfFields fields → (objectOf fields).Perm fields) := by
  have sorted : (objectOf fields).Perm (fields.foldl assign []) := perm_insertionSort _ _
  have sameNodes : nodesOfFields (objectOf fields) = nodesOfFields (fields.foldl assign []) := by
    rw [nodesOfFields_eq, nodesOfFields_eq]
    exact (sorted.map _).sum_nat
  obtain ⟨bound, equal⟩ := @nodes_foldl_assign fields [] nodup_nil
  have none : nodesOfFields [] = 0 := rfl
  constructor
  · omega
  · intro same
    have assigned := equal (by omega)
    rwa [assigned] at sorted

theorem length_print_record : (print (.record fields)).length =
      (fields.map fun field => (JsonText.field (field.1, print field.2)).length).sum +
        (fields.length - 1) + 2 := by
  have texts : printFields fields =
      fields.map fun field => JsonText.field (field.1, print field.2) := by
    rw [printFields_eq]
    simp only [nil_append]
  rw [print, texts, length_append, length_cons, length_join, map_map, length_map]
  simp only [comp_def, length_singleton]

theorem length_print_array (items : List JsonValue) : (print (.array items)).length =
      (items.map fun item => (print item).length).sum + (items.length - 1) + 2 := by
  have texts : printItems items = items.map print := by
    rw [printItems_eq]
    simp only [nil_append]
  rw [print, texts, length_append, length_cons, length_join, map_map, length_map]
  simp only [comp_def, length_singleton]

theorem sum_le_length_indented (margin : Nat) (items : List JsonValue) :
    (items.map fun item => (indented (margin + 2) item).length).sum ≤
      (indented margin (.array items)).length := by
  cases items with
  | nil => exact Nat.zero_le _
  | cons item rest =>
    rw [indented, indentedItems_eq, length_append, length_append, length_cons, length_join, map_map]
    have inside := @List.sum_le_sum _ _ _ _ _ _ (item :: rest)
      (fun item => (indented (margin + 2) item).length)
      (length ∘ fun item => newLine (margin + 2) ++ indented (margin + 2) item)
      fun _ _ => by simp
    omega

theorem length_le_length_indented (margin : Nat) {fields : List (String × JsonValue)}
    {field : String × JsonValue} (mem : field ∈ fields) :
    (indented (margin + 2) field.2).length ≤ (indented margin (.record fields)).length := by
  cases fields with
  | nil => cases mem
  | cons first rest =>
    rw [indented, indentedFields_eq, length_append, length_append, length_cons,
      length_join, map_map]
    generalize isText : (fun field : String × JsonValue =>
      newLine (margin + 2) ++ JsonText.field (field.1, [' '] ++ indented (margin + 2) field.2)) =
        text
    have here : (indented (margin + 2) field.2).length ≤ (length ∘ text) field := by
      simp only [← isText, comp_apply, JsonText.field, length_append, length_cons]
      omega
    have inside : (length ∘ text) field ≤ ((first :: rest).map (length ∘ text)).sum :=
      le_sum_of_mem (mem_map_of_mem mem)
    omega

theorem length_le_length_print_text (content : String) :
    content.toList.length ≤ (print (.text content)).length := by
  have inside := length_le_flatMap_escape content.toList
  rw [print, toList_quote, length_cons, length_append]
  omega

/-- Values that each have at most their old size, with equal texts if equal, do
so together. -/
theorem sum_le_of_each {α : Type} {elements : List α} {now old nowLength oldLength : α → Nat}
    (each : ∀ element ∈ elements, now element ≤ old element ∧
      (now element = old element → nowLength element = oldLength element)) :
    (elements.map now).sum ≤ (elements.map old).sum ∧
      ((elements.map now).sum = (elements.map old).sum →
        (elements.map nowLength).sum = (elements.map oldLength).sum) := by
  induction elements with
  | nil => simp
  | cons element rest ih =>
    obtain ⟨bound, equal⟩ := each element mem_cons_self
    obtain ⟨restBound, restEqual⟩ :=
      ih fun other mem => each other (mem_cons_of_mem _ mem)
    simp only [map_cons, sum_cons]
    constructor
    · omega
    · intro same
      rw [equal (by omega), restEqual (by omega)]

theorem nodes_normalize (value : JsonValue) : nodes (normalize value) ≤ nodes value ∧
      (nodes (normalize value) = nodes value →
        (print (normalize value)).length = (print value).length) := by
  induction value using values_induction with
  | null | bool value | number literal | text content =>
    rw [normalize]
    exact ⟨le_rfl, fun _ => rfl⟩
  | array items ih =>
    obtain ⟨bound, equal⟩ := sum_le_of_each ih
    rw [normalize, normalizeItems_eq, nodes, nodes, nodesOfItems_eq, nodesOfItems_eq,
      length_print_array, length_print_array]
    simp only [map_map, length_map, comp_def]
    constructor
    · omega
    · intro same
      rw [equal (by omega)]
  | record fields ih =>
    let normalized := fields.map fun field => (field.1, normalize field.2)
    have each : ∀ field ∈ fields, nodes (normalize field.2) ≤ nodes field.2 ∧
        (nodes (normalize field.2) = nodes field.2 →
          (JsonText.field (field.1, print (normalize field.2))).length =
            (JsonText.field (field.1, print field.2)).length) := by
      intro field mem
      obtain ⟨bound, equal⟩ := ih field mem
      refine ⟨bound, fun same => ?_⟩
      simp [JsonText.field, equal same]
    obtain ⟨bound, equal⟩ := sum_le_of_each each
    obtain ⟨objectBound, objectEqual⟩ := nodes_objectOf normalized
    have normalizedNodes : nodesOfFields normalized =
        (fields.map fun field => nodes (normalize field.2)).sum := by
      simp [normalized, nodesOfFields_eq, comp_def]
    have fieldNodes := nodesOfFields_eq fields
    rw [normalize, normalizeFields_eq, nodes, nodes]
    change 1 + nodesOfFields (objectOf normalized) ≤ _ ∧
      (1 + nodesOfFields (objectOf normalized) = _ →
        (print (.record (objectOf normalized))).length = _)
    constructor
    · omega
    · intro same
      have ordered := objectEqual (by omega)
      rw [length_print_record, length_print_record, (ordered.map _).sum_nat, ordered.length_eq,
        ← equal (by omega)]
      simp [normalized, comp_def]

theorem length_eq_of_reshaped (reshaped : Reshaped value whole) (same : parse whole = some value) :
    whole.length = (print value).length := by
  obtain ⟨other, rfl, numerals, size⟩ := reshaped
  have read := parse_of_writes (writes_print numerals) isSpace_nil
  rw [append_nil, same] at read
  have normal := Option.some.inj read
  rw [normal] at size ⊢
  exact ((nodes_normalize other).2 size.symm).symm

end JsonValue

end LongHub
