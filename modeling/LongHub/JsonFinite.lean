import LongHub.JsonRoundTrip

/-!
# Numbers that JSON cannot write

`JSON.stringify` writes `null` for a number that is not finite.  What is read back is the
value with `null` in these places; writing it again gives the same text.
-/

namespace LongHub

open List

namespace JsonValue

/-- The text of a finite number. -/
def isNumeral (literal : String) : Bool := (DoubleNumber.readNumeral literal.toList).isSome

mutual

@[grind =]
def finite : JsonValue → JsonValue
  | .null => .null
  | .bool value => .bool value
  | .number literal => if isNumeral literal then .number literal else .null
  | .text content => .text content
  | .array items => .array (finiteItems items)
  | .record fields => .record (finiteFields fields)

def finiteItems : List JsonValue → List JsonValue
  | [] => []
  | item :: rest => finite item :: finiteItems rest

def finiteFields : List (String × JsonValue) → List (String × JsonValue)
  | [] => []
  | (key, value) :: rest => (key, finite value) :: finiteFields rest

end

theorem finiteItems_eq (items : List JsonValue) : finiteItems items = items.map finite := by
  induction items with
  | nil => rfl
  | cons item rest ih => rw [finiteItems, ih, map_cons]

variable (fields : List (String × JsonValue))

theorem finiteFields_eq :
    finiteFields fields = fields.map fun field => (field.1, finite field.2) := by
  induction fields with
  | nil => rfl
  | cons field rest ih => rw [finiteFields, ih, map_cons]

@[simp]
theorem finite_text (content : String) : finite (.text content) = .text content := by
  rw [finite]

@[simp]
theorem finite_array (items : List JsonValue) :
    finite (.array items) = .array (items.map finite) := by
  rw [finite, finiteItems_eq]

@[simp]
theorem finite_record :
    finite (.record fields) = .record (fields.map fun field => (field.1, finite field.2)) := by
  rw [finite, finiteFields_eq]

theorem finite_number_of_isNumeral {literal : String} (numeral : isNumeral literal = true) :
    finite (.number literal) = .number literal := by
  rw [finite, if_pos numeral]

@[simp]
theorem map_fst_finite :
    (fields.map fun field => (field.1, finite field.2)).map Prod.fst = fields.map Prod.fst := by
  simp

theorem lookup_finite (key : String) :
    (fields.map fun field => (field.1, finite field.2)).lookup key =
      (fields.lookup key).map finite := by
  induction fields with
  | nil => rfl
  | cons field rest ih =>
    rw [map_cons, lookup_cons, lookup_cons]
    split
    · rfl
    · exact ih

variable {value : JsonValue}

/-- The value is one of JavaScript and can be written. -/
theorem numerals_finite (wellFormed : value.WellFormed) : Numerals value.finite := by
  induction wellFormed with
  | null => exact .null
  | bool value => exact .bool value
  | number literal =>
    rw [finite]
    split
    · rename_i numeral
      exact .number numeral
    · exact .null
  | text content => exact .text content
  | array each ih =>
    rw [finite_array]
    apply Numerals.array
    intro item mem
    obtain ⟨origin, inside, rfl⟩ := mem_map.mp mem
    exact ih origin inside
  | record distinct ordered each ih =>
    rw [finite_record]
    apply Numerals.record
    intro field mem
    obtain ⟨origin, inside, rfl⟩ := mem_map.mp mem
    exact ih origin inside

theorem wellFormed_finite (wellFormed : value.WellFormed) : value.finite.WellFormed := by
  induction wellFormed with
  | null => exact .null
  | bool value => exact .bool value
  | number literal =>
    rw [finite]
    split
    · exact .number literal
    · exact .null
  | text content => exact .text content
  | array each ih =>
    rw [finite_array]
    apply WellFormed.array
    intro item mem
    obtain ⟨origin, inside, rfl⟩ := mem_map.mp mem
    exact ih origin inside
  | record distinct ordered each ih =>
    rw [finite_record]
    refine .record ?_ ?_ ?_
    · rw [map_fst_finite]
      exact distinct
    · rw [pairwise_map]
      exact ordered
    · intro field mem
      obtain ⟨origin, inside, rfl⟩ := mem_map.mp mem
      exact ih origin inside

/-- What has been read back is written as before. -/
theorem finite_finite (wellFormed : value.WellFormed) : value.finite.finite = value.finite := by
  induction wellFormed with
  | null | bool | text => rfl
  | number literal =>
    by_cases numeral : isNumeral literal = true
    · rw [finite_number_of_isNumeral numeral, finite_number_of_isNumeral numeral]
    · rw [finite, if_neg numeral, finite]
  | array each ih =>
    rw [finite_array, finite_array, map_map]
    congr 1
    exact map_congr_left ih
  | record distinct ordered each ih =>
    rw [finite_record, finite_record, map_map]
    congr 1
    apply map_congr_left
    intro field mem
    exact Prod.ext rfl (ih field mem)

def stringify (value : JsonValue) : List Char := indented 0 value.finite

/-- What is written is read back without the numbers that are not finite. -/
theorem parse_stringify (wellFormed : value.WellFormed) {after : List Char}
    (afterSpace : IsSpace after) : parse (stringify value ++ after) = some value.finite :=
  parse_indented (numerals_finite wellFormed) (wellFormed_finite wellFormed) 0 afterSpace

end JsonValue

end LongHub
