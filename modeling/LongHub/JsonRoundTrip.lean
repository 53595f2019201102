import LongHub.JsonReader

/-!
# What is printed is read back

A text that stands for a value is read as that value, whatever follows it, and the compact and the
indented text of a value stand for it.
-/

namespace LongHub

open DoubleNumber JsonText List

namespace JsonValue

open DoubleNumber (Numeral)

def IsSpace (space : List Char) : Prop := ∀ char ∈ space, isSpace char = true

variable {space rest text after before : List Char} {char : Char} {fuel : Nat} {value : JsonValue}
  {items : List JsonValue} {fields : List (String × JsonValue)}

theorem skipSpace_append (isSpace : IsSpace space) (text : List Char) :
    skipSpace (space ++ text) = skipSpace text :=
  dropWhile_append_of_pos isSpace

theorem skipSpace_cons (visible : isSpace char = false) (rest : List Char) :
    skipSpace (char :: rest) = char :: rest :=
  dropWhile_cons_of_neg (by simp [visible])

/-- The text does not go on with a number. -/
def Follows (rest : List Char) : Prop := ∀ char ∈ rest.head?, isNumberChar char = false

theorem follows_cons (other : isNumberChar char = false) (rest : List Char) :
    Follows (char :: rest) := by
  intro head isHead
  cases isHead
  exact other

theorem follows_space (isSpace_ : IsSpace space) (follows : Follows rest) :
    Follows (space ++ rest) := by
  cases space with
  | nil => exact follows
  | cons head tail =>
    refine follows_cons ?_ _
    have headSpace := isSpace_ head mem_cons_self
    simp only [isSpace, Bool.or_eq_true, decide_eq_true_eq] at headSpace
    rcases headSpace with ((rfl | rfl) | rfl) | rfl <;> rfl

theorem isNumberChar_of_isDigit (isDigit : char.isDigit = true) : isNumberChar char = true := by
  simp [isNumberChar, isDigit]

theorem isNumberChar_of_takeWhile (mem : char ∈ text.takeWhile Char.isDigit) :
    isNumberChar char = true :=
  isNumberChar_of_isDigit (mem_takeWhile_imp mem)

theorem isNumberChar_of_readExponent {exponent : Int} (read : readExponent text = some exponent) :
    ∀ char ∈ text, isNumberChar char = true := by
  cases text with
  | nil => exact fun char mem => absurd mem not_mem_nil
  | cons letter rest =>
    have each {sign digits : List Char} (signs : ∀ char ∈ sign, isNumberChar char = true)
        (conditions : (letter = 'e' ∨ letter = 'E') ∧ digits ≠ [] ∧
          digits.all Char.isDigit = true) :
        ∀ char ∈ letter :: (sign ++ digits), isNumberChar char = true := by
      intro char mem
      rcases mem_cons.mp mem with rfl | inRest
      · rcases conditions.1 with rfl | rfl <;> rfl
      · rcases mem_append.mp inRest with inSign | inDigits
        · exact signs char inSign
        · exact isNumberChar_of_isDigit (all_eq_true.mp conditions.2.2 char inDigits)
    have conditions := (Option.ite_none_right_eq_some.mp read).1
    split at conditions
    · exact each (by simp [isNumberChar] : ∀ char ∈ ['-'], isNumberChar char = true) conditions
    · exact each (by simp [isNumberChar] : ∀ char ∈ ['+'], isNumberChar char = true) conditions
    · exact each (by simp : ∀ char ∈ [], isNumberChar char = true) conditions

theorem isNumberChar_of_readFraction {fraction : List Char}
    (read : readFraction text = some (fraction, after))
    (rest : ∀ char ∈ after, isNumberChar char = true) :
    ∀ char ∈ text, isNumberChar char = true := by
  unfold readFraction at read
  split at read
  · next tail =>
    dsimp only at read
    split at read
    · cases read
    · cases read
      intro char mem
      rcases mem_cons.mp mem with rfl | inTail
      · rfl
      · rw [← tail.takeWhile_append_dropWhile (p := Char.isDigit), mem_append] at inTail
        exact inTail.elim isNumberChar_of_takeWhile (rest char)
  · cases read
    exact rest

theorem isNumberChar_of_readNumeral (numeral : (readNumeral text).isSome = true) :
    ∀ char ∈ text, isNumberChar char = true := by
  obtain ⟨result, read⟩ := Option.isSome_iff_exists.mp numeral
  have unsignedChars {unsigned : List Char} {finish : List Char × List Char → Int → Numeral}
      (isRead : ((readFraction (unsigned.dropWhile Char.isDigit)).bind fun parts =>
        (readExponent parts.2).bind fun exponent =>
          some (finish parts exponent)) = some result) :
      ∀ char ∈ unsigned, isNumberChar char = true := by
    obtain ⟨⟨fraction, after⟩, readsFraction, readsRest⟩ := Option.bind_eq_some_iff.mp isRead
    obtain ⟨exponent, readsExponent, -⟩ := Option.bind_eq_some_iff.mp readsRest
    have rest := isNumberChar_of_readFraction readsFraction
      (isNumberChar_of_readExponent readsExponent)
    intro char mem
    rw [← unsigned.takeWhile_append_dropWhile (p := Char.isDigit), mem_append] at mem
    exact mem.elim isNumberChar_of_takeWhile (rest char)
  have found := (Option.ite_none_left_eq_some.mp read).2
  split at found
  · intro char mem
    rcases mem_cons.mp mem with rfl | inRest
    · rfl
    · exact unsignedChars found char inRest
  · exact unsignedChars found

theorem head_of_readNumeral (numeral : (readNumeral text).isSome = true) :
    ∃ char rest, text = char :: rest ∧ (char.isDigit = true ∨ char = '-') := by
  cases text with
  | nil => cases numeral
  | cons char rest =>
    refine ⟨char, rest, rfl, ?_⟩
    by_contra other
    have notMinus : char ≠ '-' := fun same => other (.inr same)
    have notDigit : char.isDigit = false := by
      cases isDigit : char.isDigit with
      | false => rfl
      | true => exact absurd (.inl isDigit) other
    obtain ⟨result, read⟩ := Option.isSome_iff_exists.mp numeral
    simp [readNumeral, notMinus, notDigit] at read

variable {literal key : String} {between inside middle : List Char} {textOf : JsonValue → List Char}

theorem readNumber_append (numeral : (readNumeral literal.toList).isSome = true)
    (follows : Follows rest) :
    readNumber (literal.toList ++ rest) = some (.number literal, rest) := by
  have chars := isNumberChar_of_readNumeral numeral
  have taken : (literal.toList ++ rest).takeWhile isNumberChar = literal.toList := by
    rw [takeWhile_append_of_pos chars]
    cases rest with
    | nil => simp
    | cons head tail => simp [follows head rfl]
  have dropped : (literal.toList ++ rest).dropWhile isNumberChar = rest := by
    rw [dropWhile_append_of_pos chars]
    cases rest with
    | nil => rfl
    | cons head tail => simp [follows head rfl]
  simp [readNumber, taken, dropped, numeral]

theorem hexDigitValue_hexDigit {digit : Nat} (small : digit < 16) :
    hexDigitValue (hexDigit digit) = some digit := by
  have each : ∀ digit : Fin 16, hexDigitValue (hexDigit digit) = some digit.val := by
    decide
  exact each ⟨digit, small⟩

/-- A character that has no escape stands for itself. -/
theorem readChar_plain (notSlash : char ≠ '\\') (printed : ¬ char.toNat < 32) (rest : List Char) :
    readChar (char :: rest) = some (char, rest) := by
  rw [readChar, if_neg printed]
  all_goals
    intros
    exact notSlash ‹_›

theorem readChar_escape (char : Char) (rest : List Char) :
    readChar (escape char ++ rest) = some (char, rest) := by
  have back := Char.ofNat_toNat char
  unfold escape
  split
  · next same => rw [same]; rfl
  split
  · next same => rw [same]; rfl
  split
  · next code => rw [← back, code]; rfl
  split
  · next code => rw [← back, code]; rfl
  split
  · next code => rw [← back, code]; rfl
  split
  · next code => rw [← back, code]; rfl
  split
  · next code => rw [← back, code]; rfl
  split
  · next control =>
    have high := hexDigitValue_hexDigit (show char.toNat / 16 < 16 by omega)
    have low := hexDigitValue_hexDigit (show char.toNat % 16 < 16 by omega)
    have zero : hexDigitValue '0' = some 0 := rfl
    have sum : char.toNat / 16 * 16 + char.toNat % 16 = char.toNat := by omega
    have small : char.toNat < 55296 := by omega
    simp [readChar, readEscapedUnit, readUnit, high, low, zero, sum, small]
  · next notQuote notSlash _ _ _ _ _ printed =>
    exact readChar_plain notSlash printed rest

/-- Quoted characters are read back, up to their closing quote. -/
theorem readText_append {chars : List Char} (enough : chars.length < fuel) :
    readText fuel (chars.flatMap escape ++ '"' :: rest) = some (chars, rest) := by
  induction chars generalizing fuel with
  | nil =>
    cases fuel with
    | zero => simp at enough
    | succ fuel => rfl
  | cons char chars ih =>
    cases fuel with
    | zero => simp at enough
    | succ fuel =>
      have shorter : chars.length < fuel := by
        simp only [List.length_cons] at enough
        omega
      have split : (char :: chars).flatMap JsonText.escape ++ '"' :: rest =
          escape char ++ (chars.flatMap escape ++ '"' :: rest) := by
        simp
      have notClosed :=
        JsonText.head_escape char (chars.flatMap JsonText.escape ++ '"' :: rest)
      have reads : readText (fuel + 1) (escape char ++ (chars.flatMap escape ++ '"' :: rest)) =
          (readChar (JsonText.escape char ++
            (chars.flatMap JsonText.escape ++ '"' :: rest))).bind fun found =>
              (readText fuel found.2).bind fun more => some (found.1 :: more.1, more.2) := by
        rw [readText]
        · rfl
        · intro after starts
          rw [starts] at notClosed
          exact notClosed rfl
      rw [split, reads, readChar_escape]
      simp [ih shorter]

theorem length_le_flatMap_escape (chars : List Char) :
    chars.length ≤ (chars.flatMap escape).length := by
  induction chars with
  | nil => simp
  | cons char chars ih =>
    have present : 0 < (escape char).length := by
      rw [length_pos_iff]
      intro empty
      have read := readChar_escape char []
      rw [empty] at read
      cases read
    simp only [flatMap_cons, length_append, length_cons]
    omega

theorem readKey_append (isSpace_ : IsSpace space) (betweenSpace : IsSpace between)
    (enough : (quote key).toList.length < fuel) :
    readKey fuel (space ++ (quote key).toList ++ between ++ ':' :: rest) = some (key, rest) := by
  have shorter : key.toList.length < fuel := by
    have bound := length_le_flatMap_escape key.toList
    simp only [toList_quote, length_cons, length_append] at enough
    omega
  have text : space ++ (quote key).toList ++ between ++ ':' :: rest =
      space ++ '"' :: (key.toList.flatMap JsonText.escape ++ '"' :: (between ++ ':' :: rest)) := by
    simp [toList_quote]
  rw [text, readKey, skipSpace_append isSpace_, skipSpace_cons rfl]
  simp only [readText_append shorter, bind, Option.bind_some]
  rw [skipSpace_append betweenSpace, skipSpace_cons rfl]
  simp

/-- What a text can stand for: a value, or what stands between brackets. -/
inductive Written where
  | value (value : JsonValue)
  | items (items : List JsonValue)
  | fields (fields : List (String × JsonValue))

/-- The text stands for a value, for items or for fields. -/
inductive Writes : Written → List Char → Prop where
  | null : Writes (.value .null) ['n', 'u', 'l', 'l']
  | yes : Writes (.value (.bool true)) ['t', 'r', 'u', 'e']
  | no : Writes (.value (.bool false)) ['f', 'a', 'l', 's', 'e']
  | number {literal : String} (numeral : (readNumeral literal.toList).isSome) :
      Writes (.value (.number literal)) literal.toList
  | text (content : String) : Writes (.value (.text content)) (quote content).toList
  | noItems {space : List Char} (isSpace : IsSpace space) :
      Writes (.value (.array [])) ('[' :: space ++ [']'])
  | array {items : List JsonValue} {inside : List Char} (writes : Writes (.items items) inside) :
      Writes (.value (.array items)) ('[' :: inside ++ [']'])
  | noFields {space : List Char} (isSpace : IsSpace space) :
      Writes (.value (.record [])) ('\x7b' :: space ++ ['\x7d'])
  | record {fields : List (String × JsonValue)} {inside : List Char}
      (writes : Writes (.fields fields) inside) :
      Writes (.value (.record fields)) ('\x7b' :: inside ++ ['\x7d'])
  | lastItem {item : JsonValue} {before text after : List Char} (beforeSpace : IsSpace before)
      (writes : Writes (.value item) text) (afterSpace : IsSpace after) :
      Writes (.items [item]) (before ++ text ++ after)
  | moreItems {item : JsonValue} {items : List JsonValue} {before text after rest : List Char}
      (beforeSpace : IsSpace before) (writes : Writes (.value item) text)
      (afterSpace : IsSpace after) (writesRest : Writes (.items items) rest) :
      Writes (.items (item :: items)) (before ++ text ++ after ++ ',' :: rest)
  | lastField {key : String} {value : JsonValue} {before between middle text after : List Char}
      (beforeSpace : IsSpace before) (betweenSpace : IsSpace between)
      (middleSpace : IsSpace middle) (writes : Writes (.value value) text)
      (afterSpace : IsSpace after) :
      Writes (.fields [(key, value)])
        (before ++ (quote key).toList ++ between ++ ':' :: (middle ++ text ++ after))
  | moreFields {key : String} {value : JsonValue} {fields : List (String × JsonValue)}
      {before between middle text after rest : List Char}
      (beforeSpace : IsSpace before) (betweenSpace : IsSpace between)
      (middleSpace : IsSpace middle) (writes : Writes (.value value) text)
      (afterSpace : IsSpace after) (writesRest : Writes (.fields fields) rest) :
      Writes (.fields ((key, value) :: fields)) (before ++ (quote key).toList ++ between ++
          ':' :: (middle ++ text ++ after ++ ',' :: rest))

variable {written : Written}

theorem Writes.starts (writes : Writes written text) (isValue : written = .value value) :
    ∃ char rest, text = char :: rest ∧ isSpace char = false ∧ char ≠ ']' ∧ char ≠ '\x7d' := by
  cases writes with
  | null => exact ⟨'n', _, rfl, by decide⟩
  | yes => exact ⟨'t', _, rfl, by decide⟩
  | no => exact ⟨'f', _, rfl, by decide⟩
  | number numeral =>
    obtain ⟨char, rest, starts, isDigit | rfl⟩ := head_of_readNumeral numeral
    · refine ⟨char, rest, starts, ?_, ?_, ?_⟩
      · by_contra isSpace_
        simp only [isSpace, Bool.not_eq_false, Bool.or_eq_true, decide_eq_true_eq] at isSpace_
        rcases isSpace_ with ((rfl | rfl) | rfl) | rfl <;> cases isDigit
      · rintro rfl
        cases isDigit
      · rintro rfl
        cases isDigit
    · exact ⟨'-', rest, starts, by decide⟩
  | text content => exact ⟨'"', _, JsonText.toList_quote content, by decide⟩
  | noItems | array => exact ⟨'[', _, rfl, by decide⟩
  | noFields | record => exact ⟨'\x7b', _, rfl, by decide⟩
  | lastItem | moreItems | lastField | moreFields => cases isValue

/-- The items begin, after space, with a character that is no closing bracket. -/
theorem Writes.starts_inside (writes : Writes written text) (rest : List Char) :
    (∃ value, written = .value value) ∨
      ∃ char more, skipSpace (text ++ rest) = char :: more ∧ char ≠ ']' ∧ char ≠ '\x7d' := by
  have begins {before : List Char} (beforeSpace : IsSpace before) {char : Char}
      (tail : List Char) (visible : isSpace char = false) (differ : char ≠ ']' ∧ char ≠ '\x7d') :
      ∃ other more, skipSpace (before ++ char :: tail) = other :: more ∧
        other ≠ ']' ∧ other ≠ '\x7d' :=
    ⟨char, tail, (skipSpace_append beforeSpace _).trans (skipSpace_cons visible tail), differ⟩
  cases writes with
  | lastItem beforeSpace writes afterSpace =>
    obtain ⟨char, tail, rfl, visible, differ⟩ := writes.starts rfl
    simp only [List.append_assoc, List.cons_append]
    exact .inr (begins beforeSpace _ visible differ)
  | moreItems beforeSpace writes afterSpace writesRest =>
    obtain ⟨char, tail, rfl, visible, differ⟩ := writes.starts rfl
    simp only [List.append_assoc, List.cons_append]
    exact .inr (begins beforeSpace _ visible differ)
  | lastField beforeSpace betweenSpace middleSpace writes afterSpace =>
    simp only [List.append_assoc, List.cons_append, JsonText.toList_quote]
    exact .inr (begins beforeSpace _ rfl (by decide))
  | moreFields beforeSpace betweenSpace middleSpace writes afterSpace writesRest =>
    simp only [List.append_assoc, List.cons_append, JsonText.toList_quote]
    exact .inr (begins beforeSpace _ rfl (by decide))
  | _ => exact .inl ⟨_, rfl⟩

def Reads : Written → List Char → Prop
  | .value value, chars => ∀ fuel rest, 2 * chars.length < fuel → Follows rest →
      readValue fuel (chars ++ rest) = some (value, rest)
  | .items items, chars => ∀ fuel rest, 2 * chars.length + 1 < fuel →
      readItems fuel (chars ++ ']' :: rest) = some (items, rest)
  | .fields fields, chars => ∀ fuel rest, 2 * chars.length + 1 < fuel →
      readFields fuel (chars ++ '\x7d' :: rest) = some (fields, rest)

theorem readValue_append (isSpace_ : IsSpace space) (fuel : Nat) (text : List Char) :
    readValue fuel (space ++ text) = readValue fuel text := by
  cases fuel with
  | zero => rw [readValue, readValue]
  | succ fuel => rw [readValue, readValue, skipSpace_append isSpace_]

theorem reads_number (numeral : (DoubleNumber.readNumeral literal.toList).isSome) :
    Reads (.value (.number literal)) literal.toList := by
  intro fuel rest enough follows
  cases fuel with
  | zero => omega
  | succ fuel =>
    have read := readNumber_append numeral follows
    obtain ⟨char, tail, starts, isNumber⟩ := head_of_readNumeral numeral
    rw [starts, List.cons_append] at read ⊢
    have visible : isSpace char = false := by
      have writes := Writes.number numeral
      rw [starts] at writes
      obtain ⟨other, more, same, visible, -⟩ := writes.starts rfl
      rw [(List.cons.inj same).1]
      exact visible
    rw [readValue, skipSpace_cons visible]
    split
    case h_7 => exact read
    all_goals next same =>
        rw [(List.cons.inj same).1] at isNumber
        exact absurd isNumber (by decide)

theorem reads_array (writes : Writes (.items items) inside) (reads : Reads (.items items) inside) :
    Reads (.value (.array items)) ('[' :: inside ++ [']']) := by
  intro fuel rest enough follows
  cases fuel with
  | zero => omega
  | succ fuel =>
    have inner := reads fuel rest (by
      simp only [List.length_cons, List.length_append, List.length_nil] at enough
      omega)
    have text : '[' :: inside ++ [']'] ++ rest = '[' :: (inside ++ ']' :: rest) := by simp
    rw [text, readValue, skipSpace_cons rfl]
    rcases writes.starts_inside (']' :: rest) with ⟨value, isValue⟩ | ⟨char, more, starts, open_, -⟩
    · cases isValue
    · simp only
      rw [starts]
      split
      · next closes => exact absurd (List.cons.inj closes).1 open_
      · rw [inner]
        rfl

theorem reads_record (writes : Writes (.fields fields) inside)
    (reads : Reads (.fields fields) inside) :
    Reads (.value (.record fields)) ('\x7b' :: inside ++ ['\x7d']) := by
  intro fuel rest enough follows
  cases fuel with
  | zero => omega
  | succ fuel =>
    have inner := reads fuel rest (by
      simp only [List.length_cons, List.length_append, List.length_nil] at enough
      omega)
    have text : '\x7b' :: inside ++ ['\x7d'] ++ rest =
        '\x7b' :: (inside ++ '\x7d' :: rest) := by simp
    rw [text, readValue, skipSpace_cons rfl]
    rcases writes.starts_inside ('\x7d' :: rest) with
      ⟨value, isValue⟩ | ⟨char, more, starts, -, open_⟩
    · cases isValue
    · simp only
      rw [starts]
      split
      · next closes => exact absurd (List.cons.inj closes).1 open_
      · rw [inner]
        rfl

theorem readValue_item (beforeSpace : IsSpace before) (reads : Reads (.value value) text)
    (afterSpace : IsSpace after) (enough : 2 * text.length < fuel) {mark : Char}
    (notNumber : isNumberChar mark = false) (rest : List Char) :
    readValue fuel (before ++ text ++ after ++ mark :: rest) =
      some (value, after ++ mark :: rest) := by
  have follows := follows_space afterSpace (follows_cons notNumber rest)
  rw [List.append_assoc, List.append_assoc, readValue_append beforeSpace]
  exact reads fuel _ enough follows

theorem reads_text (content : String) :
    Reads (.value (.text content)) (JsonText.quote content).toList := by
  intro fuel rest enough follows
  cases fuel with
  | zero => omega
  | succ fuel =>
    have bound := length_le_flatMap_escape content.toList
    simp only [JsonText.toList_quote, List.length_cons, List.length_append,
      List.length_nil] at enough
    have read : readText fuel (content.toList.flatMap JsonText.escape ++ '"' :: rest) =
        some (content.toList, rest) := readText_append (by omega)
    have text : (quote content).toList ++ rest =
        '"' :: (content.toList.flatMap JsonText.escape ++ '"' :: rest) := by
      simp [toList_quote]
    rw [text, readValue, skipSpace_cons rfl]
    simp [read]

theorem reads_items {item : JsonValue} (beforeSpace : IsSpace before)
    (reads : Reads (.value item) text) (afterSpace : IsSpace after)
    (readsRest : Reads (.items items) rest) :
    Reads (.items (item :: items)) (before ++ text ++ after ++ ',' :: rest) := by
  intro fuel following enough
  cases fuel with
  | zero => omega
  | succ fuel =>
    simp only [length_append, length_cons] at enough
    have first := readValue_item beforeSpace reads afterSpace (show 2 * text.length < fuel by omega)
      (show isNumberChar ',' = false by decide) (rest ++ ']' :: following)
    have others := readsRest fuel following (by omega)
    rw [append_assoc, cons_append, readItems, first]
    simp only [bind, Option.bind_some]
    rw [skipSpace_append afterSpace, skipSpace_cons rfl]
    simp [others]

theorem reads_fields (beforeSpace : IsSpace before) (betweenSpace : IsSpace between)
    (middleSpace : IsSpace middle) (reads : Reads (.value value) text) (afterSpace : IsSpace after)
    (readsRest : Reads (.fields fields) rest) : Reads (.fields ((key, value) :: fields))
      (before ++ (quote key).toList ++ between ++
        ':' :: (middle ++ text ++ after ++ ',' :: rest)) := by
  intro fuel following enough
  cases fuel with
  | zero => omega
  | succ fuel =>
    simp only [length_append, length_cons] at enough
    let inside := middle ++ text ++ after ++ ',' :: (rest ++ '\x7d' :: following)
    have keyRead : readKey fuel (before ++ (quote key).toList ++ between ++
        ':' :: inside) = some (key, inside) :=
      readKey_append beforeSpace betweenSpace (by omega)
    have first := readValue_item middleSpace reads afterSpace (show 2 * text.length < fuel by omega)
      (show isNumberChar ',' = false by decide) (rest ++ '\x7d' :: following)
    have others := readsRest fuel following (by omega)
    rw [append_assoc, cons_append, append_assoc (middle ++ text ++ after),
      cons_append, readFields, keyRead]
    simp only [bind, Option.bind_some]
    rw [first]
    simp only [Option.bind_some]
    rw [skipSpace_append afterSpace, skipSpace_cons rfl]
    simp [others]

theorem Writes.reads (writes : Writes written text) : Reads written text := by
  induction writes with
  | null | yes | no =>
    intro fuel rest enough follows
    cases fuel with
    | zero => omega
    | succ fuel =>
      rfl
  | number numeral => exact reads_number numeral
  | text content => exact reads_text content
  | noItems isSpace_ =>
    intro fuel rest enough follows
    cases fuel with
    | zero => omega
    | succ fuel =>
      rw [append_assoc, cons_append, readValue, skipSpace_cons rfl]
      simp [skipSpace_append isSpace_, skipSpace_cons (show isSpace ']' = false by decide)]
  | array writes ih => exact reads_array writes ih
  | noFields isSpace_ =>
    intro fuel rest enough follows
    cases fuel with
    | zero => omega
    | succ fuel =>
      rw [append_assoc, cons_append, readValue, skipSpace_cons rfl]
      simp [skipSpace_append isSpace_, skipSpace_cons (show isSpace '\x7d' = false by decide)]
  | record writes ih => exact reads_record writes ih
  | @lastItem item before text after beforeSpace writes afterSpace ih =>
    intro fuel rest enough
    cases fuel with
    | zero => omega
    | succ fuel =>
      simp only [length_append] at enough
      rw [readItems, readValue_item beforeSpace ih afterSpace (by omega) (by decide)]
      simp only [bind, Option.bind_some]
      rw [skipSpace_append afterSpace, skipSpace_cons (by decide)]
      rfl
  | moreItems beforeSpace writes afterSpace writesRest ih restIH =>
    exact reads_items beforeSpace ih afterSpace restIH
  | @lastField key value before between middle text after beforeSpace betweenSpace middleSpace
      writes afterSpace ih =>
      intro fuel rest enough
      cases fuel with
      | zero => omega
      | succ fuel =>
        simp only [length_append, length_cons] at enough
        rw [append_assoc, cons_append, readFields,
          readKey_append beforeSpace betweenSpace (by omega)]
        simp only [bind, Option.bind_some]
        rw [readValue_item middleSpace ih afterSpace (by omega) (by decide)]
        simp only [Option.bind_some]
        rw [skipSpace_append afterSpace, skipSpace_cons (by decide)]
        rfl
  | moreFields beforeSpace betweenSpace middleSpace writes afterSpace writesRest ih restIH =>
    exact reads_fields beforeSpace betweenSpace middleSpace ih afterSpace restIH

theorem parse_of_writes (writes : Writes (.value value) text) (afterSpace : IsSpace after) :
    parse (text ++ after) = some (normalize value) := by
  have follows : Follows after := by
    rw [← append_nil after]
    exact follows_space afterSpace fun char mem => by cases mem
  have read := writes.reads (2 * (text ++ after).length + 2) after (by simp; omega) follows
  have noMore : skipSpace after = [] := dropWhile_eq_nil_iff.mpr afterSpace
  rw [parse, read]
  simp [noMore]

inductive Numerals : JsonValue → Prop where
  | null : Numerals .null
  | bool (value : Bool) : Numerals (.bool value)
  | number {literal : String} (numeral : (readNumeral literal.toList).isSome) :
      Numerals (.number literal)
  | text (content : String) : Numerals (.text content)
  | array {items : List JsonValue} (each : ∀ item ∈ items, Numerals item) :
      Numerals (.array items)
  | record {fields : List (String × JsonValue)} (each : ∀ field ∈ fields, Numerals field.2) :
      Numerals (.record fields)

theorem isSpace_nil : IsSpace [] := fun _ mem => by cases mem

theorem isSpace_newLine (margin : Nat) : IsSpace (newLine margin) := by
  intro char mem
  rcases mem_cons.mp mem with rfl | inMargin
  · rfl
  · rw [eq_of_mem_replicate inMargin]
    rfl

theorem writes_join_items (beforeSpace : IsSpace before) (afterSpace : IsSpace after)
    (present : items ≠ []) (each : ∀ item ∈ items, Writes (.value item) (textOf item)) :
    Writes (.items items) (join (items.map fun item => before ++ textOf item) ++ after) := by
  induction items with
  | nil => exact absurd rfl present
  | cons item rest ih =>
    have first := each item mem_cons_self
    cases rest with
    | nil => exact .lastItem beforeSpace first afterSpace
    | cons next rest =>
      have others := ih (by simp) fun other mem => each other (mem_cons_of_mem _ mem)
      have writes := Writes.moreItems beforeSpace first isSpace_nil others
      simpa [join] using writes

theorem writes_join_fields (beforeSpace : IsSpace before) (middleSpace : IsSpace middle)
    (afterSpace : IsSpace after) (present : fields ≠ [])
    (each : ∀ field ∈ fields, Writes (.value field.2) (textOf field.2)) :
    Writes (.fields fields) (join (fields.map fun field =>
      before ++ JsonText.field (field.1, middle ++ textOf field.2)) ++ after) := by
  induction fields with
  | nil => exact absurd rfl present
  | cons field rest ih =>
    have first := each field mem_cons_self
    cases rest with
    | nil =>
      have writes := @Writes.lastField field.1 _ _ _ _ _ _ beforeSpace isSpace_nil middleSpace
        first afterSpace
      simpa [join, JsonText.field] using writes
    | cons next rest =>
      have others := ih (by simp) fun other mem => each other (mem_cons_of_mem _ mem)
      have writes := @Writes.moreFields field.1 _ _ _ _ _ _ _ _ beforeSpace isSpace_nil
        middleSpace first isSpace_nil others
      simpa [join, JsonText.field] using writes

theorem printItems_eq (items : List JsonValue) :
    printItems items = items.map fun item => [] ++ print item := by
  induction items with
  | nil => rfl
  | cons item rest ih => rw [printItems, ih, map_cons, nil_append]

theorem printFields_eq (fields : List (String × JsonValue)) : printFields fields =
      fields.map fun field => [] ++ JsonText.field (field.1, [] ++ print field.2) := by
  induction fields with
  | nil => rfl
  | cons field rest ih => rw [printFields, ih, map_cons, nil_append, nil_append]

theorem indentedItems_eq (margin : Nat) (items : List JsonValue) :
    indentedItems margin items = items.map fun item => newLine margin ++ indented margin item := by
  induction items with
  | nil => rfl
  | cons item rest ih => rw [indentedItems, ih, map_cons]

theorem indentedFields_eq (margin : Nat) (fields : List (String × JsonValue)) :
    indentedFields margin fields = fields.map fun field =>
      newLine margin ++ JsonText.field (field.1, [' '] ++ indented margin field.2) := by
  induction fields with
  | nil => rfl
  | cons field rest ih => rw [indentedFields, ih, map_cons, singleton_append]

/-- The compact text stands for the value. -/
theorem writes_print (numerals : Numerals value) : Writes (.value value) (print value) := by
  induction numerals with
  | null => exact .null
  | bool value => cases value with
    | false => exact .no
    | true => exact .yes
  | number numeral => exact .number numeral
  | text content => exact .text content
  | @array items each ih =>
    cases items with
    | nil => exact .noItems isSpace_nil
    | cons item rest =>
      have inside := writes_join_items isSpace_nil isSpace_nil (by simp) ih
      rw [print, printItems_eq]
      simpa using Writes.array inside
  | @record fields each ih =>
    cases fields with
    | nil => exact .noFields isSpace_nil
    | cons field rest =>
      have inside := writes_join_fields isSpace_nil isSpace_nil isSpace_nil (by simp) ih
      rw [print, printFields_eq]
      simpa using Writes.record inside

theorem writes_indented (numerals : Numerals value) (margin : Nat) :
    Writes (.value value) (indented margin value) := by
  induction numerals generalizing margin with
  | null => exact .null
  | bool value => cases value with
    | false => exact .no
    | true => exact .yes
  | number numeral => exact .number numeral
  | text content => exact .text content
  | @array items each ih =>
    cases items with
    | nil => exact .noItems isSpace_nil
    | cons item rest =>
      have inside := writes_join_items (isSpace_newLine (margin + 2)) (isSpace_newLine margin)
        (by simp) fun item mem => ih item mem (margin + 2)
      rw [indented, indentedItems_eq]
      simpa using Writes.array inside
  | @record fields each ih =>
    cases fields with
    | nil => exact .noFields isSpace_nil
    | cons field rest =>
      have middleSpace : IsSpace [' '] := by simp [IsSpace, isSpace]
      have inside := writes_join_fields (isSpace_newLine (margin + 2)) middleSpace
        (isSpace_newLine margin) (by simp) fun field mem => ih field mem (margin + 2)
      rw [indented, indentedFields_eq]
      simpa using Writes.record inside

theorem mayPrecede_iff (first second : String) :
    mayPrecede first second = true ↔ MayPrecede first second := by
  unfold mayPrecede MayPrecede
  cases arrayIndex first <;> cases arrayIndex second <;> simp

/-- Assignments of different new names put the fields at the end. -/
theorem foldl_append_of_nodup {α β : Type} {assign : List (α × β) → α × β → List (α × β)}
    (adds : ∀ done field, field.1 ∉ done.map Prod.fst → assign done field = done ++ [field])
    {fields done : List (α × β)} (distinct : ((done ++ fields).map Prod.fst).Nodup) :
    fields.foldl assign done = done ++ fields := by
  induction fields generalizing done with
  | nil => simp
  | cons field rest ih =>
    have isNew : field.1 ∉ done.map Prod.fst := by
      rw [map_append, nodup_append] at distinct
      intro mem
      exact distinct.2.2 _ mem _ (mem_map_of_mem mem_cons_self) rfl
    rw [foldl_cons, adds done field isNew, ih (by simpa using distinct)]
    simp

theorem foldl_assign_of_nodup (distinct : (fields.map Prod.fst).Nodup) :
    fields.foldl assign [] = fields :=
  foldl_append_of_nodup (fun _ _ isNew => if_neg isNew) distinct

theorem objectOf_of_wellFormed (distinct : (fields.map Prod.fst).Nodup)
    (ordered : fields.Pairwise fun first second => MayPrecede first.1 second.1) :
    objectOf fields = fields := by
  have assigned : fields.foldl assign [] = fields := foldl_assign_of_nodup distinct
  rw [objectOf, assigned]
  exact (ordered.imp (mayPrecede_iff _ _).mpr).insertionSort_eq

theorem normalizeItems_eq (items : List JsonValue) :
    normalizeItems items = items.map normalize := by
  induction items with
  | nil => rfl
  | cons item rest ih => rw [normalizeItems, ih]; rfl

theorem normalizeFields_eq (fields : List (String × JsonValue)) :
    normalizeFields fields = fields.map fun field => (field.1, normalize field.2) := by
  induction fields with
  | nil => rfl
  | cons field rest ih => rw [normalizeFields, ih]; rfl

theorem normalize_of_wellFormed (wellFormed : value.WellFormed) : normalize value = value := by
  induction wellFormed with
  | null | bool | number | text => rfl
  | @array items each ih =>
    have same : items.map normalize = items.map id := map_congr_left ih
    rw [normalize, normalizeItems_eq, same, map_id]
  | @record fields distinct ordered each ih =>
    have same : fields.map (fun field => (field.1, normalize field.2)) = fields.map id :=
      map_congr_left fun field mem => Prod.ext rfl (ih field mem)
    rw [normalize, normalizeFields_eq, same, map_id, objectOf_of_wellFormed distinct ordered]

theorem pairwise_mayPrecede (names : ∀ field ∈ fields, arrayIndex field.1 = none) :
    fields.Pairwise fun first second => MayPrecede first.1 second.1 := by
  apply pairwise_of_forall_mem_list
  intro first firstIn second secondIn
  simp [MayPrecede, names first firstIn, names second secondIn]

theorem wellFormed_of_names (names : List String) (keys : fields.map Prod.fst = names)
    (distinct : names.Nodup) (noIndex : ∀ name ∈ names, arrayIndex name = none)
    (each : ∀ field ∈ fields, field.2.WellFormed) : WellFormed (.record fields) := by
  exact .record (keys ▸ distinct) (pairwise_mayPrecede fun field mem =>
    noIndex _ (keys ▸ mem_map_of_mem mem)) each

theorem parse_print (numerals : Numerals value) (wellFormed : value.WellFormed) :
    parse (print value) = some value := by
  have read := parse_of_writes (writes_print numerals) isSpace_nil
  rwa [append_nil, normalize_of_wellFormed wellFormed] at read

theorem parse_indented (numerals : Numerals value) (wellFormed : value.WellFormed) (margin : Nat)
    (afterSpace : IsSpace after) : parse (indented margin value ++ after) = some value := by
  rw [parse_of_writes (writes_indented numerals margin) afterSpace,
    normalize_of_wellFormed wellFormed]

theorem lookup_cons_eq {ν : Type} (field : String × ν) (fields : List (String × ν)) (key : String) :
    (field :: fields).lookup key = if key = field.1 then some field.2 else fields.lookup key := by
  rw [lookup_cons]
  by_cases same : key = field.1
  · simp [same]
  · simp [same, beq_eq_false_iff_ne.mpr same]

theorem lookup_eq_some_iff_mem {ν : Type} {fields : List (String × ν)}
    (distinct : (fields.map Prod.fst).Nodup) {key : String} {value : ν} :
    fields.lookup key = some value ↔ (key, value) ∈ fields := by
  induction fields with
  | nil => simp
  | cons field rest ih =>
    obtain ⟨isNew, distinct⟩ := nodup_cons.mp distinct
    rw [lookup_cons_eq, mem_cons]
    by_cases same : key = field.1
    · subst same
      have absent : (field.1, value) ∉ rest := fun mem =>
        isNew (mem_map.mpr ⟨_, mem, rfl⟩)
      simp [absent, Prod.ext_iff, eq_comm]
    · have differ : (key, value) ≠ field := fun equal => same (congrArg Prod.fst equal)
      simp [same, differ, ih distinct]

theorem isSome_lookup {ν : Type} {fields : List (String × ν)} {key : String} :
    (fields.lookup key).isSome = true ↔ key ∈ fields.map Prod.fst := by
  induction fields with
  | nil => simp
  | cons field rest ih =>
    by_cases same : key = field.1
    · simp [same]
    · simp [same]

theorem lookup_filter (fields : List (String × JsonValue)) (excluded : List String) (key : String) :
    (fields.filter fun field => field.1 ∉ excluded).lookup key =
      if key ∈ excluded then none else fields.lookup key := by
  induction fields with
  | nil => simp
  | cons field rest ih =>
    rw [filter_cons, lookup_cons_eq, apply_ite (lookup key), lookup_cons_eq, ih]
    by_cases same : key = field.1
    · subst same
      by_cases isExcluded : field.1 ∈ excluded
      · simp [isExcluded]
      · simp [isExcluded]
    · simp [same]

theorem keys_assign {fields : List (String × JsonValue)} {field : String × JsonValue}
    (present : field.1 ∈ fields.map Prod.fst) :
    (assign fields field).map Prod.fst = fields.map Prod.fst := by
  rw [assign, if_pos present, map_map]
  apply map_congr_left
  intro other mem
  by_cases same : other.1 = field.1
  · simp [same]
  · simp [same]

theorem lookup_assign (fields : List (String × JsonValue)) (field : String × JsonValue)
    (key : String) : (assign fields field).lookup key =
      if key = field.1 then some field.2 else fields.lookup key := by
  rw [assign]
  split
  · next present =>
    have replaced (rest : List (String × JsonValue)) :
        (rest.map fun other => if other.1 = field.1 then field else other).lookup key =
          if key = field.1 then (if key ∈ rest.map Prod.fst then some field.2 else none)
          else rest.lookup key := by
      induction rest with
      | nil => simp
      | cons other rest ih =>
        rw [map_cons, lookup_cons_eq, ih, lookup_cons_eq, map_cons]
        by_cases same : key = field.1
        · by_cases here : other.1 = field.1
          · simp [same, here]
          · simp only [same, here, Ne.symm here, if_true, if_false, mem_cons, false_or]
        · by_cases here : other.1 = field.1
          · simp [same, here]
          · simp [same, here]
    rw [replaced]
    by_cases same : key = field.1
    · simp only [same, if_true, if_pos present]
    · simp only [if_neg same]
  · next absent =>
    induction fields with
    | nil => simp [lookup_cons_eq]
    | cons other rest ih =>
      rw [map_cons, mem_cons, not_or] at absent
      rw [cons_append, lookup_cons_eq, ih absent.2, lookup_cons_eq]
      by_cases same : key = field.1
      · simp [same, absent.1]
      · simp [same]

end JsonValue

end LongHub
