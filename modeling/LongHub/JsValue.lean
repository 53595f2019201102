import LongHub.RecordSize

/-!
# JSON with the texts of JavaScript

A text of JavaScript is a sequence of 16-bit code units in which a surrogate may stand alone. JSON
names such a unit by an escape: `JSON.parse` reads `\ud800` as that unit, and `JSON.stringify`
writes it so.
-/

namespace LongHub

open List

abbrev JsText := List UInt16

instance : LawfulBEq JsText := inferInstance

/-- What an iteration over a text finds: a character, or a surrogate outside of a pair. -/
inductive CodePoint where
  | char (value : Char)
  | lone (unit : UInt16)

namespace JsText

def ofChar (char : Char) : JsText :=
  if char.toNat < 0x10000 then [UInt16.ofNat char.toNat]
  else [UInt16.ofNat (0xD800 + (char.toNat - 0x10000) / 0x400),
    UInt16.ofNat (0xDC00 + (char.toNat - 0x10000) % 0x400)]

def ofString (text : String) : JsText := text.toList.flatMap ofChar

def isHigh (unit : UInt16) : Bool := 0xD800 ≤ unit.toNat && unit.toNat < 0xDC00

def isLow (unit : UInt16) : Bool := 0xDC00 ≤ unit.toNat && unit.toNat < 0xE000

def pointOf (unit : UInt16) : CodePoint :=
  if isHigh unit || isLow unit then .lone unit else .char (Char.ofNat unit.toNat)

/-- A high surrogate and a low one after it are one character. -/
def points : JsText → List CodePoint
  | [] => []
  | [unit] => [pointOf unit]
  | unit :: next :: rest =>
    if isHigh unit && isLow next then
      .char (Char.ofNat (0x10000 + (unit.toNat - 0xD800) * 0x400 + (next.toNat - 0xDC00))) ::
        points rest
    else pointOf unit :: points (next :: rest)

end JsText

namespace CodePoint

def units : CodePoint → JsText
  | .char value => JsText.ofChar value
  | .lone unit => [unit]

/-- UTF-8 has no form for a lone surrogate. -/
def toChar : CodePoint → Char
  | .char value => value
  | .lone _ => '\uFFFD'

def escape : CodePoint → List Char
  | .char value => JsonText.escape value
  | .lone unit => ['\\', 'u', JsonText.hexDigit (unit.toNat / 4096),
      JsonText.hexDigit (unit.toNat / 256 % 16), JsonText.hexDigit (unit.toNat / 16 % 16),
      JsonText.hexDigit (unit.toNat % 16)]

end CodePoint

namespace JsText

def toWellFormed (text : JsText) : String := String.ofList ((points text).map CodePoint.toChar)

def quote (text : JsText) : List Char := '"' :: ((points text).flatMap CodePoint.escape ++ ['"'])

theorem toNat_ofNat {code : Nat} (valid : code.isValidChar) : (Char.ofNat code).toNat = code := by
  rw [Char.ofNat, dif_pos valid]
  rfl

theorem units_pointOf (unit : UInt16) : (pointOf unit).units = [unit] := by
  unfold pointOf
  split_ifs with surrogate
  · rfl
  · have small := unit.toNat_lt
    simp only [isHigh, isLow, Bool.or_eq_true, Bool.and_eq_true, decide_eq_true_eq] at surrogate
    have code : (Char.ofNat unit.toNat).toNat = unit.toNat :=
      toNat_ofNat (by unfold Nat.isValidChar; omega)
    rw [CodePoint.units, ofChar, code, if_pos (by omega), UInt16.ofNat_toNat]

/-- The code points of a text spell it. -/
theorem flatMap_units_points (text : JsText) : (points text).flatMap CodePoint.units = text := by
  fun_induction points text with
  | case1 => rfl
  | case2 unit => simp [units_pointOf]
  | case3 unit next rest isPair ih =>
    simp only [isHigh, isLow, Bool.and_eq_true, decide_eq_true_eq] at isPair
    have valid : (0x10000 + (unit.toNat - 0xD800) * 0x400 + (next.toNat - 0xDC00)).isValidChar := by
      omega
    have code := toNat_ofNat valid
    have high : 0xD800 + (0x10000 + (unit.toNat - 0xD800) * 0x400 + (next.toNat - 0xDC00) -
        0x10000) / 0x400 = unit.toNat := by omega
    have low : 0xDC00 + (0x10000 + (unit.toNat - 0xD800) * 0x400 + (next.toNat - 0xDC00) -
        0x10000) % 0x400 = next.toNat := by omega
    rw [flatMap_cons, ih, CodePoint.units, ofChar, code, if_neg (by omega), high, low,
      UInt16.ofNat_toNat, UInt16.ofNat_toNat]
    rfl
  | case4 unit next rest notPair ih =>
    rw [flatMap_cons, ih, units_pointOf]
    rfl

variable {unit : UInt16}

theorem points_cons (notHigh : isHigh unit = false) (rest : JsText) :
    points (unit :: rest) = pointOf unit :: points rest := by
  cases rest with
  | nil => rfl
  | cons next rest => simp [points, notHigh]

theorem points_ofChar (char : Char) (rest : JsText) :
    points (ofChar char ++ rest) = .char char :: points rest := by
  have back := Char.ofNat_toNat char
  have valid := char.valid
  change char.toNat < 0xD800 ∨ 0xDFFF < char.toNat ∧ char.toNat < 0x110000 at valid
  unfold ofChar
  split_ifs with single
  · have code : (UInt16.ofNat char.toNat).toNat = char.toNat := UInt16.toNat_ofNat_of_lt single
    have plain : isHigh (UInt16.ofNat char.toNat) = false ∧
        isLow (UInt16.ofNat char.toNat) = false := by
      simp only [isHigh, isLow, code, Bool.and_eq_false_iff, decide_eq_false_iff_not]
      omega
    rw [cons_append, nil_append, points_cons plain.1, pointOf, plain.1, plain.2, code, back]
    rfl
  · have high : (UInt16.ofNat (0xD800 + (char.toNat - 0x10000) / 0x400)).toNat =
        0xD800 + (char.toNat - 0x10000) / 0x400 :=
      UInt16.toNat_ofNat_of_lt (by unfold UInt16.size; omega)
    have low : (UInt16.ofNat (0xDC00 + (char.toNat - 0x10000) % 0x400)).toNat =
        0xDC00 + (char.toNat - 0x10000) % 0x400 :=
      UInt16.toNat_ofNat_of_lt (by unfold UInt16.size; omega)
    have isPair : (isHigh (UInt16.ofNat (0xD800 + (char.toNat - 0x10000) / 0x400)) &&
        isLow (UInt16.ofNat (0xDC00 + (char.toNat - 0x10000) % 0x400))) = true := by
      simp only [isHigh, isLow, high, low, Bool.and_eq_true, decide_eq_true_eq]
      omega
    have code : 0x10000 + (0xD800 + (char.toNat - 0x10000) / 0x400 - 0xD800) * 0x400 +
        (0xDC00 + (char.toNat - 0x10000) % 0x400 - 0xDC00) = char.toNat := by omega
    rw [cons_append, cons_append, nil_append, points, if_pos isPair, high, low, code, back]

theorem points_ofString (text : String) : points (ofString text) = text.toList.map .char := by
  unfold ofString
  induction text.toList with
  | nil => rfl
  | cons char rest ih => rw [flatMap_cons, points_ofChar, ih, map_cons]

/-- Well-formed texts are the texts of characters. -/
theorem toWellFormed_ofString (text : String) : (ofString text).toWellFormed = text := by
  rw [toWellFormed, points_ofString, map_map]
  exact (congrArg String.ofList (map_id _)).trans String.ofList_toList

@[simp]
theorem ofString_beq (one other : String) : (ofString one == ofString other) = (one == other) := by
  rw [Bool.eq_iff_iff, beq_iff_eq, beq_iff_eq]
  refine ⟨fun same => ?_, congrArg ofString⟩
  rw [← toWellFormed_ofString one, same, toWellFormed_ofString]

end JsText

inductive JsValue where
  | null
  | bool (value : Bool)
  | number (literal : String)
  | text (content : JsText)
  | array (items : List JsValue)
  | record (fields : List (JsText × JsValue))

namespace JsValue

open JsonValue (arrayIndex skipSpace readUnit isNumberChar newLine isSpace IsSpace
  hexDigitValue_hexDigit isSpace_nil isSpace_newLine skipSpace_append skipSpace_cons)
open ManagerUpdate (byteCount byteCount_append byteCount_cons byteCount_singleton byteCount_flatMap
  byteCount_join byteCount_toList)
open JsText (quote)

/-! ## Reading -/

def readNumber (text : List Char) : Option (JsValue × List Char) :=
  let literal := text.takeWhile isNumberChar
  if (DoubleNumber.readNumeral literal).isSome then
    some (.number (String.ofList literal), text.dropWhile isNumberChar)
  else none

/-- The code units of a character between quotes, escaped or not. -/
def readChar : List Char → Option (JsText × List Char)
  | '\\' :: 'u' :: rest => (readUnit rest).map fun (unit, after) => ([UInt16.ofNat unit], after)
  | chars => (JsonValue.readChar chars).map fun (char, rest) => (JsText.ofChar char, rest)

/-- The code units up to the closing quote. -/
def readText : Nat → List Char → Option (JsText × List Char)
  | 0, _ => none
  | _ + 1, '"' :: rest => some ([], rest)
  | fuel + 1, chars => do
    let (units, rest) ← readChar chars
    let (more, after) ← readText fuel rest
    some (units ++ more, after)

def readKey (fuel : Nat) (text : List Char) : Option (JsText × List Char) :=
  match skipSpace text with
  | '"' :: rest => do
    let (key, after) ← readText fuel rest
    match skipSpace after with
    | ':' :: rest => some (key, rest)
    | _ => none
  | _ => none

/-- Items with commas between them, up to the closing bracket. -/
def readList {α : Type} (read : List Char → Option (α × List Char)) (close : Char) :
    Nat → List Char → Option (List α × List Char)
  | 0, _ => none
  | fuel + 1, chars => do
    let (item, rest) ← read chars
    match skipSpace rest with
    | [] => none
    | mark :: after =>
      if mark = close then some ([item], after)
      else if mark = ',' then
        (readList read close fuel after).map fun (items, rest) => (item :: items, rest)
      else none

/-- What follows an opening bracket. -/
def readBracket {α : Type} (read : List Char → Option (α × List Char)) (close : Char)
    (fuel : Nat) (chars : List Char) : Option (List α × List Char) :=
  if (skipSpace chars).head? = some close then some ([], (skipSpace chars).tail)
  else readList read close fuel chars

def readField (readValue : List Char → Option (JsValue × List Char)) (fuel : Nat)
    (chars : List Char) : Option ((JsText × JsValue) × List Char) := do
  let (key, rest) ← readKey fuel chars
  let (value, after) ← readValue rest
  some ((key, value), after)

def readValue : Nat → List Char → Option (JsValue × List Char)
  | 0, _ => none
  | fuel + 1, chars =>
    match skipSpace chars with
    | 'n' :: 'u' :: 'l' :: 'l' :: rest => some (.null, rest)
    | 't' :: 'r' :: 'u' :: 'e' :: rest => some (.bool true, rest)
    | 'f' :: 'a' :: 'l' :: 's' :: 'e' :: rest => some (.bool false, rest)
    | '"' :: rest => (readText fuel rest).map fun (content, after) => (.text content, after)
    | '[' :: rest => (readBracket (readValue fuel) ']' fuel rest).map fun (items, after) =>
      (.array items, after)
    | '\x7b' :: rest =>
      (readBracket (readField (readValue fuel) fuel) '\x7d' fuel rest).map fun (fields, after) =>
        (.record fields, after)
    | other => readNumber other

def mayPrecede (first second : JsText) : Bool :=
  JsonValue.mayPrecede first.toWellFormed second.toWellFormed

def assign (fields : List (JsText × JsValue)) (field : JsText × JsValue) :
    List (JsText × JsValue) :=
  if field.1 ∈ fields.map Prod.fst then
    fields.map fun other => if other.1 = field.1 then field else other
  else fields ++ [field]

def objectOf (fields : List (JsText × JsValue)) : List (JsText × JsValue) :=
  (fields.foldl assign []).insertionSort fun first second => mayPrecede first.1 second.1

mutual

def normalize : JsValue → JsValue
  | .null => .null
  | .bool value => .bool value
  | .number literal => .number literal
  | .text content => .text content
  | .array items => .array (normalizeItems items)
  | .record fields => .record (objectOf (normalizeFields fields))

def normalizeItems : List JsValue → List JsValue
  | [] => []
  | item :: rest => normalize item :: normalizeItems rest

def normalizeFields : List (JsText × JsValue) → List (JsText × JsValue)
  | [] => []
  | (key, value) :: rest => (key, normalize value) :: normalizeFields rest

end

def parse (text : List Char) : Option JsValue := do
  let (value, rest) ← readValue (text.length + 1) text
  if skipSpace rest = [] then some (normalize value) else none

/-! ## Printing -/

/-- The break before a line with a margin; compact JSON has no margin. -/
def lineBreak : Option Nat → List Char
  | none => []
  | some margin => newLine margin

def afterColon : Option Nat → List Char
  | none => []
  | some _ => [' ']

mutual

/-- `JSON.stringify` of a value whose numbers are kept as it writes them. -/
def stringify (margin : Option Nat) : JsValue → List Char
  | .null => ['n', 'u', 'l', 'l']
  | .bool true => ['t', 'r', 'u', 'e']
  | .bool false => ['f', 'a', 'l', 's', 'e']
  | .number literal => literal.toList
  | .text content => quote content
  | .array [] => ['[', ']']
  | .array (item :: rest) =>
    '[' :: JsonText.join (printItems (margin.map (· + 2)) (item :: rest)) ++ lineBreak margin ++
      [']']
  | .record [] => ['\x7b', '\x7d']
  | .record (field :: rest) =>
    '\x7b' :: JsonText.join (printFields (margin.map (· + 2)) (field :: rest)) ++
      lineBreak margin ++ ['\x7d']

def printItems (margin : Option Nat) : List JsValue → List (List Char)
  | [] => []
  | item :: rest => (lineBreak margin ++ stringify margin item) :: printItems margin rest

def printFields (margin : Option Nat) : List (JsText × JsValue) → List (List Char)
  | [] => []
  | (key, value) :: rest =>
    (lineBreak margin ++ quote key ++ ':' :: (afterColon margin ++ stringify margin value)) ::
      printFields margin rest

end

/-! ## The size of a printed value -/

def textSize (text : JsText) : Nat :=
  (text.points.map fun point => byteCount point.escape).sum + 2

mutual

/-- The bytes of the printed value. -/
def size (margin : Option Nat) : JsValue → Nat
  | .null => 4
  | .bool value => if value then 4 else 5
  | .number literal => literal.utf8ByteSize
  | .text content => textSize content
  | .array [] => 2
  | .array (item :: rest) =>
    itemsSize (margin.map (· + 2)) (item :: rest) + byteCount (lineBreak margin) + 1
  | .record [] => 2
  | .record (field :: rest) =>
    fieldsSize (margin.map (· + 2)) (field :: rest) + byteCount (lineBreak margin) + 1

def itemsSize (margin : Option Nat) : List JsValue → Nat
  | [] => 0
  | item :: rest =>
    byteCount (lineBreak margin) + size margin item + 1 + itemsSize margin rest

def fieldsSize (margin : Option Nat) : List (JsText × JsValue) → Nat
  | [] => 0
  | (key, value) :: rest => byteCount (lineBreak margin) + textSize key +
      byteCount (afterColon margin) + size margin value + 2 + fieldsSize margin rest

end

theorem byteCount_quote (text : JsText) : byteCount (quote text) = textSize text := by
  have mark : '"'.utf8Size = 1 := rfl
  rw [quote, byteCount_cons, byteCount_append, byteCount_singleton, mark, byteCount_flatMap,
    textSize]
  omega

theorem byteCount_framed {first last : Char} {texts : List (List Char)} (after : List Char)
    (firstOne : first.utf8Size = 1) (lastOne : last.utf8Size = 1) (present : texts ≠ []) :
    byteCount (first :: JsonText.join texts ++ after ++ [last]) =
      (texts.map fun text => byteCount text + 1).sum + byteCount after + 1 := by
  have inside := byteCount_join present
  rw [byteCount_append, byteCount_append, byteCount_cons, byteCount_singleton, firstOne, lastOne]
  omega

mutual

theorem byteCount_stringify (margin : Option Nat) : (value : JsValue) →
    byteCount (stringify margin value) = size margin value
  | .null => by
    change byteCount ['n', 'u', 'l', 'l'] = 4
    decide
  | .bool true => by
    change byteCount ['t', 'r', 'u', 'e'] = 4
    decide
  | .bool false => by
    change byteCount ['f', 'a', 'l', 's', 'e'] = 5
    decide
  | .number literal => byteCount_toList literal
  | .text content => byteCount_quote content
  | .array [] | .record [] => rfl
  | .array (item :: rest) => by
    rw [stringify, byteCount_framed _ rfl rfl (by simp [printItems]), size, byteCount_printItems]
  | .record (field :: rest) => by
    rw [stringify, byteCount_framed _ rfl rfl (by simp [printFields]), size,
      byteCount_printFields]

theorem byteCount_printItems (margin : Option Nat) : (items : List JsValue) →
    ((printItems margin items).map fun text => byteCount text + 1).sum = itemsSize margin items
  | [] => rfl
  | item :: rest => by
    have here := byteCount_stringify margin item
    have inRest := byteCount_printItems margin rest
    rw [printItems, itemsSize, map_cons, sum_cons, byteCount_append]
    omega

theorem byteCount_printFields (margin : Option Nat) : (fields : List (JsText × JsValue)) →
    ((printFields margin fields).map fun text => byteCount text + 1).sum =
      fieldsSize margin fields
  | [] => rfl
  | (key, value) :: rest => by
    have here := byteCount_stringify margin value
    have inRest := byteCount_printFields margin rest
    have quoted := byteCount_quote key
    have colon : ':'.utf8Size = 1 := rfl
    rw [printFields, fieldsSize, map_cons, sum_cons, byteCount_append, byteCount_append,
      byteCount_cons, byteCount_append, colon]
    omega

end

/-! ## What is printed is read back -/

/-- The value is made of texts. -/
inductive Textual : JsValue → Prop where
  | text (content : JsText) : Textual (.text content)
  | array (items : List JsValue) (each : ∀ item ∈ items, Textual item) : Textual (.array items)
  | record (fields : List (JsText × JsValue)) (each : ∀ field ∈ fields, Textual field.2) :
      Textual (.record fields)

variable {space rest after text : List Char} {fuel : Nat} {margin : Option Nat} {value : JsValue}
  {items : List JsValue} {fields : List (JsText × JsValue)}

theorem readChar_eq (other : ∀ after, text ≠ '\\' :: 'u' :: after) :
    readChar text =
      (JsonValue.readChar text).map fun (char, rest) => (JsText.ofChar char, rest) := by
  unfold readChar
  split
  · exact absurd rfl (other _)
  · rfl

theorem escape_cases (char : Char) :
    (∀ rest after, JsonText.escape char ++ rest ≠ '\\' :: 'u' :: after) ∨
      char.toNat < 32 ∧ JsonText.escape char = ['\\', 'u', '0', '0',
        JsonText.hexDigit (char.toNat / 16), JsonText.hexDigit (char.toNat % 16)] := by
  unfold JsonText.escape
  split_ifs with isQuote isSlash _ _ _ _ _ control
  iterate 7 exact .inl fun rest after same => by simp at same
  · exact .inr ⟨control, rfl⟩
  · exact .inl fun rest after same => isSlash (List.cons.inj same).1

theorem readChar_escape (point : CodePoint) (rest : List Char) :
    readChar (point.escape ++ rest) = some (point.units, rest) := by
  have digit {value : Nat} (small : value < 16) := hexDigitValue_hexDigit small
  cases point with
  | lone unit =>
    have small := unit.toNat_lt
    have first := digit (show unit.toNat / 4096 < 16 by omega)
    have second := digit (show unit.toNat / 256 % 16 < 16 by omega)
    have third := digit (show unit.toNat / 16 % 16 < 16 by omega)
    have fourth := digit (show unit.toNat % 16 < 16 by omega)
    have sum : ((unit.toNat / 4096 * 16 + unit.toNat / 256 % 16) * 16 + unit.toNat / 16 % 16) * 16 +
        unit.toNat % 16 = unit.toNat := by omega
    simp [CodePoint.escape, CodePoint.units, readChar, readUnit, first, second, third, fourth, sum]
  | char value =>
    change readChar (JsonText.escape value ++ rest) = some (JsText.ofChar value, rest)
    rcases escape_cases value with other | ⟨control, isEscape⟩
    · rw [readChar_eq (other rest), JsonValue.readChar_escape]
      rfl
    · have high := digit (show value.toNat / 16 < 16 by omega)
      have low := digit (show value.toNat % 16 < 16 by omega)
      have zero : JsonValue.hexDigitValue '0' = some 0 := rfl
      have sum : value.toNat / 16 * 16 + value.toNat % 16 = value.toNat := by omega
      have small : value.toNat < 0x10000 := by omega
      simp [isEscape, readChar, readUnit, high, low, zero, sum, JsText.ofChar, small]

theorem head_escape (point : CodePoint) (rest : List Char) :
    (point.escape ++ rest).head? ≠ some '"' := by
  cases point with
  | char value => exact JsonText.head_escape value rest
  | lone unit => simp [CodePoint.escape]

theorem readText_succ (isOpen : text.head? ≠ some '"') (fuel : Nat) :
    readText (fuel + 1) text = (readChar text).bind fun (units, rest) =>
      (readText fuel rest).bind fun (more, after) => some (units ++ more, after) := by
  cases text with
  | nil => rfl
  | cons head tail =>
    rw [readText]
    · rfl
    · intro rest same
      exact isOpen (by rw [same]; rfl)

theorem readText_escape {points : List CodePoint} (enough : points.length < fuel) :
    readText fuel (points.flatMap CodePoint.escape ++ '"' :: rest) =
      some (points.flatMap CodePoint.units, rest) := by
  induction points generalizing fuel with
  | nil =>
    obtain ⟨fuel, rfl⟩ := Nat.exists_eq_succ_of_ne_zero enough.ne'
    rfl
  | cons point points ih =>
    rw [length_cons] at enough
    obtain ⟨fuel, rfl⟩ := Nat.exists_eq_succ_of_ne_zero (Nat.ne_zero_of_lt enough)
    rw [flatMap_cons, append_assoc, Nat.succ_eq_add_one, readText_succ (head_escape _ _),
      readChar_escape, Option.bind_some]
    dsimp only
    rw [ih (by omega)]
    rfl

theorem length_points_le (points : List CodePoint) :
    points.length ≤ (points.flatMap CodePoint.escape).length := by
  induction points with
  | nil => simp
  | cons point points ih =>
    have present : 0 < point.escape.length := by
      rw [length_pos_iff]
      intro empty
      have read := readChar_escape point []
      rw [empty] at read
      cases read
    rw [flatMap_cons, length_append, length_cons]
    omega

theorem readText_quote {content : JsText} (enough : (quote content).length ≤ fuel + 1) :
    readText fuel (content.points.flatMap CodePoint.escape ++ '"' :: rest) =
      some (content, rest) := by
  have short := length_points_le content.points
  rw [quote, length_cons, length_append, length_singleton] at enough
  rw [readText_escape (by omega), JsText.flatMap_units_points]

theorem isSpace_lineBreak (margin : Option Nat) : IsSpace (lineBreak margin) := by
  cases margin with
  | none => exact isSpace_nil
  | some margin => exact isSpace_newLine margin

variable {α : Type} {read : List Char → Option (α × List Char)} {print : α → List Char}
  {close : Char} {item : α} {items : List α}

/-- A list is read if each of its items is. -/
theorem readList_join (notComma : ',' ≠ close) (visible : isSpace close = false)
    (each : ∀ other ∈ item :: items, ∀ rest, read (print other ++ rest) = some (other, rest))
    (afterSpace : IsSpace after) (enough : items.length < fuel) :
    readList read close fuel
        (JsonText.join ((item :: items).map print) ++ (after ++ close :: rest)) =
      some (item :: items, rest) := by
  obtain ⟨fuel, rfl⟩ := Nat.exists_eq_succ_of_ne_zero (Nat.ne_zero_of_lt enough)
  induction items generalizing item fuel with
  | nil =>
    have here := each item mem_cons_self (after ++ close :: rest)
    have ends : skipSpace (after ++ close :: rest) = close :: rest := by
      rw [skipSpace_append afterSpace, skipSpace_cons visible]
    change readList read close (fuel + 1) (print item ++ (after ++ close :: rest)) = _
    simp [readList, here, ends]
  | cons next items ih =>
    have split : JsonText.join ((item :: next :: items).map print) =
        print item ++ ',' :: JsonText.join ((next :: items).map print) := rfl
    rw [length_cons] at enough
    obtain ⟨fuel, rfl⟩ : ∃ less, fuel = less + 1 := ⟨fuel - 1, by omega⟩
    have here := each item mem_cons_self
      (',' :: (JsonText.join ((next :: items).map print) ++ (after ++ close :: rest)))
    have later := ih (fun other mem => each other (mem_cons_of_mem _ mem)) fuel (by omega)
    have ends (tail : List Char) : skipSpace (',' :: tail) = ',' :: tail := rfl
    rw [split, append_assoc, cons_append, readList, here]
    simp only [Option.bind_eq_bind, Option.bind_some, ends, if_neg notComma, if_true]
    rw [later]
    rfl

theorem lengths_join (texts : List (List Char)) :
    (∀ text ∈ texts, text.length ≤ (JsonText.join texts).length) ∧
      texts.length ≤ (JsonText.join texts).length + 1 := by
  induction texts with
  | nil => simp
  | cons text texts ih =>
    cases texts with
    | nil => simp [JsonText.join]
    | cons next texts =>
      rw [JsonText.join, length_append, length_cons]
      · refine ⟨fun other mem => ?_, ?_⟩
        · rcases mem_cons.mp mem with rfl | inRest
          · omega
          · have := ih.1 other inRest
            omega
        · have := ih.2
          simp only [length_cons] at this ⊢
          omega
      · simp

/-- An item on its own line. -/
def itemText (margin : Option Nat) (item : JsValue) : List Char :=
  lineBreak margin ++ stringify margin item

def fieldText (margin : Option Nat) (field : JsText × JsValue) : List Char :=
  lineBreak margin ++ (quote field.1 ++ ':' :: (afterColon margin ++ stringify margin field.2))

theorem printItems_eq (margin : Option Nat) (items : List JsValue) :
    printItems margin items = items.map (itemText margin) := by
  induction items with
  | nil => rfl
  | cons item rest ih => rw [printItems, ih]; rfl

theorem printFields_eq (margin : Option Nat) (fields : List (JsText × JsValue)) :
    printFields margin fields = fields.map (fieldText margin) := by
  induction fields with
  | nil => rfl
  | cons field rest ih => rw [printFields, ih, append_assoc]; rfl

/-- The printed value is read, whatever follows it. -/
def Reads (margin : Option Nat) (value : JsValue) : Prop :=
  ∀ {space : List Char} (fuel : Nat) (rest : List Char), IsSpace space →
    (stringify margin value).length ≤ fuel →
      readValue fuel (space ++ (stringify margin value ++ rest)) = some (value, rest)

theorem readKey_quote {key : JsText} (enough : (quote key).length ≤ fuel + 1) :
    readKey fuel (lineBreak margin ++ (quote key ++ ':' :: rest)) = some (key, rest) := by
  have colon : skipSpace (':' :: rest) = ':' :: rest := rfl
  rw [readKey, skipSpace_append (isSpace_lineBreak margin), quote, cons_append,
    skipSpace_cons rfl, append_assoc, cons_append, nil_append]
  simp only [readText_quote enough, Option.bind_eq_bind, Option.bind_some, colon]

theorem isSpace_afterColon (margin : Option Nat) : IsSpace (afterColon margin) := by
  cases margin with
  | none => exact isSpace_nil
  | some margin =>
    intro char mem
    rw [mem_singleton.mp mem]
    rfl

theorem starts_stringify (textual : Textual value) (margin : Option Nat) :
    ∃ char tail, stringify margin value = char :: tail ∧ char ≠ ']' ∧ isSpace char = false := by
  cases textual with
  | text content => exact ⟨'"', _, rfl, by decide⟩
  | array items =>
    cases items with
    | nil => exact ⟨'[', _, rfl, by decide⟩
    | cons item rest => exact ⟨'[', _, by rw [stringify]; rfl, by decide⟩
  | record fields =>
    cases fields with
    | nil => exact ⟨'\x7b', _, rfl, by decide⟩
    | cons field rest => exact ⟨'\x7b', _, by rw [stringify]; rfl, by decide⟩

/-- A list whose items begin in this way is not empty. -/
theorem readBracket_join {first : Char} {tail : List Char} (isOpen : first ≠ close)
    (firstVisible : isSpace first = false) (starts : print item = lineBreak margin ++ first :: tail)
    (notComma : ',' ≠ close) (visible : isSpace close = false)
    (each : ∀ other ∈ item :: items, ∀ rest, read (print other ++ rest) = some (other, rest))
    (afterSpace : IsSpace after)
    (enough : (JsonText.join ((item :: items).map print)).length < fuel) :
    readBracket read close fuel
        (JsonText.join ((item :: items).map print) ++ (after ++ close :: rest)) =
      some (item :: items, rest) := by
  have few := (lengths_join ((item :: items).map print)).2
  rw [length_map, length_cons] at few
  have head : (skipSpace (JsonText.join ((item :: items).map print) ++
      (after ++ close :: rest))).head? = some first := by
    have split : ∃ more, JsonText.join ((item :: items).map print) = print item ++ more := by
      cases items with
      | nil => exact ⟨[], (append_nil _).symm⟩
      | cons next items => exact ⟨_, rfl⟩
    obtain ⟨more, split⟩ := split
    rw [split, starts, append_assoc, append_assoc, skipSpace_append (isSpace_lineBreak margin),
      cons_append, skipSpace_cons firstVisible]
    rfl
  rw [readBracket, head, if_neg (by simpa using isOpen)]
  exact readList_join notComma visible each afterSpace (by omega)

theorem read_itemText (reads : Reads margin value) (enough : (itemText margin value).length ≤ fuel)
    (rest : List Char) : readValue fuel (itemText margin value ++ rest) = some (value, rest) := by
  rw [itemText, length_append] at enough
  rw [itemText, append_assoc]
  exact reads fuel rest (isSpace_lineBreak margin) (by omega)

theorem read_fieldText {field : JsText × JsValue} (reads : Reads margin field.2)
    (enough : (fieldText margin field).length ≤ fuel) (rest : List Char) :
    readField (readValue fuel) fuel (fieldText margin field ++ rest) = some (field, rest) := by
  simp only [fieldText, length_append, length_cons] at enough
  have keyEnough : (quote field.1).length ≤ fuel + 1 := by omega
  have isValue := reads fuel rest (isSpace_afterColon margin) (by omega)
  simp only [fieldText, append_assoc, cons_append, readField, readKey_quote keyEnough, isValue,
    Option.bind_eq_bind, Option.bind_some]

/-- Values of texts are read back from what is printed of them. -/
theorem reads_stringify (textual : Textual value) : ∀ margin, Reads margin value := by
  induction textual with
  | text content =>
    intro margin space fuel rest isSpace enough
    have long : 2 ≤ (quote content).length := by simp [quote]
    rw [stringify] at enough ⊢
    obtain ⟨fuel, rfl⟩ : ∃ less, fuel = less + 1 := ⟨fuel - 1, by omega⟩
    rw [readValue, skipSpace_append isSpace, quote, cons_append, skipSpace_cons rfl,
      append_assoc, cons_append, nil_append]
    change (readText fuel _).map _ = _
    rw [readText_quote enough]
    rfl
  | array items each ih =>
    intro margin space fuel rest isSpace enough
    cases items with
    | nil =>
      obtain ⟨fuel, rfl⟩ := Nat.exists_eq_succ_of_ne_zero (Nat.ne_zero_of_lt enough)
      rw [readValue, skipSpace_append isSpace]
      rfl
    | cons item items =>
      rw [stringify, printItems_eq] at enough ⊢
      generalize margin.map (· + 2) = deeper at enough ⊢
      simp only [length_append, length_cons] at enough
      obtain ⟨fuel, rfl⟩ : ∃ less, fuel = less + 1 := ⟨fuel - 1, by omega⟩
      obtain ⟨first, tail, starts, isOpen, firstVisible⟩ :=
        starts_stringify (each item mem_cons_self) deeper
      have opens : itemText deeper item = lineBreak deeper ++ first :: tail := congrArg _ starts
      have eachItem : ∀ other ∈ item :: items, ∀ rest,
          readValue fuel (itemText deeper other ++ rest) = some (other, rest) := by
        intro other mem rest
        have short := (lengths_join ((item :: items).map (itemText deeper))).1 _
          (mem_map_of_mem mem)
        exact read_itemText (ih other mem _) (Nat.le_trans short (by omega)) rest
      have short : (JsonText.join ((item :: items).map (itemText deeper))).length < fuel := by omega
      simp only [append_assoc, cons_append, nil_append]
      rw [readValue, skipSpace_append isSpace, skipSpace_cons rfl]
      change (readBracket _ _ _ _).map _ = _
      rw [readBracket_join isOpen firstVisible opens (by decide) rfl eachItem
        (isSpace_lineBreak margin) short]
      rfl
  | record fields each ih =>
    intro margin space fuel rest isSpace enough
    cases fields with
    | nil =>
      obtain ⟨fuel, rfl⟩ := Nat.exists_eq_succ_of_ne_zero (Nat.ne_zero_of_lt enough)
      rw [readValue, skipSpace_append isSpace]
      rfl
    | cons field fields =>
      rw [stringify, printFields_eq] at enough ⊢
      generalize margin.map (· + 2) = deeper at enough ⊢
      simp only [length_append, length_cons] at enough
      obtain ⟨fuel, rfl⟩ : ∃ less, fuel = less + 1 := ⟨fuel - 1, by omega⟩
      have opens : fieldText deeper field = lineBreak deeper ++ '"' :: _ := rfl
      have eachField : ∀ other ∈ field :: fields, ∀ rest, readField (readValue fuel) fuel
          (fieldText deeper other ++ rest) = some (other, rest) := by
        intro other mem rest
        have short := (lengths_join ((field :: fields).map (fieldText deeper))).1 _
          (mem_map_of_mem mem)
        exact read_fieldText (ih other mem _) (Nat.le_trans short (by omega)) rest
      have short : (JsonText.join ((field :: fields).map (fieldText deeper))).length < fuel := by
        omega
      simp only [append_assoc, cons_append, nil_append]
      rw [readValue, skipSpace_append isSpace, skipSpace_cons rfl]
      change (readBracket _ _ _ _).map _ = _
      rw [readBracket_join (by decide : '"' ≠ '\x7d') rfl opens (by decide) rfl eachField
        (isSpace_lineBreak margin) short]
      rfl

/-- Fields whose names are different and no indices stay as they are. -/
theorem objectOf_of_names (names : List JsText) (keys : fields.map Prod.fst = names)
    (distinct : names.Nodup) (noIndex : ∀ name ∈ names, arrayIndex name.toWellFormed = none) :
    objectOf fields = fields := by
  subst keys
  have assigned : fields.foldl assign [] = fields :=
    JsonValue.foldl_append_of_nodup (fun done field isNew => if_neg isNew) distinct
  rw [objectOf, assigned]
  apply Pairwise.insertionSort_eq
  apply pairwise_of_forall_mem_list
  intro first firstIn second secondIn
  simp [mayPrecede, JsonValue.mayPrecede, noIndex _ (mem_map_of_mem firstIn),
    noIndex _ (mem_map_of_mem secondIn)]

theorem parse_stringify (textual : Textual value) (normal : normalize value = value)
    (afterSpace : IsSpace after) : parse (stringify margin value ++ after) = some value := by
  have read := reads_stringify textual margin ((stringify margin value ++ after).length + 1) after
    isSpace_nil (by rw [length_append]; omega)
  rw [nil_append] at read
  have ends : skipSpace after = [] := by
    rw [← append_nil after, skipSpace_append afterSpace]
    rfl
  simp only [parse, read, Option.bind_eq_bind, Option.bind_some, ends, if_true, normal]

end JsValue

end LongHub
