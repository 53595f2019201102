import LongHub.CanonicalJson
import LongHub.DoubleNumber

/-!
# Reading and printing JSON

`parse` reads a JSON text as `JSON.parse` does: a value with the fields of its objects in the order
of the text, of which each object keeps, for every key, the last value at the place of the first,
array indices before the other keys.

A text is a sequence of Unicode scalar values here: a surrogate that an escape leaves alone is read
as U+FFFD. The texts of JavaScript, with lone surrogates, are those of `JsValue`.
-/

namespace LongHub

open JsonText
namespace JsonValue

def isSpace (char : Char) : Bool :=
  char = ' ' || char = '\t' || char = '\n' || char = '\r'

variable (text : List Char)

def skipSpace : List Char := text.dropWhile isSpace

def isNumberChar (char : Char) : Bool :=
  char.isDigit || char = '-' || char = '+' || char = '.' || char = 'e' || char = 'E'

def readNumber : Option (JsonValue × List Char) :=
  let literal := text.takeWhile isNumberChar
  if (DoubleNumber.readNumeral literal).isSome then
    some (.number (String.ofList literal), text.dropWhile isNumberChar)
  else none

def hexDigitValue (digit : Char) : Option Nat :=
  if digit.isDigit then some (digit.toNat - 48)
  else if 'a' ≤ digit ∧ digit ≤ 'f' then some (digit.toNat - 87)
  else if 'A' ≤ digit ∧ digit ≤ 'F' then some (digit.toNat - 55)
  else none

def readUnit : List Char → Option (Nat × List Char)
  | first :: second :: third :: fourth :: rest => do
    let first ← hexDigitValue first
    let second ← hexDigitValue second
    let third ← hexDigitValue third
    let fourth ← hexDigitValue fourth
    some (((first * 16 + second) * 16 + third) * 16 + fourth, rest)
  | _ => none

def readLowSurrogate : List Char → Option (Nat × List Char)
  | '\\' :: 'u' :: rest =>
    match readUnit rest with
    | some (unit, after) =>
      if 0xDC00 ≤ unit ∧ unit < 0xE000 then some (unit - 0xDC00, after) else none
    | none => none
  | _ => none

/-- A pair of surrogates is one character, and a lone one is U+FFFD. -/
def readEscapedUnit : Option (Char × List Char) :=
  (readUnit text).map fun (unit, rest) =>
    if unit < 0xD800 ∨ 0xE000 ≤ unit then (Char.ofNat unit, rest)
    else if 0xDC00 ≤ unit then ('\uFFFD', rest)
    else
      match readLowSurrogate rest with
      | some (low, after) => (Char.ofNat (0x10000 + (unit - 0xD800) * 0x400 + low), after)
      | none => ('\uFFFD', rest)

/-- A character between quotes, escaped or not. -/
@[grind =]
def readChar : List Char → Option (Char × List Char)
  | '\\' :: '"' :: rest => some ('"', rest)
  | '\\' :: '\\' :: rest => some ('\\', rest)
  | '\\' :: '/' :: rest => some ('/', rest)
  | '\\' :: 'b' :: rest => some (Char.ofNat 8, rest)
  | '\\' :: 't' :: rest => some (Char.ofNat 9, rest)
  | '\\' :: 'n' :: rest => some (Char.ofNat 10, rest)
  | '\\' :: 'f' :: rest => some (Char.ofNat 12, rest)
  | '\\' :: 'r' :: rest => some (Char.ofNat 13, rest)
  | '\\' :: 'u' :: rest => readEscapedUnit rest
  | '\\' :: _ => none
  | char :: rest => if char.toNat < 32 then none else some (char, rest)
  | [] => none

/-- The characters up to the closing quote. -/
def readText : Nat → List Char → Option (List Char × List Char)
  | 0, _ => none
  | _ + 1, '"' :: rest => some ([], rest)
  | fuel + 1, chars => do
    let (char, rest) ← readChar chars
    let (more, after) ← readText fuel rest
    some (char :: more, after)

def readKey (fuel : Nat) (text : List Char) : Option (String × List Char) :=
  match skipSpace text with
  | '"' :: rest => do
    let (key, after) ← readText fuel rest
    match skipSpace after with
    | ':' :: rest => some (String.ofList key, rest)
    | _ => none
  | _ => none

mutual

def readValue : Nat → List Char → Option (JsonValue × List Char)
  | 0, _ => none
  | fuel + 1, chars =>
    match skipSpace chars with
    | 'n' :: 'u' :: 'l' :: 'l' :: rest => some (.null, rest)
    | 't' :: 'r' :: 'u' :: 'e' :: rest => some (.bool true, rest)
    | 'f' :: 'a' :: 'l' :: 's' :: 'e' :: rest => some (.bool false, rest)
    | '"' :: rest => (readText fuel rest).map fun (chars, after) =>
      (.text (String.ofList chars), after)
    | '[' :: rest =>
      match skipSpace rest with
      | ']' :: after => some (.array [], after)
      | _ => (readItems fuel rest).map fun (items, after) => (.array items, after)
    | '\x7b' :: rest =>
      match skipSpace rest with
      | '\x7d' :: after => some (.record [], after)
      | _ => (readFields fuel rest).map fun (fields, after) => (.record fields, after)
    | other => readNumber other

def readItems : Nat → List Char → Option (List JsonValue × List Char)
  | 0, _ => none
  | fuel + 1, chars => do
    let (item, rest) ← readValue fuel chars
    match skipSpace rest with
    | ']' :: after => some ([item], after)
    | ',' :: more => (readItems fuel more).map fun (items, after) => (item :: items, after)
    | _ => none

def readFields : Nat → List Char → Option (List (String × JsonValue) × List Char)
  | 0, _ => none
  | fuel + 1, chars => do
    let (key, rest) ← readKey fuel chars
    let (value, rest) ← readValue fuel rest
    match skipSpace rest with
    | '\x7d' :: after => some ([(key, value)], after)
    | ',' :: more =>
      (readFields fuel more).map fun (fields, after) => ((key, value) :: fields, after)
    | _ => none

end

def mayPrecede (first second : String) : Bool :=
  match arrayIndex first, arrayIndex second with
  | some one, some other => one < other
  | some _, none => true
  | none, some _ => false
  | none, none => true

def assign (fields : List (String × JsonValue)) (field : String × JsonValue) :
    List (String × JsonValue) :=
  if field.1 ∈ fields.map Prod.fst then
    fields.map fun other => if other.1 = field.1 then field else other
  else fields ++ [field]

def objectOf (fields : List (String × JsonValue)) : List (String × JsonValue) :=
  (fields.foldl assign []).insertionSort fun first second => mayPrecede first.1 second.1

mutual

@[grind =]
def normalize : JsonValue → JsonValue
  | .null => .null
  | .bool value => .bool value
  | .number literal => .number literal
  | .text content => .text content
  | .array items => .array (normalizeItems items)
  | .record fields => .record (objectOf (normalizeFields fields))

def normalizeItems : List JsonValue → List JsonValue
  | [] => []
  | item :: rest => normalize item :: normalizeItems rest

def normalizeFields : List (String × JsonValue) → List (String × JsonValue)
  | [] => []
  | (key, value) :: rest => (key, normalize value) :: normalizeFields rest

end

def parse : Option JsonValue := do
  let (value, rest) ← readValue (2 * text.length + 2) text
  if skipSpace rest = [] then some (normalize value) else none

mutual

@[grind =]
def print : JsonValue → List Char
  | .null => ['n', 'u', 'l', 'l']
  | .bool true => ['t', 'r', 'u', 'e']
  | .bool false => ['f', 'a', 'l', 's', 'e']
  | .number literal => literal.toList
  | .text content => (quote content).toList
  | .array items => '[' :: join (printItems items) ++ [']']
  | .record fields => '\x7b' :: join (printFields fields) ++ ['\x7d']

def printItems : List JsonValue → List (List Char)
  | [] => []
  | item :: rest => print item :: printItems rest

def printFields : List (String × JsonValue) → List (List Char)
  | [] => []
  | (key, value) :: rest => field (key, print value) :: printFields rest

end

def newLine (margin : Nat) : List Char := '\n' :: List.replicate margin ' '

mutual

def indented (margin : Nat) : JsonValue → List Char
  | .array (item :: rest) =>
    '[' :: join (indentedItems (margin + 2) (item :: rest)) ++ newLine margin ++ [']']
  | .record (field :: rest) =>
    '\x7b' :: join (indentedFields (margin + 2) (field :: rest)) ++
      newLine margin ++ ['\x7d']
  | other => print other

def indentedItems (margin : Nat) : List JsonValue → List (List Char)
  | [] => []
  | item :: rest => (newLine margin ++ indented margin item) :: indentedItems margin rest

def indentedFields (margin : Nat) : List (String × JsonValue) → List (List Char)
  | [] => []
  | (key, value) :: rest =>
    (newLine margin ++ field (key, ' ' :: indented margin value)) ::
      indentedFields margin rest

end

end JsonValue

end LongHub
