import LongHub.CloudSkillStore
import LongHub.JsValue
import Mathlib.Data.Finset.Card

/-!
# The member names of a request

Cloud API scans the text of a request for the names of its top-level members, next to `JSON.parse`,
and refuses a text that gives a name twice. The text was decoded from UTF-8; a name in it is a text
of JavaScript, whose escapes may leave a surrogate alone.
-/

namespace LongHub

open List Option Prod

namespace JsValue

open JsonValue (skipSpace isSpace hexDigitValue readUnit readChar_plain)

def skipWhitespace (text : List Char) : List Char := text.dropWhile CloudSkillTables.isTrimmed

def stringEnd : Bool → List Char → Option (List Char × List Char)
  | _, [] => none
  | true, char :: rest => (stringEnd false rest).map fun (quoted, after) => (char :: quoted, after)
  | false, char :: rest =>
    if char = '"' then some ([char], rest)
    else (stringEnd (char = '\\') rest).map fun (quoted, after) => (char :: quoted, after)

def readStringEnd : List Char → Option (List Char × List Char)
  | '"' :: rest => (stringEnd false rest).map fun (quoted, after) => ('"' :: quoted, after)
  | _ => none

def skipValue : Nat → Option Bool → List Char → List Char
  | _, _, [] => []
  | depth, some true, _ :: rest => skipValue depth (some false) rest
  | depth, some false, char :: rest =>
    skipValue depth
      (if char = '\\' then some true else if char = '"' then none else some false) rest
  | depth, none, char :: rest =>
    if char = '"' then skipValue depth (some false) rest
    else if char = '\x7b' ∨ char = '[' then skipValue (depth + 1) none rest
    else if char = '\x7d' ∨ char = ']' then
      if depth = 0 then char :: rest else skipValue (depth - 1) none rest
    else if depth = 0 ∧ char = ',' then char :: rest
    else skipValue depth none rest

def scanKeys : Nat → List Char → Option (List JsText)
  | 0, _ => none
  | _ + 1, [] => none
  | fuel + 1, chars => do
    let (quoted, rest) ← readStringEnd (skipWhitespace chars)
    match parse quoted, skipWhitespace rest with
    | some (.text key), ':' :: rest =>
      match skipWhitespace (skipValue 0 none (skipWhitespace rest)) with
      | '\x7d' :: _ => some [key]
      | ',' :: rest => (scanKeys fuel (skipWhitespace rest)).map (key :: ·)
      | _ => none
    | _, _ => none

def topLevelJsonKeys (raw : List Char) : Option (List JsText) :=
  match skipWhitespace raw with
  | '\x7b' :: rest =>
    match skipWhitespace rest with
    | '\x7d' :: _ => some []
    | rest => scanKeys raw.length rest
  | _ => none

/-- The first check of `parseCloudTaskCall`. -/
def rejectsKeys (raw : List Char) : Bool :=
  match topLevelJsonKeys raw with
  | none => true
  | some keys => keys.toFinset.card ≠ keys.length

/-- The members of an object as its text gives them, none for other texts. -/
def membersOf (raw : List Char) : Option (List (JsText × JsValue)) :=
  match readValue (raw.length + 1) raw with
  | some (.record members, rest) => if skipSpace rest = [] then some members else none
  | _ => none

/-- Characters between quotes, with an escaped character after each backslash. -/
inductive Inside : List Char → Prop where
  | nil : Inside []
  | plain {char : Char} {rest : List Char} (notQuote : char ≠ '"') (notSlash : char ≠ '\\')
      (inside : Inside rest) : Inside (char :: rest)
  | escaped (char : Char) {rest : List Char} (inside : Inside rest) : Inside ('\\' :: char :: rest)

theorem Inside.append {one other : List Char} (inside : Inside one) (otherInside : Inside other) :
    Inside (one ++ other) := by
  induction inside with
  | nil => exact otherInside
  | plain notQuote notSlash inside ih => exact .plain notQuote notSlash ih
  | escaped char inside ih => exact .escaped char ih

variable {text rest inside chars : List Char} {char : Char} {fuel : Nat}

theorem Inside.skipValue (inside : Inside text) (depth : Nat) (rest : List Char) :
    JsValue.skipValue depth (some false) (text ++ rest) =
      JsValue.skipValue depth (some false) rest := by
  induction inside with
  | nil => rfl
  | plain notQuote notSlash inside ih =>
    rw [cons_append, JsValue.skipValue, if_neg notSlash, if_neg notQuote, ih]
  | escaped char inside ih =>
    rw [cons_append, cons_append, JsValue.skipValue, if_pos rfl, JsValue.skipValue, ih]

theorem Inside.stringEnd (inside : Inside text) (rest : List Char) :
    JsValue.stringEnd false (text ++ '"' :: rest) = some (text ++ ['"'], rest) := by
  induction inside with
  | nil => simp [JsValue.stringEnd]
  | plain notQuote notSlash inside ih => simp [JsValue.stringEnd, notQuote, notSlash, ih]
  | escaped char inside ih => simp [JsValue.stringEnd, ih]

theorem plain_of_hexDigit {digit : Char} {value : Nat}
    (isDigit : hexDigitValue digit = some value) :
    digit ≠ '"' ∧ digit ≠ '\\' := by
  constructor
  · rintro rfl
    simp [hexDigitValue] at isDigit
  · rintro rfl
    simp [hexDigitValue] at isDigit

/-- Four hexadecimal digits, whatever follows them. -/
theorem readUnit_cases {unit : Nat} (read : readUnit text = some (unit, rest)) :
    ∃ digits, text = digits ++ rest ∧
      digits.length = 4 ∧ (∀ digit ∈ digits, digit ≠ '"' ∧ digit ≠ '\\') ∧
      ∀ other, readUnit (digits ++ other) = some (unit, other) := by
  unfold readUnit at read
  split at read
  · next first second third fourth rest =>
    simp only [bind_eq_bind, bind_eq_some_iff, Option.some.injEq, Prod.mk.injEq] at read
    obtain ⟨one, isOne, two, isTwo, three, isThree, four, isFour, rfl, rfl⟩ := read
    refine ⟨[first, second, third, fourth], rfl, rfl, ?_, ?_⟩
    · simp only [forall_mem_cons, not_mem_nil, false_implies, implies_true, and_true]
      exact ⟨plain_of_hexDigit isOne, plain_of_hexDigit isTwo, plain_of_hexDigit isThree,
        plain_of_hexDigit isFour⟩
    · intro other
      simp [readUnit, isOne, isTwo, isThree, isFour]
  · cases read

theorem inside_of_plain {text : List Char} (plain : ∀ char ∈ text, char ≠ '"' ∧ char ≠ '\\') :
    Inside text := by
  induction text with
  | nil => exact .nil
  | cons char rest ih =>
    rw [forall_mem_cons] at plain
    exact .plain plain.1.1 plain.1.2 (ih plain.2)

/-- A character between quotes does not depend on what follows it. -/
theorem readChar_cases {units : JsText} (read : readChar chars = some (units, rest))
    (isOpen : chars.head? ≠ some '"') :
    ∃ text, chars = text ++ rest ∧ Inside text ∧ text.head? ≠ some '"' ∧ text ≠ [] ∧
      ∀ other, readChar (text ++ other) = some (units, other) := by
  unfold readChar at read
  split at read
  · next tail =>
    obtain ⟨⟨unit, after⟩, isUnit, isChar⟩ := map_eq_some_iff.mp read
    cases isChar
    obtain ⟨digits, rfl, -, plain, again⟩ := readUnit_cases isUnit
    refine ⟨'\\' :: 'u' :: digits, rfl, .escaped 'u' (inside_of_plain plain), by simp, by simp,
      fun other => ?_⟩
    simp [readChar, again]
  · next notUnicode =>
    obtain ⟨⟨char, after⟩, isChar, same⟩ := map_eq_some_iff.mp read
    cases same
    have again {text : List Char} {other : List Char}
        (read : JsonValue.readChar (text ++ other) = some (char, other))
        (differ : ∀ tail, text ++ other ≠ '\\' :: 'u' :: tail) :
        readChar (text ++ other) = some (JsText.ofChar char, other) := by
      rw [readChar_eq differ, read]
      rfl
    have pair {escaped : Char} (notUnicode : escaped ≠ 'u')
        (read : ∀ other, JsonValue.readChar ('\\' :: escaped :: other) = some (char, other)) :
        ∃ text, '\\' :: escaped :: rest = text ++ rest ∧ Inside text ∧
          text.head? ≠ some '"' ∧ text ≠ [] ∧
          ∀ other, readChar (text ++ other) = some (JsText.ofChar char, other) :=
      ⟨['\\', escaped], rfl, .escaped _ .nil, by simp, by simp, fun other =>
        again (read other) fun tail same =>
          notUnicode (cons.inj (cons.inj same).2).1⟩
    unfold JsonValue.readChar at isChar
    split at isChar
    case h_9 => exact absurd rfl (notUnicode _)
    case h_10 => cases isChar
    case h_12 => cases isChar
    case h_11 head tail _ _ _ _ _ _ _ _ _ notSlash =>
      split at isChar
      · cases isChar
      · next isPrinted =>
        obtain ⟨rfl, rfl⟩ := Prod.mk.inj (Option.some.inj isChar)
        have differ : head ≠ '"' := fun same => isOpen (by rw [same]; rfl)
        exact ⟨[head], rfl, .plain differ notSlash .nil, by simpa using differ, by simp,
          fun other => again (readChar_plain notSlash isPrinted _)
            fun tail same => notSlash (cons.inj same).1⟩
    all_goals
      obtain ⟨rfl, rfl⟩ := Prod.mk.inj (Option.some.inj isChar)
      exact pair (by decide) fun other => rfl

theorem readText_cases {content : JsText} (read : readText fuel chars = some (content, rest)) :
    ∃ inside, chars = inside ++ '"' :: rest ∧ Inside inside ∧ ∀ other enough,
      inside.length < enough →
        readText enough (inside ++ '"' :: other) = some (content, other) := by
  induction fuel generalizing chars content with
  | zero => cases read
  | succ fuel ih =>
    by_cases isOpen : chars.head? = some '"'
    · cases chars with
      | nil => cases isOpen
      | cons head tail =>
        obtain rfl := Option.some.inj isOpen
        obtain ⟨rfl, rfl⟩ := Prod.mk.inj (Option.some.inj read)
        refine ⟨[], rfl, .nil, fun other enough positive => ?_⟩
        obtain ⟨enough, rfl⟩ := Nat.exists_eq_succ_of_ne_zero positive.ne'
        rfl
    · rw [readText_succ isOpen, bind_eq_some_iff] at read
      obtain ⟨⟨units, middle⟩, isChar, read⟩ := read
      obtain ⟨⟨more, after⟩, isMore, finished⟩ := bind_eq_some_iff.mp read
      obtain ⟨rfl, rfl⟩ := Prod.mk.inj (Option.some.inj finished)
      obtain ⟨inside, rfl, isInside, again⟩ := ih isMore
      obtain ⟨text, rfl, isText, textOpen, present, charAgain⟩ := readChar_cases isChar isOpen
      refine ⟨text ++ inside, by simp, isText.append isInside, fun other enough long => ?_⟩
      have positive := length_pos_iff.mpr present
      rw [length_append] at long
      obtain ⟨enough, rfl⟩ := Nat.exists_eq_succ_of_ne_zero (Nat.ne_zero_of_lt long)
      have startsOpen : (text ++ (inside ++ '"' :: other)).head? ≠ some '"' := by
        rw [head?_append_of_ne_nil _ present]
        exact textOpen
      rw [append_assoc, Nat.succ_eq_add_one, readText_succ startsOpen, charAgain, bind_some]
      dsimp only
      rw [again other enough (by omega)]
      rfl

theorem readKey_cases {key : JsText} (read : readKey fuel text = some (key, rest)) :
    ∃ inside after, skipSpace text = '"' :: (inside ++ '"' :: after) ∧ Inside inside ∧
      skipSpace after = ':' :: rest ∧ parse ('"' :: (inside ++ ['"'])) = some (.text key) := by
  unfold readKey at read
  split at read
  · next tail starts =>
    obtain ⟨⟨content, after⟩, isText, found⟩ := bind_eq_some_iff.mp read
    obtain ⟨inside, rfl, isInside, again⟩ := readText_cases isText
    dsimp only at found
    split at found
    · next following isColon =>
      obtain ⟨rfl, rfl⟩ := Prod.mk.inj (Option.some.inj found)
      refine ⟨inside, after, starts, isInside, isColon, ?_⟩
      have alone := again [] ('"' :: (inside ++ ['"'])).length (by grind)
      have value : readValue (('"' :: (inside ++ ['"'])).length + 1)
          ('"' :: (inside ++ ['"'])) = some (.text content, []) := by
        change (readText _ (inside ++ ['"'])).map _ = _
        rw [alone]
        rfl
      rw [parse, value]
      rfl
    · cases found
  · cases read

/-- The characters at which the scanner outside of texts does something. -/
def marks : List Char := ['"', '\x7b', '[', '\x7d', ']', ',']

theorem skipValue_cons (ordinary : char ∉ marks) (depth : Nat) (rest : List Char) :
    skipValue depth none (char :: rest) = skipValue depth none rest := by
  simp only [marks, mem_cons, not_mem_nil, or_false, not_or] at ordinary
  simp [skipValue, ordinary]

theorem skipValue_dropWhile {skipped : Char → Bool} (unmarked : marks.any skipped = false)
    (depth : Nat) (text : List Char) :
    skipValue depth none (text.dropWhile skipped) = skipValue depth none text := by
  induction text with
  | nil => rfl
  | cons char rest ih =>
    by_cases isSkipped : skipped char = true
    · have ordinary : char ∉ marks := fun mem =>
        List.any_eq_false.mp unmarked char mem isSkipped
      rw [dropWhile_cons_of_pos isSkipped, skipValue_cons ordinary, ih]
    · rw [dropWhile_cons_of_neg isSkipped]

theorem skipValue_skipSpace (depth : Nat) (text : List Char) :
    skipValue depth none (skipSpace text) = skipValue depth none text :=
  skipValue_dropWhile rfl depth text

theorem skipValue_skipWhitespace (depth : Nat) (text : List Char) :
    skipValue depth none (skipWhitespace text) = skipValue depth none text :=
  skipValue_dropWhile rfl depth text

theorem skipValue_quoted (isInside : Inside inside) (depth : Nat) (rest : List Char) :
    skipValue depth none ('"' :: (inside ++ '"' :: rest)) = skipValue depth none rest := by
  rw [skipValue, if_pos rfl, isInside.skipValue, skipValue]
  rfl

theorem skipValue_readKey {key : JsText} (read : readKey fuel text = some (key, rest))
    (depth : Nat) : skipValue depth none text = skipValue depth none rest := by
  obtain ⟨inside, after, starts, isInside, isColon, -⟩ := readKey_cases read
  rw [← skipValue_skipSpace, starts, skipValue_quoted isInside, ← skipValue_skipSpace, isColon,
    skipValue_cons (by decide)]

/-- What is read is passed over. -/
def Skips {α : Type} (read : List Char → Option (α × List Char)) : Prop :=
  ∀ {text rest : List Char} {item : α}, read text = some (item, rest) →
    ∀ depth, skipValue depth none text = skipValue depth none rest

section List

variable {α : Type} {read : List Char → Option (α × List Char)} {close mark : Char} {items : List α}

theorem skipValue_close (isMark : close = ']' ∨ close = '\x7d') (depth : Nat) :
    skipValue (depth + 1) none (close :: rest) = skipValue depth none rest := by
  rcases isMark with rfl | rfl
  · simp [skipValue]
  · simp [skipValue]

theorem skipValue_readList (skips : Skips read) (isMark : close = ']' ∨ close = '\x7d')
    (found : readList read close fuel text = some (items, rest)) (depth : Nat) :
    skipValue (depth + 1) none text = skipValue depth none rest := by
  induction fuel generalizing text items with
  | zero => cases found
  | succ fuel ih =>
    obtain ⟨⟨item, middle⟩, isItem, found⟩ := bind_eq_some_iff.mp found
    rw [skips isItem, ← skipValue_skipSpace]
    dsimp only at found
    split at found
    · cases found
    · next mark after starts =>
      rw [starts]
      split_ifs at found with isClose isComma
      · obtain ⟨-, rfl⟩ := Prod.mk.inj (Option.some.inj found)
        rw [isClose, skipValue_close isMark]
      · obtain ⟨⟨others, following⟩, isList, isEnd⟩ := map_eq_some_iff.mp found
        obtain ⟨-, rfl⟩ := Prod.mk.inj isEnd
        rw [isComma, ← ih isList]
        simp [skipValue]

theorem skipValue_readBracket (skips : Skips read) (isMark : close = ']' ∨ close = '\x7d')
    (found : readBracket read close fuel text = some (items, rest)) (depth : Nat) :
    skipValue (depth + 1) none text = skipValue depth none rest := by
  unfold readBracket at found
  split_ifs at found with isEmpty
  · obtain ⟨-, rfl⟩ := Prod.mk.inj (Option.some.inj found)
    obtain ⟨after, starts⟩ := head?_eq_some_iff.mp isEmpty
    rw [← skipValue_skipSpace, starts, skipValue_close isMark, tail_cons]
  · exact skipValue_readList skips isMark found depth

end List

theorem skips_readValue (fuel : Nat) : Skips (readValue fuel) := by
  induction fuel with
  | zero =>
    intro text rest value read
    cases read
  | succ fuel ih =>
    intro text rest value read depth
    have skipsField : Skips (readField (readValue fuel) fuel) := by
      intro text rest field found depth
      obtain ⟨⟨key, middle⟩, isKey, found⟩ := bind_eq_some_iff.mp found
      obtain ⟨⟨value, after⟩, isValue, same⟩ := bind_eq_some_iff.mp found
      obtain ⟨-, rfl⟩ := Prod.mk.inj (Option.some.inj same)
      rw [skipValue_readKey isKey, ih isValue]
    rw [readValue] at read
    rw [← skipValue_skipSpace]
    split at read
    · next after starts =>
      obtain ⟨-, rfl⟩ := Prod.mk.inj (Option.some.inj read)
      simp only [starts, skipValue_cons (by decide : 'n' ∉ marks),
        skipValue_cons (by decide : 'u' ∉ marks), skipValue_cons (by decide : 'l' ∉ marks)]
    · next after starts =>
      obtain ⟨-, rfl⟩ := Prod.mk.inj (Option.some.inj read)
      simp only [starts, skipValue_cons (by decide : 't' ∉ marks),
        skipValue_cons (by decide : 'r' ∉ marks), skipValue_cons (by decide : 'u' ∉ marks),
        skipValue_cons (by decide : 'e' ∉ marks)]
    · next after starts =>
      obtain ⟨-, rfl⟩ := Prod.mk.inj (Option.some.inj read)
      simp only [starts, skipValue_cons (by decide : 'f' ∉ marks),
        skipValue_cons (by decide : 'a' ∉ marks), skipValue_cons (by decide : 'l' ∉ marks),
        skipValue_cons (by decide : 's' ∉ marks), skipValue_cons (by decide : 'e' ∉ marks)]
    · next after starts =>
      obtain ⟨⟨content, following⟩, isText, isEnd⟩ := map_eq_some_iff.mp read
      obtain ⟨-, rfl⟩ := Prod.mk.inj isEnd
      obtain ⟨inside, rfl, isInside, -⟩ := readText_cases isText
      rw [starts]
      exact skipValue_quoted isInside depth _
    · next after starts =>
      obtain ⟨⟨items, following⟩, isItems, isEnd⟩ := map_eq_some_iff.mp read
      obtain ⟨-, rfl⟩ := Prod.mk.inj isEnd
      rw [← skipValue_readBracket ih (.inl rfl) isItems depth]
      simp [starts, skipValue]
    · next after starts =>
      obtain ⟨⟨fields, following⟩, isFields, isEnd⟩ := map_eq_some_iff.mp read
      obtain ⟨-, rfl⟩ := Prod.mk.inj isEnd
      rw [← skipValue_readBracket skipsField (.inr rfl) isFields depth]
      simp [starts, skipValue]
    · rw [readNumber] at read
      split at read
      · obtain ⟨-, rfl⟩ := Prod.mk.inj (Option.some.inj read)
        exact (skipValue_dropWhile rfl depth _).symm
      · cases read

theorem skipWhitespace_skipSpace (text : List Char) :
    skipWhitespace (skipSpace text) = skipWhitespace text := by
  induction text with
  | nil => rfl
  | cons char rest ih =>
    by_cases space : isSpace char = true
    · have white : CloudSkillTables.isTrimmed char = true := by
        simp only [isSpace, Bool.or_eq_true, decide_eq_true_eq] at space
        rcases space with ((rfl | rfl) | rfl) | rfl <;> decide
      rw [skipSpace, dropWhile_cons_of_pos space, skipWhitespace, skipWhitespace,
        dropWhile_cons_of_pos white]
      exact ih
    · rw [skipSpace, dropWhile_cons_of_neg space]

theorem skipWhitespace_eq (starts : skipSpace text = char :: rest)
    (visible : CloudSkillTables.isTrimmed char = false) : skipWhitespace text = char :: rest := by
  rw [← skipWhitespace_skipSpace, starts]
  exact dropWhile_cons_of_neg (by simp [visible])

/-- The scanner finds the names of the fields. -/
theorem scanKeys_eq {depth : Nat} {fields : List (JsText × JsValue)}
    (read : readList (readField (readValue depth) depth) '\x7d' fuel text = some (fields, rest)) :
    scanKeys fuel (skipWhitespace text) = some (fields.map fst) := by
  induction fuel generalizing text fields with
  | zero => cases read
  | succ fuel ih =>
    obtain ⟨⟨field, middle⟩, isField, read⟩ := bind_eq_some_iff.mp read
    obtain ⟨⟨key, between⟩, isKey, isField⟩ := bind_eq_some_iff.mp isField
    obtain ⟨⟨value, after⟩, isValue, same⟩ := bind_eq_some_iff.mp isField
    obtain ⟨rfl, rfl⟩ := Prod.mk.inj (Option.some.inj same)
    obtain ⟨inside, behind, starts, isInside, isColon, parsed⟩ := readKey_cases isKey
    have visible : skipWhitespace ('"' :: (inside ++ '"' :: behind)) =
        '"' :: (inside ++ '"' :: behind) := rfl
    have quoted : readStringEnd ('"' :: (inside ++ '"' :: behind)) =
        some ('"' :: (inside ++ ['"']), behind) := by
      rw [readStringEnd, isInside.stringEnd]
      rfl
    have skipped : skipValue 0 none (skipWhitespace between) =
        skipValue 0 none (skipSpace after) := by
      rw [skipValue_skipWhitespace, skips_readValue depth isValue, skipValue_skipSpace]
    rw [skipWhitespace_eq starts rfl, scanKeys]
    · rw [visible, quoted]
      simp only [bind_eq_bind, bind_some, parsed, skipWhitespace_eq isColon (by decide), skipped]
      dsimp only at read
      split at read
      · cases read
      · next mark following isMark =>
        rw [isMark]
        split_ifs at read with isClose isComma
        · obtain ⟨rfl, rfl⟩ := Prod.mk.inj (Option.some.inj read)
          rw [isClose]
          rfl
        · obtain ⟨⟨others, behind⟩, isList, isEnd⟩ := map_eq_some_iff.mp read
          obtain ⟨rfl, rfl⟩ := Prod.mk.inj isEnd
          rw [isComma]
          change (scanKeys fuel (skipWhitespace following)).map (key :: ·) = _
          rw [ih isList]
          rfl
    · simp

theorem readValue_record {fields : List (JsText × JsValue)}
    (read : readValue (fuel + 1) text = some (.record fields, rest)) : ∃ after,
      skipSpace text = '\x7b' :: after ∧
      readBracket (readField (readValue fuel) fuel) '\x7d' fuel after = some (fields, rest) := by
  rw [readValue] at read
  split at read
  case h_6 after starts =>
    obtain ⟨⟨fields, following⟩, isFields, isEnd⟩ := map_eq_some_iff.mp read
    cases isEnd
    exact ⟨after, starts, isFields⟩
  case h_4 | h_5 =>
    obtain ⟨_, _, isEnd⟩ := map_eq_some_iff.mp read
    cases isEnd
  case h_7 =>
    rw [readNumber] at read
    split at read <;> cases read
  all_goals cases read

structure ObjectText where
  text : List Char
  object : List (JsText × JsValue)
  accepted : parse text = some (.record object)

/-- The scanner returns the names of the members, and the request is refused just when a name
occurs twice. -/
theorem topLevelJsonKeys_eq (request : ObjectText) : ∃ members,
    membersOf request.text = some members ∧ request.object = objectOf (normalizeFields members) ∧
    topLevelJsonKeys request.text = some (members.map fst) ∧
    (rejectsKeys request.text = true ↔ ¬ (members.map fst).Nodup) := by
  have accepted := request.accepted
  obtain ⟨⟨value, rest⟩, read, finished⟩ := bind_eq_some_iff.mp accepted
  dsimp only at finished
  split at finished
  · next noMore =>
    have isRecord := Option.some.inj finished
    cases value with
    | record members =>
      have isObject := JsValue.record.inj isRecord
      have found : membersOf request.text = some members := by
        simp [membersOf, read, noMore]
      have keys : topLevelJsonKeys request.text = some (members.map fst) := by
        obtain ⟨after, starts, isFields⟩ := readValue_record read
        have opened : topLevelJsonKeys request.text = match skipWhitespace after with
            | '\x7d' :: _ => some []
            | rest => scanKeys request.text.length rest := by
          rw [topLevelJsonKeys, skipWhitespace_eq starts (by decide)]
          rfl
        rw [opened]
        unfold readBracket at isFields
        split_ifs at isFields with isEmpty
        · obtain ⟨rfl, -⟩ := Prod.mk.inj (Option.some.inj isFields)
          obtain ⟨following, closes⟩ := head?_eq_some_iff.mp isEmpty
          rw [skipWhitespace_eq closes (by decide)]
          rfl
        · have scanned := scanKeys_eq isFields
          split
          · next closed =>
            rw [closed] at scanned
            cases length : request.text.length with
            | zero => simp [scanKeys, length] at scanned
            | succ fuel =>
              simp [scanKeys, length, skipWhitespace, CloudSkillTables.isTrimmed, readStringEnd]
                at scanned
          · exact scanned
      refine ⟨members, found, isObject.symm, keys, ?_⟩
      have card := @Multiset.toFinset_card_eq_card_iff_nodup JsText _ ↑(members.map fst)
      rw [Multiset.coe_nodup] at card
      rw [rejectsKeys, keys, ← card]
      exact decide_eq_true_iff
    | _ => cases isRecord
  · cases finished

end JsValue

end LongHub
