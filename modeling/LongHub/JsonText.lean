import Mathlib.Data.List.Basic
import Mathlib.Data.Nat.Basic

/-!
# Texts of JSON values

A value is written as a word (a number or a literal), a quoted text, or a list of texts between
brackets. Its texts are sequences of Unicode scalar values, without lone surrogates.
-/

namespace JsonText

open List

def hexDigit (digit : Nat) : Char :=
  if digit < 10 then Char.ofNat (48 + digit) else Char.ofNat (87 + digit)

/-- A character between quotes. -/
def escape (char : Char) : List Char :=
  if char = '"' then ['\\', '"']
  else if char = '\\' then ['\\', '\\']
  else if char.toNat = 8 then ['\\', 'b']
  else if char.toNat = 9 then ['\\', 't']
  else if char.toNat = 10 then ['\\', 'n']
  else if char.toNat = 12 then ['\\', 'f']
  else if char.toNat = 13 then ['\\', 'r']
  else if char.toNat < 32 then
    ['\\', 'u', '0', '0', hexDigit (char.toNat / 16), hexDigit (char.toNat % 16)]
  else [char]

def quote (text : String) : String :=
  String.ofList ('"' :: text.toList.flatMap escape ++ ['"'])

def hexValue (digit : Char) : Nat :=
  if digit.toNat < 58 then digit.toNat - 48 else digit.toNat - 87

@[grind =]
def unescape : List Char → Option (Char × List Char)
  | '\\' :: '"' :: rest => some ('"', rest)
  | '\\' :: '\\' :: rest => some ('\\', rest)
  | '\\' :: 'b' :: rest => some (Char.ofNat 8, rest)
  | '\\' :: 't' :: rest => some (Char.ofNat 9, rest)
  | '\\' :: 'n' :: rest => some (Char.ofNat 10, rest)
  | '\\' :: 'f' :: rest => some (Char.ofNat 12, rest)
  | '\\' :: 'r' :: rest => some (Char.ofNat 13, rest)
  | '\\' :: 'u' :: '0' :: '0' :: high :: low :: rest =>
    some (Char.ofNat (hexValue high * 16 + hexValue low), rest)
  | char :: rest => some (char, rest)
  | [] => none

theorem hexValue_hexDigit {digit : Nat} (small : digit < 16) :
    hexValue (hexDigit digit) = digit := by
  have each : ∀ digit : Fin 16, hexValue (hexDigit digit) = digit := by decide
  exact each ⟨digit, small⟩

theorem unescape_plain {char : Char} (notSlash : char ≠ '\\') (rest : List Char) :
    unescape (char :: rest) = some (char, rest) := by
  rw [unescape]
  all_goals
    intros
    exact notSlash ‹_›

theorem unescape_escape (char : Char) (rest : List Char) :
    unescape (escape char ++ rest) = some (char, rest) := by
  have back := Char.ofNat_toNat char
  unfold escape
  split
  · next same => rw [same]; rfl
  split
  · next same => rw [same]; rfl
  split
  · next code => rw [← back, code]; rfl
  split
  · next code => rw [← back, code]; rfl
  split
  · next code => rw [← back, code]; rfl
  split
  · next code => rw [← back, code]; rfl
  split
  · next code => rw [← back, code]; rfl
  split
  · next control =>
    have high : char.toNat / 16 < 16 := by omega
    have low : char.toNat % 16 < 16 := by omega
    have sum : char.toNat / 16 * 16 + char.toNat % 16 = char.toNat := by omega
    simp [unescape, hexValue_hexDigit high, hexValue_hexDigit low, sum]
  · next notQuote notSlash _ _ _ _ _ _ =>
    exact unescape_plain notSlash rest

theorem head_escape (char : Char) (rest : List Char) : (escape char ++ rest).head? ≠ some '"' := by
  intro starts
  unfold escape at starts
  split at starts
  · cases starts
  next differ =>
  repeat' split at starts
  all_goals first | exact differ (Option.some.inj starts) | cases starts

variable {rest otherRest text : List Char}

/-- Escaped characters are told from what follows their closing quote. -/
theorem escaped_unique {one other : List Char}
    (same : one.flatMap escape ++ '"' :: rest = other.flatMap escape ++ '"' :: otherRest) :
    one = other ∧ rest = otherRest := by
  induction one generalizing other with
  | nil =>
    cases other with
    | nil => exact ⟨rfl, (List.cons.inj same).2⟩
    | cons char chars =>
      rw [List.flatMap_cons, List.append_assoc] at same
      have starts := head_escape char (chars.flatMap escape ++ '"' :: otherRest)
      rw [← same] at starts
      exact absurd rfl starts
  | cons head tail ih =>
    rw [flatMap_cons, append_assoc] at same
    have first := unescape_escape head (tail.flatMap escape ++ '"' :: rest)
    cases other with
    | nil =>
      have starts := head_escape head (tail.flatMap escape ++ '"' :: rest)
      rw [same] at starts
      exact absurd rfl starts
    | cons char chars =>
      rw [flatMap_cons, append_assoc] at same
      have second := unescape_escape char (chars.flatMap escape ++ '"' :: otherRest)
      rw [same, second, Option.some.injEq, Prod.mk.injEq] at first
      obtain ⟨rfl, tails⟩ := first
      obtain ⟨rfl, rests⟩ := ih tails.symm
      exact ⟨rfl, rests⟩

theorem quote_unique {one other : String} {rest otherRest : List Char}
    (same : (quote one).toList ++ rest = (quote other).toList ++ otherRest) :
    one = other ∧ rest = otherRest := by
  simp only [quote, String.toList_ofList, List.cons_append, List.append_assoc, List.cons.injEq,
    true_and] at same
  obtain ⟨chars, rests⟩ := escaped_unique same
  exact ⟨String.toList_inj.mp chars, rests⟩

/-- Texts with commas between them. -/
def join : List (List Char) → List Char
  | [] => []
  | [text] => text
  | text :: rest => text ++ ',' :: join rest

theorem toList_intercalate (texts : List String) :
    (",".intercalate texts).toList = join (texts.map String.toList) := by
  induction texts with
  | nil => rfl
  | cons text rest ih =>
    cases rest with
    | nil => simp [join]
    | cons next rest =>
      rw [String.intercalate_cons_cons, String.toList_append, String.toList_append, ih]
      simp [join]

/-- What may follow the text of a value. -/
def Ends (rest : List Char) : Prop :=
  ∀ char ∈ rest.head?, char = ',' ∨ char = ']' ∨ char = '\x7d'

def Told (text : List Char) (isText : List Char → Prop) : Prop :=
  ∀ other, isText other → ∀ rest otherRest, Ends rest → Ends otherRest →
    text ++ rest = other ++ otherRest → text = other ∧ rest = otherRest

theorem join_unique {isText : List Char → Prop} {close : Char}
    (closes : close = ']' ∨ close = '\x7d')
    (starts : ∀ text, isText text → ∃ char, text.head? = some char ∧ char ≠ close)
    {texts others : List (List Char)} (areTexts : ∀ text ∈ texts, isText text)
    (told : ∀ text ∈ texts, Told text isText) (alsoTexts : ∀ text ∈ others, isText text)
    (same : join texts ++ close :: rest = join others ++ close :: otherRest) :
    texts = others ∧ rest = otherRest := by
  have ends (tail : List Char) : Ends (close :: tail) := by
    intro char isHead
    cases isHead
    exact .inr closes
  have commaEnds (tail : List Char) : Ends (',' :: tail) := by
    intro char isHead
    cases isHead
    exact .inl rfl
  have notComma : close ≠ ',' := by rcases closes with rfl | rfl <;> decide
  have notEmpty (text : List Char) (isText_ : isText text) (tail other : List Char) :
      text ++ tail ≠ close :: other := by
    intro equal
    obtain ⟨char, head, differ⟩ := starts text isText_
    cases text with
    | nil => cases head
    | cons first chars =>
      cases head
      exact differ (List.cons.inj equal).1
  have joinSplit (text : List Char) (tail : List (List Char)) (after_ : List Char) :
      ∃ more, join (text :: tail) ++ close :: after_ = text ++ more ∧ Ends more ∧
        (tail = [] → more = close :: after_) ∧
        (tail ≠ [] → more = ',' :: (join tail ++ close :: after_)) := by
    cases tail with
    | nil =>
      exact ⟨close :: after_, rfl, ends after_, fun _ => rfl, fun absent => absurd rfl absent⟩
    | cons next tail =>
      refine ⟨',' :: (join (next :: tail) ++ close :: after_), ?_, commaEnds _, ?_, fun _ => rfl⟩
      · simp [join]
      · intro empty
        cases empty
  induction texts generalizing others with
  | nil =>
    cases others with
    | nil => exact ⟨rfl, (List.cons.inj same).2⟩
    | cons other others =>
      obtain ⟨more, split, -⟩ := joinSplit other others otherRest
      rw [split] at same
      exact absurd same.symm (notEmpty other (alsoTexts other List.mem_cons_self) _ _)
  | cons text texts ih =>
    obtain ⟨more, split, moreEnds, last, more_⟩ := joinSplit text texts rest
    rw [split] at same
    cases others with
    | nil =>
      exact absurd same (notEmpty text (areTexts text List.mem_cons_self) _ _)
    | cons other others =>
      obtain ⟨otherMore, otherSplit, otherEnds, otherLast, otherMore_⟩ :=
        joinSplit other others otherRest
      rw [otherSplit] at same
      obtain ⟨rfl, tails⟩ := told text List.mem_cons_self other
        (alsoTexts other List.mem_cons_self) more otherMore moreEnds otherEnds same
      by_cases isLast : texts = []
      · by_cases otherIsLast : others = []
        · rw [last isLast, otherLast otherIsLast] at tails
          rw [isLast, otherIsLast]
          exact ⟨rfl, (List.cons.inj tails).2⟩
        · rw [last isLast, otherMore_ otherIsLast] at tails
          exact absurd (List.cons.inj tails).1 notComma
      · by_cases otherIsLast : others = []
        · rw [more_ isLast, otherLast otherIsLast] at tails
          exact absurd (List.cons.inj tails).1.symm notComma
        · rw [more_ isLast, otherMore_ otherIsLast] at tails
          obtain ⟨rfl, rests⟩ := ih
            (fun text mem => areTexts text (List.mem_cons_of_mem _ mem))
            (fun text mem => told text (List.mem_cons_of_mem _ mem))
            (fun text mem => alsoTexts text (List.mem_cons_of_mem _ mem))
            (List.cons.inj tails).2
          exact ⟨rfl, rests⟩

/-- The characters of a word. -/
def isPlain (char : Char) : Bool :=
  char ∉ [',', ']', '\x7d', '"', '[', '\x7b']

def field (entry : String × List Char) : List Char :=
  (quote entry.1).toList ++ ':' :: entry.2

inductive Value : List Char → Prop where
  | word (chars : List Char) (present : chars ≠ []) (plain : ∀ char ∈ chars, isPlain char) :
      Value chars
  | text (content : String) : Value (quote content).toList
  | array (items : List (List Char)) (each : ∀ item ∈ items, Value item) :
      Value ('[' :: join items ++ [']'])
  | record (fields : List (String × List Char)) (each : ∀ entry ∈ fields, Value entry.2) :
      Value ('\x7b' :: join (fields.map field) ++ ['\x7d'])

inductive Field : List Char → Prop where
  | mk (key : String) (text : List Char) (value : Value text) : Field (field (key, text))

theorem Value.starts (value : Value text) :
    ∃ char, text.head? = some char ∧ char ≠ ']' ∧ char ≠ '\x7d' := by
  cases value with
  | word chars present plain =>
    cases text with
    | nil => exact absurd rfl present
    | cons head tail =>
      have isWord := plain head mem_cons_self
      refine ⟨head, rfl, ?_, ?_⟩
      · rintro rfl
        cases isWord
      · rintro rfl
        cases isWord
  | text content => exact ⟨'"', by simp [quote], by decide, by decide⟩
  | array items each => exact ⟨'[', rfl, by decide, by decide⟩
  | record fields each => exact ⟨'\x7b', rfl, by decide, by decide⟩

theorem Field.starts (isField : Field text) : ∃ char, text.head? = some char ∧ char ≠ '\x7d' := by
  cases isField with
  | mk key text value => exact ⟨'"', by simp [field, quote], by decide⟩

theorem word_unique {chars others : List Char} (plain : ∀ char ∈ chars, isPlain char)
    (otherPlain : ∀ char ∈ others, isPlain char) (ends : Ends rest) (otherEnds : Ends otherRest)
    (same : chars ++ rest = others ++ otherRest) : chars = others ∧ rest = otherRest := by
  have notPlain {tail : List Char} (tailEnds : Ends tail) {char : Char} {more : List Char}
      (split : tail = char :: more) : isPlain char = false := by
    rcases tailEnds char (by rw [split]; rfl) with rfl | rfl | rfl <;> rfl
  induction chars generalizing others with
  | nil =>
    cases others with
    | nil => exact ⟨rfl, same⟩
    | cons other others =>
      have unplain := notPlain ends same
      rw [otherPlain other mem_cons_self] at unplain
      cases unplain
  | cons char chars ih =>
    cases others with
    | nil =>
      have unplain := notPlain otherEnds same.symm
      rw [plain char mem_cons_self] at unplain
      cases unplain
    | cons other others =>
      obtain ⟨rfl, tails⟩ := cons.inj same
      obtain ⟨rfl, rests⟩ := ih (fun char mem => plain char (mem_cons_of_mem _ mem))
        (fun char mem => otherPlain char (mem_cons_of_mem _ mem)) tails
      exact ⟨rfl, rests⟩

theorem word_ne {chars : List Char} (present : chars ≠ []) (plain : ∀ char ∈ chars, isPlain char)
    {start : Char} (opens : isPlain start = false) : chars ++ rest ≠ start :: otherRest := by
  intro same
  cases chars with
  | nil => exact present rfl
  | cons char chars =>
    have isWord := plain char mem_cons_self
    rw [(cons.inj same).1, opens] at isWord
    cases isWord

theorem toList_quote (content : String) :
    (quote content).toList = '"' :: (content.toList.flatMap escape ++ ['"']) := by
  rw [quote, String.toList_ofList]
  rfl

theorem array_unique {items others : List (List Char)} (each : ∀ item ∈ items, Value item)
    (told : ∀ item ∈ items, Told item Value) (otherEach : ∀ item ∈ others, Value item)
    {rest otherRest : List Char}
    (same : '[' :: join items ++ [']'] ++ rest = '[' :: join others ++ [']'] ++ otherRest) :
    items = others ∧ rest = otherRest := by
  have inside : join items ++ ']' :: rest = join others ++ ']' :: otherRest := by
    simpa using same
  apply join_unique (.inl rfl) _ each told otherEach inside
  intro text isValue
  obtain ⟨char, head, differ, -⟩ := isValue.starts
  exact ⟨char, head, differ⟩

theorem field_injective : Function.Injective field := by
  intro one other same
  obtain ⟨sameKey, values⟩ := quote_unique same
  exact Prod.ext sameKey (cons.inj values).2

theorem record_unique {fields others : List (String × List Char)}
    (each : ∀ entry ∈ fields, Value entry.2) (told : ∀ entry ∈ fields, Told entry.2 Value)
    (otherEach : ∀ entry ∈ others, Value entry.2) {rest otherRest : List Char}
    (same : '\x7b' :: join (fields.map field) ++ ['\x7d'] ++ rest =
      '\x7b' :: join (others.map field) ++ ['\x7d'] ++ otherRest) :
    fields = others ∧ rest = otherRest := by
  have inside : join (fields.map field) ++ '\x7d' :: rest =
      join (others.map field) ++ '\x7d' :: otherRest := by
    simpa using same
  have isField {entries : List (String × List Char)} (values : ∀ entry ∈ entries, Value entry.2) :
      ∀ text ∈ entries.map field, Field text := by
    intro text mem
    obtain ⟨entry, entryIn, rfl⟩ := mem_map.mp mem
    exact ⟨entry.1, entry.2, values entry entryIn⟩
  have fieldTold : ∀ text ∈ fields.map field, Told text Field := by
    intro text mem other otherField rest otherRest ends otherEnds same
    obtain ⟨entry, entryIn, rfl⟩ := mem_map.mp mem
    cases otherField with
    | mk key text value =>
      simp only [field, append_assoc] at same
      obtain ⟨sameKey, values⟩ := quote_unique same
      obtain ⟨sameText, rests⟩ := told entry entryIn text value rest otherRest ends otherEnds
        (cons.inj values).2
      exact ⟨by rw [field, field, sameKey, sameText], rests⟩
  obtain ⟨sameFields, rests⟩ := join_unique (.inr rfl) (fun _ isField => isField.starts)
    (isField each) fieldTold (isField otherEach) inside
  exact ⟨field_injective.list_map sameFields, rests⟩

theorem Value.told (value : Value text) : Told text Value := by
  induction value with
  | word chars present plain =>
    intro other otherValue rest otherRest ends otherEnds same
    cases otherValue with
    | word others otherPresent otherPlain =>
      exact word_unique plain otherPlain ends otherEnds same
    | text content =>
      rw [toList_quote] at same
      exact absurd same (word_ne present plain rfl)
    | array items each => exact absurd same (word_ne present plain rfl)
    | record fields each => exact absurd same (word_ne present plain rfl)
  | text content =>
    intro other otherValue rest otherRest ends otherEnds same
    cases otherValue with
    | word others otherPresent otherPlain =>
      rw [toList_quote] at same
      exact absurd same.symm (word_ne otherPresent otherPlain rfl)
    | text otherContent =>
      obtain ⟨rfl, rests⟩ := quote_unique same
      exact ⟨rfl, rests⟩
    | array items each =>
      rw [toList_quote] at same
      exact absurd (cons.inj same).1 (by decide)
    | record fields each =>
      rw [toList_quote] at same
      exact absurd (cons.inj same).1 (by decide)
  | array items each ih =>
    intro other otherValue rest otherRest ends otherEnds same
    cases otherValue with
    | word others otherPresent otherPlain =>
      exact absurd same.symm (word_ne otherPresent otherPlain rfl)
    | text otherContent =>
      rw [toList_quote] at same
      exact absurd (cons.inj same).1 (by decide)
    | array others otherEach =>
      obtain ⟨rfl, rests⟩ := array_unique each ih otherEach same
      exact ⟨rfl, rests⟩
    | record fields otherEach => exact absurd (cons.inj same).1 (by decide)
  | record fields each ih =>
    intro other otherValue rest otherRest ends otherEnds same
    cases otherValue with
    | word others otherPresent otherPlain =>
      exact absurd same.symm (word_ne otherPresent otherPlain rfl)
    | text otherContent =>
      rw [toList_quote] at same
      exact absurd (cons.inj same).1 (by decide)
    | array others otherEach => exact absurd (cons.inj same).1 (by decide)
    | record others otherEach =>
      obtain ⟨rfl, rests⟩ := record_unique each ih otherEach same
      exact ⟨rfl, rests⟩

theorem array_injective {items others : List (List Char)} (each : ∀ item ∈ items, Value item)
    (otherEach : ∀ item ∈ others, Value item)
    (same : '[' :: join items ++ [']'] = '[' :: join others ++ [']']) : items = others :=
  (@array_unique items others each (fun item mem => (each item mem).told) otherEach [] []
    (by rw [same])).1

theorem record_injective {fields others : List (String × List Char)}
    (each : ∀ entry ∈ fields, Value entry.2) (otherEach : ∀ entry ∈ others, Value entry.2)
    (same : '\x7b' :: join (fields.map field) ++ ['\x7d'] =
      '\x7b' :: join (others.map field) ++ ['\x7d']) : fields = others :=
  (@record_unique fields others each (fun entry mem => (each entry mem).told) otherEach
    [] [] (by rw [same])).1

end JsonText
