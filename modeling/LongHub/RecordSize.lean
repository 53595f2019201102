import LongHub.RecoveryStore

/-!
# A bound on the size of a record

An escaped character takes at most six bytes for each byte of its own, so the size of a
printed record is bounded by the sizes of the texts in it.
-/

namespace LongHub

open JsonValue List String

namespace ManagerUpdate

section Bytes

variable {front rest text : List Char}

theorem byteCount_append : byteCount (front ++ rest) = byteCount front + byteCount rest := by
  simp [byteCount, ofList_append]

theorem byteCount_cons (char : Char) :
    byteCount (char :: rest) = char.utf8Size + byteCount rest := by
  have split : ofList (char :: rest) = String.singleton char ++ ofList rest := by
    simp
  rw [byteCount, split, utf8ByteSize_append, utf8ByteSize_singleton, byteCount]

variable (content : String)

theorem byteCount_toList : byteCount content.toList = content.utf8ByteSize := by
  simp [byteCount]

theorem byteCount_replicate_space (margin : Nat) :
    byteCount (List.replicate margin ' ') = margin := by
  induction margin with
  | zero => rfl
  | succ margin ih =>
    have one : ' '.utf8Size = 1 := rfl
    rw [replicate_succ, byteCount_cons, ih]
    omega

theorem byteCount_newLine (margin : Nat) : byteCount (newLine margin) = margin + 1 := by
  have one : '\n'.utf8Size = 1 := rfl
  rw [newLine, byteCount_cons, byteCount_replicate_space]
  omega

/-- What grows each character at most sixfold grows the text at most sixfold. -/
theorem byteCount_flatMap_le {escape : Char → List Char}
    (each : ∀ char, byteCount (escape char) ≤ 6 * char.utf8Size) :
    byteCount (text.flatMap escape) ≤ 6 * byteCount text := by
  induction text with
  | nil => exact Nat.zero_le _
  | cons char rest ih =>
    have here := each char
    rw [flatMap_cons, byteCount_append, byteCount_cons]
    omega

theorem byteCount_singleton (char : Char) : byteCount [char] = char.utf8Size := by
  have none : byteCount [] = 0 := rfl
  rw [byteCount_cons, none, Nat.add_zero]

theorem byteCount_flatMap {α : Type} (escape : α → List Char) (items : List α) :
    byteCount (items.flatMap escape) = (items.map fun item => byteCount (escape item)).sum := by
  induction items with
  | nil => rfl
  | cons item rest ih => rw [flatMap_cons, byteCount_append, ih, map_cons, sum_cons]

theorem byteCount_join {texts : List (List Char)} (present : texts ≠ []) :
    byteCount (JsonText.join texts) + 1 = (texts.map fun text => byteCount text + 1).sum := by
  induction texts with
  | nil => exact absurd rfl present
  | cons text rest ih =>
    cases rest with
    | nil => simp [JsonText.join]
    | cons next rest =>
      have comma : ','.utf8Size = 1 := rfl
      have restSize := ih (by simp)
      rw [JsonText.join, byteCount_append, byteCount_cons, map_cons, sum_cons, comma, ← restSize]
      · omega
      · simp

theorem byteCount_le_six {char : Char} (six : byteCount text ≤ 6) :
    byteCount text ≤ 6 * char.utf8Size := by
  have positive := char.utf8Size_pos
  omega

theorem byteCount_escapeHtml_le (char : Char) :
    byteCount (escapeHtml char) ≤ 6 * char.utf8Size := by
  unfold escapeHtml
  split_ifs
  iterate 5 exact byteCount_le_six (by decide)
  rw [byteCount_singleton]
  omega

theorem byteCount_hexEscape : ∀ code : Fin 32,
    byteCount ['\\', 'u', '0', '0', JsonText.hexDigit (code / 16), JsonText.hexDigit (code % 16)] ≤
      6 := by
  decide

theorem byteCount_escape_le (char : Char) :
    byteCount (JsonText.escape char) ≤ 6 * char.utf8Size := by
  unfold JsonText.escape
  split_ifs with _ _ _ _ _ _ _ isControl
  iterate 7 exact byteCount_le_six (by decide)
  · exact byteCount_le_six (byteCount_hexEscape ⟨char.toNat, isControl⟩)
  · rw [byteCount_singleton]
    omega

theorem byteCount_quote_le :
    byteCount (JsonText.quote content).toList ≤ 6 * content.utf8ByteSize + 2 := by
  have inside := @byteCount_flatMap_le content.toList _ byteCount_escape_le
  have mark : '"'.utf8Size = 1 := rfl
  rw [byteCount_toList] at inside
  rw [JsonText.toList_quote, byteCount_cons, byteCount_append, byteCount_singleton, mark]
  omega

theorem byteCount_join_le (texts : List (List Char)) :
    byteCount (JsonText.join texts) ≤ (texts.map fun text => byteCount text + 1).sum := by
  induction texts with
  | nil => exact Nat.zero_le _
  | cons text rest ih =>
    cases rest with
    | nil => simp [JsonText.join]
    | cons next rest =>
      have comma : ','.utf8Size = 1 := rfl
      rw [JsonText.join, byteCount_append, byteCount_cons, map_cons, sum_cons, comma]
      · omega
      · simp

end Bytes

mutual

@[grind =]
def bound (margin : Nat) : JsonValue → Nat
  | .null | .bool _ => 5
  | .number literal => literal.utf8ByteSize
  | .text content => 6 * content.utf8ByteSize + 2
  | .array items => boundItems (margin + 2) items + margin + 3
  | .record fields => boundFields (margin + 2) fields + margin + 3

def boundItems (margin : Nat) : List JsonValue → Nat
  | [] => 0
  | item :: rest => bound margin item + margin + 2 + boundItems margin rest

def boundFields (margin : Nat) : List (String × JsonValue) → Nat
  | [] => 0
  | (key, value) :: rest =>
    6 * key.utf8ByteSize + bound margin value + margin + 6 + boundFields margin rest

end

/-- A text and what surrounds it. -/
theorem byteCount_framed_le {first last : Char} {inside margin : List Char} {size : Nat}
    (firstOne : first.utf8Size = 1) (lastOne : last.utf8Size = 1) (most : byteCount inside ≤ size) :
    byteCount (first :: inside ++ margin ++ [last]) ≤ size + byteCount margin + 2 := by
  rw [byteCount_append, byteCount_append, byteCount_cons, byteCount_singleton, firstOne, lastOne]
  omega

theorem byteCount_field_le (key : String) (text : List Char) :
    byteCount (JsonText.field (key, text)) ≤ 6 * key.utf8ByteSize + byteCount text + 3 := by
  have quoted := byteCount_quote_le key
  have colon : ':'.utf8Size = 1 := rfl
  change byteCount ((JsonText.quote key).toList ++ ':' :: text) ≤ _
  rw [byteCount_append, byteCount_cons, colon]
  omega

theorem byteCount_framed_join_le {first last : Char} {texts : List (List Char)} {size : Nat}
    (margin : List Char) (firstOne : first.utf8Size = 1) (lastOne : last.utf8Size = 1)
    (most : (texts.map fun text => byteCount text + 1).sum ≤ size) :
    byteCount (first :: JsonText.join texts ++ margin ++ [last]) ≤ size + byteCount margin + 2 :=
  byteCount_framed_le firstOne lastOne ((byteCount_join_le texts).trans most)

mutual

theorem byteCount_indented_le (margin : Nat) : (value : JsonValue) →
    byteCount (indented margin value) ≤ bound margin value ∧
      byteCount (print value) ≤ bound margin value
  | .null => by
    have word : byteCount ['n', 'u', 'l', 'l'] ≤ 5 := by decide
    exact ⟨word, word⟩
  | .bool true => by
    have word : byteCount ['t', 'r', 'u', 'e'] ≤ 5 := by decide
    exact ⟨word, word⟩
  | .bool false => by
    have word : byteCount ['f', 'a', 'l', 's', 'e'] ≤ 5 := by decide
    exact ⟨word, word⟩
  | .number literal => by
    have size := byteCount_toList literal
    exact ⟨size.le, size.le⟩
  | .text content => ⟨byteCount_quote_le content, byteCount_quote_le content⟩
  | .array items => by
    have inside := byteCount_items_le (margin + 2) items
    have compact := @byteCount_framed_join_le '[' ']' _ _ [] rfl rfl inside.2
    have none : byteCount [] = 0 := rfl
    rw [append_nil, none] at compact
    constructor
    · cases items with
      | nil => exact compact.trans (by rw [bound]; omega)
      | cons item rest =>
        have wide := @byteCount_framed_join_le '[' ']' _ _ (newLine margin) rfl rfl inside.1
        rw [byteCount_newLine] at wide
        exact wide.trans (by rw [bound]; omega)
    · exact compact.trans (by rw [bound]; omega)
  | .record fields => by
    have inside := byteCount_fields_le (margin + 2) fields
    have compact := @byteCount_framed_join_le '\x7b' '\x7d' _ _ [] rfl rfl inside.2
    have none : byteCount [] = 0 := rfl
    rw [append_nil, none] at compact
    constructor
    · cases fields with
      | nil => exact compact.trans (by rw [bound]; omega)
      | cons field rest =>
        have wide := @byteCount_framed_join_le '\x7b' '\x7d' _ _ (newLine margin) rfl rfl inside.1
        rw [byteCount_newLine] at wide
        exact wide.trans (by rw [bound]; omega)
    · exact compact.trans (by rw [bound]; omega)

theorem byteCount_items_le (margin : Nat) : (items : List JsonValue) →
    ((indentedItems margin items).map fun text => byteCount text + 1).sum ≤
        boundItems margin items ∧
      ((printItems items).map fun text => byteCount text + 1).sum ≤ boundItems margin items
  | [] => ⟨Nat.zero_le _, Nat.zero_le _⟩
  | item :: rest => by
    have here := byteCount_indented_le margin item
    have inRest := byteCount_items_le margin rest
    rw [indentedItems, printItems, boundItems, map_cons, sum_cons,
      map_cons, sum_cons, byteCount_append, byteCount_newLine]
    omega

theorem byteCount_fields_le (margin : Nat) : (fields : List (String × JsonValue)) →
    ((indentedFields margin fields).map fun text => byteCount text + 1).sum ≤
        boundFields margin fields ∧
      ((printFields fields).map fun text => byteCount text + 1).sum ≤ boundFields margin fields
  | [] => ⟨Nat.zero_le _, Nat.zero_le _⟩
  | (key, value) :: rest => by
    have here := byteCount_indented_le margin value
    have inRest := byteCount_fields_le margin rest
    have compact := byteCount_field_le key (print value)
    have wide := byteCount_field_le key (' ' :: indented margin value)
    have space : ' '.utf8Size = 1 := rfl
    rw [byteCount_cons, space] at wide
    rw [indentedFields, printFields, boundFields, map_cons, sum_cons,
      map_cons, sum_cons, byteCount_append, byteCount_newLine]
    omega

end

theorem envelopeSize_le (envelope : Envelope) :
    envelopeSize envelope ≤ 6 * bound 0 (envelopeJson envelope) := by
  have escaped := @byteCount_flatMap_le (print (envelopeJson envelope)) _ byteCount_escapeHtml_le
  have printed := (byteCount_indented_le 0 (envelopeJson envelope)).2
  unfold envelopeSize
  omega

theorem pendingSize_le (pending : PendingUpdate) :
    pendingSize pending ≤ 6 * bound 0 (pendingJson pending) + 1 := by
  have escaped := @byteCount_flatMap_le (indented 0 (pendingJson pending)) _ byteCount_escapeHtml_le
  have printed := (byteCount_indented_le 0 (pendingJson pending)).1
  have last : '\n'.utf8Size = 1 := rfl
  unfold pendingSize
  rw [byteCount_append, byteCount_singleton, last]
  omega

end ManagerUpdate

end LongHub
