import LongHub.BridgeAuthorization
import LongHub.JsonDamage

/-!
# The line channel of Core RPC

A message is written as one line of JSON. The receiver decodes each chunk of bytes on its own,
appends it to a buffer and takes the complete lines out of it.
-/

namespace LongHub

open JsonValue List

open Utf8Decoder (encode decode Damaged WholeCharacters)

structure RpcMessage where
  fields : List (String × JsonValue)
  wellFormed : (record fields).WellFormed
  numerals : (record fields).Numerals

def RpcMessage.value (message : RpcMessage) : JsonValue := .record message.fields

namespace LineChannel

def lineOf (text : List Char) : List Char := text ++ ['\n']

def send (message : RpcMessage) : List UInt8 := encode (lineOf message.value.print)

/-- The buffer of `createLineChannel`, and the messages it has handed over. -/
structure Receiver where
  buffer : List Char
  delivered : List JsonValue
  thrown : Bool

def Receiver.new : Receiver := ⟨[], [], false⟩

def deliver (line : List Char) (receiver : Receiver) : Receiver :=
  let trimmed := (trimText (String.ofList line)).toList
  if trimmed = [] then receiver
  else
    match parse trimmed with
    | some message => { receiver with delivered := receiver.delivered ++ [message] }
    | none => { receiver with thrown := true }

def drain : Nat → Receiver → Receiver
  | 0, receiver => receiver
  | turns + 1, receiver =>
    if receiver.thrown then receiver
    else
      match receiver.buffer.dropWhile (· ≠ '\n') with
      | [] => receiver
      | _ :: rest =>
        drain turns (deliver (receiver.buffer.takeWhile (· ≠ '\n'))
          { receiver with buffer := rest })

def onData (receiver : Receiver) (chunk : List UInt8) : Receiver :=
  let buffer := receiver.buffer ++ decode chunk
  if receiver.thrown then receiver else drain buffer.length { receiver with buffer }

def received (chunks : List (List UInt8)) : List JsonValue :=
  (chunks.foldl onData .new).delivered

structure Carries (line : List Char) (value : JsonValue) : Prop where
  oneLine : '\n' ∉ line
  trimmed : (trimText (String.ofList line)).toList = line
  parsed : parse line = some value

theorem Carries.deliver {line : List Char} {value : JsonValue} (carries : Carries line value)
    (receiver : Receiver) :
    deliver line receiver = { receiver with delivered := receiver.delivered ++ [value] } := by
  have present : line ≠ [] := by
    rintro rfl
    have parsed := carries.parsed
    simp [parse, readValue, skipSpace, readNumber, DoubleNumber.readNumeral] at parsed
  simp [LineChannel.deliver, carries.trimmed, present, carries.parsed]

def textOf (lines : List (List Char)) : List Char := lines.flatMap lineOf

variable {lines : List (List Char)} {chunks : List (List UInt8)} {messages : List RpcMessage}

theorem drain_lines {values : List JsonValue} (carry : List.Forall₂ Carries lines values)
    {rest : List Char} (noLine : '\n' ∉ rest) {turns : Nat} (enough : lines.length ≤ turns)
    (delivered : List JsonValue) :
    drain turns ⟨textOf lines ++ rest, delivered, false⟩ = ⟨rest, delivered ++ values, false⟩ := by
  induction carry generalizing turns delivered with
  | nil =>
    cases turns with
    | zero => simp [drain, textOf]
    | succ turns =>
      have nothing : rest.dropWhile (· ≠ '\n') = [] := by
        apply dropWhile_eq_nil_iff.mpr
        intro char mem
        apply decide_eq_true
        rintro rfl
        exact noLine mem
      rw [drain]
      simp only [Bool.false_eq_true, if_false, textOf, flatMap_nil, nil_append]
      rw [nothing, append_nil]
  | @cons line value lines values carries others ih =>
    cases turns with
    | zero => simp at enough
    | succ turns =>
      have keeps : ∀ char ∈ line, decide (char ≠ '\n') = true := by
        intro char mem
        apply decide_eq_true
        rintro rfl
        exact carries.oneLine mem
      have text : textOf (line :: lines) ++ rest = line ++ '\n' :: (textOf lines ++ rest) := by
        simp [textOf, lineOf]
      have dropped : (line ++ '\n' :: (textOf lines ++ rest)).dropWhile (· ≠ '\n') =
          '\n' :: (textOf lines ++ rest) := by
        rw [dropWhile_append_of_pos keeps]
        rfl
      have taken : (line ++ '\n' :: (textOf lines ++ rest)).takeWhile (· ≠ '\n') = line := by
        rw [takeWhile_append_of_pos keeps]
        simp
      rw [text, drain]
      rw [dropped, taken]
      simp only [carries.deliver]
      rw [ih (by simpa using enough), append_assoc]
      rfl

theorem split_lines (each : ∀ line ∈ lines, '\n' ∉ line) {text more : List Char}
    (whole : text ++ more = textOf lines) :
    ∃ first others rest, lines = first ++ others ∧ text = textOf first ++ rest ∧
      '\n' ∉ rest ∧ rest ++ more = textOf others := by
  induction lines generalizing text with
  | nil =>
    obtain ⟨rfl, rfl⟩ := append_eq_nil_iff.mp whole
    exact ⟨[], [], [], rfl, rfl, by simp, rfl⟩
  | cons line lines ih =>
    have oneLine := each line mem_cons_self
    have split : textOf (line :: lines) = lineOf line ++ textOf lines := by simp [textOf]
    rw [split] at whole
    rcases append_eq_append_iff.mp whole with ⟨back, lineIs, moreIs⟩ | ⟨front, textIs, restIs⟩
    · by_cases complete : back = []
      · refine ⟨[line], lines, [], rfl, ?_, by simp, ?_⟩
        · rw [complete, append_nil] at lineIs
          simp [textOf, lineIs]
        · rw [moreIs, complete]
          rfl
      · refine ⟨[], line :: lines, text, rfl, rfl, ?_, ?_⟩
        · intro mem
          obtain ⟨init, last, rfl⟩ := eq_nil_or_concat back |>.resolve_left complete
          rw [concat_eq_append, ← append_assoc, lineOf] at lineIs
          have same := (append_inj' lineIs rfl).1
          exact oneLine (same ▸ mem_append_left _ mem)
        · rw [split, lineIs, append_assoc, moreIs]
    · obtain ⟨first, others, rest, rfl, rfl, noLine, restText⟩ :=
        ih (fun other mem => each other (mem_cons_of_mem _ mem)) restIs.symm
      refine ⟨line :: first, others, rest, rfl, ?_, noLine, restText⟩
      rw [textIs]
      simp [textOf]

theorem length_le_textOf (lines : List (List Char)) (rest : List Char) :
    lines.length ≤ (textOf lines ++ rest).length := by
  induction lines with
  | nil => simp
  | cons line lines ih =>
    have split : textOf (line :: lines) = line ++ '\n' :: textOf lines := by
      simp [textOf, lineOf]
    rw [split]
    simp only [length_append, length_cons] at ih ⊢
    omega

theorem foldl_onData {values : List JsonValue} (carry : List.Forall₂ Carries lines values)
    {buffer : List Char} (noLine : '\n' ∉ buffer)
    (text : buffer ++ chunks.flatMap decode = textOf lines) (delivered : List JsonValue) :
    chunks.foldl onData ⟨buffer, delivered, false⟩ = ⟨[], delivered ++ values, false⟩ := by
  induction chunks generalizing lines values buffer delivered with
  | nil =>
    rw [flatMap_nil, append_nil] at text
    cases carry with
    | nil => simp [text, textOf]
    | cons carries others => exact absurd (by simp [text, textOf, lineOf]) noLine
  | cons chunk chunks ih =>
    have each : ∀ line ∈ lines, '\n' ∉ line := by
      intro line mem
      obtain ⟨value, -, carries⟩ := carry.exists_of_mem_left mem
      exact carries.oneLine
    rw [flatMap_cons, ← append_assoc] at text
    obtain ⟨first, others, rest, rfl, bufferIs, noRest, restText⟩ := split_lines each text
    obtain ⟨firstValues, otherValues, rfl, firstCarry, otherCarry⟩ := carry.split
    have drained := drain_lines firstCarry noRest (length_le_textOf first rest) delivered
    rw [foldl_cons, onData]
    simp only [Bool.false_eq_true, if_false]
    rw [bufferIs, drained, ih otherCarry noRest restText, append_assoc]

theorem trim_object (inside : List Char) :
    (trimText (String.ofList ('\x7b' :: inside ++ ['\x7d']))).toList =
      '\x7b' :: inside ++ ['\x7d'] := by
  have opens : CloudSkillTables.isTrimmed '\x7b' = false := by decide
  have closes : CloudSkillTables.isTrimmed '\x7d' = false := by decide
  rw [trimText, String.toList_ofList, String.toList_ofList, cons_append,
    dropWhile_cons_of_neg (by simp [opens])]
  have reversed : ('\x7b' :: (inside ++ ['\x7d'])).reverse =
      '\x7d' :: ('\x7b' :: inside).reverse := by simp
  rw [reversed, dropWhile_cons_of_neg (by simp [closes])]
  simp

theorem carries_print (message : RpcMessage) : Carries message.value.print message.value where
  oneLine := newLine_notMem_print message.numerals
  trimmed := trim_object _
  parsed := parse_print message.numerals message.wellFormed

theorem carries_damaged (message : RpcMessage) {line : List Char}
    (damaged : Damaged message.value.print line) : ∃ value, Carries line value ∧
      (value = message.value → line.length = message.value.print.length) := by
  have reshaped := reshaped_of_damaged message.numerals damaged
  have object : ∃ inside, line = '\x7b' :: inside ++ ['\x7d'] := by
    obtain ⟨rest, rfl, restDamaged⟩ := damaged_ascii_cons (by decide) damaged
    obtain ⟨inside, rfl, -⟩ := damaged_ascii_last (by decide) restDamaged
    exact ⟨inside, rfl⟩
  obtain ⟨inside, objectText⟩ := object
  obtain ⟨other, text, numerals, size⟩ := reshaped
  have parsed := parse_of_writes (writes_print numerals) isSpace_nil
  rw [append_nil, ← text] at parsed
  refine ⟨other.normalize, ⟨?_, ?_, parsed⟩, fun same => ?_⟩
  · rw [text]
    exact newLine_notMem_print numerals
  · rw [objectText]
    exact trim_object inside
  · apply length_eq_of_reshaped ⟨other, text, numerals, size⟩
    rw [parsed, same]
    rfl

theorem damaged_lines {whole : List Char} (damaged : Damaged (textOf lines) whole) :
    ∃ afters, whole = textOf afters ∧ List.Forall₂ Damaged lines afters := by
  induction lines generalizing whole with
  | nil =>
    cases damaged with
    | nil => exact ⟨[], rfl, .nil⟩
  | cons line lines ih =>
    obtain ⟨first, rest, rfl, firstDamaged, restDamaged⟩ := damaged.split
    obtain ⟨after, rfl, lineDamaged⟩ := damaged_ascii_last (by decide) firstDamaged
    obtain ⟨afters, rfl, paired⟩ := ih restDamaged
    exact ⟨after :: afters, by simp [textOf, lineOf], .cons lineDamaged paired⟩

theorem carry_damaged
    (damaged : List.Forall₂ Damaged (messages.map fun message => message.value.print) lines) :
    ∃ values, List.Forall₂ Carries lines values ∧ (values = messages.map RpcMessage.value →
        (textOf lines).length =
          (textOf (messages.map fun message => message.value.print)).length) := by
  induction messages generalizing lines with
  | nil =>
    cases damaged with
    | nil => exact ⟨[], .nil, fun _ => rfl⟩
  | cons message messages ih =>
    rw [map_cons, forall₂_cons_left_iff] at damaged
    obtain ⟨line, rest, lineDamaged, others, rfl⟩ := damaged
    obtain ⟨value, carries, lineLength⟩ := carries_damaged message lineDamaged
    obtain ⟨values, carry, restLength⟩ := ih others
    refine ⟨value :: values, .cons carries carry, fun same => ?_⟩
    obtain ⟨sameValue, sameValues⟩ := cons.inj same
    have here := lineLength sameValue
    have later := restLength sameValues
    simp only [textOf, lineOf, map_cons, flatMap_cons, length_append] at later ⊢
    omega

def sent (messages : List RpcMessage) : List UInt8 := messages.flatMap send

theorem sent_eq (messages : List RpcMessage) :
    sent messages = encode (textOf (messages.map fun message => message.value.print)) := by
  induction messages with
  | nil => rfl
  | cons message messages ih =>
    change send message ++ sent messages = _
    rw [ih]
    simp [send, encode, textOf, lineOf]

theorem wholeCharacters_of_received_eq (cut : chunks.flatten = sent messages)
    (same : received chunks = messages.map RpcMessage.value) : WholeCharacters chunks := by
  have whole := cut.trans (sent_eq messages)
  have damaged := Utf8Decoder.damaged_of_pieces whole
  obtain ⟨lines, text, paired⟩ := damaged_lines damaged
  obtain ⟨values, carry, sameLength⟩ := carry_damaged paired
  have arrived := foldl_onData carry (show '\n' ∉ [] by simp) ((nil_append _).trans text) []
  have valuesArrived : received chunks = values := by
    rw [received, Receiver.new, arrived]
    rfl
  apply (Utf8Decoder.length_flatMap_decode_iff whole).mp
  rw [text]
  exact sameLength (valuesArrived.symm.trans same)

theorem received_eq_of_whole (cut : chunks.flatten = sent messages)
    (wholeCharacters : WholeCharacters chunks) :
    received chunks = messages.map RpcMessage.value := by
  have text := Utf8Decoder.flatMap_decode_eq (cut.trans (sent_eq messages)) wholeCharacters
  have carry : List.Forall₂ Carries (messages.map fun message => message.value.print)
      (messages.map RpcMessage.value) := by
    clear text cut
    induction messages with
    | nil => exact .nil
    | cons message messages ih => exact .cons (carries_print message) ih
  have arrived := foldl_onData carry (show '\n' ∉ [] by simp) ((nil_append _).trans text) []
  rw [received, Receiver.new, arrived]
  rfl

/-- Exactly the messages arrive if and only if no chunk ends inside a character. -/
theorem received_eq_iff (messages : List RpcMessage) (chunks : List (List UInt8))
    (cut : chunks.flatten = sent messages) :
    received chunks = messages.map RpcMessage.value ↔ WholeCharacters chunks :=
  ⟨wholeCharacters_of_received_eq cut, received_eq_of_whole cut⟩

def exampleRequest : RpcMessage where
  fields := [("rpc", .text "1.0"), ("id", .text "1"), ("method", .text "skill"),
    ("params", .record [("name", .text "\u674E")])]
  wellFormed := by
    have inner : JsonValue.WellFormed (.record [("name", .text "\u674E")]) :=
      .record (by decide) (by simp) (by simp [JsonValue.WellFormed.text])
    refine .record (by decide) ?_ ?_
    · have ordered : List.Pairwise (fun first second : String => mayPrecede first second = true)
          ["rpc", "id", "method", "params"] := by decide
      simpa [mayPrecede_iff] using ordered
    · simp [JsonValue.WellFormed.text, inner]
  numerals := by
    have inner : JsonValue.Numerals (.record [("name", .text "\u674E")]) :=
      .record (by simp [JsonValue.Numerals.text])
    exact .record (by simp [JsonValue.Numerals.text, inner])

theorem received_exampleRequest :
    received [(sent [exampleRequest]).take 58, (sent [exampleRequest]).drop 58] =
        [exampleRequest.value] ↔
      WholeCharacters [(sent [exampleRequest]).take 58, (sent [exampleRequest]).drop 58] :=
  received_eq_iff [exampleRequest] _ (by simp)

/-- A chunk that ends inside the character loses it. -/
theorem not_received_eq : ¬ ∀ (messages : List RpcMessage) (chunks : List (List UInt8)),
    chunks.flatten = sent messages → received chunks = messages.map RpcMessage.value := by
  intro claim
  let bytes := sent [exampleRequest]
  have cut : [bytes.take 58, bytes.drop 58].flatten = sent [exampleRequest] := by simp [bytes]
  have whole := wholeCharacters_of_received_eq cut (claim _ _ cut)
  obtain ⟨text, chunk⟩ := whole (bytes.take 58) mem_cons_self
  have decoded : encode (decode (bytes.take 58)) = bytes.take 58 := by
    rw [chunk, Utf8Decoder.decode_encode]
  have lengths : (encode (decode (bytes.take 58))).length ≠ (bytes.take 58).length := by
    decide
  exact lengths (congrArg length decoded)

end LineChannel

end LongHub
