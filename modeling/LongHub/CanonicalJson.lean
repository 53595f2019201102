import LongHub.ExecutorCredential
import LongHub.JsonText
import LongHub.ListLemmas

/-!
# Canonical JSON

The Executor and Core hash a JSON text in which the keys of every object are sorted by
`localeCompare`.
-/

namespace LongHub

open List Option Prod

namespace JsonValue

theorem values_induction {motive : JsonValue → Prop} (null : motive .null)
    (bool : ∀ value, motive (.bool value)) (number : ∀ literal, motive (.number literal))
    (text : ∀ content, motive (.text content))
    (array : ∀ items, (∀ item ∈ items, motive item) → motive (.array items))
    (record : ∀ fields, (∀ field ∈ fields, motive field.2) → motive (.record fields)) :
    ∀ value, motive value
  | .null => null
  | .bool value => bool value
  | .number literal => number literal
  | .text content => text content
  | .array items => array items fun item _ =>
    values_induction null bool number text array record item
  | .record fields => record fields fun field _ =>
    values_induction null bool number text array record field.2
termination_by value => sizeOf value
decreasing_by
  · have smaller := sizeOf_lt_of_mem ‹item ∈ items›
    simp only [JsonValue.array.sizeOf_spec]
    omega
  · have smaller := sizeOf_lt_of_mem ‹field ∈ fields›
    have inside : sizeOf field.2 < sizeOf field := by
      cases field
      simp only [Prod.mk.sizeOf_spec]
      omega
    simp only [JsonValue.record.sizeOf_spec]
    omega

def arrayIndex (key : String) : Option Nat :=
  let index := key.toList.foldl (fun number digit => number * 10 + (digit.toNat - 48)) 0
  match key.toList with
  | [] => none
  | first :: rest =>
    if first.isDigit && rest.all Char.isDigit && (first ≠ '0' || rest.isEmpty) &&
        index < 4294967295 then some index
    else none

def MayPrecede (first second : String) : Prop :=
  match arrayIndex first, arrayIndex second with
  | some one, some other => one < other
  | some _, none => True
  | none, some _ => False
  | none, none => True

/-- The objects inside a value have distinct keys, in an order of JavaScript. -/
inductive WellFormed : JsonValue → Prop where
  | null : WellFormed .null
  | bool (value : Bool) : WellFormed (.bool value)
  | number (literal : String) : WellFormed (.number literal)
  | text (content : String) : WellFormed (.text content)
  | array {items : List JsonValue} (each : ∀ item ∈ items, WellFormed item) :
      WellFormed (.array items)
  | record {fields : List (String × JsonValue)} (distinct : (fields.map fst).Nodup)
      (ordered : fields.Pairwise fun first second => MayPrecede first.1 second.1)
      (each : ∀ field ∈ fields, WellFormed field.2) : WellFormed (.record fields)

theorem wellFormed_texts (texts : List String) : WellFormed (.array (texts.map .text)) := by
  apply WellFormed.array
  intro item mem
  obtain ⟨text, -, rfl⟩ := List.mem_map.mp mem
  exact .text text

/-- Equal values, up to the order of the keys of any object. -/
inductive SameJson {ν : Type} (value : String → ν) : JsonValue → JsonValue → Prop where
  | null : SameJson value .null .null
  | bool (content : Bool) : SameJson value (.bool content) (.bool content)
  | number {one other : String} (same : value one = value other) :
      SameJson value (.number one) (.number other)
  | text (content : String) : SameJson value (.text content) (.text content)
  | array {items others : List JsonValue} (length : items.length = others.length)
      (each : ∀ (index : Nat) (item other : JsonValue), items[index]? = some item →
        others[index]? = some other → SameJson value item other) :
      SameJson value (.array items) (.array others)
  | record {fields others : List (String × JsonValue)}
      (keys : ∀ key, key ∈ fields.map fst ↔ key ∈ others.map fst)
      (each : ∀ (key : String) (one other : JsonValue), (key, one) ∈ fields →
        (key, other) ∈ others → SameJson value one other) :
      SameJson value (.record fields) (.record others)

/-- Somewhere inside, an object has two keys that compare as equal and keep the
order in which they were inserted. -/
inductive HasTie (compare : String → String → Bool) : JsonValue → Prop where
  | keys {fields : List (String × JsonValue)} {first second : String}
      (firstIn : first ∈ fields.map fst) (secondIn : second ∈ fields.map fst)
      (differ : first ≠ second) (firstName : arrayIndex first = none)
      (secondName : arrayIndex second = none) (forth : compare first second = true)
      (back : compare second first = true) : HasTie compare (.record fields)
  | item {items : List JsonValue} {item : JsonValue} (mem : item ∈ items)
      (inside : HasTie compare item) : HasTie compare (.array items)
  | field {fields : List (String × JsonValue)} {field : String × JsonValue}
      (mem : field ∈ fields) (inside : HasTie compare field.2) : HasTie compare (.record fields)

end JsonValue

namespace CoreAuthorization

variable (node : NodePlatform)

def recordText (texts : List (String × String)) : String :=
  let sorted := texts.insertionSort fun first second => node.localeCompare first.1 second.1
  "\x7b" ++ ",".intercalate (sorted.map fun field => node.quote field.1 ++ ":" ++ field.2) ++ "\x7d"

mutual

@[grind =]
def canonicalJson : JsonValue → Option String
  | .null => some "null"
  | .bool value => some (if value then "true" else "false")
  | .number literal => node.printNumber literal
  | .text value => some (node.quote value)
  | .array items => (canonicalItems items).map fun texts =>
    "[" ++ ",".intercalate texts ++ "]"
  | .record fields => (canonicalFields fields).map (recordText node)

def canonicalItems : List JsonValue → Option (List String)
  | [] => some []
  | item :: rest => do
    let text ← canonicalJson item
    let texts ← canonicalItems rest
    some (text :: texts)

def canonicalFields : List (String × JsonValue) → Option (List (String × String))
  | [] => some []
  | (key, value) :: rest => do
    let text ← canonicalJson value
    let texts ← canonicalFields rest
    some ((key, text) :: texts)

end

def bridgePayloadDigest (skillId : String) (input : JsonValue) : Option String :=
  (canonicalJson node (.record [("skillId", .text skillId), ("input", input)])).map node.sha256Hex

variable {node}

theorem canonicalItems_eq_some {items : List JsonValue} {texts : List String} :
    canonicalItems node items = some texts ↔
      List.Forall₂ (fun item text => canonicalJson node item = some text) items texts := by
  induction items generalizing texts with
  | nil => simp [canonicalItems, eq_comm]
  | cons item rest ih =>
    cases texts with
    | nil => simp [canonicalItems, bind_eq_some_iff]
    | cons text texts =>
      simp [canonicalItems, bind_eq_some_iff, ← ih, forall₂_cons]

def FieldText (node : NodePlatform) (field : String × JsonValue) (entry : String × String) : Prop :=
  entry.1 = field.1 ∧ canonicalJson node field.2 = some entry.2

theorem canonicalFields_eq_some {fields : List (String × JsonValue)}
    {texts : List (String × String)} :
    canonicalFields node fields = some texts ↔ List.Forall₂ (FieldText node) fields texts := by
  induction fields generalizing texts with
  | nil => simp [canonicalFields, eq_comm]
  | cons field rest ih =>
    cases texts with
    | nil => simp [canonicalFields, bind_eq_some_iff]
    | cons entry texts =>
      obtain ⟨name, text⟩ := entry
      simp only [canonicalFields, bind_eq_bind, bind_eq_some_iff,
        forall₂_cons, FieldText, ← ih, Option.some.injEq, List.cons.injEq, Prod.mk.injEq]
      constructor
      · rintro ⟨printed, found, others, foundRest, ⟨rfl, rfl⟩, rfl⟩
        exact ⟨⟨rfl, found⟩, foundRest⟩
      · rintro ⟨⟨rfl, found⟩, foundRest⟩
        exact ⟨text, found, texts, foundRest, ⟨rfl, rfl⟩, rfl⟩

end CoreAuthorization

end LongHub
