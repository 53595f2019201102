import LongHub.LogRedaction

/-!
# Which secrets reach the log

A redacted text contains no secret.  Keys, names and codes of errors, dates and the texts of
other values are printed as they are: a record is free of secrets exactly when these are.
-/

namespace LongHub

open Except List

namespace LogRedaction

open TextRewriting

def Safe (secrets : List LogText) (text : LogText) : Prop :=
  ∀ secret ∈ secrets, Avoids secret text

def redactionMarkers : List LogText :=
  [redactedLogValue, bearerRedacted, truncatedLogValue, circularLogValue]

/-- Secrets of at least eight letters that lie apart from the markers. -/
def Redactable (secrets : List LogText) : Prop :=
  ∀ secret ∈ secrets, 8 ≤ secret.length ∧ ∀ marker ∈ redactionMarkers, Apart secret marker

instance (secrets : List LogText) (text : LogText) : Decidable (Safe secrets text) :=
  inferInstanceAs (Decidable (∀ _ ∈ _, _))

instance (secrets : List LogText) : Decidable (Redactable secrets) :=
  inferInstanceAs (Decidable (∀ _ ∈ _, _ ∧ ∀ _ ∈ _, _))

section Texts

variable {secrets : List LogText} {secret text : LogText}

theorem safe_of_short (redactable : Redactable secrets) (short : text.length < 8) :
    Safe secrets text := by
  intro secret mem
  have long := (redactable secret mem).1
  exact avoids_of_length (by omega)

theorem safe_marker (redactable : Redactable secrets) (isMarker : text ∈ redactionMarkers) :
    Safe secrets text :=
  fun secret mem => ((redactable secret mem).2 text isMarker).avoids_marker

theorem avoids_replaceSecret {other : LogText} (apart : Apart secret redactedLogValue)
    (avoids : Avoids secret text) : Avoids secret (replaceSecret text other) := by
  unfold replaceSecret
  split_ifs
  · exact Rule.avoids_apply apart avoids
  · exact avoids

theorem avoids_replaceSecrets (apart : Apart secret redactedLogValue) (others : List LogText)
    (avoids : Avoids secret text) : Avoids secret (others.foldl replaceSecret text) := by
  induction others generalizing text with
  | nil => exact avoids
  | cons other rest ih => exact ih (avoids_replaceSecret apart avoids)

theorem safe_replaceSecrets (redactable : Redactable secrets) (text : LogText) :
    Safe secrets (secrets.foldl replaceSecret text) := by
  induction secrets generalizing text with
  | nil => exact nofun
  | cons first rest ih =>
    obtain ⟨isRedactable, restRedactable⟩ := forall_mem_cons.mp redactable
    intro secret mem
    rcases mem_cons.mp mem with rfl | inRest
    · have apart := isRedactable.2 redactedLogValue (by simp [redactionMarkers])
      have replaced : Avoids secret (replaceSecret text secret) := by
        rw [replaceSecret, if_pos isRedactable.1]
        exact avoids_replacing apart text
      exact avoids_replaceSecrets apart rest replaced
    · exact ih restRedactable (replaceSecret text first) secret inRest

theorem marker_of_textPattern {rule : Rule UInt16} (mem : rule ∈ textPatterns) :
    rule.marker ∈ redactionMarkers := by
  simp only [textPatterns, mem_cons, not_mem_nil, or_false] at mem
  rcases mem with rfl | rfl | rfl | rfl | rfl | rfl <;>
    simp [redactionMarkers, sensitiveAssignmentPattern, bearerPattern,
      sensitiveUrlParameterPattern, keyPattern, activationCodePattern, Pattern.rule]

theorem avoids_patterns {rules : List (Rule UInt16)}
    (apart : ∀ rule ∈ rules, Apart secret rule.marker) (avoids : Avoids secret text) :
    Avoids secret (rules.foldl (fun text rule => rule.apply text) text) := by
  induction rules generalizing text with
  | nil => exact avoids
  | cons rule rest ih =>
    obtain ⟨ruleApart, restApart⟩ := forall_mem_cons.mp apart
    exact ih restApart (Rule.avoids_apply ruleApart avoids)

theorem avoids_truncateText (maxLength : Nat) (apart : Apart secret truncatedLogValue)
    (avoids : Avoids secret text) : Avoids secret (truncateText maxLength text) := by
  unfold truncateText
  split_ifs
  · have cut : Avoids secret (text.take maxLength) := avoids.mono (List.take_prefix _ _).isInfix
    have nothing : Avoids secret ([] : LogText) := avoids.mono nil_infix
    simpa using apart.avoids_append cut nothing
  · exact avoids

theorem safe_redactLogText (redactable : Redactable secrets) (text : LogText) (maxLength : Nat) :
    Safe secrets (redactLogText text maxLength secrets) := by
  intro secret mem
  have apart := (redactable secret mem).2
  apply avoids_truncateText maxLength (apart _ (by simp [redactionMarkers]))
  apply avoids_patterns fun rule isPattern => apart _ (marker_of_textPattern isPattern)
  exact safe_replaceSecrets redactable text secret mem

end Texts

section Printed

variable {P : LogText → Prop}

theorem forall_itemTexts {items : List LogOutput} :
    (∀ text ∈ itemTexts items, P text) ↔ ∀ item ∈ items, ∀ text ∈ item.texts, P text := by
  induction items with
  | nil => simp [itemTexts]
  | cons item rest ih => simp [itemTexts, or_imp, forall_and, ih]

theorem forall_fieldTexts {fields : List (LogText × LogOutput)} :
    (∀ text ∈ fieldTexts fields, P text) ↔ ∀ field ∈ fields, field.2.isUndefined = false →
        P field.1 ∧ ∀ text ∈ field.2.texts, P text := by
  induction fields with
  | nil => simp [fieldTexts]
  | cons field rest ih =>
    obtain ⟨key, value⟩ := field
    rw [forall_mem_cons, ← ih]
    cases undefined : value.isUndefined with
    | true => simp [fieldTexts, undefined]
    | false => simp [fieldTexts, undefined, or_imp, forall_and, and_assoc]

theorem forall_iff_of_forall₂ {α β : Type} {related : α → β → Prop} {p : α → Prop} {q : β → Prop}
    {first : List α} {second : List β} (paired : List.Forall₂ related first second)
    (agree : ∀ x y, related x y → (p x ↔ q y)) : (∀ x ∈ first, p x) ↔ ∀ y ∈ second, q y := by
  induction paired with
  | nil => simp
  | cons isRelated _ ih => rw [forall_mem_cons, forall_mem_cons, agree _ _ isRelated, ih]

end Printed

def CodeClean (secrets : List LogText) : ErrorCode → Prop
  | .text content => Safe secrets content
  | .number _ | .other => True

def EntryClean (secrets : List LogText) (clean : LogValue → Prop) (entry : LogText × LogValue) :
    Prop :=
  entry.1 ≠ protoKey → (isSensitiveKey entry.1 = true → Safe secrets entry.1) ∧
      (isSensitiveKey entry.1 = false → entry.2 ≠ .undefined → Safe secrets entry.1 ∧ clean entry.2)

@[grind =]
def ValueClean (heap : LogHeap) (maxArrayLength : Nat) (secrets : List LogText) :
    Nat → List Nat → LogValue → Prop
  | _, _, .bigint digits => Safe secrets digits
  | _, _, .symbol description => Safe secrets description
  | _, _, .function source => Safe secrets source
  | _, _, .error name _ code => Safe secrets name ∧ CodeClean secrets code
  | _, _, .date iso => ∀ text, iso = some text → Safe secrets text
  | depth + 1, seen, .object reference =>
    reference ∉ seen → match heap reference with
      | .array items => ∀ item ∈ items.take maxArrayLength,
          ValueClean heap maxArrayLength secrets depth (reference :: seen) item
      | .record entries => ∀ entry ∈ entries, EntryClean secrets
          (ValueClean heap maxArrayLength secrets depth (reference :: seen)) entry
  | _, _, _ => True

section Values

variable {heap : LogHeap} {options : RedactionOptions} {depth : Nat} {seen : List Nat}
variable {value : LogValue} {output : LogOutput}

def EntryRedacts (redacts : LogValue → Except LogError LogOutput) (entry : LogText × LogValue)
    (field : LogText × LogOutput) : Prop :=
  field.1 = entry.1 ∧ (isSensitiveKey entry.1 = true → field.2 = .text redactedLogValue) ∧
    (isSensitiveKey entry.1 = false → redacts entry.2 = .ok field.2)

def ObjectRedacts (redacts : LogValue → Except LogError LogOutput) (maxArrayLength : Nat)
    (output : LogOutput) : LogObject → Prop
  | .array items => ∃ first, List.Forall₂ (fun item result => redacts item = .ok result)
        (items.take maxArrayLength) first ∧
      output = .array (if maxArrayLength < items.length then first ++ [.text truncatedLogValue]
        else first)
  | .record entries => ∃ fields, List.Forall₂ (EntryRedacts redacts) entries fields ∧
      output = .record (fields.filter (·.1 ≠ protoKey))

theorem object_of_redactValue {reference : Nat}
    (redacts : redactValue heap options (depth + 1) seen (.object reference) = .ok output) :
    (reference ∈ seen ∧ output = .text circularLogValue) ∨
      (reference ∉ seen ∧ ObjectRedacts (redactValue heap options depth (reference :: seen))
        options.maxArrayLength output (heap reference)) := by
  rw [redactValue] at redacts
  split_ifs at redacts with mem
  · exact Or.inl ⟨mem, (ok.inj redacts).symm⟩
  · refine Or.inr ⟨mem, ?_⟩
    split at redacts
    · next items isArray =>
      obtain ⟨first, mapped, returned⟩ := bind_eq_ok_iff.mp redacts
      rw [isArray]
      exact ⟨first, mapM_eq_ok_iff.mp mapped, (ok.inj returned).symm⟩
    · next entries isRecord =>
      obtain ⟨fields, mapped, returned⟩ := bind_eq_ok_iff.mp redacts
      rw [isRecord]
      refine ⟨fields, ?_, (ok.inj returned).symm⟩
      apply (mapM_eq_ok_iff.mp mapped).imp
      intro entry field entryRedacts
      split_ifs at entryRedacts with sensitive
      · obtain rfl := ok.inj entryRedacts
        exact ⟨rfl, fun _ => rfl, fun notSensitive => by simp [sensitive] at notSensitive⟩
      · obtain ⟨value, valueRedacts, valueReturned⟩ := bind_eq_ok_iff.mp entryRedacts
        obtain rfl := ok.inj valueReturned
        exact ⟨rfl, fun isSensitive => absurd isSensitive sensitive, fun _ => valueRedacts⟩

theorem isUndefined_of_redactValue
    (redacts : redactValue heap options depth seen value = .ok output) :
    output.isUndefined = true ↔ value = .undefined := by
  cases value with
  | object reference =>
    cases depth with
    | zero =>
      cases redacts
      simp [LogOutput.isUndefined]
    | succ depth =>
      rcases object_of_redactValue redacts with ⟨-, rfl⟩ | ⟨-, objectRedacts⟩
      · simp [LogOutput.isUndefined]
      · cases isObject : heap reference with
        | array items =>
          rw [isObject] at objectRedacts
          obtain ⟨first, -, rfl⟩ := objectRedacts
          simp [LogOutput.isUndefined]
        | record entries =>
          rw [isObject] at objectRedacts
          obtain ⟨fields, -, rfl⟩ := objectRedacts
          simp [LogOutput.isUndefined]
  | date iso =>
    simp only [redactValue, require_eq_ok, Option.map_eq_some_iff] at redacts
    obtain ⟨text, -, rfl⟩ := redacts
    simp [LogOutput.isUndefined]
  | _ =>
    simp only [redactValue, ok.injEq] at redacts
    subst redacts
    simp [LogOutput.isUndefined, errorRecord]

theorem texts_errorRecord (redactable : Redactable options.sensitiveValues)
    (name message : LogText) (code : ErrorCode) :
    (∀ text ∈ (errorRecord options name message code).texts, Safe options.sensitiveValues text) ↔
      Safe options.sensitiveValues name ∧ CodeClean options.sensitiveValues code := by
  have safeMessage := safe_redactLogText redactable message options.maxStringLength
  have nameKey : Safe options.sensitiveValues (units "name") :=
    safe_of_short redactable (by decide)
  have messageKey : Safe options.sensitiveValues (units "message") :=
    safe_of_short redactable (by decide)
  have codeKey : Safe options.sensitiveValues (units "code") :=
    safe_of_short redactable (by decide)
  cases code with
  | text content =>
    simp [errorRecord, codeFields, LogOutput.texts, fieldTexts, LogOutput.isUndefined, CodeClean,
      RedactionOptions.redact, safeMessage, nameKey, messageKey, codeKey]
  | number literal =>
    simp [errorRecord, codeFields, LogOutput.texts, fieldTexts, LogOutput.isUndefined, CodeClean,
      RedactionOptions.redact, safeMessage, nameKey, messageKey, codeKey]
  | other =>
    simp [errorRecord, codeFields, LogOutput.texts, fieldTexts, LogOutput.isUndefined, CodeClean,
      RedactionOptions.redact, safeMessage, nameKey, messageKey]

theorem texts_fields {secrets : List LogText} (redactable : Redactable secrets)
    {redacts : LogValue → Except LogError LogOutput} {clean : LogValue → Prop}
    (undefined : ∀ value output, redacts value = .ok output →
      (output.isUndefined = true ↔ value = .undefined))
    (agree : ∀ value output, redacts value = .ok output →
      ((∀ text ∈ output.texts, Safe secrets text) ↔ clean value))
    {entries : List (LogText × LogValue)} {fields : List (LogText × LogOutput)}
    (paired : List.Forall₂ (EntryRedacts redacts) entries fields) (kept : LogText → Bool) :
    (∀ text ∈ fieldTexts (fields.filter fun field => kept field.1), Safe secrets text) ↔
      ∀ entry ∈ entries, kept entry.1 = true →
        (isSensitiveKey entry.1 = true → Safe secrets entry.1) ∧
          (isSensitiveKey entry.1 = false → entry.2 ≠ .undefined →
            Safe secrets entry.1 ∧ clean entry.2) := by
  have safeMarker : Safe secrets redactedLogValue :=
    safe_marker redactable (by simp [redactionMarkers])
  rw [forall_fieldTexts]
  simp only [mem_filter, and_imp]
  apply Iff.symm
  apply forall_iff_of_forall₂ paired
  rintro entry field ⟨sameKey, sensitive, plain⟩
  rw [sameKey]
  apply imp_congr_right
  intro _
  cases isSensitive : isSensitiveKey entry.1 with
  | true =>
    rw [sensitive isSensitive]
    simp [LogOutput.isUndefined, LogOutput.texts, safeMarker]
  | false =>
    have valueRedacts := plain isSensitive
    have missing := undefined _ _ valueRedacts
    have texts := agree _ _ valueRedacts
    have present : field.2.isUndefined = false ↔ entry.2 ≠ .undefined := by
      rw [← Bool.not_eq_true, missing]
    rw [texts, present]
    simp

theorem texts_redactPlain (redactable : Redactable options.sensitiveValues)
    (isPlain : ∀ reference, value ≠ .object reference)
    (redacts : redactValue heap options depth seen value = .ok output) :
    (∀ text ∈ output.texts, Safe options.sensitiveValues text) ↔
      ValueClean heap options.maxArrayLength options.sensitiveValues depth seen value := by
  cases value with
  | object reference => exact absurd rfl (isPlain reference)
  | text content =>
    simp only [redactValue, ok.injEq] at redacts
    subst redacts
    simp [LogOutput.texts, ValueClean, RedactionOptions.redact,
      safe_redactLogText redactable content options.maxStringLength]
  | error name message code =>
    simp only [redactValue, ok.injEq] at redacts
    subst redacts
    rw [texts_errorRecord redactable]
    simp [ValueClean]
  | date iso =>
    simp only [redactValue, require_eq_ok, Option.map_eq_some_iff] at redacts
    obtain ⟨text, rfl, rfl⟩ := redacts
    simp [LogOutput.texts, ValueClean]
  | _ =>
    simp only [redactValue, ok.injEq] at redacts
    subst redacts
    simp [LogOutput.texts, ValueClean]

theorem texts_redactValue (redactable : Redactable options.sensitiveValues)
    (redacts : redactValue heap options depth seen value = .ok output) :
    (∀ text ∈ output.texts, Safe options.sensitiveValues text) ↔
      ValueClean heap options.maxArrayLength options.sensitiveValues depth seen value := by
  have safeTruncated : Safe options.sensitiveValues truncatedLogValue :=
    safe_marker redactable (by simp [redactionMarkers])
  have safeCircular : Safe options.sensitiveValues circularLogValue :=
    safe_marker redactable (by simp [redactionMarkers])
  induction depth generalizing seen value output with
  | zero =>
    cases value with
    | object reference =>
      cases redacts
      simpa [LogOutput.texts, ValueClean] using safeTruncated
    | _ => exact texts_redactPlain redactable (by simp) redacts
  | succ depth ih =>
    cases value with
    | object reference =>
      rcases object_of_redactValue redacts with ⟨mem, rfl⟩ | ⟨notMember, objectRedacts⟩
      · simp [LogOutput.texts, ValueClean, safeCircular, mem]
      · rw [ValueClean]
        simp only [notMember, not_false_eq_true, true_imp_iff]
        cases isObject : heap reference with
        | array items =>
          rw [isObject] at objectRedacts
          obtain ⟨first, paired, rfl⟩ := objectRedacts
          have each := forall_iff_of_forall₂ paired fun _ _ redacts => (ih redacts).symm
          dsimp only
          rw [each, LogOutput.texts, forall_itemTexts]
          split_ifs
          · simp [LogOutput.texts, safeTruncated, or_imp, forall_and]
          · rfl
        | record entries =>
          rw [isObject] at objectRedacts
          obtain ⟨fields, paired, rfl⟩ := objectRedacts
          have each := texts_fields redactable (fun _ _ redacts =>
            isUndefined_of_redactValue redacts) (fun _ _ redacts => ih redacts) paired
            (· ≠ protoKey)
          simpa [LogOutput.texts, EntryClean] using each
    | _ => exact texts_redactPlain redactable (by simp) redacts

end Values

def FieldsClean (heap : LogHeap) (secrets : List LogText) : Option Nat → Prop
  | none => True
  | some reference =>
    match heap reference with
    | .array items => ∀ item ∈ items.take 50, ValueClean heap 50 secrets 7 [reference] item
    | .record entries => ∀ entry ∈ entries, entry.1 ∉ reservedLogKeys →
        EntryClean secrets (ValueClean heap 50 secrets 7 [reference]) entry

section Records

variable {heap : LogHeap} {secrets : List LogText}

theorem short_index {place : Nat} (small : place < 52) :
    (units (toString place)).length < 8 ∧ units (toString place) ∉ reservedLogKeys := by
  have each : ∀ place < 52,
      (units (toString place)).length < 8 ∧ units (toString place) ∉ reservedLogKeys := by
    decide +kernel
  exact each place small

variable {output : LogOutput} {depth : Nat} {seen : List Nat}

theorem texts_spread_record {entries : List (LogText × LogValue)} (redactable : Redactable secrets)
    (redacts : ObjectRedacts (redactValue heap (.default secrets) depth seen) 50 output
      (.record entries)) :
    (∀ text ∈ fieldTexts (output.spread.filter (·.1 ∉ reservedLogKeys)), Safe secrets text) ↔
      ∀ entry ∈ entries, entry.1 ∉ reservedLogKeys →
        EntryClean secrets (ValueClean heap 50 secrets depth seen) entry := by
  obtain ⟨fields, paired, rfl⟩ := redacts
  have each := texts_fields redactable (fun _ _ redacts => isUndefined_of_redactValue redacts)
    (fun _ _ redacts => texts_redactValue redactable redacts) paired
    (fun key => key ∉ reservedLogKeys ∧ key ≠ protoKey)
  simpa [LogOutput.spread, filter_filter, EntryClean, RedactionOptions.default] using each

theorem texts_of_isUndefined (missing : output.isUndefined = true) : output.texts = [] := by
  cases output with
  | undefined => rfl
  | _ => cases missing

theorem texts_spread_items (redactable : Redactable secrets) {items : List LogOutput}
    (few : items.length < 52) :
    (∀ text ∈ fieldTexts ((LogOutput.array items).spread.filter (·.1 ∉ reservedLogKeys)),
      Safe secrets text) ↔ ∀ item ∈ items, ∀ text ∈ item.texts, Safe secrets text := by
  have spread (item : LogOutput) (place : Nat) (found : items[place]? = some item) :
      place < 52 := by
    have within := (List.getElem?_eq_some_iff.mp found).1
    omega
  rw [forall_fieldTexts]
  constructor
  · intro each item mem text inTexts
    obtain ⟨place, found⟩ := mem_iff_getElem?.mp mem
    have short := short_index (spread item place found)
    have isField : (units (toString place), item) ∈
        (LogOutput.array items).spread.filter (·.1 ∉ reservedLogKeys) := by
      apply mem_filter.mpr
      refine ⟨mem_map.mpr ⟨(item, place), ?_, rfl⟩, by simpa using short.2⟩
      exact mem_zipIdx_iff_getElem?.mpr found
    apply (each _ isField ?_).2 text inTexts
    rw [← Bool.not_eq_true]
    intro missing
    rw [texts_of_isUndefined missing] at inTexts
    cases inTexts
  · rintro each field isField -
    obtain ⟨inSpread, -⟩ := mem_filter.mp isField
    obtain ⟨⟨item, place⟩, inItems, rfl⟩ := mem_map.mp inSpread
    have found : items[place]? = some item := mem_zipIdx_iff_getElem?.mp inItems
    have short := short_index (spread item place found)
    exact ⟨safe_of_short redactable short.1, each item (mem_of_getElem? found)⟩

theorem texts_spread_array {items : List LogValue} (redactable : Redactable secrets)
    (redacts : ObjectRedacts (redactValue heap (.default secrets) depth seen) 50 output
      (.array items)) :
    (∀ text ∈ fieldTexts (output.spread.filter (·.1 ∉ reservedLogKeys)), Safe secrets text) ↔
      ∀ item ∈ items.take 50, ValueClean heap 50 secrets depth seen item := by
  obtain ⟨first, paired, rfl⟩ := redacts
  have safeTruncated : Safe secrets truncatedLogValue :=
    safe_marker redactable (by simp [redactionMarkers])
  have few := paired.length_eq
  rw [length_take] at few
  have each := forall_iff_of_forall₂ paired fun _ _ redacts =>
    (texts_redactValue redactable redacts).symm
  rw [texts_spread_items redactable]
  · apply Iff.trans ?_ each.symm
    split_ifs
    · simp [LogOutput.texts, safeTruncated, or_imp, forall_and, RedactionOptions.default]
    · rfl
  · split_ifs
    · simp only [length_append, length_singleton]
      omega
    · omega

/-- A record contains no secret exactly when its fields are clean. -/
theorem log_free_of_secrets_iff (heap : LogHeap) (component now : LogText) (secrets : List LogText)
    (level event : LogText) (fields : Option Nat) (line : LogLine) (redactable : Redactable secrets)
    (logs : log heap component now secrets level event fields = .ok line) :
    (∀ text ∈ line.texts, ∀ secret ∈ secrets, ¬ secret <:+: text) ↔
      FieldsClean heap secrets fields := by
  obtain ⟨safeFields, redacts, returned⟩ := bind_eq_ok_iff.mp logs
  obtain rfl := ok.inj returned
  have safeEvent := safe_redactLogText redactable event 256
  have onlyFields : (∀ text ∈ redactLogText event 256 secrets ::
      fieldTexts (safeFields.spread.filter (·.1 ∉ reservedLogKeys)), Safe secrets text) ↔
      ∀ text ∈ fieldTexts (safeFields.spread.filter (·.1 ∉ reservedLogKeys)),
        Safe secrets text := by
    rw [forall_mem_cons]
    exact and_iff_right safeEvent
  apply onlyFields.trans
  cases fields with
  | none =>
    obtain rfl := ok.inj redacts
    simp [LogOutput.spread, fieldTexts, FieldsClean]
  | some reference =>
    have redacts : redactValue heap (.default secrets) (7 + 1) [] (.object reference) =
        .ok safeFields := redacts
    rcases object_of_redactValue redacts with ⟨mem, -⟩ | ⟨-, objectRedacts⟩
    · cases mem
    · rw [FieldsClean]
      cases isObject : heap reference with
      | array items =>
        rw [isObject] at objectRedacts
        exact texts_spread_array redactable objectRedacts
      | record entries =>
        rw [isObject] at objectRedacts
        exact texts_spread_record redactable objectRedacts

end Records

def oneEntry (key value : String) : LogHeap := fun _ =>
  .record [(units key, .text (units value))]

def password : LogText := units "hunter2hunter2"

theorem redactable_password : Redactable [password] := by
  decide +kernel

theorem log_prints_secret_key : ∃ line, Redactable [password] ∧
      log (oneEntry "hunter2hunter2" "on") (units "test") (units "now") [password] (units "info")
        (units "event") (some 0) = .ok line ∧
      ∃ text ∈ line.texts, ∃ secret ∈ [password], secret <:+: text := by
  refine ⟨_, redactable_password, rfl, password, ?_, password, mem_singleton_self _, infix_rfl⟩
  decide +kernel

theorem log_replaces_secret_value :
    ∃ line, log (oneEntry "note" "is hunter2hunter2") (units "test") (units "now") [password]
        (units "info") (units "hunter2hunter2") (some 0) = .ok line ∧
      ∀ text ∈ line.texts, ∀ secret ∈ [password], ¬ secret <:+: text := by
  refine ⟨_, rfl, ?_⟩
  apply (log_free_of_secrets_iff (oneEntry "note" "is hunter2hunter2") (units "test")
    (units "now") [password] (units "info") (units "hunter2hunter2") (some 0) _
    redactable_password rfl).mpr
  intro entry mem _
  obtain rfl := mem_singleton.mp mem
  intro _
  have safeKey : Safe [password] (units "note") := by
    decide +kernel
  exact ⟨fun _ => safeKey, fun _ _ => ⟨safeKey, trivial⟩⟩

end LogRedaction

end LongHub
