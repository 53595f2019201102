import LongHub.ManifestSchema
import Mathlib.Data.List.Pairwise

/-!
# The signed text of a manifest

Both languages sort the keys of the manifest and write its texts without escapes, because
all texts of an accepted manifest consist of characters of ASCII.
-/

namespace LongHub

open JsonValue List Utf8Decoder

namespace ManagerUpdate

open ClientUpdate (ClientUpdateManifest ClientUpdateRollout clientVersion versionPart
  manifestJson rolloutJson)

section Text

variable {fields target : List (String × JsonValue)}

theorem sortedByKey_eq (perm : target.Perm fields)
    (sorted : target.Pairwise fun first second => codeUnits first.1 < codeUnits second.1) :
    sortedByKey fields = target := by
  have distinct : (target.map Prod.fst).Nodup := by
    apply pairwise_map.mpr (sorted.imp _)
    intro first second less same
    exact absurd less (by simp [same])
  rw [← sortedByKey_congr perm distinct]
  exact (sorted.imp fun less => less.le).insertionSort_eq

/-- A text without separators of lines and paragraphs. -/
def Plain (text : List Char) : Prop := ∀ char ∈ text, char.toNat < 128

theorem encodeText_eq {text : String} (plain : Plain text.toList) :
    encodeText text = (JsonText.quote text).toList := by
  have same : text.toList.flatMap escapeChar = text.toList.flatMap JsonText.escape := by
    rw [flatMap_def, flatMap_def]
    congr 1
    apply map_congr_left
    intro char mem
    have small := plain char mem
    rw [escapeChar, if_neg (by omega), if_neg (by omega)]
  rw [JsonText.toList_quote, encodeText, same]
  rfl

theorem encodeText_eq_print {text : String} (plain : Plain text.toList) :
    encodeText text = print (.text text) := by
  rw [encodeText_eq plain, print]

theorem encodeMap_eq_print (sorted : (fields.map Prod.fst).Pairwise fun first second =>
      encode first.toList ≤ encode second.toList)
    (plain : ∀ field ∈ fields, Plain field.1.toList) :
    encodeMap (fields.map fun field => (field.1, print field.2)) = print (.record fields) := by
  have kept : (fields.map fun field => (field.1, print field.2)).insertionSort (fun first second =>
        encode first.1.toList ≤ encode second.1.toList) =
      fields.map fun field => (field.1, print field.2) := by
    apply List.Pairwise.insertionSort_eq
    rw [pairwise_map] at sorted ⊢
    exact sorted
  have texts : printFields fields =
      fields.map fun field => encodeText field.1 ++ ':' :: print field.2 := by
    rw [printFields_eq]
    apply map_congr_left
    intro field mem
    rw [encodeText_eq (plain field mem), nil_append, nil_append, JsonText.field]
  simp only [encodeMap, kept, print, texts, map_map, Function.comp_def]

end Text

def rolloutKeys : List String := ["basis_points", "seed", "status", "updated_at"]

def manifestKeys : List String :=
  ["arch", "channel", "filename", "platform", "product_surface", "published_at",
    "rollback_data_strategy", "rollout", "schema_version", "sequence", "sha256", "size",
    "url_path", "version"]

/-- Both languages compare such keys in the same way. -/
structure KeysAscend (keys : List String) : Prop where
  units : keys.Pairwise fun first second => codeUnits first < codeUnits second
  bytes : keys.Pairwise fun first second =>
    encode first.toList ≤ encode second.toList
  plain : (keys.all fun key => key.toList.all fun char => char.toNat < 128) = true
  names : (keys.all fun key => arrayIndex key = none) = true

theorem keysAscend_rolloutKeys : KeysAscend rolloutKeys where
  units := by decide
  bytes := by decide
  plain := by decide
  names := by decide

theorem keysAscend_manifestKeys : KeysAscend manifestKeys where
  units := by decide
  bytes := by decide
  plain := by decide
  names := by decide

section Keys

variable {keys : List String} {fields target : List (String × JsonValue)}

theorem KeysAscend.nodup (ascend : KeysAscend keys) : keys.Nodup :=
  ascend.units.imp fun less same => absurd (same ▸ less) (lt_irrefl _)

theorem canonicalStringify_record (ascend : KeysAscend keys)
    (sortedKeys : target.map Prod.fst = keys) (perm : target.Perm (sortKeysFields fields)) :
    sortKeys (.record fields) = .record target ∧ canonicalStringify (.record fields) =
        encodeMap (target.map fun field => (field.1, print field.2)) := by
  have units : target.Pairwise fun first second => codeUnits first.1 < codeUnits second.1 := by
    have sorted := ascend.units
    rwa [← sortedKeys, pairwise_map] at sorted
  have whole : sortKeys (.record fields) = .record target := by
    have names : ∀ field ∈ target, arrayIndex field.1 = none := by
      intro field mem
      have inKeys : field.1 ∈ keys := sortedKeys ▸ mem_map_of_mem mem
      simpa using all_eq_true.mp ascend.names _ inKeys
    rw [sortKeys, sortedByKey_eq perm units, objectOf_of_wellFormed
      (sortedKeys ▸ ascend.nodup) (pairwise_mayPrecede names)]
  refine ⟨whole, ?_⟩
  rw [canonicalStringify, whole, encodeMap_eq_print]
  · rw [sortedKeys]
    exact ascend.bytes
  · intro field mem char inside
    have inKeys : field.1 ∈ keys := sortedKeys ▸ mem_map_of_mem mem
    simpa using all_eq_true.mp (all_eq_true.mp ascend.plain _ inKeys) char inside

end Keys

/-- The fields of a rollout and of a manifest in ascending order of their keys. -/
def sortedRollout (rollout : ClientUpdateRollout) : List (String × JsonValue) :=
  [("basis_points", .number (toString (rollout.basisPoints : Int))), ("seed", .text rollout.seed),
    ("status", .text (statusText rollout.status)),
    ("updated_at", .text rollout.updatedAt)]

def sortedManifest (manifest : ClientUpdateManifest) : List (String × JsonValue) :=
  [("arch", .text "x64"), ("channel", .text manifest.channel.text),
    ("filename", .text manifest.filename), ("platform", .text "win32"),
    ("product_surface", .text "longhub-manager"), ("published_at", .text manifest.publishedAt),
    ("rollback_data_strategy", .text (strategyText manifest.rollbackDataStrategy)),
    ("rollout", .record (sortedRollout manifest.rollout)),
    ("schema_version", .text "longhub/client-update/v2"),
    ("sequence", .number (toString (manifest.sequence : Int))),
    ("sha256", .text manifest.sha256), ("size", .number (toString (manifest.size : Int))),
    ("url_path", .text manifest.urlPath), ("version", .text manifest.version)]

theorem sortKeys_rolloutJson (rollout : ClientUpdateRollout) :
    sortKeys (rolloutJson rollout) = .record (sortedRollout rollout) ∧
      canonicalStringify (rolloutJson rollout) =
        encodeMap ((sortedRollout rollout).map fun field => (field.1, print field.2)) := by
  have order : [1, 2, 0, 3].Perm (range 4) := by decide
  exact canonicalStringify_record keysAscend_rolloutKeys rfl
    (order.map fun index => (sortKeysFields [("status", .text (statusText rollout.status)),
      ("basis_points", .number (toString (rollout.basisPoints : Int))),
      ("seed", .text rollout.seed),
      ("updated_at", .text rollout.updatedAt)]).getD index ("", .null))

theorem canonicalStringify_manifestJson (manifest : ClientUpdateManifest) :
    canonicalStringify (manifestJson manifest) =
      encodeMap ((sortedManifest manifest).map fun field => (field.1, print field.2)) := by
  have order : [6, 4, 7, 5, 1, 11, 12, 13, 0, 2, 9, 8, 10, 3].Perm (range 14) := by decide
  have perm := order.map fun index => (sortKeysFields [
      ("schema_version", .text "longhub/client-update/v2"),
      ("product_surface", .text "longhub-manager"),
      ("sequence", .number (toString (manifest.sequence : Int))),
      ("version", .text manifest.version),
      ("channel", .text manifest.channel.text),
      ("platform", .text "win32"),
      ("arch", .text "x64"),
      ("filename", .text manifest.filename),
      ("size", .number (toString (manifest.size : Int))),
      ("sha256", .text manifest.sha256),
      ("url_path", .text manifest.urlPath),
      ("published_at", .text manifest.publishedAt),
      ("rollback_data_strategy", .text (strategyText manifest.rollbackDataStrategy)),
      ("rollout", rolloutJson manifest.rollout)]).getD index ("", .null)
  refine (canonicalStringify_record keysAscend_manifestKeys rfl ?_).2
  rw [sortedManifest, ← (sortKeys_rolloutJson manifest.rollout).1]
  exact perm

section Plain

variable {text rest : List Char}

theorem toNat_lt_of_isDigit {char : Char} (digit : char.isDigit = true) : char.toNat < 128 := by
  simp only [Char.isDigit, Bool.and_eq_true, decide_eq_true_eq, ge_iff_le,
    UInt32.le_iff_toNat_le] at digit
  have most : char.val.toNat ≤ 57 := digit.2
  have value : char.toNat = char.val.toNat := rfl
  omega

theorem plain_cons {char : Char} (small : char.toNat < 128) (plain : Plain rest) :
    Plain (char :: rest) := by
  intro other mem
  rcases mem_cons.mp mem with rfl | inside
  · exact small
  · exact plain other inside

theorem plain_append {front : List Char} (first : Plain front) (second : Plain rest) :
    Plain (front ++ rest) := by
  intro char mem
  rcases mem_append.mp mem with inFront | inRest
  · exact first char inFront
  · exact second char inRest

theorem plain_of_all (all : (text.all fun char => char.toNat < 128) = true) : Plain text := by
  intro char mem
  simpa using all_eq_true.mp all char mem

theorem plain_of_readDigits {width value : Nat}
    (read : IsoInstant.readDigits width text = some (value, rest)) (plain : Plain rest) :
    Plain text := by
  unfold IsoInstant.readDigits at read
  split_ifs at read with digits
  cases read
  rw [← take_append_drop width text]
  apply plain_append _ plain
  intro char mem
  exact toNat_lt_of_isDigit (all_eq_true.mp digits.2 char mem)

theorem plain_of_readDate (read : readDate text = some rest) (plain : Plain rest) : Plain text := by
  simp only [readDate, bind, Option.bind_eq_some_iff, Prod.exists] at read
  obtain ⟨year, afterYear, isYear, atMonth, firstMark, month, afterMonth, isMonth, atDay,
    secondMark, day, afterDay, isDay, valid⟩ := read
  split_ifs at valid
  cases valid
  apply plain_of_readDigits isYear
  rw [readMark_eq firstMark]
  apply plain_cons (by decide)
  apply plain_of_readDigits isMonth
  rw [readMark_eq secondMark]
  apply plain_cons (by decide)
  exact plain_of_readDigits isDay plain

theorem plain_of_readSixty (read : readSixty text = some rest) (plain : Plain rest) :
    Plain text := by
  unfold readSixty at read
  split at read
  · next value after isDigits =>
    split_ifs at read
    cases read
    exact plain_of_readDigits isDigits plain
  · cases read

theorem plain_of_skipDecimals (plain : Plain (skipDecimals text)) : Plain text := by
  unfold skipDecimals at plain
  split at plain
  · next digit rest =>
    split at plain
    · next isDigit =>
      apply plain_cons (by decide)
      apply plain_cons (toNat_lt_of_isDigit isDigit)
      rw [← takeWhile_append_dropWhile (p := Char.isDigit) (l := rest)]
      apply plain_append _ plain
      intro char mem
      exact toNat_lt_of_isDigit (mem_takeWhile_imp mem)
    · exact plain
  · exact plain

theorem plain_of_isSign {sign : Char} (isSign : (sign = '+' || sign = '-') = true) :
    sign.toNat < 128 := by
  simp only [Bool.or_eq_true, decide_eq_true_eq] at isSign
  rcases isSign with rfl | rfl <;> decide

theorem plain_of_zodZone (zone : zodZone text = true) : Plain text := by
  unfold zodZone at zone
  split at zone
  · exact plain_cons (by decide) nofun
  · next sign hour hours minute minutes =>
    simp only [Bool.and_eq_true] at zone
    obtain ⟨⟨⟨⟨isSign, hour⟩, hours⟩, minute⟩, minutes⟩ := zone
    exact plain_cons (plain_of_isSign isSign) (plain_cons (toNat_lt_of_isDigit hour)
      (plain_cons (toNat_lt_of_isDigit hours) (plain_cons (toNat_lt_of_isDigit minute)
        (plain_cons (toNat_lt_of_isDigit minutes) nofun))))
  · next sign hour hours mark minute minutes =>
    simp only [Bool.and_eq_true, decide_eq_true_eq] at zone
    obtain ⟨⟨⟨⟨⟨isSign, hour⟩, hours⟩, rfl⟩, minute⟩, minutes⟩ := zone
    exact plain_cons (plain_of_isSign isSign) (plain_cons (toNat_lt_of_isDigit hour)
      (plain_cons (toNat_lt_of_isDigit hours) (plain_cons (by decide)
        (plain_cons (toNat_lt_of_isDigit minute)
          (plain_cons (toNat_lt_of_isDigit minutes) nofun)))))
  · cases zone

theorem plain_of_zodSeconds {secondsOptional : Bool}
    (read : zodSeconds secondsOptional text = some rest) (plain : Plain rest) : Plain text := by
  unfold zodSeconds at read
  split at read
  · obtain ⟨atFraction, seconds, rfl⟩ := Option.map_eq_some_iff.mp read
    exact plain_cons (by decide) (plain_of_readSixty seconds (plain_of_skipDecimals plain))
  · split_ifs at read
    cases read
    exact plain

theorem plain_of_zodDatetime {secondsOptional : Bool} {text : String}
    (accepted : zodDatetime secondsOptional text = true) : Plain text.toList := by
  obtain ⟨afterDate, atHour, hour, afterHour, atMinute, afterMinute, afterSeconds, isDate, marked,
    isHour, -, colon, isMinute, isSeconds, zone⟩ := zodDatetime_cases accepted
  apply plain_of_readDate isDate
  rw [readMark_eq marked]
  apply plain_cons (by decide)
  apply plain_of_readDigits isHour
  rw [readMark_eq colon]
  apply plain_cons (by decide)
  exact plain_of_readSixty isMinute (plain_of_zodSeconds isSeconds (plain_of_zodZone zone))

theorem plain_of_hexDigestPattern {text : String} (digest : hexDigestPattern text = true) :
    Plain text.toList := by
  intro char mem
  simp only [hexDigestPattern, isSha256Hex, Bool.and_eq_true] at digest
  have isHex := all_eq_true.mp digest.2 char mem
  simp only [isLowerHexDigit, Bool.or_eq_true, Bool.and_eq_true, decide_eq_true_eq,
    Char.le_def, UInt32.le_iff_toNat_le] at isHex
  have value : char.toNat = char.val.toNat := rfl
  have nine : ('9' : Char).val.toNat = 57 := rfl
  have letter : ('f' : Char).val.toNat = 102 := rfl
  omega

theorem clientVersion_cases {text : String} {parts : List Nat}
    (isVersion : clientVersion text = some parts) : ∃ major minor patch : List Char,
      text.toList = major ++ '.' :: (minor ++ '.' :: patch) ∧
      (∀ part ∈ [major, minor, patch], part.all Char.isDigit = true ∧ part ≠ []) ∧
      parts = [major, minor, patch].map fun part => Nat.ofDigitChars 10 part 0 := by
  unfold clientVersion at isVersion
  split at isVersion
  · next major minor patch split =>
    have whole : ['.'].intercalate (text.toList.splitOn '.') = text.toList :=
      intercalate_splitOn '.'
    rw [split] at whole
    have versionParts (part : List Char) (value : Nat) (isPart : versionPart part = some value) :
        (part.all Char.isDigit = true ∧ part ≠ []) ∧ Nat.ofDigitChars 10 part 0 = value := by
      unfold versionPart at isPart
      split_ifs at isPart with valid
      exact ⟨⟨valid.1, valid.2.1⟩, Option.some.inj isPart⟩
    simp only [mapM_cons, mapM_nil, bind, Option.bind_eq_some_iff, pure,
      Option.some.injEq] at isVersion
    obtain ⟨first, isFirst, rest, ⟨second, isSecond, others, ⟨third, isThird, none, rfl, rfl⟩,
      rfl⟩, rfl⟩ := isVersion
    refine ⟨major, minor, patch, ?_, ?_, ?_⟩
    · simpa [intercalate] using whole.symm
    · simp only [forall_mem_cons]
      exact ⟨(versionParts _ _ isFirst).1, (versionParts _ _ isSecond).1,
        (versionParts _ _ isThird).1, nofun⟩
    · simp only [map_cons, map_nil, (versionParts _ _ isFirst).2,
        (versionParts _ _ isSecond).2, (versionParts _ _ isThird).2]
  · cases isVersion

theorem plain_of_versionPattern {text : String} (isVersion : versionPattern text = true) :
    Plain text.toList := by
  obtain ⟨parts, isParts⟩ := Option.isSome_iff_exists.mp isVersion
  obtain ⟨major, minor, patch, split, digits, -⟩ := clientVersion_cases isParts
  have each : ∀ part ∈ [major, minor, patch], Plain part := fun part mem char inside =>
    toNat_lt_of_isDigit (all_eq_true.mp (digits part mem).1 char inside)
  rw [split]
  exact plain_append (each _ (by simp)) (plain_cons (by decide)
    (plain_append (each _ (by simp)) (plain_cons (by decide) (each _ (by simp)))))

end Plain

end ManagerUpdate

end LongHub
