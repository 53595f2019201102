import LongHub.CanonicalDepth
import LongHub.ManifestText

/-!
# Publisher and Manager

What the publisher signs the Manager can read except for the zone of a time.  Versions and
rollouts always give the same answer in both languages.
-/

namespace LongHub

open ClientUpdate JsonValue List

namespace ManagerUpdate

open ClientUpdate (ClientUpdateManifest ClientUpdateRollout clientVersion)

section Agreement

variable {secondsOptional : Bool} {manifest : Manifest} {parsed : ClientUpdateManifest}

theorem plain_expectedFilename (accepted : AcceptedManifest secondsOptional manifest parsed) :
    Plain (expectedFilename manifest).toList := by
  have beginning : Plain "LongHub-Manager-Setup-".toList := plain_of_all (by decide)
  have version := plain_of_versionPattern accepted.versionValid
  have ending : Plain ".exe".toList := plain_of_all (by decide)
  have split : (expectedFilename manifest).toList =
      "LongHub-Manager-Setup-".toList ++ manifest.version.toList ++ ".exe".toList := by
    have name : expectedFilename manifest =
        "LongHub-Manager-Setup-" ++ manifest.version ++ ".exe" := rfl
    rw [name, String.toList_append, String.toList_append]
  rw [split]
  exact plain_append (plain_append beginning version) ending

theorem rolloutMap_eq {rollout : Rollout} {parsedRollout : ClientUpdateRollout}
    (accepted : AcceptedRollout secondsOptional rollout parsedRollout) : rolloutMap rollout =
      (sortedRollout parsedRollout).map fun field => (field.1, print field.2) := by
  have seed := encodeText_eq_print (plain_of_hexDigestPattern accepted.seedValid)
  have updatedAt := encodeText_eq_print (plain_of_zodDatetime accepted.updatedAtValid)
  have status : encodeText rollout.status = print (.text (statusText parsedRollout.status)) := by
    rw [accepted.status]
    cases parsedRollout.status with
    | active => exact encodeText_eq_print (plain_of_all (by decide))
    | paused => exact encodeText_eq_print (plain_of_all (by decide))
  rw [accepted.seed] at seed
  rw [accepted.updatedAt] at updatedAt
  simp only [rolloutMap, sortedRollout, map_cons, map_nil, accepted.seed,
    accepted.updatedAt, seed, updatedAt, status, accepted.basisPoints, encodeInt, print]

/-- Go writes the signed text of the publisher. -/
theorem manifestMap_eq (accepted : AcceptedManifest secondsOptional manifest parsed) :
    manifestMap manifest = (sortedManifest parsed).map fun field => (field.1, print field.2) := by
  have rollout : encodeMap (rolloutMap manifest.rollout) =
      print (.record (sortedRollout parsed.rollout)) := by
    obtain ⟨sorted, text⟩ := sortKeys_rolloutJson parsed.rollout
    rw [rolloutMap_eq accepted.rollout, ← text, canonicalStringify, sorted]
  have plainText {text : String} (all : (text.toList.all fun char => char.toNat < 128) = true) :
      encodeText text = print (.text text) := encodeText_eq_print (plain_of_all all)
  have channel : encodeText parsed.channel.text = print (.text parsed.channel.text) := by
    cases parsed.channel with
    | stable => exact plainText (by decide)
    | beta => exact plainText (by decide)
  have strategy : encodeText manifest.rollbackDataStrategy =
      print (.text (strategyText parsed.rollbackDataStrategy)) := by
    rw [accepted.strategy]
    cases parsed.rollbackDataStrategy with
    | snapshotRequired => exact plainText (by decide)
    | backwardCompatible => exact plainText (by decide)
  have filename : encodeText parsed.filename = print (.text parsed.filename) := by
    rw [← accepted.filename, accepted.filenameValid]
    exact encodeText_eq_print (plain_expectedFilename accepted)
  have urlPath : encodeText parsed.urlPath = print (.text parsed.urlPath) := by
    rw [← accepted.urlPath, accepted.urlPathValid]
    apply encodeText_eq_print
    have beginning : Plain "/downloads/".toList := plain_of_all (by decide)
    rw [String.toList_append]
    exact plain_append beginning (plain_expectedFilename accepted)
  have version := encodeText_eq_print (plain_of_versionPattern accepted.versionValid)
  have sha256 := encodeText_eq_print (plain_of_hexDigestPattern accepted.sha256Valid)
  have publishedAt := encodeText_eq_print (plain_of_zodDatetime accepted.publishedAtValid)
  rw [accepted.version] at version
  rw [accepted.sha256] at sha256
  rw [accepted.publishedAt] at publishedAt
  have arch : encodeText "x64" = print (.text "x64") := plainText (by decide)
  have platform : encodeText "win32" = print (.text "win32") :=
    plainText (by decide)
  have product : encodeText productSurface = print (.text "longhub-manager") :=
    plainText (by decide)
  have schema : encodeText schemaVersion = print (.text "longhub/client-update/v2") :=
    plainText (by decide)
  rewrite [manifestMap, rollout, strategy, accepted.arch, accepted.platform, accepted.product,
    accepted.schema, accepted.channel, accepted.filename, accepted.publishedAt, accepted.sequence,
    accepted.sha256, accepted.size, accepted.urlPath, accepted.version, arch, platform, product,
    schema, channel, filename, urlPath, version, sha256, publishedAt]
  simp only [sortedManifest, map_cons, map_nil, encodeInt, print]

theorem signaturePayload_iff (accepted : AcceptedManifest secondsOptional manifest parsed) :
    signaturePayload manifest = .ok (clientUpdateSignaturePayload parsed) ↔
      readableTime manifest.publishedAt = true ∧
        readableTime manifest.rollout.updatedAt = true := by
  rw [← validateManifest_iff accepted]
  have payload : signatureDomain.toList ++ encodeMap (manifestMap manifest) =
      clientUpdateSignaturePayload parsed := by
    rw [clientUpdateSignaturePayload, canonicalStringify_manifestJson, manifestMap_eq accepted]
  rw [signaturePayload, payload]
  cases validated : validateManifest manifest with
  | error problem => exact ⟨nofun, nofun⟩
  | ok done => exact ⟨fun _ => rfl, fun _ => rfl⟩

theorem scanDigits_append {part : List Char} (rest : List Char)
    (digits : part.all Char.isDigit = true)
    (present : part ≠ []) (ends : ∀ char ∈ rest.head?, char.isDigit = false) :
    scanDigits (part ++ rest) = some (Nat.ofDigitChars 10 part 0, rest) := by
  have each : ∀ char ∈ part, char.isDigit = true := all_eq_true.mp digits
  have taken : (part ++ rest).takeWhile Char.isDigit = part := by
    rw [takeWhile_append_of_pos each]
    cases rest with
    | nil => simp
    | cons char chars => simp [ends char rfl]
  have dropped : (part ++ rest).dropWhile Char.isDigit = rest := by
    rw [dropWhile_append_of_pos each]
    cases rest with
    | nil => rfl
    | cons char chars => simp [ends char rfl]
  rw [scanDigits, taken, dropped, if_neg present]

theorem scanVersion_eq {text : String} {parts : List Nat}
    (isVersion : clientVersion text = some parts) : scanVersion text = some parts := by
  obtain ⟨major, minor, patch, split, digits, rfl⟩ := clientVersion_cases isVersion
  simp only [forall_mem_cons] at digits
  obtain ⟨isMajor, isMinor, isPatch, -⟩ := digits
  have atEnd := scanDigits_append [] isPatch.1 isPatch.2 nofun
  rw [append_nil] at atEnd
  simp only [scanVersion, split, bind, pure,
    scanDigits_append ('.' :: (minor ++ '.' :: patch)) isMajor.1 isMajor.2 (by simp),
    scanDigits_append ('.' :: patch) isMinor.1 isMinor.2 (by simp), atEnd,
    Option.bind_some, IsoInstant.readMark, if_true, map_cons, map_nil]

theorem compareParts_eq (left right : List Nat) :
    compareParts left right = compareDifferences left right := by
  induction left generalizing right with
  | nil => rfl
  | cons one ones ih =>
    cases right with
    | nil => rfl
    | cons other others =>
      rw [compareParts, compareDifferences, ih]
      split_ifs <;> omega

/-- Both languages compare any two texts alike, and refuse the same. -/
theorem compareVersions_eq (left right : String) :
    (compareVersions left right).toOption = compareClientVersions left right := by
  unfold compareVersions compareClientVersions versionPattern
  cases isLeft : clientVersion left with
  | none => rfl
  | some leftParts =>
    cases isRight : clientVersion right with
    | none => rfl
    | some rightParts =>
      simp only [scanVersion_eq isLeft, scanVersion_eq isRight, ← compareParts_eq]
      rfl

/-- Both languages pick the same identities, and refuse the same. -/
theorem rolloutEligible_eq {rollout : Rollout} {parsedRollout : ClientUpdateRollout}
    (accepted : AcceptedRollout secondsOptional rollout parsedRollout) (node : NodePlatform)
    (identity : String) : (rolloutEligible node rollout identity).toOption =
      (isClientUpdateRolloutEligible node parsedRollout identity).toOption := by
  unfold rolloutEligible isClientUpdateRolloutEligible
  have pattern : identityPattern identity = rolloutIdentityPattern identity := rfl
  have bucket : rolloutBucket node rollout.seed identity =
      clientUpdateRolloutBucket node parsedRollout.seed identity := by
    rw [accepted.seed]
    rfl
  rw [accepted.seedValid, pattern, bucket, accepted.status, accepted.basisPoints]
  cases isStatus : parsedRollout.status with
  | paused =>
    rfl
  | active =>
    have present : parsedRollout.basisPoints ≠ 0 :=
      fun none => accepted.some ⟨isStatus, none⟩
    have positive : ¬ (parsedRollout.basisPoints : Int) ≤ 0 := by omega
    have whole : (parsedRollout.basisPoints : Int) = 10000 ↔ parsedRollout.basisPoints = 10000 := by
      omega
    simp only [statusText, ne_eq, not_true_eq_false, positive, or_false, if_false, reduceCtorEq,
      Bool.not_true, Bool.or_false, whole, Int.ofNat_lt]
    split_ifs <;> rfl

end Agreement

/-- For a manifest that the publisher signs, the Manager accepts it and builds the same signed
text exactly if both times have seconds and a zone that is Z or an offset with a colon, of at
most 24 hours and 60 minutes; versions and rollouts always give the same answer. -/
theorem publisher_and_manager_agree_iff (node : NodePlatform) (secondsOptional : Bool)
    (manifest : Manifest) (parsed : ClientUpdateManifest)
    (accepted : clientUpdateManifestSchema secondsOptional manifest = some parsed) :
    ((validateManifest manifest = .ok () ∧
        signaturePayload manifest = .ok (clientUpdateSignaturePayload parsed)) ↔
      readableTime manifest.publishedAt = true ∧ readableTime manifest.rollout.updatedAt = true) ∧
    (∀ left right, (compareVersions left right).toOption = compareClientVersions left right) ∧
    ∀ identity, (rolloutEligible node manifest.rollout identity).toOption =
      (isClientUpdateRolloutEligible node parsed.rollout identity).toOption := by
  have facts := acceptedManifest_of_schema accepted
  refine ⟨?_, compareVersions_eq, fun identity => rolloutEligible_eq facts.rollout node identity⟩
  constructor
  · rintro ⟨validated, -⟩
    exact (validateManifest_iff facts).mp validated
  · intro readable
    exact ⟨(validateManifest_iff facts).mpr readable, (signaturePayload_iff facts).mpr readable⟩

def exampleManifest (publishedAt : String) : Manifest where
  schemaVersion := "longhub/client-update/v2"
  productSurface := "longhub-manager"
  sequence := 2
  version := "0.2.0"
  channel := "stable"
  platform := "win32"
  arch := "x64"
  filename := "LongHub-Manager-Setup-0.2.0.exe"
  size := 6
  sha256 := String.ofList (replicate 64 'a')
  urlPath := "/downloads/LongHub-Manager-Setup-0.2.0.exe"
  publishedAt := publishedAt
  rollbackDataStrategy := "backward_compatible"
  rollout := ⟨"active", 10000, String.ofList (replicate 64 'b'), "2026-08-16T00:00:00Z"⟩

theorem not_agreed_on_offset_without_colon :
    ¬ ∀ manifest parsed, clientUpdateManifestSchema false manifest = some parsed →
      validateManifest manifest = .ok () ∧
        signaturePayload manifest = .ok (clientUpdateSignaturePayload parsed) := by
  intro always
  have signed : (clientUpdateManifestSchema false
      (exampleManifest "2026-08-16T08:00:00+0800")).isSome = true := by decide
  obtain ⟨parsed, accepted⟩ := Option.isSome_iff_exists.mp signed
  have readable := (validateManifest_iff (acceptedManifest_of_schema accepted)).mp
    (always _ parsed accepted).1
  exact absurd readable.1 (by decide)

/-- A manifest whose times end in Z. -/
theorem publisher_and_manager_agree_iff_example :
    ∃ parsed, clientUpdateManifestSchema false (exampleManifest "2026-08-16T00:00:00Z") =
        some parsed ∧ signaturePayload (exampleManifest "2026-08-16T00:00:00Z") =
        .ok (clientUpdateSignaturePayload parsed) := by
  have signed : (clientUpdateManifestSchema false
      (exampleManifest "2026-08-16T00:00:00Z")).isSome = true := by decide
  obtain ⟨parsed, accepted⟩ := Option.isSome_iff_exists.mp signed
  obtain ⟨agree, -⟩ := publisher_and_manager_agree_iff composingNode false _ parsed accepted
  exact ⟨parsed, accepted, (agree.mpr ⟨by decide, by decide⟩).2⟩

end ManagerUpdate

end LongHub
