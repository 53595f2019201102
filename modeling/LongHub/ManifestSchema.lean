import LongHub.ManagerManifest

/-!
# The schema of the publisher

The publisher validates a manifest in TypeScript before it signs it.
-/

namespace LongHub

open IsoInstant List Option

namespace ManagerUpdate

open ClientUpdate (ClientUpdateManifest ClientUpdateRollout UpdateChannel RolloutStatus
  RollbackDataStrategy clientVersion manifestJson)

def skipDecimals : List Char → List Char
  | '.' :: digit :: rest =>
    if digit.isDigit then rest.dropWhile Char.isDigit else '.' :: digit :: rest
  | rest => rest

def zodSeconds (secondsOptional : Bool) : List Char → Option (List Char)
  | ':' :: rest => (readSixty rest).map skipDecimals
  | rest => if secondsOptional then some rest else none

def zodZone : List Char → Bool
  | ['Z'] => true
  | [sign, hour, hours, minute, minutes] =>
    (sign = '+' || sign = '-') && hour.isDigit && hours.isDigit && minute.isDigit && minutes.isDigit
  | [sign, hour, hours, mark, minute, minutes] =>
    (sign = '+' || sign = '-') && hour.isDigit && hours.isDigit && mark = ':' &&
      minute.isDigit && minutes.isDigit
  | _ => false

def zodDatetime (secondsOptional : Bool) (text : String) : Bool :=
  isSome do
    let rest ← readDate text.toList
    let (hour, rest) ← readDigits 2 (← readMark 'T' rest)
    if 24 ≤ hour then none
    let rest ← readSixty (← readMark ':' rest)
    let rest ← zodSeconds secondsOptional rest
    if zodZone rest then some () else none

/-- A beginning, three groups of digits and `.exe`. -/
def installerPattern (beginning text : String) : Bool :=
  let rest := text.toList.drop beginning.toList.length
  beginning.toList.isPrefixOf text.toList && ".exe".toList.isSuffixOf rest &&
    ClientUpdate.isVersionText (String.ofList (rest.take (rest.length - 4)))

def statusOf (text : String) : Option RolloutStatus :=
  if text = "active" then some .active else if text = "paused" then some .paused else none

def strategyOf (text : String) : Option RollbackDataStrategy :=
  if text = "snapshot_required" then some .snapshotRequired
  else if text = "backward_compatible" then some .backwardCompatible
  else none

def clientUpdateRolloutSchema (secondsOptional : Bool) (rollout : Rollout) :
    Option ClientUpdateRollout := do
  let status ← statusOf rollout.status
  if 0 ≤ rollout.basisPoints ∧ rollout.basisPoints ≤ 10000 ∧ hexDigestPattern rollout.seed ∧
      zodDatetime secondsOptional rollout.updatedAt ∧
      ¬ (status = .active ∧ rollout.basisPoints = 0) then
    some ⟨status, rollout.basisPoints.toNat, rollout.seed, rollout.updatedAt⟩
  else none

def clientUpdateManifestSchema (secondsOptional : Bool) (manifest : Manifest) :
    Option ClientUpdateManifest := do
  let channel ← ClientUpdate.channelOf manifest.channel
  let strategy ← strategyOf manifest.rollbackDataStrategy
  let rollout ← clientUpdateRolloutSchema secondsOptional manifest.rollout
  if manifest.schemaVersion = schemaVersion ∧ manifest.productSurface = productSurface ∧
      0 < manifest.sequence ∧ manifest.sequence ≤ maxSafeInteger ∧
      versionPattern manifest.version ∧ manifest.platform = "win32" ∧ manifest.arch = "x64" ∧
      installerPattern "LongHub-Manager-Setup-" manifest.filename ∧ 0 < manifest.size ∧
      manifest.size ≤ maxInstallerBytes ∧ hexDigestPattern manifest.sha256 ∧
      installerPattern "/downloads/LongHub-Manager-Setup-" manifest.urlPath ∧
      zodDatetime secondsOptional manifest.publishedAt ∧
      manifest.filename = "LongHub-Manager-Setup-" ++ manifest.version ++ ".exe" ∧
      manifest.urlPath = "/downloads/" ++ manifest.filename then
    some ⟨manifest.sequence.toNat, manifest.version, channel, manifest.filename,
      manifest.size.toNat, manifest.sha256, manifest.urlPath, manifest.publishedAt, strategy,
      rollout⟩
  else none

def clientUpdateSignaturePayload (manifest : ClientUpdateManifest) : List Char :=
  signatureDomain.toList ++ JsonValue.canonicalStringify (manifestJson manifest)

def compareDifferences : List Nat → List Nat → Int
  | left :: lefts, right :: rights =>
    let difference := (left : Int) - right
    if difference ≠ 0 then (if difference < 0 then -1 else 1)
    else compareDifferences lefts rights
  | _, _ => 0

def compareClientVersions (left right : String) : Option Int := do
  let leftParts ← clientVersion left
  let rightParts ← clientVersion right
  return compareDifferences leftParts rightParts

section Times

variable {text rest : List Char}

variable {value : Nat} {mark char : Char} {secondsOptional : Bool}

theorem readDigits_rest {width : Nat}
    (read : readDigits width text = some (value, rest)) : rest = text.drop width := by
  unfold readDigits at read
  split_ifs at read
  cases read
  rfl

theorem readMark_eq (read : readMark mark text = some rest) : text = mark :: rest := by
  cases text with
  | nil => cases read
  | cons char chars =>
    simp only [readMark] at read
    split_ifs at read with same
    cases read
    rw [same]

theorem readDate_rest (read : readDate text = some rest) : rest = text.drop 10 := by
  simp only [readDate, bind, bind_eq_some_iff, Prod.exists] at read
  obtain ⟨year, afterYear, isYear, atMonth, firstMark, month, afterMonth, isMonth, atDay,
    secondMark, day, afterDay, isDay, valid⟩ := read
  split_ifs at valid
  cases valid
  have years := readDigits_rest isYear
  have months := readDigits_rest isMonth
  have days := readDigits_rest isDay
  rw [readMark_eq firstMark] at years
  rw [readMark_eq secondMark] at months
  have atMonths : atMonth = text.drop 5 := by
    have dropped := congrArg (drop 1) years
    rw [drop_drop] at dropped
    exact dropped
  have atDays : atDay = text.drop 8 := by
    have dropped := congrArg (drop 1) months
    rw [atMonths, drop_drop, drop_drop] at dropped
    exact dropped
  rw [days, atDays, drop_drop]

theorem readHour_of_readDigits (read : readDigits 2 text = some (value, rest)) :
    readHour text = some (value, rest) := by
  unfold readDigits at read
  split_ifs at read with digits
  obtain ⟨length, each⟩ := digits
  cases read
  match text, length, each with
  | first :: second :: rest, _, each =>
    simp only [take_succ_cons, take_zero, all_cons, all_nil, Bool.and_true,
      Bool.and_eq_true] at each
    simp [readHour, each.1, each.2]

theorem readSixty_rest (read : readSixty text = some rest) : rest = text.drop 2 := by
  unfold readSixty at read
  split at read
  · next value after isDigits =>
    split_ifs at read
    cases read
    exact readDigits_rest isDigits
  · cases read

theorem skipDecimals_suffix (text : List Char) : skipDecimals text <:+ text := by
  unfold skipDecimals
  split
  · next digit rest =>
    split
    · exact (dropWhile_suffix _).trans ((suffix_cons digit rest).trans (suffix_cons '.' _))
    · exact suffix_refl _
  · exact suffix_refl _

theorem head_of_zodZone (zone : zodZone (mark :: rest) = true) :
    mark = 'Z' ∨ mark = '+' ∨ mark = '-' := by
  unfold zodZone at zone
  split at zone <;> grind

theorem skipFraction_of_zodZone (zone : zodZone (skipDecimals text) = true) :
    skipFraction text = skipDecimals text := by
  match text with
  | [] => rfl
  | [single] =>
    rw [skipFraction, skipDecimals]
    · intro digit rest same
      cases same
    · intro mark digit rest same
      cases same
  | mark :: digit :: rest =>
    by_cases period : mark = '.'
    · subst period
      simp [skipFraction, skipDecimals]
    · have kept : skipDecimals (mark :: digit :: rest) = mark :: digit :: rest := by
        rw [skipDecimals]
        intro other others same
        exact period (cons.inj same).1
      rw [kept] at zone ⊢
      have noComma : mark ≠ ',' := by
        rintro rfl
        rcases head_of_zodZone zone with isZ | isPlus | isMinus
        · exact absurd isZ (by decide)
        · exact absurd isPlus (by decide)
        · exact absurd isMinus (by decide)
      simp [skipFraction, period, noComma]

def hasReadableZone (text : List Char) : Bool :=
  match text.reverse with
  | 'Z' :: _ => true
  | minutes :: minute :: mark :: hours :: hour :: _ =>
    mark = ':' && isTwoDigits 24 hour hours && isTwoDigits 60 minute minutes
  | _ => false

/-- A time with seconds whose zone is Z or an offset with a colon, of at most 24 hours and 60
minutes. -/
def readableTime (text : String) : Bool :=
  (text.toList.drop 16).head? = some ':' && hasReadableZone text.toList

theorem ne_Z_of_isDigit (digit : char.isDigit = true) : char ≠ 'Z' := by
  rintro rfl
  exact absurd digit (by decide)

theorem ne_colon_of_isDigit (digit : char.isDigit = true) : char ≠ ':' := by
  rintro rfl
  exact absurd digit (by decide)

theorem hasReadableZone_of_zodZone {zone : List Char} (valid : zodZone zone = true)
    (suffix : zone <:+ text) : hasReadableZone text = isZone zone := by
  obtain ⟨before, rfl⟩ := suffix
  unfold zodZone at valid
  unfold hasReadableZone
  split at valid
  · simp [isZone]
  · next sign hour hours minute minutes =>
    simp only [Bool.and_eq_true] at valid
    have noZ := ne_Z_of_isDigit valid.2
    have noColon := ne_colon_of_isDigit valid.1.1.2
    simp [isZone, noColon]
  · next sign hour hours mark minute minutes =>
    simp only [Bool.and_eq_true] at valid
    have noZ := ne_Z_of_isDigit valid.2
    have isSign := valid.1.1.1.1.1
    simp [isZone, isSign, Bool.and_assoc]
  · cases valid

theorem zodDatetime_cases {text : String} (accepted : zodDatetime secondsOptional text = true) :
    ∃ afterDate atHour hour afterHour atMinute afterMinute afterSeconds,
      readDate text.toList = some afterDate ∧ readMark 'T' afterDate = some atHour ∧
      readDigits 2 atHour = some (hour, afterHour) ∧ ¬ 24 ≤ hour ∧
      readMark ':' afterHour = some atMinute ∧ readSixty atMinute = some afterMinute ∧
      zodSeconds secondsOptional afterMinute = some afterSeconds ∧ zodZone afterSeconds = true := by
  simp only [zodDatetime, bind, isSome_iff_exists, bind_eq_some_iff, Prod.exists] at accepted
  obtain ⟨done, afterDate, isDate, atHour, marked, hour, afterHour, isHour, accepted⟩ := accepted
  have early : ¬ 24 ≤ hour := by
    intro late
    rw [if_pos late] at accepted
    simp at accepted
  rw [if_neg early] at accepted
  simp only [bind_eq_some_iff] at accepted
  obtain ⟨atMinute, colon, afterMinute, isMinute, afterSeconds, isSeconds, ends⟩ := accepted
  refine ⟨afterDate, atHour, hour, afterHour, atMinute, afterMinute, afterSeconds, isDate, marked,
    isHour, early, colon, isMinute, isSeconds, ?_⟩
  by_contra noZone
  rw [if_neg noZone] at ends
  cases ends

theorem parsesTime_eq {text : String} (accepted : zodDatetime secondsOptional text = true) :
    parsesTime text = readableTime text := by
  obtain ⟨afterDate, atHour, hour, afterHour, atMinute, afterMinute, afterSeconds, isDate, marked,
    isHour, early, colon, isMinute, isSeconds, zone⟩ := zodDatetime_cases accepted
  have atSeconds : afterMinute = text.toList.drop 16 := by
    rw [readSixty_rest isMinute]
    have hours := readDigits_rest isHour
    rw [readMark_eq colon] at hours
    have minutes : atMinute = atHour.drop 3 := by
      have dropped := congrArg (drop 1) hours
      rwa [drop_drop] at dropped
    have date := readDate_rest isDate
    rw [readMark_eq marked] at date
    have dates : atHour = text.toList.drop 11 := by
      have dropped := congrArg (drop 1) date
      rwa [drop_drop] at dropped
    rw [minutes, dates, drop_drop, drop_drop]
  have parsed : parsesTime text = isSome (do
      let rest ← readSixty (← readMark ':' afterMinute)
      if isZone (skipFraction rest) then some () else none) := by
    simp only [parsesTime, isDate, marked, readHour_of_readDigits isHour, if_neg early, colon,
      isMinute, bind, bind_some]
  rw [parsed, readableTime, ← atSeconds]
  cases afterMinute with
  | nil => rfl
  | cons mark rest =>
    by_cases isColon : mark = ':'
    · subst isColon
      simp only [zodSeconds, map_eq_some_iff] at isSeconds
      obtain ⟨atFraction, seconds, rfl⟩ := isSeconds
      have suffix : skipDecimals atFraction <:+ text.toList := by
        have isRest := readSixty_rest seconds
        have inRest : atFraction <:+ rest := isRest ▸ drop_suffix 2 rest
        have inText : ':' :: rest <:+ text.toList := atSeconds ▸ drop_suffix 16 _
        exact (skipDecimals_suffix atFraction).trans
          (inRest.trans ((suffix_cons ':' rest).trans inText))
      rw [hasReadableZone_of_zodZone zone suffix]
      simp only [readMark, if_true, seconds, bind, bind_some,
        skipFraction_of_zodZone zone, head?_cons, decide_true, Bool.true_and]
      cases isZone (skipDecimals atFraction) <;> rfl
    · simp [readMark, isColon]

end Times

section Accepted

variable {secondsOptional : Bool} {manifest : Manifest} {parsed : ClientUpdateManifest}
variable {rollout : Rollout} {parsedRollout : ClientUpdateRollout}

def statusText : RolloutStatus → String
  | .active => "active"
  | .paused => "paused"

def strategyText : RollbackDataStrategy → String
  | .snapshotRequired => "snapshot_required"
  | .backwardCompatible => "backward_compatible"

variable {text : String}

theorem eq_of_statusOf {status : RolloutStatus} (isStatus : statusOf text = some status) :
    text = statusText status := by
  unfold statusOf at isStatus
  split_ifs at isStatus with active paused
  · cases isStatus
    exact active
  · cases isStatus
    exact paused

theorem eq_of_strategyOf {strategy : RollbackDataStrategy}
    (isStrategy : strategyOf text = some strategy) : text = strategyText strategy := by
  unfold strategyOf at isStrategy
  split_ifs at isStrategy with snapshot compatible
  · cases isStrategy
    exact snapshot
  · cases isStrategy
    exact compatible

theorem eq_of_channelOf {channel : UpdateChannel}
    (isChannel : ClientUpdate.channelOf text = some channel) : text = channel.text := by
  unfold ClientUpdate.channelOf at isChannel
  split_ifs at isChannel with stable beta
  · cases isChannel
    exact stable
  · cases isChannel
    exact beta

/-- What the schema says about a rollout and what it gives back. -/
structure AcceptedRollout (secondsOptional : Bool) (rollout : Rollout)
    (parsed : ClientUpdateRollout) : Prop where
  status : rollout.status = statusText parsed.status
  basisPoints : rollout.basisPoints = parsed.basisPoints
  most : parsed.basisPoints ≤ 10000
  some : ¬ (parsed.status = .active ∧ parsed.basisPoints = 0)
  seed : rollout.seed = parsed.seed
  seedValid : hexDigestPattern rollout.seed = true
  updatedAt : rollout.updatedAt = parsed.updatedAt
  updatedAtValid : zodDatetime secondsOptional rollout.updatedAt = true

theorem acceptedRollout_of_schema
    (accepted : clientUpdateRolloutSchema secondsOptional rollout = some parsedRollout) :
    AcceptedRollout secondsOptional rollout parsedRollout := by
  simp only [clientUpdateRolloutSchema, bind, bind_eq_some_iff] at accepted
  obtain ⟨status, isStatus, accepted⟩ := accepted
  split_ifs at accepted with valid
  obtain ⟨least, most, seedValid, updatedAtValid, present⟩ := valid
  cases accepted
  exact
    { status := eq_of_statusOf isStatus
      basisPoints := (Int.toNat_of_nonneg least).symm
      most := by simp only; omega
      some := by
        rintro ⟨active, none⟩
        exact present ⟨active, by simp only at none; omega⟩
      seed := rfl
      seedValid := seedValid
      updatedAt := rfl
      updatedAtValid := updatedAtValid }

structure AcceptedManifest (secondsOptional : Bool) (manifest : Manifest)
    (parsed : ClientUpdateManifest) : Prop where
  schema : manifest.schemaVersion = schemaVersion
  product : manifest.productSurface = productSurface
  platform : manifest.platform = "win32"
  arch : manifest.arch = "x64"
  sequence : manifest.sequence = parsed.sequence
  sequenceValid : 0 < manifest.sequence ∧ manifest.sequence ≤ maxSafeInteger
  version : manifest.version = parsed.version
  versionValid : versionPattern manifest.version = true
  channel : manifest.channel = parsed.channel.text
  filename : manifest.filename = parsed.filename
  filenameValid : manifest.filename = expectedFilename manifest
  size : manifest.size = parsed.size
  sizeValid : 0 < manifest.size ∧ manifest.size ≤ maxInstallerBytes
  sha256 : manifest.sha256 = parsed.sha256
  sha256Valid : hexDigestPattern manifest.sha256 = true
  urlPath : manifest.urlPath = parsed.urlPath
  urlPathValid : manifest.urlPath = "/downloads/" ++ expectedFilename manifest
  publishedAt : manifest.publishedAt = parsed.publishedAt
  publishedAtValid : zodDatetime secondsOptional manifest.publishedAt = true
  strategy : manifest.rollbackDataStrategy = strategyText parsed.rollbackDataStrategy
  rollout : AcceptedRollout secondsOptional manifest.rollout parsed.rollout

theorem acceptedManifest_of_schema
    (accepted : clientUpdateManifestSchema secondsOptional manifest = some parsed) :
    AcceptedManifest secondsOptional manifest parsed := by
  simp only [clientUpdateManifestSchema, bind, bind_eq_some_iff] at accepted
  obtain ⟨channel, isChannel, strategy, isStrategy, rollout, isRollout, accepted⟩ := accepted
  split_ifs at accepted with valid
  obtain ⟨schema, product, sequenceLeast, sequenceMost, versionValid, platform, arch, -, sizeLeast,
    sizeMost, sha256Valid, -, publishedAtValid, filename, urlPath⟩ := valid
  cases accepted
  exact
    { schema := schema
      product := product
      platform := platform
      arch := arch
      sequence := (Int.toNat_of_nonneg sequenceLeast.le).symm
      sequenceValid := ⟨sequenceLeast, sequenceMost⟩
      version := rfl
      versionValid := versionValid
      channel := eq_of_channelOf isChannel
      filename := rfl
      filenameValid := filename
      size := (Int.toNat_of_nonneg sizeLeast.le).symm
      sizeValid := ⟨sizeLeast, sizeMost⟩
      sha256 := rfl
      sha256Valid := sha256Valid
      urlPath := rfl
      urlPathValid := by rw [urlPath, filename]; rfl
      publishedAt := rfl
      publishedAtValid := publishedAtValid
      strategy := eq_of_strategyOf isStrategy
      rollout := acceptedRollout_of_schema isRollout }

theorem validateManifest_iff (accepted : AcceptedManifest secondsOptional manifest parsed) :
    validateManifest manifest = .ok () ↔
      readableTime manifest.publishedAt = true ∧
        readableTime manifest.rollout.updatedAt = true := by
  have published := parsesTime_eq accepted.publishedAtValid
  have updated := parsesTime_eq accepted.rollout.updatedAtValid
  have channel : (manifest.channel = "stable" || manifest.channel = "beta") = true := by
    rw [accepted.channel]
    cases parsed.channel <;> rfl
  have strategy : (manifest.rollbackDataStrategy = "snapshot_required" ||
      manifest.rollbackDataStrategy = "backward_compatible") = true := by
    rw [accepted.strategy]
    cases parsed.rollbackDataStrategy <;> rfl
  have status : (manifest.rollout.status = "active" || manifest.rollout.status = "paused") =
    true := by
    rw [accepted.rollout.status]
    cases parsed.rollout.status <;> rfl
  have points : (0 ≤ manifest.rollout.basisPoints && manifest.rollout.basisPoints ≤ 10000 &&
      !(manifest.rollout.status = "active" && manifest.rollout.basisPoints = 0) &&
      hexDigestPattern manifest.rollout.seed) = true := by
    have most : (parsed.rollout.basisPoints : Int) ≤ 10000 := by
      have := accepted.rollout.most
      omega
    rw [accepted.rollout.seedValid, accepted.rollout.basisPoints, accepted.rollout.status]
    cases isStatus : parsed.rollout.status with
    | active =>
      have present : parsed.rollout.basisPoints ≠ 0 :=
        fun none => accepted.rollout.some ⟨isStatus, none⟩
      simp [statusText, most, present]
    | paused => simp [statusText, most]
  simp only [validateManifest, Except.bind_eq_ok, Except.ensure_eq_ok, published,
    updated, channel, strategy, status, points, accepted.sequenceValid, accepted.versionValid,
    accepted.sizeValid, accepted.sha256Valid, accepted.filenameValid, accepted.urlPathValid]
  simp [accepted.schema, accepted.product, accepted.platform, accepted.arch]

end Accepted

end ManagerUpdate

end LongHub
