import LongHub.ClientUpdateRecovery

/-!
# The update metadata of the Manager

The Manager is written in Go.  It validates the manifest of an update on its own, builds the
signed text on its own, and compares versions and picks the cohorts of a rollout on its own.
-/

namespace LongHub

open Except IsoInstant

namespace ManagerUpdate

inductive UpdateError where
  | metadataInvalid
  | signatureInvalid
  | unknownSigningKey
  | updateUnavailable
  | downloadInvalid
  | unsafeUpdatePath
  | alreadyPending
  | notExist
  | ioFailed
  deriving DecidableEq

structure Rollout where
  status : String
  basisPoints : Int
  seed : String
  updatedAt : String

structure Manifest where
  schemaVersion : String
  productSurface : String
  sequence : Int
  version : String
  channel : String
  platform : String
  arch : String
  filename : String
  size : Int
  sha256 : String
  urlPath : String
  publishedAt : String
  rollbackDataStrategy : String
  rollout : Rollout

structure Envelope where
  manifest : Manifest
  signatureKeyId : String
  signature : String

def schemaVersion : String := "longhub/client-update/v2"
def productSurface : String := "longhub-manager"
def signatureDomain : String := "longhub-client-update-v2\n"
def maxInstallerBytes : Int := 1024 * 1024 * 1024
def maxSafeInteger : Int := 9007199254740991

def versionPattern (text : String) : Bool := (ClientUpdate.clientVersion text).isSome

def hexDigestPattern (text : String) : Bool := isSha256Hex text.toList

def signatureKeyIdPattern : String → Bool :=
  let allowed := fun char : Char => char.isAlphanum || char ∈ ['.', '_', '-']
  matchesClasses allowed allowed 0 127

def identityPattern : String → Bool :=
  let allowed := fun char : Char => char.isAlphanum || char ∈ ['.', '_', ':', '-']
  matchesClasses allowed allowed 0 255

def isLeap (year : Nat) : Bool := year % 4 = 0 && (year % 100 ≠ 0 || year % 400 = 0)

def daysIn (year month : Nat) : Nat :=
  if month = 2 then (if isLeap year then 29 else 28)
  else if month ∈ [4, 6, 9, 11] then 30 else 31

/-- A year, a month and a day of the calendar, with marks between them. -/
def readDate (text : List Char) : Option (List Char) := do
  let (year, rest) ← readDigits 4 text
  let (month, rest) ← readDigits 2 (← readMark '-' rest)
  let (day, rest) ← readDigits 2 (← readMark '-' rest)
  if 1 ≤ month ∧ month ≤ 12 ∧ 1 ≤ day ∧ day ≤ daysIn year month then some rest else none

/-- `getnum` without `fixed`: one or two digits. -/
def readHour : List Char → Option (Nat × List Char)
  | first :: second :: rest =>
    if !first.isDigit then none
    else if second.isDigit then some (Nat.ofDigitChars 10 [first, second] 0, rest)
    else some (Nat.ofDigitChars 10 [first] 0, second :: rest)
  | [single] => if single.isDigit then some (Nat.ofDigitChars 10 [single] 0, []) else none
  | [] => none

def readSixty (text : List Char) : Option (List Char) :=
  match readDigits 2 text with
  | some (value, rest) => if value < 60 then some rest else none
  | none => none

def skipFraction : List Char → List Char
  | mark :: digit :: rest =>
    if (mark = '.' ∨ mark = ',') ∧ digit.isDigit then rest.dropWhile Char.isDigit
    else mark :: digit :: rest
  | rest => rest

def isTwoDigits (most : Nat) (first second : Char) : Bool :=
  first.isDigit && second.isDigit && Nat.ofDigitChars 10 [first, second] 0 ≤ most

def isZone : List Char → Bool
  | ['Z'] => true
  | [sign, hour, hours, mark, minute, minutes] =>
    (sign = '+' || sign = '-') && mark = ':' && isTwoDigits 24 hour hours &&
      isTwoDigits 60 minute minutes
  | _ => false

def parsesTime (text : String) : Bool :=
  Option.isSome do
    let rest ← readDate text.toList
    let (hour, rest) ← readHour (← readMark 'T' rest)
    if 24 ≤ hour then none
    let rest ← readSixty (← readMark ':' rest)
    let rest ← readSixty (← readMark ':' rest)
    if isZone (skipFraction rest) then some () else none

variable (manifest : Manifest)

def expectedFilename : String :=
  "LongHub-Manager-Setup-" ++ manifest.version ++ ".exe"

def validateManifest : Except UpdateError Unit := do
  ensure (manifest.schemaVersion = schemaVersion &&
    manifest.productSurface = productSurface && manifest.platform = "win32" &&
    manifest.arch = "x64") .metadataInvalid
  ensure (0 < manifest.sequence && manifest.sequence ≤ maxSafeInteger &&
    versionPattern manifest.version) .metadataInvalid
  ensure (manifest.channel = "stable" || manifest.channel = "beta") .metadataInvalid
  ensure (manifest.filename = expectedFilename manifest &&
    manifest.urlPath = "/downloads/" ++ expectedFilename manifest) .metadataInvalid
  ensure (0 < manifest.size && manifest.size ≤ maxInstallerBytes &&
    hexDigestPattern manifest.sha256) .metadataInvalid
  ensure (parsesTime manifest.publishedAt) .metadataInvalid
  ensure (manifest.rollbackDataStrategy = "snapshot_required" ||
    manifest.rollbackDataStrategy = "backward_compatible") .metadataInvalid
  ensure (manifest.rollout.status = "active" || manifest.rollout.status = "paused")
    .metadataInvalid
  ensure (0 ≤ manifest.rollout.basisPoints && manifest.rollout.basisPoints ≤ 10000 &&
    !(manifest.rollout.status = "active" && manifest.rollout.basisPoints = 0) &&
    hexDigestPattern manifest.rollout.seed) .metadataInvalid
  ensure (parsesTime manifest.rollout.updatedAt) .metadataInvalid

def escapeChar (char : Char) : List Char :=
  if char.toNat = 0x2028 then ['\\', 'u', '2', '0', '2', '8']
  else if char.toNat = 0x2029 then ['\\', 'u', '2', '0', '2', '9']
  else JsonText.escape char

def encodeText (text : String) : List Char := '"' :: text.toList.flatMap escapeChar ++ ['"']

def encodeInt (value : Int) : List Char := (toString value).toList

def encodeMap (fields : List (String × List Char)) : List Char :=
  let sorted := fields.insertionSort fun first second =>
    Utf8Decoder.encode first.1.toList ≤ Utf8Decoder.encode second.1.toList
  '\x7b' :: JsonText.join (sorted.map fun field => encodeText field.1 ++ ':' :: field.2) ++ ['\x7d']

def rolloutMap (rollout : Rollout) : List (String × List Char) :=
  [("basis_points", encodeInt rollout.basisPoints), ("seed", encodeText rollout.seed),
    ("status", encodeText rollout.status), ("updated_at", encodeText rollout.updatedAt)]

def manifestMap : List (String × List Char) :=
  [("arch", encodeText manifest.arch), ("channel", encodeText manifest.channel),
    ("filename", encodeText manifest.filename), ("platform", encodeText manifest.platform),
    ("product_surface", encodeText manifest.productSurface),
    ("published_at", encodeText manifest.publishedAt),
    ("rollback_data_strategy", encodeText manifest.rollbackDataStrategy),
    ("rollout", encodeMap (rolloutMap manifest.rollout)),
    ("schema_version", encodeText manifest.schemaVersion),
    ("sequence", encodeInt manifest.sequence), ("sha256", encodeText manifest.sha256),
    ("size", encodeInt manifest.size), ("url_path", encodeText manifest.urlPath),
    ("version", encodeText manifest.version)]

def signaturePayload : Except UpdateError (List Char) := do
  validateManifest manifest
  return signatureDomain.toList ++ encodeMap (manifestMap manifest)

def scanDigits (text : List Char) : Option (Nat × List Char) :=
  if text.takeWhile Char.isDigit = [] then none
  else some (Nat.ofDigitChars 10 (text.takeWhile Char.isDigit) 0, text.dropWhile Char.isDigit)

/-- `Sscanf` with three numbers and periods between them. -/
def scanVersion (text : String) : Option (List Nat) := do
  let (major, rest) ← scanDigits text.toList
  let (minor, rest) ← scanDigits (← readMark '.' rest)
  let (patch, _) ← scanDigits (← readMark '.' rest)
  return [major, minor, patch]

def compareParts : List Nat → List Nat → Int
  | left :: lefts, right :: rights =>
    if left < right then -1 else if right < left then 1 else compareParts lefts rights
  | _, _ => 0

def compareVersions (left right : String) : Except UpdateError Int := do
  ensure (versionPattern left && versionPattern right) .metadataInvalid
  let leftParts ← require (scanVersion left) .metadataInvalid
  let rightParts ← require (scanVersion right) .metadataInvalid
  return compareParts leftParts rightParts

/-- The cohort of an identity, from the first four bytes of a hash. -/
def rolloutBucket (node : NodePlatform) (seed identity : String) : Nat :=
  let sum := node.sha256Hex ("longhub-client-rollout-v1\n" ++ seed ++ "\n" ++ identity)
  (sum.toList.take 8).foldl
    (fun number digit => 16 * number + (JsonValue.hexDigitValue digit).getD 0) 0 % 10000

def rolloutEligible (node : NodePlatform) (rollout : Rollout) (identity : String) :
    Except UpdateError Bool :=
  if rollout.status ≠ "active" ∨ rollout.basisPoints ≤ 0 then .ok false
  else if !identityPattern identity || !hexDigestPattern rollout.seed then .error .metadataInvalid
  else if rollout.basisPoints = 10000 then .ok true
  else .ok ((rolloutBucket node rollout.seed identity : Int) < rollout.basisPoints)

end ManagerUpdate

end LongHub
