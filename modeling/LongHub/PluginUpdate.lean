import LongHub.ClientUpdateRecovery

/-!
# Releases and updates of the Cloud Plugin

Which releases the command line client accepts, and how it installs one.
-/

namespace LongHub

open Except
/-! ## Releases of the Cloud Plugin -/

namespace CloudCli

inductive CliError where
  | identityInvalid
  | versionInvalid
  | sizeMismatch
  | downloadPathInvalid
  | hashMismatch
  | compatibilityInvalid
  | keyNotTrusted
  | signatureInvalid
  | packageInvalid
  | inspectInvalid
  | commandFailed
  | apiFailed
  | fileFailed
  | notReleased
  | downgradeRefused
  | rollbackFailed
  | failedRolledBack

structure PluginRollout where
  status : String
  basisPoints : Int
  seed : String
  updatedAt : String
  deriving DecidableEq

structure ReleaseManifest where
  schemaVersion : String
  productSurface : String
  sequence : Int
  version : String
  channel : String
  platform : String
  arch : String
  filename : String
  size : Int
  sha256 : String
  urlPath : String
  publishedAt : String
  openclawVersion : String
  node : String
  rollout : PluginRollout
  signatureKeyId : String
  signature : String
  deriving DecidableEq

structure Artifact where
  size : Nat
  sha256 : String
  package : Option (String × String)

def pluginPackageName : String := "@longhub/openclaw-cloud-plugin"
def pluginId : String := "longhub-cloud-skill"
def pluginToolName : String := "longhub_cloud_skill"
def pluginReleaseSchema : String := "longhub/cloud-plugin-release/v1"

def versionNumber (text : List Char) : Option Nat :=
  if text.all Char.isDigit ∧ text ≠ [] ∧ (text.head? = some '0' → text = ['0']) then
    some (Nat.ofDigitChars 10 text 0)
  else none

def versionNumbers (version : String) : Option (List Nat) :=
  match version.toList.splitOn '.' with
  | [major, minor, patch] => [major, minor, patch].mapM versionNumber
  | _ => none

/-- The numbers as JavaScript reads them; `none` is infinity. -/
def semverParts (version : String) : Except CliError (List (Option Nat)) := do
  let numbers ← require (versionNumbers version) .versionInvalid
  return numbers.map DoubleNumber.ofNat

def numberLess : Option Nat → Option Nat → Bool
  | some left, some right => left < right
  | some _, none => true
  | none, _ => false

def compareNumbers : List (Option Nat) → List (Option Nat) → Ordering
  | left :: lefts, right :: rights =>
    if numberLess left right then .lt
    else if numberLess right left then .gt
    else compareNumbers lefts rights
  | _, _ => .eq

def compareVersions (left right : String) : Except CliError Ordering := do
  let leftParts ← semverParts left
  let rightParts ← semverParts right
  return compareNumbers leftParts rightParts

/-- The version is lower: the exact numbers, in lexicographic order. -/
def IsLower (left right : String) : Prop :=
  ∃ lefts rights, versionNumbers left = some lefts ∧ versionNumbers right = some rights ∧
    lefts < rights

variable (manifest : ReleaseManifest)

def unsignedFields : List (String × JsonValue) := [
  ("schema_version", .text manifest.schemaVersion),
  ("product_surface", .text manifest.productSurface),
  ("sequence", .number (toString manifest.sequence)), ("version", .text manifest.version),
  ("channel", .text manifest.channel), ("platform", .text manifest.platform),
  ("arch", .text manifest.arch), ("filename", .text manifest.filename),
  ("size", .number (toString manifest.size)), ("sha256", .text manifest.sha256),
  ("url_path", .text manifest.urlPath), ("published_at", .text manifest.publishedAt),
  ("compatibility", .record [("openclaw_version", .text manifest.openclawVersion),
    ("node", .text manifest.node)]),
  ("rollout", .record [("status", .text manifest.rollout.status),
    ("basis_points", .number (toString manifest.rollout.basisPoints)),
    ("seed", .text manifest.rollout.seed), ("updated_at", .text manifest.rollout.updatedAt)]),
  ("signature_key_id", .text manifest.signatureKeyId)]

def unsignedJson : JsonValue := .record (unsignedFields manifest)

def signedPayload : List Char :=
  JsonValue.canonicalStringify (unsignedJson manifest)

structure TrustedKeys where
  isTrusted : String → Bool
  verifies : String → List Char → String → Bool
  uploaded : ∀ manifest : ReleaseManifest, isTrusted manifest.signatureKeyId = true →
    verifies manifest.signatureKeyId (signedPayload manifest) manifest.signature = true →
    (ClientUpdate.clientVersion manifest.version).isSome = true

def pluginFilename (version : String) : String :=
  "longhub-openclaw-cloud-plugin-" ++ version ++ ".tgz"

def isSafeInteger (value : Int) : Bool := -(2 ^ 53) < value && value < 2 ^ 53

def urlPathPattern (path : String) : Bool :=
  let front := "/downloads/cloud-plugin/longhub-openclaw-cloud-plugin-".toList
  let middle := (path.toList.drop front.length).dropLast.dropLast.dropLast.dropLast
  front.isPrefixOf path.toList && ".tgz".toList.isSuffixOf (path.toList.drop front.length) &&
    middle ≠ [] && !middle.contains '/'

def signaturePattern (text : String) : Bool :=
  let body := text.toList.take 86
  text.toList.length = 88 && body.all (fun char => char.isAlphanum || char = '+' || char = '/') &&
    text.toList.drop 86 = ['=', '=']

def verifyPluginRelease (keys : TrustedKeys) (manifest : ReleaseManifest) (artifact : Artifact) :
    Except CliError Unit := do
  ensure (manifest.schemaVersion = pluginReleaseSchema &&
    manifest.productSurface = "longhub-cloud-plugin" && manifest.platform = "win32" &&
    manifest.arch = "x64") .identityInvalid
  ensure ((versionNumbers manifest.version).isSome &&
    manifest.filename = pluginFilename manifest.version) .versionInvalid
  ensure (isSafeInteger manifest.sequence && 1 ≤ manifest.sequence &&
    isSafeInteger manifest.size && 1 ≤ manifest.size && manifest.size = artifact.size)
    .sizeMismatch
  ensure (urlPathPattern manifest.urlPath) .downloadPathInvalid
  ensure (isSha256Hex manifest.sha256.toList && artifact.sha256 = manifest.sha256)
    .hashMismatch
  ensure (keys.isTrusted manifest.signatureKeyId && signaturePattern manifest.signature)
    .keyNotTrusted
  ensure (keys.verifies manifest.signatureKeyId (signedPayload manifest)
    manifest.signature) .signatureInvalid

def verifyPackedPlugin (artifact : Artifact) (expectedVersion : String) : Except CliError Unit :=
  ensure (artifact.package = some (pluginPackageName, expectedVersion)) .packageInvalid

def recordField (fields : List (String × JsonValue)) (key : String) :
    Option (List (String × JsonValue)) :=
  match fields.lookup key with
  | some (.record inner) => some inner
  | _ => none

def hasText (fields : List (String × JsonValue)) (expected : String × String) : Bool :=
  JsonValue.textField fields expected.1 = some expected.2

def hasOnlyTool (root : List (String × JsonValue)) : Bool :=
  match root.lookup "tools" with
  | some (.array [.record tool]) =>
    match tool.lookup "names" with
    | some (.array [.text name]) => name = pluginToolName
    | _ => false
  | _ => false

def hasDiagnostics (root : List (String × JsonValue)) : Bool :=
  match root.lookup "diagnostics" with
  | some (.array (_ :: _)) => true
  | _ => false

def inspectRoot (output : List Char) : Option (List (String × JsonValue)) :=
  match JsonValue.parse output with
  | some (.record root) => some root
  | _ => none

def verifyRuntimeInspect (output : List Char) (expectedVersion : String) :
    Except CliError Unit := do
  ensure ((String.ofList output).utf8ByteSize ≤ 1024 * 1024) .inspectInvalid
  let root ← require (inspectRoot output) .inspectInvalid
  let plugin ← require (recordField root "plugin") .inspectInvalid
  ensure ([("id", pluginId), ("version", expectedVersion), ("status", "loaded"),
    ("origin", "global"), ("packageName", pluginPackageName)].all (hasText plugin)) .inspectInvalid
  let install ← require (recordField root "install") .inspectInvalid
  ensure ([("source", "npm"), ("version", expectedVersion),
    ("resolvedName", pluginPackageName), ("resolvedVersion", expectedVersion),
    ("artifactKind", "npm-pack"), ("artifactFormat", "tgz"),
    ("npmTarballName", pluginFilename expectedVersion)].all (hasText install)) .inspectInvalid
  ensure (hasOnlyTool root) .inspectInvalid
  ensure (!hasDiagnostics root) .inspectInvalid

def runtimeVersion (output : List Char) : Except CliError String := do
  let root ← require (inspectRoot output) .inspectInvalid
  let plugin ← require (recordField root "plugin") .inspectInvalid
  let version ← require (JsonValue.textField plugin "version") .inspectInvalid
  let _ ← semverParts version
  verifyRuntimeInspect output version
  return version

end CloudCli

/-! ## Installing and updating the Cloud Plugin -/

namespace CloudCli

structure StagedArtifact where
  manifest : ReleaseManifest
  artifact : Artifact

inductive CliCall where
  | inspectPlugin
  | installPlugin (staged : StagedArtifact) (force : Bool)
  | fetchManifest (version : Option String)
  | download (urlPath : String)
  | writeStaged (staged : StagedArtifact)

@[reducible]
def CliCall.Answer : CliCall → Type
  | inspectPlugin => List Char
  | installPlugin _ _ | writeStaged _ => Unit
  | fetchManifest _ => ReleaseManifest
  | download _ => Artifact

abbrev CliProgram := Program CliCall CliCall.Answer CliError

def callCli (request : CliCall) : CliProgram request.Answer := Program.perform request

structure UpdateReport where
  updated : Bool
  version : String
  sha256 : Option String

section Programs

variable (keys : TrustedKeys)

def stageRelease (manifest : ReleaseManifest) : CliProgram StagedArtifact := do
  let artifact ← callCli (.download manifest.urlPath)
  .ofExcept (verifyPluginRelease keys manifest artifact)
  callCli (.writeStaged ⟨manifest, artifact⟩)
  .ofExcept (verifyPackedPlugin artifact manifest.version)
  return ⟨manifest, artifact⟩

def installStaged (staged : StagedArtifact) (force : Bool) : CliProgram Unit := do
  callCli (.installPlugin staged force)
  let output ← callCli .inspectPlugin
  .ofExcept (verifyRuntimeInspect output staged.manifest.version)

def replacePlugin (target : StagedArtifact) (rollback : Option StagedArtifact) (force : Bool) :
    CliProgram UpdateReport := do
  match ← Program.attempt (installStaged target force) with
  | .ok _ => return ⟨force, target.manifest.version, some target.manifest.sha256⟩
  | .error problem =>
    match rollback with
    | none => .throw problem
    | some staged =>
      match ← Program.attempt (installStaged staged true) with
      | .error _ => .throw .rollbackFailed
      | .ok _ => .throw .failedRolledBack

def isReleased (manifest : ReleaseManifest) : Bool :=
  manifest.rollout.status = "active" && 10000 ≤ manifest.rollout.basisPoints

/-- `installOrUpdate` with `force`. -/
def update : CliProgram UpdateReport := do
  let output ← callCli .inspectPlugin
  let currentVersion ← .ofExcept (runtimeVersion output)
  let targetManifest ← callCli (.fetchManifest none)
  .ofExcept (ensure (isReleased targetManifest) .notReleased)
  match ← .ofExcept (compareVersions targetManifest.version currentVersion) with
  | .lt => .throw .downgradeRefused
  | .eq => return ⟨false, currentVersion, none⟩
  | .gt =>
    let rollbackManifest ← callCli (.fetchManifest (some currentVersion))
    let rollback ← stageRelease keys rollbackManifest
    let target ← stageRelease keys targetManifest
    replacePlugin target (some rollback) true

end Programs

structure CliWorld where
  installed : Option String
  installs : List String

inductive InstallEffect where
  | keeps
  | replaces
  | removes

/-- What a step does not determine: whether it fails, what a command does and what it prints,
and what the server answers. -/
structure CliChoice where
  fails : Bool
  effect : InstallEffect
  output : List Char
  manifest : ReleaseManifest
  artifact : Artifact

def IsTrue (output : List Char) (installed : Option String) : Prop :=
  ∀ version, runtimeVersion output = .ok version → installed = some version

instance (output : List Char) (installed : Option String) : Decidable (IsTrue output installed) :=
  match told : runtimeVersion output with
  | .error _ => isTrue fun _ same => by rw [told] at same; cases same
  | .ok version =>
    if same : installed = some version then
      isTrue fun _ isTold => by rw [told] at isTold; cases isTold; exact same
    else isFalse fun tells => same (tells version told)

def installedAfter (staged : StagedArtifact) (world : CliWorld) : InstallEffect → Option String
  | .keeps => world.installed
  | .replaces => staged.artifact.package.map Prod.snd
  | .removes => none

@[grind =]
def performCli (mayAnswer : Option String → ReleaseManifest → Bool) (choice : CliChoice)
    (world : CliWorld) : (request : CliCall) → Option (Except CliError request.Answer × CliWorld)
  | .inspectPlugin =>
    if choice.fails then some (.error .commandFailed, world)
    else if IsTrue choice.output world.installed then some (.ok choice.output, world)
    else none
  | .installPlugin staged _ =>
    some (if choice.fails then .error .commandFailed else .ok (),
      ⟨installedAfter staged world choice.effect, world.installs ++ [staged.manifest.version]⟩)
  | .fetchManifest version =>
    if choice.fails then some (.error .apiFailed, world)
    else if mayAnswer version choice.manifest then some (.ok choice.manifest, world)
    else none
  | .download _ =>
    some (if choice.fails then .error .apiFailed else .ok choice.artifact, world)
  | .writeStaged _ => some (if choice.fails then .error .fileFailed else .ok (), world)

def cli (mayAnswer : Option String → ReleaseManifest → Bool) :
    Device CliWorld CliCall CliCall.Answer CliError CliChoice where
  perform request choice world := performCli mayAnswer choice world request

abbrev anyServer := cli fun _ _ => true

abbrev exactServer :=
  cli fun version manifest => version.all fun asked => manifest.version = asked

end CloudCli

end LongHub
