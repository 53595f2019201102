import LongHub.CrashSafety
import LongHub.ExceptChecks
import LongHub.ListLemmas

/-!
# Pairing commands

The commands of the command line client and the states that they lead through.
-/

namespace LongHub

open List

/-! ## Pairing, status and logout of the command line client -/

namespace CloudCli

structure DeviceCredentials where
  deviceId : String
  deviceToken : String
  deriving DecidableEq

structure DeviceMetadata where
  fingerprint : String
  deviceId : Option String

structure RegisteredDevice where
  credentials : DeviceCredentials
  fingerprint : String
  active : Bool
  bound : Bool
  deriving DecidableEq

structure PairingWorld where
  vault : Option DeviceCredentials
  metadata : Option DeviceMetadata
  devices : List RegisteredDevice

inductive PairingError where
  | operationFailed
  | unauthorized
  | deviceAlreadyRegistered
  | deviceAlreadyBound
  | readBackDifferent

inductive PairingCall where
  | readVault
  | writeVault (credentials : DeviceCredentials)
  | deleteVault
  | readMetadata
  | saveMetadata (metadata : DeviceMetadata)
  | newFingerprint
  | register (fingerprint : String)
  | createChallenge (deviceToken : String)
  | readSelf (deviceToken : String)
  | revokeSelf (deviceToken : String)

@[reducible]
def PairingCall.Answer : PairingCall → Type
  | readVault => Option DeviceCredentials
  | readMetadata => Option DeviceMetadata
  | newFingerprint => String
  | register _ => DeviceCredentials
  | createChallenge _ => String
  | writeVault _ | deleteVault | saveMetadata _ | readSelf _ | revokeSelf _ => Unit

abbrev PairingProgram := Program PairingCall PairingCall.Answer PairingError

def callPairing (request : PairingCall) : PairingProgram request.Answer := Program.perform request

def metadataOrNew : PairingProgram DeviceMetadata := do
  match ← callPairing .readMetadata with
  | some metadata => return metadata
  | none =>
    let fingerprint ← callPairing .newFingerprint
    return ⟨fingerprint, none⟩

def registerDevice : PairingProgram DeviceCredentials := do
  let metadata ← metadataOrNew
  let credentials ← callPairing (.register metadata.fingerprint)
  callPairing (.writeVault credentials)
  let verified ← callPairing .readVault
  .ofExcept (Except.ensure (verified = some credentials) .readBackDifferent)
  callPairing (.saveMetadata { metadata with deviceId := some credentials.deviceId })
  return credentials

def credentialsFor : PairingProgram DeviceCredentials := do
  match ← callPairing .readVault with
  | some existing => return existing
  | none => registerDevice

def pair : PairingProgram (Option (String × String)) := do
  let credentials ← credentialsFor
  let pairingCode ← callPairing (.createChallenge credentials.deviceToken)
  return some (credentials.deviceId, pairingCode)

def status : PairingProgram (Option (String × String)) := do
  match ← callPairing .readVault with
  | none => return none
  | some credentials =>
    let _ ← Program.attempt (callPairing (.readSelf credentials.deviceToken))
    return none

def logout : PairingProgram (Option (String × String)) := do
  match ← callPairing .readVault with
  | none => return none
  | some credentials =>
    callPairing (.revokeSelf credentials.deviceToken)
    callPairing .deleteVault
    match ← callPairing .readMetadata with
    | none => return none
    | some metadata =>
      callPairing (.saveMetadata { metadata with deviceId := none })
      return none

inductive PairingCommand where
  | pair
  | status
  | logout

def PairingCommand.program : PairingCommand → PairingProgram (Option (String × String))
  | .pair => CloudCli.pair
  | .status => CloudCli.status
  | .logout => CloudCli.logout

structure PairingChoice where
  revoked : List String
  bound : List String
  fails : Bool
  takesEffect : Bool
  fresh : DeviceCredentials
  text : String

/-- The server revokes some devices and binds others to accounts. -/
def PairingWorld.elapse (world : PairingWorld) (revoked bound : List String) : PairingWorld :=
  { world with devices := world.devices.map fun device =>
      { device with
        active := device.active && !revoked.contains device.credentials.deviceId
        bound := device.bound || bound.contains device.credentials.deviceId } }

def PairingWorld.authenticateRegistered (world : PairingWorld) (deviceToken : String) :
    Option RegisteredDevice :=
  (world.devices.find? fun device => device.credentials.deviceToken = deviceToken).filter
    RegisteredDevice.active

/-- Identifiers are generated anew. -/
def PairingWorld.IsFresh (world : PairingWorld) (fresh : DeviceCredentials) : Prop :=
  ∀ device ∈ world.devices, device.credentials.deviceId ≠ fresh.deviceId ∧
    device.credentials.deviceToken ≠ fresh.deviceToken

instance (world : PairingWorld) (fresh : DeviceCredentials) : Decidable (world.IsFresh fresh) :=
  decidableBAll _ _

def PairingCall.changes : PairingCall → Bool
  | writeVault _ | deleteVault | saveMetadata _ | register _ | revokeSelf _ => true
  | readVault | readMetadata | newFingerprint | createChallenge _ | readSelf _ => false

@[grind =]
def PairingWorld.effect (world : PairingWorld) (choice : PairingChoice) :
    (request : PairingCall) → Option (Except PairingError request.Answer × PairingWorld)
  | .readVault => some (.ok world.vault, world)
  | .writeVault credentials => some (.ok (), { world with vault := some credentials })
  | .deleteVault => some (.ok (), { world with vault := none })
  | .readMetadata => some (.ok world.metadata, world)
  | .saveMetadata metadata => some (.ok (), { world with metadata := some metadata })
  | .newFingerprint =>
    if world.devices.any fun device => device.fingerprint = choice.text then none
    else some (.ok choice.text, world)
  | .register fingerprint =>
    if world.devices.any fun device => device.fingerprint = fingerprint && device.active then
      some (.error .deviceAlreadyRegistered, world)
    else if world.IsFresh choice.fresh then
      some (.ok choice.fresh, { world with
        devices := world.devices ++ [⟨choice.fresh, fingerprint, true, false⟩] })
    else none
  | .createChallenge deviceToken =>
    match world.authenticateRegistered deviceToken with
    | none => some (.error .unauthorized, world)
    | some device =>
      some (if device.bound then .error .deviceAlreadyBound else .ok choice.text, world)
  | .readSelf deviceToken =>
    match world.authenticateRegistered deviceToken with
    | none => some (.error .unauthorized, world)
    | some _ => some (.ok (), world)
  | .revokeSelf deviceToken =>
    match world.authenticateRegistered deviceToken with
    | none => some (.error .unauthorized, world)
    | some device => some (.ok (), world.elapse [device.credentials.deviceId] [])

abbrev AllowedStep := PairingCall → PairingChoice → PairingWorld → Bool

def performPairing (allowed : AllowedStep) (choice : PairingChoice) (world : PairingWorld)
    (request : PairingCall) : Option (Except PairingError request.Answer × PairingWorld) :=
  if allowed request choice world then
    let elapsed := world.elapse choice.revoked choice.bound
    (elapsed.effect choice request).map fun outcome =>
      if choice.fails then
        (.error .operationFailed, if choice.takesEffect then outcome.2 else elapsed)
      else outcome
  else none

def pairingDevice (allowed : AllowedStep) :
    Device PairingWorld PairingCall PairingCall.Answer PairingError PairingChoice where
  perform request choice world := performPairing allowed choice world request

/-- One command after the other; between two of them the server may revoke and bind devices. -/
inductive PairingRun (allowed : AllowedStep) (mayRevoke : List String → PairingWorld → Bool)
    (start : PairingWorld) : PairingWorld → Prop where
  | refl : PairingRun allowed mayRevoke start start
  | command {before after : PairingWorld} (command : PairingCommand)
      (outcome : Except PairingError (Option (String × String))) :
      PairingRun allowed mayRevoke start before →
      (pairingDevice allowed).Ends command.program before outcome after →
      PairingRun allowed mayRevoke start after
  | elapse {before : PairingWorld} (revoked bound : List String) :
      PairingRun allowed mayRevoke start before → mayRevoke revoked before = true →
      PairingRun allowed mayRevoke start (before.elapse revoked bound)

/-- Everything works, and the server leaves the devices alone. -/
def works : AllowedStep := fun _ choice _ =>
  !choice.fails && choice.revoked = [] && choice.bound = []

section Calls

variable {allowed : AllowedStep} {request : PairingCall} {choice : PairingChoice}
variable {world after : PairingWorld}

/-- Every way in which a call may come out. -/
theorem pairing_cases {answer : Except PairingError request.Answer}
    (acts : (pairingDevice allowed).perform request choice world = some (answer, after)) :
    allowed request choice world = true ∧ ∃ answered middle,
      (world.elapse choice.revoked choice.bound).effect choice request = some (answered, middle) ∧
      ((choice.fails = false ∧ answer = answered ∧ after = middle) ∨
        (choice.fails = true ∧ answer = .error .operationFailed ∧
          after = if choice.takesEffect then middle
            else world.elapse choice.revoked choice.bound)) := by
  simp only [pairingDevice, performPairing, Option.ite_none_right_eq_some,
    Option.map_eq_some_iff] at acts
  obtain ⟨isAllowed, ⟨answered, middle⟩, isEffect, outcome⟩ := acts
  refine ⟨isAllowed, answered, middle, isEffect, ?_⟩
  cases fails : choice.fails with
  | false =>
    rw [fails] at outcome
    cases outcome
    exact .inl ⟨rfl, rfl, rfl⟩
  | true =>
    rw [fails] at outcome
    cases outcome
    exact .inr ⟨rfl, rfl, rfl⟩

theorem effect_reads (reads : request.changes = false)
    {answered : Except PairingError request.Answer}
    (isEffect : world.effect choice request = some (answered, after)) : after = world := by
  cases request with
  | readVault | readMetadata =>
    cases isEffect
    rfl
  | newFingerprint =>
    simp only [PairingWorld.effect] at isEffect
    split_ifs at isEffect
    cases isEffect
    rfl
  | createChallenge deviceToken | readSelf deviceToken =>
    simp only [PairingWorld.effect] at isEffect
    split at isEffect <;> cases isEffect <;> rfl
  | writeVault credentials | deleteVault | saveMetadata metadata | register fingerprint
  | revokeSelf deviceToken => cases reads

end Calls

end CloudCli

/-! ## The states of vault, metadata and server -/

namespace CloudCli

namespace PairingWorld

def IsActive (world : PairingWorld) (credentials : DeviceCredentials) : Prop :=
  ∃ device ∈ world.devices, device.credentials = credentials ∧ device.active = true

def IsFree (world : PairingWorld) (fingerprint : String) : Prop :=
  ∀ device ∈ world.devices, device.fingerprint = fingerprint → device.active = false

/-- The credentials in the vault are good, or a device can be registered. -/
def Recoverable (world : PairingWorld) : Prop :=
  match world.vault with
  | some credentials => world.IsActive credentials
  | none => ∀ metadata, world.metadata = some metadata → world.IsFree metadata.fingerprint

/-- Identifiers are unique, a fingerprint belongs to one active device, and the vault holds the
credentials of a device with the stored fingerprint. -/
structure WellFormed (world : PairingWorld) : Prop where
  ids : (world.devices.map fun device => device.credentials.deviceId).Nodup
  tokens : (world.devices.map fun device => device.credentials.deviceToken).Nodup
  fingerprints : ∀ one ∈ world.devices, ∀ other ∈ world.devices, one.active = true →
    other.active = true → one.fingerprint = other.fingerprint → one = other
  vault : ∀ credentials, world.vault = some credentials → ∃ device ∈ world.devices,
    device.credentials = credentials ∧
      ∀ metadata, world.metadata = some metadata → metadata.fingerprint = device.fingerprint

section Elapse

variable {world : PairingWorld} {revoked bound : List String}

def elapsed (revoked bound : List String) (device : RegisteredDevice) : RegisteredDevice :=
  { device with
    active := device.active && !revoked.contains device.credentials.deviceId
    bound := device.bound || bound.contains device.credentials.deviceId }

theorem devices_elapse :
    (world.elapse revoked bound).devices = world.devices.map (elapsed revoked bound) := rfl

theorem WellFormed.elapse (wellFormed : world.WellFormed) :
    (world.elapse revoked bound).WellFormed := by
  have same : ∀ key : DeviceCredentials → String,
      (world.elapse revoked bound).devices.map (fun device => key device.credentials) =
        world.devices.map fun device => key device.credentials := by
    intro key
    rw [devices_elapse, map_map]
    rfl
  constructor
  · rw [same]
    exact wellFormed.ids
  · rw [same]
    exact wellFormed.tokens
  · simp only [devices_elapse, forall_mem_map]
    intro one oneIn other otherIn oneActive otherActive sameFingerprint
    simp only [elapsed, Bool.and_eq_true] at oneActive otherActive
    rw [wellFormed.fingerprints one oneIn other otherIn oneActive.1 otherActive.1 sameFingerprint]
  · intro credentials isVault
    obtain ⟨device, mem, isDevice, stored⟩ := wellFormed.vault credentials isVault
    exact ⟨elapsed revoked bound device, mem_map_of_mem mem, isDevice, stored⟩

theorem IsActive.elapse {credentials : DeviceCredentials} (isActive : world.IsActive credentials)
    (spared : revoked.contains credentials.deviceId = false) :
    (world.elapse revoked bound).IsActive credentials := by
  obtain ⟨device, mem, rfl, active⟩ := isActive
  refine ⟨elapsed revoked bound device, mem_map_of_mem mem, rfl, ?_⟩
  simp only [elapsed, active, spared]
  rfl

theorem IsFree.elapse {fingerprint : String} (isFree : world.IsFree fingerprint) :
    (world.elapse revoked bound).IsFree fingerprint := by
  unfold IsFree
  simp only [devices_elapse, forall_mem_map]
  intro device mem same
  simp only [elapsed, isFree device mem same]
  rfl

end Elapse

section Authentication

variable {world : PairingWorld} {deviceToken : String} {device : RegisteredDevice}

theorem authenticateRegistered_eq_some_iff (wellFormed : world.WellFormed) :
    world.authenticateRegistered deviceToken = some device ↔
      device ∈ world.devices ∧ device.credentials.deviceToken = deviceToken ∧
        device.active = true := by
  unfold authenticateRegistered
  rw [Option.filter_eq_some_iff, List.find?_eq_some_iff_of_nodup wellFormed.tokens, and_assoc]

end Authentication

section Effects

variable {world : PairingWorld} {credentials : DeviceCredentials} {fingerprint : String}

theorem WellFormed.register (wellFormed : world.WellFormed) (isFree : world.IsFree fingerprint)
    (isFresh : world.IsFresh credentials) (empty : world.vault = none) :
    WellFormed { world with
      devices := world.devices ++ [⟨credentials, fingerprint, true, false⟩] } := by
  constructor
  · rw [map_append, nodup_append]
    refine ⟨wellFormed.ids, by simp, ?_⟩
    simp only [map_cons, map_nil, mem_singleton, mem_map]
    rintro _ ⟨device, mem, rfl⟩ _ rfl
    exact (isFresh device mem).1
  · rw [map_append, nodup_append]
    refine ⟨wellFormed.tokens, by simp, ?_⟩
    simp only [map_cons, map_nil, mem_singleton, mem_map]
    rintro _ ⟨device, mem, rfl⟩ _ rfl
    exact (isFresh device mem).2
  · intro one oneIn other otherIn oneActive otherActive same
    rcases mem_append.mp oneIn with oneOld | oneNew
    · rcases mem_append.mp otherIn with otherOld | otherNew
      · exact wellFormed.fingerprints one oneOld other otherOld oneActive otherActive same
      · rw [mem_singleton.mp otherNew] at same
        rw [isFree one oneOld same] at oneActive
        cases oneActive
    · rcases mem_append.mp otherIn with otherOld | otherNew
      · rw [mem_singleton.mp oneNew] at same
        rw [isFree other otherOld same.symm] at otherActive
        cases otherActive
      · rw [mem_singleton.mp oneNew, mem_singleton.mp otherNew]
  · intro stored isVault
    rw [empty] at isVault
    cases isVault

theorem WellFormed.writeVault (wellFormed : world.WellFormed) {device : RegisteredDevice}
    (mem : device ∈ world.devices) (isDevice : device.credentials = credentials)
    (stored : ∀ metadata, world.metadata = some metadata →
      metadata.fingerprint = device.fingerprint) :
    WellFormed { world with vault := some credentials } where
  __ := wellFormed
  vault other isVault := by
    cases isVault
    exact ⟨device, mem, isDevice, stored⟩

theorem WellFormed.deleteVault (wellFormed : world.WellFormed) :
    WellFormed { world with vault := none } where
  __ := wellFormed
  vault other isVault := by cases isVault

theorem WellFormed.saveMetadata (wellFormed : world.WellFormed) {metadata : DeviceMetadata}
    (stored : ∀ device ∈ world.devices, world.vault = some device.credentials →
      metadata.fingerprint = device.fingerprint) :
    WellFormed { world with metadata := some metadata } where
  __ := wellFormed
  vault other isVault := by
    obtain ⟨device, mem, isDevice, -⟩ := wellFormed.vault other isVault
    refine ⟨device, mem, isDevice, ?_⟩
    rintro _ ⟨⟩
    exact stored device mem (isDevice ▸ isVault)

end Effects

/-- What holds between two commands. -/
structure Settled (world : PairingWorld) : Prop where
  wellFormed : world.WellFormed
  recoverable : world.Recoverable

end PairingWorld

end CloudCli

end LongHub
