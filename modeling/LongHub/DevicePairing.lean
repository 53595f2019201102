import LongHub.ReadModifyWrite
import LongHub.CloudTaskStore
import Mathlib.Order.Lattice

/-!
# Devices of the cloud

The updates of a device row, and the pairing of a device with an account.
-/

namespace LongHub

open SharedRow

/-! ## Device updates in PostgreSQL -/

inductive DeviceStatus where
  | active
  | revoked
  deriving DecidableEq

inductive DeviceColumn where
  | status
  | lastSeenAt
  | lastModelSuccessAt
  | lastErrorCode
  | credentialRotatedAt
  | minRequiredVersion
  | rolloutGroup
  | deviceTokenHash

namespace DeviceColumn

def Value : DeviceColumn → Type
  | status => DeviceStatus
  | lastSeenAt => Option Instant
  | lastModelSuccessAt => Option Instant
  | lastErrorCode => Option String
  | credentialRotatedAt => Option Instant
  | minRequiredVersion => Option String
  | rolloutGroup => Option String
  | deviceTokenHash => Option String

def fromRead : DeviceColumn → Bool
  | deviceTokenHash => false
  | _ => true

end DeviceColumn

abbrev DeviceRow := ∀ column : DeviceColumn, column.Value

structure DeviceOperationsPatch where
  status : Option DeviceStatus := none
  lastSeenAt : Option (Option Instant) := none
  lastModelSuccessAt : Option (Option Instant) := none
  lastErrorCode : Option (Option String) := none
  credentialRotatedAt : Option (Option Instant) := none
  minRequiredVersion : Option (Option String) := none
  rolloutGroup : Option (Option String) := none
  deviceToken : Option String := none

def DeviceOperationsPatch.columns (hashDeviceToken : String → String)
    (patch : DeviceOperationsPatch) : RowPatch DeviceColumn.Value
  | .status => patch.status
  | .lastSeenAt => patch.lastSeenAt
  | .lastModelSuccessAt => patch.lastModelSuccessAt
  | .lastErrorCode => patch.lastErrorCode
  | .credentialRotatedAt => patch.credentialRotatedAt
  | .minRequiredVersion => patch.minRequiredVersion
  | .rolloutGroup => patch.rolloutGroup
  | .deviceTokenHash => patch.deviceToken.map fun token => some (hashDeviceToken token)

/-- Every authenticated request. -/
def lastSeenPatch (now : Instant) : DeviceOperationsPatch := { lastSeenAt := some (some now) }

/-- The device that logs out, or an administrator. -/
def revokedPatch : DeviceOperationsPatch := { status := some .revoked }

inductive DeviceAction where
  | updateDeviceOperations (patch : DeviceOperationsPatch)
  | getDevice (index : Nat)
  | update (index : Nat)

section Interleaving

variable (hashDeviceToken : String → String)

def DeviceAction.onRow : DeviceAction → RowAction DeviceColumn.Value
  | .updateDeviceOperations patch => .start (patch.columns hashDeviceToken)
  | .getDevice index => .read index
  | .update index => .write index

abbrev DeviceCalls := SharedRow DeviceColumn.Value

def deviceStep (state : DeviceCalls) (action : DeviceAction) : Option DeviceCalls :=
  state.step DeviceColumn.fromRead (action.onRow hashDeviceToken)

/-- The condition on a step: when it is an `UPDATE`, the updates of other calls
since its `getDevice` have left the columns that it does not mention at the
values they had then. -/
def ReadsCurrent (row : DeviceRow) (state : DeviceCalls) (action : DeviceAction) : Prop :=
  state.WritesCurrent DeviceColumn.fromRead row (action.onRow hashDeviceToken)

variable {hashDeviceToken} {row : DeviceRow} {state : DeviceCalls}

theorem deviceRun_inOrder
    (run : GuardedRun (deviceStep hashDeviceToken) (ReadsCurrent hashDeviceToken row)
      (initial row) state) : state.InOrder row :=
  run.invariant (SharedRow.InOrder row) inOrder_initial
    fun _ _ _ inOrder current stepTo => inOrder.step current stepTo

/-- While every write has read the current row no update is lost, and none is lost at the next step
exactly when it has read the current row too. -/
theorem noDeviceUpdateLost_of_readsCurrent
    (run : GuardedRun (deviceStep hashDeviceToken) (ReadsCurrent hashDeviceToken row)
      (initial row) state) : state.NoWriteLost ∧
      ∀ action next, deviceStep hashDeviceToken state action = some next →
        (next.NoWriteLost ↔ ReadsCurrent hashDeviceToken row state action) := by
  have inOrder := deviceRun_inOrder run
  constructor
  · exact inOrder.keeps.noWriteLost
  · intro action next stepTo
    exact inOrder.step_iff stepTo

end Interleaving

def newDeviceRow : DeviceRow
  | .status => DeviceStatus.active
  | .lastSeenAt => (none : Option Instant)
  | .lastModelSuccessAt => (none : Option Instant)
  | .lastErrorCode => (none : Option String)
  | .credentialRotatedAt => (none : Option Instant)
  | .minRequiredVersion => (none : Option String)
  | .rolloutGroup => (none : Option String)
  | .deviceTokenHash => some "hash"

def revokedWhileSeen : List DeviceAction :=
  [.updateDeviceOperations (lastSeenPatch 1000), .getDevice 0,
    .updateDeviceOperations revokedPatch, .getDevice 1, .update 1, .update 0]

/-- A revocation after a recorded request stays. -/
theorem noDeviceUpdateLost_seenThenRevoked : ∃ state : DeviceCalls, state.NoWriteLost ∧
      state.writes = [(lastSeenPatch 1000).columns id, revokedPatch.columns id] ∧
      state.row .status = DeviceStatus.revoked := by
  have start : GuardedRun (deviceStep id) (ReadsCurrent id newDeviceRow)
      (initial newDeviceRow) (initial newDeviceRow) := .refl
  have read := start
    |>.tail (.updateDeviceOperations (lastSeenPatch 1000)) trivial rfl
    |>.tail (.updateDeviceOperations revokedPatch) trivial rfl
    |>.tail (.getDevice 0) trivial rfl
  have seen := read.tail (.update 0)
    (writesCurrent_of_latest fun _ _ _ found => by cases found; rfl) rfl
  have readAgain := seen.tail (.getDevice 1) trivial rfl
  have revoked := readAgain.tail (.update 1)
    (writesCurrent_of_latest fun _ _ _ found => by cases found; rfl) rfl
  exact ⟨_, (noDeviceUpdateLost_of_readsCurrent revoked).1, rfl, rfl⟩

def NoDeviceUpdateLost : Prop :=
  ∀ hashDeviceToken row state,
    GuardedRun (deviceStep hashDeviceToken) (fun _ _ => True) (initial row) state →
    state.NoWriteLost

/-- The request writes back the status that it has read before the revocation. -/
theorem not_noDeviceUpdateLost : ¬ NoDeviceUpdateLost := by
  intro noneLost
  obtain ⟨state, run, writes, status⟩ : ∃ state,
      GuardedRun (deviceStep id) (fun _ _ => True) (initial newDeviceRow) state ∧
      state.writes = [revokedPatch.columns id, (lastSeenPatch 1000).columns id] ∧
      state.row .status = DeviceStatus.active :=
    ⟨_, GuardedRun.of_runActions (fun _ _ => trivial)
      (rfl : runActions (deviceStep id) (initial newDeviceRow) revokedWhileSeen = some _), rfl, rfl⟩
  have kept := noneLost id newDeviceRow state run .status DeviceStatus.revoked []
    [(lastSeenPatch 1000).columns id] (revokedPatch.columns id) writes rfl (by
      intro other mem
      rw [List.mem_singleton.mp mem]
      rfl)
  rw [status] at kept
  cases kept

/-! ## Pairing a device with an account -/

structure DeviceRecord where
  deviceId : String
  tenantId : String
  status : DeviceStatus
  deviceFingerprint : String
  userId : Option String
  deriving DecidableEq

structure DevicePairingChallengeRecord (τ : Type) where
  challengeId : String
  deviceId : String
  tenantId : String
  codeHash : String
  expiresAt : τ
  consumedAt : Option τ
  createdAt : τ

inductive PairingRefusal where
  | codeInvalid
  | codeExpired
  | deviceNotFound
  | deviceAlreadyBound
  | deviceRevoked
  deriving DecidableEq

structure PairingTables (τ : Type) where
  devices : InsertionMap String DeviceRecord
  devicePairingChallenges : InsertionMap String (DevicePairingChallengeRecord τ)
  devicePairingByHash : InsertionMap String String

namespace PairingTables

variable {τ : Type}

def empty : PairingTables τ := ⟨.empty, .empty, .empty⟩

variable (tables : PairingTables τ)

/-- The loop that deletes the challenges passing a test, each with the index
entry of its hash. -/
def removeChallenges (removed : DevicePairingChallengeRecord τ → Bool) : PairingTables τ :=
  let hashes := (tables.devicePairingChallenges.values.filter removed).map (·.codeHash)
  { tables with
    devicePairingChallenges :=
      tables.devicePairingChallenges.filter fun _ challenge => !removed challenge
    devicePairingByHash :=
      tables.devicePairingByHash.filter fun hash _ => !hashes.contains hash }

def deleteChallenge (challenge : DevicePairingChallengeRecord τ) : PairingTables τ :=
  { tables with
    devicePairingByHash := tables.devicePairingByHash.delete challenge.codeHash
    devicePairingChallenges := tables.devicePairingChallenges.delete challenge.challengeId }

def registerDevice (generatedId tenantId deviceFingerprint : String) :
    PairingTables τ × DeviceRecord × Bool :=
  match tables.devices.values.find? fun device =>
      device.tenantId = tenantId ∧ device.deviceFingerprint = deviceFingerprint ∧
        device.status = .active with
  | some device => (tables, device, true)
  | none =>
    let device : DeviceRecord :=
      ⟨generatedId, tenantId, .active, deviceFingerprint, none⟩
    ({ tables with devices := tables.devices.set generatedId device }, device, false)

def bindDevice (deviceId userId : String) : PairingTables τ :=
  match tables.devices.get? deviceId with
  | none => tables
  | some device =>
    { tables with
      devices := tables.devices.set deviceId { device with userId := some userId } }

def updateDeviceStatus (deviceId : String) (status : DeviceStatus) : PairingTables τ :=
  match tables.devices.get? deviceId with
  | none => tables
  | some device =>
    { tables with devices := tables.devices.set deviceId { device with status := status } }

def acceptChallenge (challengeId : String) (challenge : DevicePairingChallengeRecord τ)
    (bound : DeviceRecord) (now : τ) : PairingTables τ :=
  let consumed : PairingTables τ :=
    { tables with
      devices := tables.devices.set challenge.deviceId bound
      devicePairingChallenges :=
        tables.devicePairingChallenges.set challengeId { challenge with consumedAt := some now } }
  consumed.removeChallenges (·.deviceId = bound.deviceId)

variable [LinearOrder τ]

def createDevicePairingChallenge (tables : PairingTables τ) (challengeId deviceId codeHash : String)
    (expiresAt : Option τ) (now : τ) : PairingTables τ × Option (DevicePairingChallengeRecord τ) :=
  match tables.devices.get? deviceId, expiresAt with
  | some device, some expires =>
    if device.status ≠ .active ∨ device.userId ≠ none ∨ expires ≤ now then
      (tables, none)
    else
      let remaining := tables.removeChallenges fun challenge =>
        challenge.deviceId = device.deviceId ∧ challenge.consumedAt.isNone
      let challenge : DevicePairingChallengeRecord τ :=
        { challengeId, deviceId := device.deviceId, tenantId := device.tenantId, codeHash,
          expiresAt := expires, consumedAt := none, createdAt := now }
      ({ remaining with
          devicePairingChallenges :=
            remaining.devicePairingChallenges.set challengeId challenge
          devicePairingByHash := remaining.devicePairingByHash.set codeHash challengeId },
        some challenge)
  | _, _ => (tables, none)

def findChallenge (tables : PairingTables τ) (codeHash : String) :
    Option (String × DevicePairingChallengeRecord τ) :=
  ((tables.devicePairingByHash.get? codeHash).filter (· ≠ "")).bind fun challengeId =>
    ((tables.devicePairingChallenges.get? challengeId).filter (·.consumedAt.isNone)).map
      fun challenge => (challengeId, challenge)

def consumeDevicePairingChallenge (tables : PairingTables τ) (codeHash userId : String)
    (now : τ) : PairingTables τ × Except PairingRefusal DeviceRecord :=
  match tables.findChallenge codeHash with
  | none => (tables, .error .codeInvalid)
  | some (challengeId, challenge) =>
    if challenge.expiresAt ≤ now then
      (tables.deleteChallenge challenge, .error .codeExpired)
    else
      match tables.devices.get? challenge.deviceId with
      | none => (tables.deleteChallenge challenge, .error .deviceNotFound)
      | some device =>
        if device.status ≠ .active then (tables, .error .deviceRevoked)
        else if device.userId ≠ none then (tables, .error .deviceAlreadyBound)
        else
          let bound := { device with userId := some userId }
          (tables.acceptChallenge challengeId challenge bound now, .ok bound)

end PairingTables

structure IssuedCode where
  challengeId : String
  codeHash : String
  deriving DecidableEq

structure CodeBinding where
  code : IssuedCode
  deviceId : String
  userId : String
  deriving DecidableEq

structure PairingHistory (τ : Type) where
  tables : PairingTables τ
  issued : List IssuedCode
  bindings : List CodeBinding

inductive PairingAction (τ : Type) where
  | registerDevice (generatedId tenantId deviceFingerprint : String)
  | bindDevice (deviceId userId : String)
  | updateDeviceStatus (deviceId : String) (status : DeviceStatus)
  | createChallenge (challengeId deviceId codeHash : String) (expiresAt : Option τ) (now : τ)
  | consumeChallenge (codeHash userId : String) (now : τ)

namespace PairingHistory

variable {τ : Type} [LinearOrder τ]

def empty : PairingHistory τ := ⟨.empty, [], []⟩

/-- One call.  The caller draws the id of a challenge at random, so an id that
was issued before is not drawn again. -/
@[grind =]
def step (history : PairingHistory τ) : PairingAction τ → Option (PairingHistory τ)
  | .registerDevice generatedId tenantId deviceFingerprint =>
    let result := history.tables.registerDevice generatedId tenantId deviceFingerprint
    some { history with tables := result.1 }
  | .bindDevice deviceId userId =>
    some { history with tables := history.tables.bindDevice deviceId userId }
  | .updateDeviceStatus deviceId status =>
    some { history with tables := history.tables.updateDeviceStatus deviceId status }
  | .createChallenge challengeId deviceId codeHash expiresAt now =>
    if challengeId ∈ history.issued.map (·.challengeId) then none
    else
      let outcome := history.tables.createDevicePairingChallenge challengeId deviceId
        codeHash expiresAt now
      match outcome.2 with
      | none => some { history with tables := outcome.1 }
      | some _ =>
        some { history with
          tables := outcome.1
          issued := history.issued ++ [⟨challengeId, codeHash⟩] }
  | .consumeChallenge codeHash userId now =>
    let outcome := history.tables.consumeDevicePairingChallenge codeHash userId now
    match outcome.2, history.tables.findChallenge codeHash with
    | .ok device, some (challengeId, _) =>
      some { history with
        tables := outcome.1
        bindings := history.bindings ++
          [⟨⟨challengeId, codeHash⟩, device.deviceId, userId⟩] }
    | _, _ => some { history with tables := outcome.1 }

/-- The histories of a store that starts empty. -/
def Reachable (history : PairingHistory τ) : Prop :=
  GuardedRun step (fun _ _ => True) empty history

end PairingHistory

end LongHub
