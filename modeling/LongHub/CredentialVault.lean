import LongHub.CloudSkillStore
import LongHub.JsonRoundTrip

/-!
# Writing to the Credential Manager of Windows

`write` reads the stored credentials, writes the new ones with a helper command and reads them
back.  What was stored is restored when reading back fails, but not when the command that writes
fails after it has had its effect.
-/

namespace LongHub

open JsonValue

namespace WindowsCredentialManager

structure DeviceCredentials where
  deviceId : String
  deviceToken : String
  deriving DecidableEq

namespace DeviceCredentials

variable (credentials : DeviceCredentials)

/-- The lengths that `parseCredentials` accepts. -/
def inBounds : Bool :=
  1 ≤ utf16Length credentials.deviceId && utf16Length credentials.deviceId ≤ 512 &&
    1 ≤ utf16Length credentials.deviceToken && utf16Length credentials.deviceToken ≤ 4096

def toJson : JsonValue :=
  .record [("deviceId", .text credentials.deviceId), ("deviceToken", .text credentials.deviceToken)]

/-- `JSON.stringify(credentials)`. -/
def stringify : List Char := print credentials.toJson

end DeviceCredentials

/-- What the Credential Manager stores for a target. -/
structure StoredCredential where
  username : String
  value : List Char

def recordOf (credentials : DeviceCredentials) : StoredCredential :=
  ⟨credentials.deviceId, credentials.stringify⟩

def parseCredentials (value : List Char) : Except String DeviceCredentials :=
  let invalid := "Credential Manager device record invalid"
  match parse value with
  | some (.record fields) =>
    match textField fields "deviceId", textField fields "deviceToken" with
    | some deviceId, some deviceToken =>
      let candidate : DeviceCredentials := ⟨deviceId, deviceToken⟩
      if candidate.inBounds then .ok candidate else .error invalid
    | _, _ => .error invalid
  | _ => .error invalid

/-- How the command that writes ends.  When it answers that it has succeeded, it has had its
effect; when it fails, times out or does not confirm, it may have had it. -/
structure WriteCommand where
  answer : Except String Bool
  tookEffect : Bool
  confirmed : answer = .ok true → tookEffect = true

/-- How the commands of one call end; a command that reads ends with an error or reads the
store.  The command that restores succeeds. -/
structure HelperCommands where
  readBefore : Option String
  write : WriteCommand
  readBack : Option String

def read (failure : Option String) (stored : Option StoredCredential) :
    Except String (Option DeviceCredentials) :=
  match failure, stored with
  | some message, _ => .error message
  | none, none => .ok none
  | none, some saved => (parseCredentials saved.value).map some

/-- The outcome of `write` and what is stored afterwards. -/
def write (credentials : DeviceCredentials) (stored : Option StoredCredential)
    (commands : HelperCommands) : Except String Unit × Option StoredCredential :=
  match parseCredentials credentials.stringify, read commands.readBefore stored with
  | .error message, _ => (.error message, stored)
  | .ok _, .error message => (.error message, stored)
  | .ok _, .ok previous =>
    let written := if commands.write.tookEffect then some (recordOf credentials) else stored
    match commands.write.answer with
    | .error message => (.error message, written)
    | .ok false => (.error "Credential Manager write was not confirmed", written)
    | .ok true =>
      let restored := previous.map recordOf
      match read commands.readBack written with
      | .error message => (.error message, restored)
      | .ok verified =>
        if verified = some credentials then (.ok (), written)
        else (.error "Credential Manager write verification failed", restored)

/-- A call that throws leaves what was stored, and one that returns stores the credentials. -/
def Atomic (credentials : DeviceCredentials) (stored : Option StoredCredential)
    (commands : HelperCommands) : Prop :=
  match write credentials stored commands with
  | (.error _, after) => after = stored
  | (.ok _, after) => after = some (recordOf credentials)

/-! ## Stored credentials are read back -/

variable {credentials : DeviceCredentials} {stored : Option StoredCredential}
  {commands : HelperCommands}

theorem parse_stringify (credentials : DeviceCredentials) :
    parse credentials.stringify = some credentials.toJson := by
  apply parse_print
  · apply Numerals.record
    simp [Numerals.text]
  · apply wellFormed_of_names ["deviceId", "deviceToken"] rfl (by decide) (by decide)
    simp [WellFormed.text]

theorem parseCredentials_stringify (credentials : DeviceCredentials) :
    parseCredentials credentials.stringify = if credentials.inBounds then .ok credentials
      else .error "Credential Manager device record invalid" := by
  simp [parseCredentials, parse_stringify, DeviceCredentials.toJson, textField, List.lookup_cons]

theorem read_recordOf (bounds : credentials.inBounds = true) :
    read none (some (recordOf credentials)) = .ok (some credentials) := by
  simp [read, recordOf, parseCredentials_stringify, bounds, Except.map]

/-- A call is atomic unless the command that writes fails after it has changed what is stored,
or what was stored is restored in another form. -/
theorem atomic_iff (credentials : DeviceCredentials) (stored : Option StoredCredential)
    (commands : HelperCommands) :
    Atomic credentials stored commands ↔
      ∀ previous, credentials.inBounds = true → read commands.readBefore stored = .ok previous →
        (commands.write.answer ≠ .ok true → commands.write.tookEffect = true →
          stored = some (recordOf credentials)) ∧
        (commands.write.answer = .ok true → commands.readBack.isSome →
          stored = previous.map recordOf) := by
  unfold Atomic write
  rw [parseCredentials_stringify]
  by_cases bounds : credentials.inBounds = true
  case neg => simp [bounds]
  rcases before : read commands.readBefore stored with message | previous
  · simp [bounds]
  simp only [bounds, if_true, Except.ok.injEq, forall_eq', forall_const]
  rcases answer : commands.write.answer with message | _ | _
  · by_cases effect : commands.write.tookEffect = true
    · simp [effect]
      exact eq_comm
    · simp [effect]
  · by_cases effect : commands.write.tookEffect = true
    · simp [effect]
      exact eq_comm
    · simp [effect]
  · have effect := commands.write.confirmed answer
    rcases failure : commands.readBack with _ | message
    · simp [effect, read_recordOf bounds]
    · simp [effect, read]
      exact eq_comm

/-- The command that writes has stored the credentials when it is stopped by the time limit. -/
def stoppedWrite : HelperCommands where
  readBefore := none
  write := ⟨.error "Credential Manager operation timed out", true, by simp⟩
  readBack := none

theorem not_atomic_stoppedWrite : ¬ Atomic ⟨"device", "token"⟩ none stoppedWrite := by
  have bounds : DeviceCredentials.inBounds ⟨"device", "token"⟩ = true := by decide
  simp [Atomic, write, parseCredentials_stringify, bounds, read, stoppedWrite]

end WindowsCredentialManager

end LongHub
