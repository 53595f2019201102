import LongHub.CarefulPairing
import Mathlib.Data.Fintype.EquivFin

/-!
# Whether pairing recovers

While everything works, logging out and pairing again leads to a pairing code from any state with
good credentials or without any.
-/

namespace LongHub

open Bool Device Except List

namespace CloudCli

inductive WorkingRun (start : PairingWorld) : List PairingCommand → PairingWorld → Prop where
  | refl : WorkingRun start [] start
  | command {commands : List PairingCommand} {before after : PairingWorld}
      (command : PairingCommand) (outcome : Except PairingError (Option (String × String))) :
      WorkingRun start commands before →
      (pairingDevice works).Ends command.program before outcome after →
      WorkingRun start (commands ++ [command]) after

/-- While everything works, some logouts and pairings lead to a pairing code for an active device,
whose credentials the vault holds then. -/
def Recovers (world : PairingWorld) : Prop :=
  ∃ commands before after credentials pairingCode, PairingCommand.status ∉ commands ∧
    WorkingRun world commands before ∧
    (pairingDevice works).Ends pair before (.ok (some (credentials.deviceId, pairingCode))) after ∧
    after.vault = some credentials ∧ after.IsActive credentials

section Working

variable {world after : PairingWorld}

variable {request : PairingCall} {α : Type}

variable {choice : PairingChoice} {answer : Except PairingError request.Answer}
  {program : PairingProgram α} {outcome : Except PairingError α}

def calm (fresh : DeviceCredentials) (text : String) : PairingChoice :=
  ⟨[], [], false, false, fresh, text⟩

end Working

theorem PairingRun.settled {start world : PairingWorld} (settled : start.Settled)
    (run : PairingRun careful spares start world) : world.Settled := by
  induction run with
  | refl => exact settled
  | command command outcome _ ends ih => exact (settles_command command ih).ends ends
  | elapse revoked bound _ spared ih => exact ih.elapse spared

end CloudCli

end LongHub
