import LongHub.PairingCommands

/-!
# Commands that lose no credentials

As long as the server revokes no device whose credentials the client keeps, and the steps between
a registration and the writing of its credentials, or between a revocation and the deletion of
the credentials, do not fail halfway, every command leaves a state from which pairing can go on.
-/

namespace LongHub

open Bool Device Option

namespace CloudCli

/-- The server does not revoke the device whose credentials are in the vault. -/
def spares (revoked : List String) (world : PairingWorld) : Bool :=
  world.vault.all fun credentials => !revoked.contains credentials.deviceId

/-- Steps that do not lose credentials: the server revokes no device whose credentials are in
the vault or about to be written, a revocation is not done without an answer, credentials that
are revoked are deleted, and a device with the stored fingerprint is not registered in vain. -/
@[grind =]
def careful : AllowedStep := fun request choice world =>
  spares choice.revoked world && match request with
    | .revokeSelf _ => !(choice.fails && choice.takesEffect)
    | .deleteVault => !choice.fails || choice.takesEffect
    | .register _ => !(choice.fails && choice.takesEffect) || world.metadata.isNone
    | .writeVault credentials =>
      !choice.revoked.contains credentials.deviceId &&
        (!choice.fails || choice.takesEffect || world.metadata.isNone)
    | _ => true

section Careful

variable {world : PairingWorld} {revoked bound : List String}

variable {request : PairingCall} {choice : PairingChoice} {after : PairingWorld}

theorem spares_of_careful (allowed : careful request choice world = true) :
    spares choice.revoked world = true := by
  simp only [careful, and_eq_true] at allowed
  exact allowed.1

theorem PairingWorld.Settled.elapse (settled : world.Settled)
    (spared : spares revoked world = true) : (world.elapse revoked bound).Settled := by
  refine ⟨settled.wellFormed.elapse, ?_⟩
  have recoverable := settled.recoverable
  unfold PairingWorld.Recoverable at recoverable ⊢
  cases isVault : world.vault with
  | some credentials =>
    have same : (world.elapse revoked bound).vault = some credentials := isVault
    simp only [isVault] at recoverable
    simp only [same]
    apply recoverable.elapse
    simpa [spares, isVault] using spared
  | none =>
    have same : (world.elapse revoked bound).vault = none := isVault
    simp only [isVault] at recoverable
    simp only [same]
    exact fun metadata stored => (recoverable metadata stored).elapse

abbrev Settles {α : Type} (program : PairingProgram α) (world : PairingWorld) : Prop :=
  (pairingDevice careful).Ensures (fun _ after => after.Settled) program world

theorem sound_reads {α : Type} {next : request.Answer → PairingProgram α}
    {Holds : PairingWorld → Prop} {Final : Except PairingError α → PairingWorld → Prop}
    (reads : request.changes = false)
    (lasts : ∀ before revoked bound, Holds before → spares revoked before = true →
      Holds (before.elapse revoked bound)) (holds : Holds world)
    (fails : ∀ error after, Holds after → Final (.error error) after)
    (continues : ∀ choice value after, Holds after →
      after.effect choice request = some (.ok value, after) →
        (pairingDevice careful).Ensures Final (next value) after) :
    (pairingDevice careful).Ensures Final (callPairing request >>= next) world := by
  apply sound_perform_bind trivial
  · intro choice value after acts
    obtain ⟨allowed, answered, middle, isEffect, outcome⟩ := pairing_cases acts
    have elapsed := lasts world choice.revoked choice.bound holds (spares_of_careful allowed)
    cases effect_reads reads isEffect
    rcases outcome with ⟨-, rfl, rfl⟩ | ⟨-, differ, -⟩
    · exact continues choice value _ elapsed isEffect
    · cases differ
  · intro choice error after acts
    obtain ⟨allowed, answered, middle, isEffect, outcome⟩ := pairing_cases acts
    have elapsed := lasts world choice.revoked choice.bound holds (spares_of_careful allowed)
    cases effect_reads reads isEffect
    refine ⟨trivial, fails error _ ?_⟩
    rcases outcome with ⟨-, -, rfl⟩ | ⟨-, -, rfl⟩
    · exact elapsed
    · rwa [ite_self]

/-- A call that is answered: what follows it, and what stays when the answer is lost. -/
theorem sound_calls {α : Type} {next : request.Answer → PairingProgram α}
    (answers : ∀ choice answered middle, careful request choice world = true →
      (world.elapse choice.revoked choice.bound).effect choice request = some (answered, middle) →
      ∃ value, answered = .ok value ∧ Settles (next value) middle ∧
        (choice.fails = true → if choice.takesEffect then middle.Settled
          else (world.elapse choice.revoked choice.bound).Settled)) :
    Settles (callPairing request >>= next) world := by
  apply sound_perform_bind trivial
  · intro choice value after acts
    obtain ⟨allowed, answered, middle, isEffect, outcome⟩ := pairing_cases acts
    obtain ⟨answer, rfl, continues, -⟩ := answers choice answered middle allowed isEffect
    rcases outcome with ⟨-, same, rfl⟩ | ⟨-, differ, -⟩
    · cases same
      exact continues
    · cases differ
  · intro choice error after acts
    obtain ⟨allowed, answered, middle, isEffect, outcome⟩ := pairing_cases acts
    obtain ⟨answer, rfl, -, failed⟩ := answers choice answered middle allowed isEffect
    refine ⟨trivial, ?_⟩
    rcases outcome with ⟨-, differ, -⟩ | ⟨fails, -, rfl⟩
    · cases differ
    · have stays := failed fails
      split_ifs at stays ⊢
      · exact stays
      · exact stays

theorem settled_lasts (before : PairingWorld) (revoked bound : List String)
    (settled : before.Settled) (spared : spares revoked before = true) :
    (before.elapse revoked bound).Settled := settled.elapse spared

theorem emptied_lasts (before : PairingWorld) (revoked bound : List String)
    (emptied : before.Settled ∧ before.vault = none) (spared : spares revoked before = true) :
    (before.elapse revoked bound).Settled ∧ (before.elapse revoked bound).vault = none :=
  ⟨emptied.1.elapse spared, emptied.2⟩

structure Registering (fingerprint : String) (world : PairingWorld) : Prop where
  wellFormed : world.WellFormed
  vault : world.vault = none
  isFree : world.IsFree fingerprint
  stored : ∀ metadata, world.metadata = some metadata → metadata.fingerprint = fingerprint

structure Owning (fingerprint : String) (credentials : DeviceCredentials) (world : PairingWorld) :
    Prop where
  wellFormed : world.WellFormed
  stored : ∀ metadata, world.metadata = some metadata → metadata.fingerprint = fingerprint
  device : ∃ device ∈ world.devices, device.credentials = credentials ∧
    device.fingerprint = fingerprint ∧ device.active = true

variable {fingerprint : String} {credentials : DeviceCredentials}

theorem Registering.settled (registering : Registering fingerprint world) : world.Settled := by
  refine ⟨registering.wellFormed, ?_⟩
  simp only [PairingWorld.Recoverable, registering.vault]
  intro metadata stored
  rw [registering.stored metadata stored]
  exact registering.isFree

theorem Registering.elapse (registering : Registering fingerprint world) :
    Registering fingerprint (world.elapse revoked bound) :=
  ⟨registering.wellFormed.elapse, registering.vault, registering.isFree.elapse, registering.stored⟩

theorem Owning.elapse (owning : Owning fingerprint credentials world)
    (spared : revoked.contains credentials.deviceId = false) :
    Owning fingerprint credentials (world.elapse revoked bound) := by
  obtain ⟨device, mem, rfl, rfl, active⟩ := owning.device
  refine ⟨owning.wellFormed.elapse, owning.stored, PairingWorld.elapsed revoked bound device,
    List.mem_map_of_mem mem, rfl, rfl, ?_⟩
  simp only [PairingWorld.elapsed, active, spared]
  rfl

theorem Owning.settled (owning : Owning fingerprint credentials world)
    (isVault : world.vault = some credentials) : world.Settled := by
  obtain ⟨device, mem, isDevice, -, active⟩ := owning.device
  refine ⟨owning.wellFormed, ?_⟩
  simp only [PairingWorld.Recoverable, isVault]
  exact ⟨device, mem, isDevice, active⟩

theorem Owning.writeVault (owning : Owning fingerprint credentials world) :
    Owning fingerprint credentials { world with vault := some credentials } := by
  obtain ⟨device, mem, isDevice, sameFingerprint, active⟩ := owning.device
  refine ⟨owning.wellFormed.writeVault mem isDevice ?_, owning.stored, device, mem, isDevice,
    sameFingerprint, active⟩
  rw [sameFingerprint]
  exact owning.stored

theorem Owning.saveMetadata (owning : Owning fingerprint credentials world)
    (isVault : world.vault = some credentials) (deviceId : Option String) :
    Owning fingerprint credentials { world with metadata := some ⟨fingerprint, deviceId⟩ } := by
  obtain ⟨device, mem, isDevice, sameFingerprint, active⟩ := owning.device
  refine ⟨owning.wellFormed.saveMetadata ?_, ?_, device, mem, isDevice, sameFingerprint, active⟩
  · intro other otherIn isOther
    rw [isVault] at isOther
    have same : other = device := by
      apply List.inj_on_of_nodup_map owning.wellFormed.ids otherIn mem
      rw [← Option.some.inj isOther, isDevice]
    rw [same, sameFingerprint]
  · rintro _ ⟨⟩
    rfl

theorem settled_of_nothing (wellFormed : world.WellFormed) (empty : world.vault = none)
    (noMetadata : world.metadata = none) : world.Settled := by
  refine ⟨wellFormed, ?_⟩
  simp only [PairingWorld.Recoverable, empty, noMetadata]
  exact nofun

variable {metadata : DeviceMetadata}

/-- The end of a registration, after the credentials are written. -/
abbrev readBack (metadata : DeviceMetadata) (credentials : DeviceCredentials) :
    PairingProgram DeviceCredentials := do
  let verified ← callPairing .readVault
  .ofExcept (Except.ensure (verified = some credentials) .readBackDifferent)
  callPairing (.saveMetadata { metadata with deviceId := some credentials.deviceId })
  return credentials

theorem settles_readBack (owning : Owning metadata.fingerprint credentials world)
    (isVault : world.vault = some credentials) : Settles (readBack metadata credentials) world := by
  let Holds := fun world : PairingWorld =>
    Owning metadata.fingerprint credentials world ∧ world.vault = some credentials
  have spared (before : PairingWorld) (revoked bound : List String) (holds : Holds before)
      (isSpared : spares revoked before = true) : Holds (before.elapse revoked bound) := by
    have notRevoked : revoked.contains credentials.deviceId = false := by
      simpa [spares, holds.2] using isSpared
    exact ⟨holds.1.elapse notRevoked, holds.2⟩
  have settled (after : PairingWorld) (holds : Holds after) : after.Settled :=
    holds.1.settled holds.2
  have holds : Holds world := ⟨owning, isVault⟩
  apply sound_reads rfl spared holds fun _ => settled
  intro choice verified middle holdsMiddle isEffect
  apply sound_ofExcept_bind trivial _ fun _ _ => settled middle holdsMiddle
  intro checked _
  apply sound_calls
  intro choice answered last allowed isEffect
  have elapsed := spared _ _ choice.bound holdsMiddle (spares_of_careful allowed)
  have saved := elapsed.1.saveMetadata elapsed.2 (some credentials.deviceId)
  cases isEffect
  refine ⟨(), rfl, sound_pure trivial (saved.settled elapsed.2), fun _ => ?_⟩
  split_ifs
  · exact saved.settled elapsed.2
  · exact settled _ elapsed

theorem Registering.register {answer : Except PairingError DeviceCredentials}
    (registering : Registering fingerprint world)
    (isEffect : world.effect choice (.register fingerprint) = some (answer, after)) :
    answer = .ok choice.fresh ∧ Owning fingerprint choice.fresh after ∧ after.vault = none ∧
      after.metadata = world.metadata := by
  have notTaken : (world.devices.any fun device =>
      device.fingerprint = fingerprint && device.active) = false := by
    rw [List.any_eq_false]
    intro device mem taken
    simp only [and_eq_true, decide_eq_true_eq] at taken
    rw [registering.isFree device mem taken.1] at taken
    cases taken.2
  simp only [PairingWorld.effect, notTaken, false_eq_true, if_false,
    ite_none_right_eq_some, Option.some.injEq, Prod.mk.injEq] at isEffect
  obtain ⟨isFresh, rfl, rfl⟩ := isEffect
  refine ⟨rfl, ⟨?_, registering.stored, ?_⟩, registering.vault, rfl⟩
  · exact registering.wellFormed.register registering.isFree isFresh registering.vault
  · exact ⟨⟨choice.fresh, fingerprint, true, false⟩, by simp, rfl, rfl, rfl⟩

theorem settles_writeVault
    (owning : Owning metadata.fingerprint credentials world) (empty : world.vault = none) :
    Settles (do
      callPairing (.writeVault credentials)
      readBack metadata credentials) world := by
  apply sound_calls
  intro choice answered middle allowed isEffect
  simp only [careful, and_eq_true, or_eq_true, not_eq_true', isNone_iff_eq_none] at allowed
  have elapsed : Owning metadata.fingerprint credentials
      (world.elapse choice.revoked choice.bound) := owning.elapse allowed.2.1
  cases isEffect
  refine ⟨(), rfl, settles_readBack elapsed.writeVault rfl, fun fails => ?_⟩
  split_ifs with takesEffect
  · exact elapsed.writeVault.settled rfl
  · have noMetadata : world.metadata = none := by
      simpa [fails, takesEffect] using allowed.2.2
    exact settled_of_nothing elapsed.wellFormed empty noMetadata

theorem settles_register (registering : Registering metadata.fingerprint world) :
    Settles (do
      let credentials ← callPairing (.register metadata.fingerprint)
      callPairing (.writeVault credentials)
      readBack metadata credentials) world := by
  apply sound_calls
  intro choice answered middle allowed isEffect
  obtain ⟨rfl, owning, empty, sameMetadata⟩ := registering.elapse.register isEffect
  refine ⟨choice.fresh, rfl, settles_writeVault owning empty, fun fails => ?_⟩
  split_ifs with takesEffect
  · simp only [careful, fails, takesEffect, and_eq_true, isNone_iff_eq_none,
      Bool.not_true, Bool.and_self, Bool.false_or] at allowed
    exact settled_of_nothing owning.wellFormed empty (sameMetadata.trans allowed.2)
  · exact registering.elapse.settled

theorem sound_metadataOrNew (settled : world.Settled) (empty : world.vault = none) :
    (pairingDevice careful).Ensures (fun outcome after => match outcome with
        | .ok metadata => Registering metadata.fingerprint after
        | .error _ => after.Settled) metadataOrNew world := by
  apply sound_reads rfl emptied_lasts ⟨settled, empty⟩ fun _ _ => And.left
  rintro choice found middle ⟨settledMiddle, emptyMiddle⟩ isEffect
  have isMetadata : middle.metadata = found := by
    cases isEffect
    rfl
  have recoverable := settledMiddle.recoverable
  simp only [PairingWorld.Recoverable, emptyMiddle] at recoverable
  cases found with
  | some metadata =>
    apply sound_pure trivial
    refine ⟨settledMiddle.wellFormed, emptyMiddle, recoverable metadata isMetadata, ?_⟩
    intro other stored
    rw [isMetadata] at stored
    rw [Option.some.inj stored]
  | none =>
    let HoldsNone := fun world : PairingWorld =>
      (world.Settled ∧ world.vault = none) ∧ world.metadata = none
    have lastsNone (before : PairingWorld) (revoked bound : List String) (holds : HoldsNone before)
        (spared : spares revoked before = true) : HoldsNone (before.elapse revoked bound) :=
      ⟨emptied_lasts before revoked bound holds.1 spared, holds.2⟩
    apply sound_reads rfl lastsNone ⟨⟨settledMiddle, emptyMiddle⟩, isMetadata⟩
      fun _ _ holds => holds.1.1
    rintro choice fingerprint after ⟨⟨settledAfter, emptyAfter⟩, noMetadata⟩ isEffect
    simp only [PairingWorld.effect, ite_none_left_eq_some, not_eq_true,
      Option.some.injEq, Prod.mk.injEq, Except.ok.injEq] at isEffect
    obtain ⟨unused, rfl, -⟩ := isEffect
    apply sound_pure trivial
    refine ⟨settledAfter.wellFormed, emptyAfter, ?_, ?_⟩
    · intro device mem same
      have differ := List.any_eq_false.mp unused device mem
      exact absurd same (by simpa using differ)
    · intro other stored
      rw [noMetadata] at stored
      cases stored

/-- A careful registration ends with good credentials or without any. -/
theorem settles_registerDevice (settled : world.Settled) (empty : world.vault = none) :
    Settles registerDevice world := by
  apply sound_bind (sound_metadataOrNew settled empty)
  · intro metadata after _ registering
    exact settles_register registering
  · intro error after _ settledAfter
    exact settledAfter

theorem settles_credentialsFor (settled : world.Settled) : Settles credentialsFor world := by
  apply sound_reads rfl settled_lasts settled fun _ _ => id
  intro choice found after settledAfter isEffect
  cases found with
  | some existing => exact sound_pure trivial settledAfter
  | none =>
    have empty : after.vault = none := by
      simpa [PairingWorld.effect] using isEffect
    exact settles_registerDevice settledAfter empty

theorem settles_pair (settled : world.Settled) : Settles pair world := by
  apply sound_bind (settles_credentialsFor settled)
  · intro credentials after _ settledAfter
    apply sound_reads rfl settled_lasts settledAfter fun _ _ => id
    intro choice pairingCode last settledLast _
    exact sound_pure trivial settledLast
  · intro error after _ settledAfter
    exact settledAfter

theorem settles_status (settled : world.Settled) : Settles status world := by
  apply sound_reads rfl settled_lasts settled fun _ _ => id
  intro choice found after settledAfter _
  cases found with
  | none => exact sound_pure trivial settledAfter
  | some credentials =>
    have tries : Settles (callPairing (.readSelf credentials.deviceToken)) after := by
      apply sound_perform trivial
      intro choice answer last acts
      obtain ⟨allowed, answered, middle, isRead, outcome⟩ := pairing_cases acts
      have elapsed := settled_lasts after choice.revoked choice.bound settledAfter
        (spares_of_careful allowed)
      cases effect_reads rfl isRead
      refine ⟨trivial, ?_⟩
      rcases outcome with ⟨-, -, rfl⟩ | ⟨-, -, rfl⟩
      · exact elapsed
      · rwa [ite_self]
    apply sound_bind tries.attempt
    · rintro tried last - ⟨inner, -, settledLast⟩
      exact sound_pure trivial settledLast
    · rintro error last - ⟨inner, -, settledLast⟩
      exact settledLast

/-- No active device has the stored fingerprint. -/
structure Leaving (world : PairingWorld) : Prop where
  wellFormed : world.WellFormed
  isFree : ∀ metadata, world.metadata = some metadata → world.IsFree metadata.fingerprint

theorem Leaving.elapse (leaving : Leaving world) : Leaving (world.elapse revoked bound) :=
  ⟨leaving.wellFormed.elapse, fun metadata stored => (leaving.isFree metadata stored).elapse⟩

theorem Leaving.settled (leaving : Leaving world) :
    PairingWorld.Settled { world with vault := none } :=
  ⟨leaving.wellFormed.deleteVault, leaving.isFree⟩

theorem PairingWorld.Settled.revokeSelf {answer : Except PairingError Unit}
    (settled : world.Settled) (isVault : world.vault = some credentials)
    (isEffect : world.effect choice (.revokeSelf credentials.deviceToken) = some (answer, after)) :
    answer = .ok () ∧ Leaving after := by
  have recoverable := settled.recoverable
  simp only [PairingWorld.Recoverable, isVault] at recoverable
  obtain ⟨device, mem, isDevice, active⟩ := recoverable
  have accepted : world.authenticateRegistered credentials.deviceToken = some device :=
    (PairingWorld.authenticateRegistered_eq_some_iff settled.wellFormed).mpr
      ⟨mem, by rw [isDevice], active⟩
  simp only [PairingWorld.effect, accepted, Option.some.injEq, Prod.mk.injEq] at isEffect
  obtain ⟨rfl, rfl⟩ := isEffect
  refine ⟨rfl, settled.wellFormed.elapse, ?_⟩
  intro metadata stored
  unfold PairingWorld.IsFree
  simp only [PairingWorld.devices_elapse, List.forall_mem_map]
  intro other otherIn sameFingerprint
  obtain ⟨owner, ownerIn, isOwner, ownerStored⟩ := settled.wellFormed.vault credentials isVault
  have sameOwner : owner = device := by
    apply List.inj_on_of_nodup_map settled.wellFormed.ids ownerIn mem
    rw [isOwner, isDevice]
  cases otherActive : other.active with
  | false => simp [PairingWorld.elapsed, otherActive]
  | true =>
    have same : other = device := by
      apply settled.wellFormed.fingerprints other otherIn device mem otherActive active
      rw [← sameOwner, ← ownerStored metadata stored]
      exact sameFingerprint
    simp [PairingWorld.elapsed, same]

/-- The end of a logout. -/
theorem settles_forget (settled : world.Settled) (empty : world.vault = none) :
    Settles (do match ← callPairing .readMetadata with
      | none => return none
      | some metadata =>
        callPairing (.saveMetadata { metadata with deviceId := none })
        return none : PairingProgram (Option (String × String))) world := by
  apply sound_reads rfl emptied_lasts ⟨settled, empty⟩ fun _ _ => And.left
  rintro choice found middle ⟨settledMiddle, emptyMiddle⟩ isEffect
  cases found with
  | none => exact sound_pure trivial settledMiddle
  | some metadata =>
    have isMetadata : middle.metadata = some metadata := by
      simpa [PairingWorld.effect] using isEffect
    have saves (before : PairingWorld) (holds : before.Settled ∧ before.vault = none)
        (same : before.metadata = some metadata) :
        PairingWorld.Settled { before with metadata := some ⟨metadata.fingerprint, none⟩ } := by
      have recoverable := holds.1.recoverable
      simp only [PairingWorld.Recoverable, holds.2] at recoverable
      constructor
      · apply holds.1.wellFormed.saveMetadata
        intro device _ isVault
        rw [holds.2] at isVault
        cases isVault
      · simp only [PairingWorld.Recoverable, holds.2]
        rintro _ ⟨⟩
        exact recoverable metadata same
    apply sound_calls
    intro choice answered last allowed isEffect
    have elapsed := emptied_lasts middle choice.revoked choice.bound ⟨settledMiddle, emptyMiddle⟩
      (spares_of_careful allowed)
    have saved := saves _ elapsed isMetadata
    cases isEffect
    refine ⟨(), rfl, sound_pure trivial saved, fun _ => ?_⟩
    split_ifs
    · exact saved
    · exact elapsed.1

theorem settles_logout (settled : world.Settled) : Settles logout world := by
  apply sound_reads rfl settled_lasts settled fun _ _ => id
  intro choice found after settledAfter isEffect
  cases found with
  | none => exact sound_pure trivial settledAfter
  | some credentials =>
    have isVault : after.vault = some credentials := by
      simpa [PairingWorld.effect] using isEffect
    apply sound_calls
    intro choice answered middle allowed isRevoked
    have elapsed := settled_lasts after choice.revoked choice.bound settledAfter
      (spares_of_careful allowed)
    obtain ⟨rfl, leaving⟩ := elapsed.revokeSelf isVault isRevoked
    refine ⟨(), rfl, ?_, fun fails => ?_⟩
    · apply sound_calls
      intro choice answered last allowed isDeleted
      have left : PairingWorld.Settled { middle.elapse choice.revoked choice.bound with
        vault := none } := leaving.elapse.settled
      cases isDeleted
      refine ⟨(), rfl, settles_forget left rfl, fun fails => ?_⟩
      simp only [careful, fails, and_eq_true, Bool.not_true, Bool.false_or] at allowed
      rw [if_pos allowed.2]
      exact left
    · simp only [careful, fails, and_eq_true, Bool.true_and, not_eq_true'] at allowed
      rw [if_neg (by simp [allowed.2])]
      exact elapsed

theorem settles_command (command : PairingCommand) (settled : world.Settled) :
    Settles command.program world := by
  cases command with
  | pair => exact settles_pair settled
  | status => exact settles_status settled
  | logout => exact settles_logout settled

end Careful

end CloudCli

end LongHub
