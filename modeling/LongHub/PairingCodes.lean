import LongHub.DevicePairing

/-!
# The stored pairing codes

Between two calls every challenge is open, no two are for the same device, and every entry of the
index leads to a challenge with that hash.
-/

namespace LongHub

open InsertionMap Option

variable {τ : Type}

namespace PairingTables

variable {before after tables : PairingTables τ}

structure CodesInv (tables : PairingTables τ) : Prop where
  deviceKeyed : ∀ {deviceId device}, tables.devices.get? deviceId = some device →
    device.deviceId = deviceId
  keyed : ∀ {challengeId challenge},
    tables.devicePairingChallenges.get? challengeId = some challenge →
      challenge.challengeId = challengeId
  unconsumed : ∀ {challengeId challenge},
    tables.devicePairingChallenges.get? challengeId = some challenge → challenge.consumedAt = none
  single : ∀ {firstId secondId first second},
    tables.devicePairingChallenges.get? firstId = some first →
    tables.devicePairingChallenges.get? secondId = some second →
      first.deviceId = second.deviceId → firstId = secondId
  indexed : ∀ {codeHash challengeId},
    tables.devicePairingByHash.get? codeHash = some challengeId →
      ∃ challenge, tables.devicePairingChallenges.get? challengeId = some challenge ∧
        challenge.codeHash = codeHash
  deviceKnown : ∀ {challengeId challenge},
    tables.devicePairingChallenges.get? challengeId = some challenge →
      tables.devices.get? challenge.deviceId ≠ none

structure TakesAway (before after : PairingTables τ) : Prop where
  challenges : ∀ {challengeId challenge},
    after.devicePairingChallenges.get? challengeId = some challenge →
      before.devicePairingChallenges.get? challengeId = some challenge
  index : ∀ {codeHash challengeId challenge},
    after.devicePairingByHash.get? codeHash = some challengeId →
    before.devicePairingChallenges.get? challengeId = some challenge →
    challenge.codeHash = codeHash → after.devicePairingChallenges.get? challengeId = some challenge
  indexKept : ∀ {codeHash challengeId},
    after.devicePairingByHash.get? codeHash = some challengeId →
      before.devicePairingByHash.get? codeHash = some challengeId

structure KeepsDevices (before after : PairingTables τ) : Prop where
  keyed : ∀ {deviceId device}, after.devices.get? deviceId = some device →
    device.deviceId = deviceId
  known : ∀ {deviceId}, before.devices.get? deviceId ≠ none →
    after.devices.get? deviceId ≠ none

theorem TakesAway.refl : TakesAway tables tables :=
  ⟨fun found => found, fun _ found _ => found, fun found => found⟩

theorem CodesInv.keepsDevices (inv : CodesInv before)
    (sameDevices : after.devices = before.devices) : KeepsDevices before after := by
  constructor
  · intro deviceId device found
    rw [sameDevices] at found
    exact inv.deviceKeyed found
  · intro deviceId known
    rwa [sameDevices]

theorem CodesInv.takesAway (inv : CodesInv before) (less : TakesAway before after)
    (devices : KeepsDevices before after) : CodesInv after where
  deviceKeyed := devices.keyed
  keyed found := inv.keyed (less.challenges found)
  unconsumed found := inv.unconsumed (less.challenges found)
  single first second sameDevice :=
    inv.single (less.challenges first) (less.challenges second) sameDevice
  indexed found := by
    obtain ⟨challenge, stored, hashEq⟩ := inv.indexed (less.indexKept found)
    exact ⟨challenge, less.index found stored hashEq, hashEq⟩
  deviceKnown found := devices.known (inv.deviceKnown (less.challenges found))

@[simp]
theorem removeChallenges_devices (removed : DevicePairingChallengeRecord τ → Bool) :
    (tables.removeChallenges removed).devices = tables.devices :=
  rfl

variable {challengeId codeHash deviceId : String} {challenge : DevicePairingChallengeRecord τ}

variable {removed : DevicePairingChallengeRecord τ → Bool} {device bound : DeviceRecord}

theorem get?_removeChallenges :
    (tables.removeChallenges removed).devicePairingChallenges.get? challengeId = some challenge ↔
      tables.devicePairingChallenges.get? challengeId = some challenge ∧
        removed challenge = false := by
  simp [removeChallenges, get?_filter_eq_some_iff]

theorem get?_removeChallenges_index :
    (tables.removeChallenges removed).devicePairingByHash.get? codeHash = some challengeId ↔
      tables.devicePairingByHash.get? codeHash = some challengeId ∧
        ∀ challenge ∈ tables.devicePairingChallenges.values,
          removed challenge = true → challenge.codeHash ≠ codeHash := by
  simp [removeChallenges, get?_filter_eq_some_iff]

theorem takesAway_removeChallenges (removed : DevicePairingChallengeRecord τ → Bool) :
    TakesAway tables (tables.removeChallenges removed) where
  challenges found := (get?_removeChallenges.mp found).1
  index {codeHash challengeId challenge} found stored hashEq := by
    have spared := (get?_removeChallenges_index.mp found).2 challenge (mem_values_of_get? stored)
    apply get?_removeChallenges.mpr ⟨stored, _⟩
    apply Bool.eq_false_iff.mpr
    intro removedIt
    exact spared removedIt hashEq
  indexKept found := (get?_removeChallenges_index.mp found).1

@[simp]
theorem registerDevice_challenges (generatedId tenantId deviceFingerprint : String) :
    (tables.registerDevice generatedId tenantId deviceFingerprint).1.devicePairingChallenges =
      tables.devicePairingChallenges := by
  unfold PairingTables.registerDevice
  split <;> rfl

@[simp]
theorem bindDevice_challenges (deviceId userId : String) :
    (tables.bindDevice deviceId userId).devicePairingChallenges =
      tables.devicePairingChallenges := by
  unfold PairingTables.bindDevice
  split <;> rfl

@[simp]
theorem updateDeviceStatus_challenges (deviceId : String) (status : DeviceStatus) :
    (tables.updateDeviceStatus deviceId status).devicePairingChallenges =
      tables.devicePairingChallenges := by
  unfold PairingTables.updateDeviceStatus
  split <;> rfl

section Steps

variable (inv : CodesInv tables)
include inv

theorem takesAway_deleteChallenge
    (stored : tables.devicePairingChallenges.get? challengeId = some challenge) :
    TakesAway tables (tables.deleteChallenge challenge) where
  challenges {otherId other} found := by
    simp only [deleteChallenge, get?_delete] at found
    split at found
    · cases found
    · exact found
  index {codeHash otherId other} found otherStored hashEq := by
    simp only [deleteChallenge, get?_delete] at found ⊢
    split at found
    · cases found
    · next otherHash =>
      rw [if_neg]
      · exact otherStored
      · intro sameId
        rw [sameId, inv.keyed stored, stored] at otherStored
        obtain rfl := some.inj otherStored
        exact otherHash hashEq.symm
  indexKept {codeHash otherId} found := by
    simp only [deleteChallenge, get?_delete] at found
    split at found
    · cases found
    · exact found

theorem keepsDevices_set (keyed : device.deviceId = deviceId) :
    KeepsDevices tables { tables with devices := tables.devices.set deviceId device } where
  keyed {otherId other} found := by
    simp only [get?_set] at found
    split at found
    · next sameId =>
      obtain rfl := some.inj found
      rw [keyed, sameId]
    · exact inv.deviceKeyed found
  known {otherId} known := by
    simp only [get?_set]
    split
    · simp
    · exact known

theorem CodesInv.setDevice (keyed : device.deviceId = deviceId) :
    CodesInv { tables with devices := tables.devices.set deviceId device } :=
  inv.takesAway ⟨fun found => found, fun _ found _ => found, fun found => found⟩
    (keepsDevices_set inv keyed)

theorem CodesInv.registerDevice (generatedId tenantId deviceFingerprint : String) :
    CodesInv (tables.registerDevice generatedId tenantId deviceFingerprint).1 := by
  unfold PairingTables.registerDevice
  split
  · exact inv
  · exact inv.setDevice rfl

theorem CodesInv.bindDevice (deviceId userId : String) :
    CodesInv (tables.bindDevice deviceId userId) := by
  unfold PairingTables.bindDevice
  split
  · exact inv
  · next device found =>
    have keyed := inv.deviceKeyed found
    exact inv.setDevice keyed

theorem CodesInv.updateDeviceStatus (deviceId : String) (status : DeviceStatus) :
    CodesInv (tables.updateDeviceStatus deviceId status) := by
  unfold PairingTables.updateDeviceStatus
  split
  · exact inv
  · next device found =>
    have keyed := inv.deviceKeyed found
    exact inv.setDevice keyed

theorem CodesInv.addChallenge
    (unused : tables.devicePairingChallenges.get? challenge.challengeId = none)
    (onlyOne : ∀ {otherId other},
      tables.devicePairingChallenges.get? otherId = some other →
        other.deviceId ≠ challenge.deviceId) (unconsumed : challenge.consumedAt = none)
    (known : tables.devices.get? challenge.deviceId ≠ none) :
    CodesInv { tables with
      devicePairingChallenges :=
        tables.devicePairingChallenges.set challenge.challengeId challenge
      devicePairingByHash :=
        tables.devicePairingByHash.set challenge.codeHash challenge.challengeId } := by
  constructor <;> dsimp only
  · exact inv.deviceKeyed
  · intro otherId other found
    rw [get?_set] at found
    split at found
    · next sameId =>
      obtain rfl := some.inj found
      exact sameId.symm
    · exact inv.keyed found
  · intro otherId other found
    rw [get?_set] at found
    split at found
    · obtain rfl := some.inj found
      exact unconsumed
    · exact inv.unconsumed found
  · intro firstId secondId first second foundFirst foundSecond sameDevice
    rw [get?_set] at foundFirst foundSecond
    split at foundFirst <;> split at foundSecond
    · next firstNew secondNew => rw [firstNew, secondNew]
    · obtain rfl := some.inj foundFirst
      exact absurd sameDevice.symm (onlyOne foundSecond)
    · obtain rfl := some.inj foundSecond
      exact absurd sameDevice (onlyOne foundFirst)
    · exact inv.single foundFirst foundSecond sameDevice
  · intro codeHash challengeId found
    rw [get?_set] at found
    split at found
    · next sameHash =>
      obtain rfl := some.inj found
      exact ⟨challenge, by simp [get?_set], sameHash.symm⟩
    · obtain ⟨other, stored, hashEq⟩ := inv.indexed found
      refine ⟨other, ?_, hashEq⟩
      rw [get?_set, if_neg]
      · exact stored
      · intro sameId
        rw [sameId, unused] at stored
        cases stored
  · intro otherId other found
    rw [get?_set] at found
    split at found
    · obtain rfl := some.inj found
      exact known
    · exact inv.deviceKnown found

end Steps

theorem findChallenge_eq_some
    (found : tables.findChallenge codeHash = some (challengeId, challenge)) :
    tables.devicePairingByHash.get? codeHash = some challengeId ∧
      tables.devicePairingChallenges.get? challengeId = some challenge := by
  simp only [findChallenge, bind_eq_some_iff, filter_eq_some_iff,
    map_eq_some_iff, Prod.mk.injEq] at found
  obtain ⟨id, ⟨indexed, -⟩, stored, ⟨isStored, -⟩, rfl, rfl⟩ := found
  exact ⟨indexed, isStored⟩

theorem createDevicePairingChallenge_cases [LinearOrder τ] {challengeId deviceId codeHash : String}
    {expiresAt : Option τ} {now : τ} {after : PairingTables τ}
    {result : Option (DevicePairingChallengeRecord τ)}
    (created : tables.createDevicePairingChallenge challengeId deviceId codeHash expiresAt now =
      (after, result)) :
    (result = none ∧ after = tables) ∨
      ∃ device challenge, tables.devices.get? deviceId = some device ∧
        result = some challenge ∧ challenge.challengeId = challengeId ∧
        challenge.deviceId = device.deviceId ∧ challenge.codeHash = codeHash ∧
        challenge.consumedAt = none ∧
        after = let remaining := tables.removeChallenges fun challenge =>
            challenge.deviceId = device.deviceId ∧ challenge.consumedAt.isNone
          { remaining with
            devicePairingChallenges :=
              remaining.devicePairingChallenges.set challengeId challenge
            devicePairingByHash := remaining.devicePairingByHash.set codeHash challengeId } := by
  unfold createDevicePairingChallenge at created
  split at created
  · next device expires found =>
    split at created
    · cases created
      exact Or.inl ⟨rfl, rfl⟩
    · cases created
      exact Or.inr ⟨device, _, found, rfl, rfl, rfl, rfl, rfl, rfl⟩
  · cases created
    exact Or.inl ⟨rfl, rfl⟩

theorem CodesInv.createChallenge [LinearOrder τ] (inv : CodesInv tables) {expiresAt : Option τ}
    {now : τ} {after : PairingTables τ}
    (created : tables.createDevicePairingChallenge challengeId deviceId codeHash expiresAt now =
      (after, some challenge)) (unused : tables.devicePairingChallenges.get? challengeId = none) :
    CodesInv after ∧ ∀ {otherId other}, after.devicePairingChallenges.get? otherId = some other →
        (otherId = challengeId ∧ other.codeHash = codeHash) ∨
          tables.devicePairingChallenges.get? otherId = some other := by
  rcases createDevicePairingChallenge_cases created with
    ⟨isNone, -⟩ | ⟨device, added, known, resultEq, idEq, deviceEq, hashEq, unconsumed, rfl⟩
  · cases isNone
  obtain rfl := some.inj resultEq
  have less : TakesAway tables (tables.removeChallenges fun challenge =>
      challenge.deviceId = device.deviceId ∧ challenge.consumedAt.isNone) :=
    takesAway_removeChallenges _
  have remaining := inv.takesAway less (inv.keepsDevices rfl)
  subst idEq hashEq
  constructor
  · apply remaining.addChallenge _ _ unconsumed
    · rw [deviceEq, inv.deviceKeyed known, removeChallenges_devices, known]
      simp
    · apply eq_none_iff_forall_not_mem.mpr
      intro other found
      have stored := less.challenges found
      rw [unused] at stored
      cases stored
    · intro otherId other found sameDevice
      obtain ⟨stored, spared⟩ := get?_removeChallenges.mp found
      simp [sameDevice, deviceEq, inv.unconsumed stored] at spared
  · intro otherId other found
    dsimp only at found
    rw [get?_set] at found
    split at found
    · next sameId =>
      obtain rfl := some.inj found
      exact Or.inl ⟨sameId, rfl⟩
    · exact Or.inr (less.challenges found)

def ConsumeEffect [LinearOrder τ] (before : PairingTables τ) (codeHash userId : String) (now : τ) :
    PairingTables τ × Except PairingRefusal DeviceRecord → Prop
  | (after, .ok bound) =>
    ∃ challengeId challenge device, before.findChallenge codeHash = some (challengeId, challenge) ∧
      now < challenge.expiresAt ∧
      before.devices.get? challenge.deviceId = some device ∧
      device.status = .active ∧ device.userId = none ∧
      bound = { device with userId := some userId } ∧
      after = before.acceptChallenge challengeId challenge bound now
  | (after, .error reason) =>
    after = before ∨ ∃ challengeId challenge,
        before.findChallenge codeHash = some (challengeId, challenge) ∧
        challenge.expiresAt ≤ now ∧ reason = .codeExpired ∧
        after = before.deleteChallenge challenge

theorem CodesInv.consumeEffect [LinearOrder τ] (inv : CodesInv tables) (codeHash userId : String)
    (now : τ) :
    ConsumeEffect tables codeHash userId now
      (tables.consumeDevicePairingChallenge codeHash userId now) := by
  unfold consumeDevicePairingChallenge
  split
  · exact Or.inl rfl
  · next challengeId challenge found =>
    have stored := (findChallenge_eq_some found).2
    split
    · next expired => exact Or.inr ⟨challengeId, challenge, found, expired, rfl, rfl⟩
    · next unexpired =>
      split
      · next missing => exact absurd missing (inv.deviceKnown stored)
      · next device deviceFound =>
        split
        · exact Or.inl rfl
        · next isActive =>
          split
          · exact Or.inl rfl
          · next isUnbound =>
            exact ⟨challengeId, challenge, device, found, not_le.mp unexpired, deviceFound,
              not_not.mp isActive, not_not.mp isUnbound, rfl, rfl⟩

theorem takesAway_acceptChallenge (now : τ)
    (stored : tables.devicePairingChallenges.get? challengeId = some challenge)
    (sameDevice : challenge.deviceId = bound.deviceId) :
    TakesAway tables (tables.acceptChallenge challengeId challenge bound now) where
  challenges {otherId other} found := by
    obtain ⟨otherStored, otherDevice⟩ := get?_removeChallenges.mp found
    simp only [get?_set] at otherStored
    split at otherStored
    · obtain rfl := some.inj otherStored
      simp [sameDevice] at otherDevice
    · exact otherStored
  index {codeHash otherId other} found otherStored hashEq := by
    have spared := (get?_removeChallenges_index.mp found).2
    apply get?_removeChallenges.mpr
    simp only [get?_set]
    split
    · next sameId =>
      -- the accepted challenge has taken the entry of its hash with it
      rw [sameId, stored] at otherStored
      obtain rfl := some.inj otherStored
      exfalso
      let consumed := { challenge with consumedAt := some now }
      have consumedStored :
          (tables.devicePairingChallenges.set challengeId consumed).get? challengeId =
            some consumed := by
        simp [get?_set]
      apply spared consumed (mem_values_of_get? consumedStored) _ hashEq
      simpa using sameDevice
    · next otherKey =>
      refine ⟨otherStored, ?_⟩
      apply Bool.eq_false_iff.mpr
      intro removedIt
      have stillStored : (tables.devicePairingChallenges.set challengeId
            { challenge with consumedAt := some now }).get? otherId = some other := by
        rw [get?_set, if_neg otherKey]
        exact otherStored
      exact spared other (mem_values_of_get? stillStored) removedIt hashEq
  indexKept found := (get?_removeChallenges_index.mp found).1

theorem get?_acceptChallenge_self (now : τ) (sameDevice : challenge.deviceId = bound.deviceId) :
    (tables.acceptChallenge challengeId challenge bound now).devicePairingChallenges.get?
      challengeId = none := by
  apply eq_none_iff_forall_not_mem.mpr
  intro other found
  obtain ⟨stored, spared⟩ := get?_removeChallenges.mp found
  simp only [get?_set, if_pos] at stored
  obtain rfl := some.inj stored
  simp [sameDevice] at spared

theorem CodesInv.consumeChallenge [LinearOrder τ] (inv : CodesInv tables) (codeHash userId : String)
    (now : τ) :
    TakesAway tables (tables.consumeDevicePairingChallenge codeHash userId now).1 ∧
      CodesInv (tables.consumeDevicePairingChallenge codeHash userId now).1 := by
  have effect := inv.consumeEffect codeHash userId now
  generalize tables.consumeDevicePairingChallenge codeHash userId now = outcome at effect ⊢
  obtain ⟨after, result⟩ := outcome
  cases result with
  | ok bound =>
    obtain ⟨challengeId, challenge, device, found, -, known, -, -, boundEq, rfl⟩ := effect
    have stored := (findChallenge_eq_some found).2
    have keyed : bound.deviceId = challenge.deviceId := by
      have deviceKeyed := inv.deviceKeyed known
      simp [boundEq, deviceKeyed]
    have less := takesAway_acceptChallenge now stored keyed.symm
    have devices := keepsDevices_set inv keyed
    exact ⟨less, inv.takesAway less ⟨devices.keyed, devices.known⟩⟩
  | error reason =>
    rcases effect with rfl | ⟨challengeId, challenge, found, -, -, rfl⟩
    · exact ⟨.refl, inv⟩
    · have less := takesAway_deleteChallenge inv (findChallenge_eq_some found).2
      exact ⟨less, inv.takesAway less (inv.keepsDevices rfl)⟩

end PairingTables

end LongHub
