import Mathlib.Data.List.Induction
import LongHub.CloudTaskStore

/-!
# Activation codes

A device redeems an activation code of its tenant for entitlements to the packs of the code, and
loses those of the code that it had before.  The code counts its redemptions up to a bound; a
device that redeems the code it has is only told so.

A device that comes back to a code after another one is counted again.
-/

namespace LongHub

open InsertionMap List

namespace ActivationStore

inductive ActivationCodeStatus where
  | active
  | revoked
  deriving DecidableEq

/-- What the administrator chooses for a new code; the route has checked the bound. -/
structure ActivationCodeParams where
  tenantId : String
  codeHash : String
  codeHint : String
  label : Option String
  maxUses : Nat
  packIds : List String
  expiresAt : Instant
  deriving DecidableEq

structure ActivationCodeRecord extends ActivationCodeParams where
  activationCodeId : String
  status : ActivationCodeStatus
  useCount : Nat
  createdAt : Instant
  deriving DecidableEq

structure DeviceRecord where
  deviceId : String
  tenantId : String
  activationCodeId : Option String
  activatedAt : Option Instant

inductive EntitlementStatus where
  | active
  | revoked
  deriving DecidableEq

structure EntitlementRecord where
  entitlementId : String
  tenantId : String
  deviceId : String
  packId : String
  scope : String
  status : EntitlementStatus
  expiresAt : Instant
  sourceActivationCodeId : Option String
  createdAt : Instant

structure ActivationTables where
  devices : InsertionMap String DeviceRecord
  activationCodes : InsertionMap String ActivationCodeRecord
  entitlements : InsertionMap String EntitlementRecord

inductive ActivationRedemptionResult where
  | deviceNotFound
  | codeUnavailable
  | ok (code : ActivationCodeRecord) (device : DeviceRecord) (alreadyActivated : Bool)

def createActivationCode (tables : ActivationTables) (params : ActivationCodeParams)
    (uuid : String) (createdAt : Instant) : ActivationCodeRecord × ActivationTables :=
  let record : ActivationCodeRecord :=
    { params with activationCodeId := "act-" ++ uuid, status := .active, useCount := 0, createdAt }
  (record, { tables with
    activationCodes := tables.activationCodes.set record.activationCodeId record })

def revokeActivationCode (tables : ActivationTables) (activationCodeId : String) :
    Option ActivationCodeRecord × ActivationTables :=
  match tables.activationCodes.get? activationCodeId with
  | none => (none, tables)
  | some code =>
    let record := { code with status := .revoked }
    (some record, { tables with
      activationCodes := tables.activationCodes.set activationCodeId record })

/-- The entitlements of the device from its previous code are revoked. -/
def revokePrevious (device : DeviceRecord) (entitlements : InsertionMap String EntitlementRecord) :
    InsertionMap String EntitlementRecord :=
  match device.activationCodeId with
  | none => entitlements
  | some previous => entitlements.mapValues fun _ entitlement =>
    if entitlement.deviceId = device.deviceId ∧
        entitlement.sourceActivationCodeId = some previous then
      { entitlement with status := .revoked }
    else entitlement

/-- The device gets an entitlement to the pack if it has none in force. -/
def entitle (code : ActivationCodeRecord) (device : DeviceRecord) (now : Instant)
    (uuidOf : String → String) (entitlements : InsertionMap String EntitlementRecord)
    (packId : String) : InsertionMap String EntitlementRecord :=
  if entitlements.values.any fun entitlement => entitlement.deviceId = device.deviceId ∧
      entitlement.packId = packId ∧ entitlement.status = .active ∧ now < entitlement.expiresAt then
    entitlements
  else
    let entitlement : EntitlementRecord :=
      { entitlementId := "ent-" ++ uuidOf packId, tenantId := device.tenantId
        deviceId := device.deviceId, packId, scope := "device", status := .active
        expiresAt := code.expiresAt, sourceActivationCodeId := some code.activationCodeId
        createdAt := now }
    entitlements.set entitlement.entitlementId entitlement

def redeemActivationCode (tables : ActivationTables) (deviceId codeHash : String) (now : Instant)
    (uuidOf : String → String) : ActivationRedemptionResult × ActivationTables :=
  match tables.devices.get? deviceId with
  | none => (.deviceNotFound, tables)
  | some device =>
    match tables.activationCodes.values.find? fun candidate => candidate.codeHash = codeHash with
    | none => (.codeUnavailable, tables)
    | some code =>
      if code.tenantId ≠ device.tenantId ∨ code.status ≠ .active ∨ code.expiresAt ≤ now then
        (.codeUnavailable, tables)
      else if device.activationCodeId = some code.activationCodeId then
        (.ok code device true, tables)
      else if code.maxUses ≤ code.useCount then (.codeUnavailable, tables)
      else
        let used := { code with useCount := code.useCount + 1 }
        let activated := { device with
          activationCodeId := some code.activationCodeId, activatedAt := some now }
        (.ok used activated false,
          { devices := tables.devices.set deviceId activated
            activationCodes := tables.activationCodes.set code.activationCodeId used
            entitlements := code.packIds.foldl (entitle used activated now uuidOf)
              (revokePrevious device tables.entitlements) })

/-! ## Runs -/

/-- A redemption that was answered with success. -/
structure Redemption where
  deviceId : String
  activationCodeId : String
  alreadyActivated : Bool

def ActivationRedemptionResult.redemption : ActivationRedemptionResult → Option Redemption
  | .ok code device alreadyActivated =>
    some ⟨device.deviceId, code.activationCodeId, alreadyActivated⟩
  | .deviceNotFound | .codeUnavailable => none

/-- The tables, and the successful redemptions from the last to the first. -/
structure ActivationRun where
  tables : ActivationTables
  redemptions : List Redemption

inductive ActivationAction where
  | create (params : ActivationCodeParams) (uuid : String) (createdAt : Instant)
  | revoke (activationCodeId : String)
  | redeem (deviceId codeHash : String) (now : Instant) (uuidOf : String → String)

/-- A UUID that is in use is not drawn for another code. -/
def ActivationRun.step (run : ActivationRun) : ActivationAction → ActivationRun
  | .create params uuid createdAt =>
    if (run.tables.activationCodes.get? ("act-" ++ uuid)).isSome then run
    else { run with tables := (createActivationCode run.tables params uuid createdAt).2 }
  | .revoke activationCodeId =>
    { run with tables := (revokeActivationCode run.tables activationCodeId).2 }
  | .redeem deviceId codeHash now uuidOf =>
    let (result, tables) := redeemActivationCode run.tables deviceId codeHash now uuidOf
    { tables, redemptions := result.redemption.toList ++ run.redemptions }

/-- Registered devices that have redeemed nothing, and what they were entitled to otherwise. -/
structure ActivationStart where
  devices : InsertionMap String DeviceRecord
  entitlements : InsertionMap String EntitlementRecord
  isDevice : ∀ id device, devices.get? id = some device →
    device.deviceId = id ∧ device.activationCodeId = none
  unsourced : ∀ entitlement ∈ entitlements.values, entitlement.sourceActivationCodeId = none

def ActivationStart.after (start : ActivationStart) (actions : List ActivationAction) :
    ActivationRun :=
  actions.foldl ActivationRun.step ⟨⟨start.devices, .empty, start.entitlements⟩, []⟩

/-- The redemptions of the code that were not answered as already activated. -/
def countedRedemptions (activationCodeId : String) (redemptions : List Redemption) : Nat :=
  redemptions.countP fun redemption =>
    redemption.activationCodeId = activationCodeId ∧ redemption.alreadyActivated = false

/-- The devices that have redeemed the code. -/
def firstRedemptions (activationCodeId : String) (redemptions : List Redemption) : Nat :=
  ((redemptions.filter fun redemption => redemption.activationCodeId = activationCodeId).map
    Redemption.deviceId).eraseDups.length

/-- The code that the device redeemed last. -/
def lastRedeemed (deviceId : String) (redemptions : List Redemption) : Option String :=
  (redemptions.find? fun redemption => redemption.deviceId = deviceId).map
    Redemption.activationCodeId

/-- Codes keep within their bounds, and active entitlements come from the last code. -/
structure ActivationRun.Consistent (countOf : String → List Redemption → Nat)
    (run : ActivationRun) : Prop where
  bounded : ∀ id code, run.tables.activationCodes.get? id = some code → code.useCount ≤ code.maxUses
  counted : ∀ id code, run.tables.activationCodes.get? id = some code →
    code.useCount = countOf id run.redemptions
  sourced : ∀ entitlement ∈ run.tables.entitlements.values, entitlement.status = .active →
    ∀ source, entitlement.sourceActivationCodeId = some source →
      lastRedeemed entitlement.deviceId run.redemptions = some source

/-! ## One step -/

/-- The codes are those under their ids, and a device has the code that it redeemed last. -/
structure ActivationRun.Inv (run : ActivationRun) : Prop where
  codes : ∀ id code, run.tables.activationCodes.get? id = some code →
    code.activationCodeId = id ∧ code.useCount ≤ code.maxUses ∧
      code.useCount = countedRedemptions id run.redemptions
  known : ∀ redemption ∈ run.redemptions,
    (run.tables.activationCodes.get? redemption.activationCodeId).isSome
  devices : ∀ id device, run.tables.devices.get? id = some device →
    device.deviceId = id ∧ device.activationCodeId = lastRedeemed id run.redemptions
  sourced : ∀ entitlement ∈ run.tables.entitlements.values, entitlement.status = .active →
    ∀ source, entitlement.sourceActivationCodeId = some source →
      lastRedeemed entitlement.deviceId run.redemptions = some source

section Steps

variable {tables : ActivationTables} {run : ActivationRun} {code : ActivationCodeRecord}
variable {device : DeviceRecord} {entitlement : EntitlementRecord}
variable {entitlements : InsertionMap String EntitlementRecord} {id : String}

theorem mem_revokePrevious (mem : entitlement ∈ (revokePrevious device entitlements).values) :
    ∃ original ∈ entitlements.values, original.deviceId = entitlement.deviceId ∧
      original.sourceActivationCodeId = entitlement.sourceActivationCodeId ∧
      (entitlement.status = .active → original.status = .active ∧
        (entitlement.deviceId = device.deviceId →
          ∀ previous, device.activationCodeId = some previous →
          entitlement.sourceActivationCodeId ≠ some previous)) := by
  unfold revokePrevious at mem
  split at mem
  · next noCode => exact ⟨entitlement, mem, rfl, rfl, fun active => ⟨active, by simp [noCode]⟩⟩
  · next previous isCode =>
    obtain ⟨key, stored⟩ := mem_values_iff.mp mem
    rw [get?_mapValues] at stored
    obtain ⟨original, found, rfl⟩ := Option.map_eq_some_iff.mp stored
    refine ⟨original, mem_values_of_get? found, ?_⟩
    split
    · exact ⟨rfl, rfl, nofun⟩
    · next other =>
      refine ⟨rfl, rfl, fun active => ⟨active, fun same source isSource fromIt => ?_⟩⟩
      rw [isCode] at isSource
      cases isSource
      exact other ⟨same, fromIt⟩

theorem mem_entitle {now : Instant} {uuidOf : String → String} {packIds : List String}
    (mem : entitlement ∈ (packIds.foldl (entitle code device now uuidOf) entitlements).values) :
    entitlement ∈ entitlements.values ∨ entitlement.deviceId = device.deviceId ∧
      entitlement.sourceActivationCodeId = some code.activationCodeId := by
  induction packIds generalizing entitlements with
  | nil => exact .inl mem
  | cons packId rest ih =>
    rcases ih mem with earlier | isNew
    · unfold entitle at earlier
      split at earlier
      · exact .inl earlier
      · obtain ⟨key, stored⟩ := mem_values_iff.mp earlier
        rw [get?_set] at stored
        split at stored
        · cases stored
          exact .inr ⟨rfl, rfl⟩
        · exact .inl (mem_values_of_get? stored)
    · exact .inr isNew

theorem lastRedeemed_cons (redemption : Redemption) (redemptions : List Redemption) (id : String) :
    lastRedeemed id (redemption :: redemptions) =
      if redemption.deviceId = id then some redemption.activationCodeId
      else lastRedeemed id redemptions := by
  by_cases same : redemption.deviceId = id
  · simp [lastRedeemed, same]
  · simp [lastRedeemed, same]

theorem countedRedemptions_cons (redemption : Redemption) (redemptions : List Redemption)
    (id : String) : countedRedemptions id (redemption :: redemptions) =
      countedRedemptions id redemptions +
        if redemption.activationCodeId = id ∧
          redemption.alreadyActivated = false then 1 else 0 := by
  simp [countedRedemptions, countP_cons]

theorem countedRedemptions_eq_zero (inv : run.Inv)
    (isNew : run.tables.activationCodes.get? id = none) :
    countedRedemptions id run.redemptions = 0 := by
  apply countP_eq_zero.mpr
  intro redemption mem same
  have known := inv.known redemption mem
  simp only [decide_eq_true_eq] at same
  rw [same.1, isNew] at known
  cases known

theorem inv_create (inv : run.Inv) (params : ActivationCodeParams) (uuid : String)
    (createdAt : Instant) : (run.step (.create params uuid createdAt)).Inv := by
  rw [ActivationRun.step]
  split
  · exact inv
  · next isNew =>
    have isNew : run.tables.activationCodes.get? ("act-" ++ uuid) = none := by
      rwa [Bool.not_eq_true, Option.isSome_eq_false_iff, Option.isNone_iff_eq_none] at isNew
    refine ⟨?_, ?_, inv.devices, inv.sourced⟩
    · intro id code stored
      simp only [createActivationCode, get?_set] at stored
      split at stored
      · next same =>
        cases stored
        exact ⟨same.symm, Nat.zero_le _, by rw [same, countedRedemptions_eq_zero inv isNew]⟩
      · exact inv.codes id code stored
    · intro redemption mem
      simp only [createActivationCode, get?_set]
      split
      · rfl
      · exact inv.known redemption mem

theorem inv_revoke (inv : run.Inv) (activationCodeId : String) :
    (run.step (.revoke activationCodeId)).Inv := by
  rw [ActivationRun.step, revokeActivationCode]
  split
  · exact inv
  · next found isFound =>
    refine ⟨?_, ?_, inv.devices, inv.sourced⟩
    · intro id code stored
      rw [get?_set] at stored
      split at stored
      · next same =>
        cases stored
        exact inv.codes id found (same ▸ isFound)
      · exact inv.codes id code stored
    · intro redemption mem
      rw [get?_set]
      split
      · rfl
      · exact inv.known redemption mem

/-- What a redemption does: nothing, tell the device that it has the code, or activate it. -/
theorem redeem_cases (inv : run.Inv) (deviceId codeHash : String) (now : Instant)
    (uuidOf : String → String) :
    run.step (.redeem deviceId codeHash now uuidOf) = run ∨
    (∃ id, lastRedeemed deviceId run.redemptions = some id ∧
      (run.tables.activationCodes.get? id).isSome ∧
      run.step (.redeem deviceId codeHash now uuidOf) =
        { run with redemptions := ⟨deviceId, id, true⟩ :: run.redemptions }) ∨
    ∃ device code, run.tables.devices.get? deviceId = some device ∧
      run.tables.activationCodes.get? code.activationCodeId = some code ∧
      code.useCount < code.maxUses ∧
      run.step (.redeem deviceId codeHash now uuidOf) =
        { tables :=
            { devices := run.tables.devices.set deviceId { device with
                activationCodeId := some code.activationCodeId, activatedAt := some now }
              activationCodes := run.tables.activationCodes.set code.activationCodeId
                { code with useCount := code.useCount + 1 }
              entitlements := code.packIds.foldl
                (entitle { code with useCount := code.useCount + 1 } { device with
                  activationCodeId := some code.activationCodeId, activatedAt := some now }
                  now uuidOf) (revokePrevious device run.tables.entitlements) }
          redemptions := ⟨deviceId, code.activationCodeId, false⟩ :: run.redemptions } := by
  simp only [ActivationRun.step, redeemActivationCode]
  cases isDevice : run.tables.devices.get? deviceId with
  | none => exact .inl rfl
  | some device =>
    obtain ⟨sameId, isLast⟩ := inv.devices deviceId device isDevice
    dsimp only
    split
    · exact .inl rfl
    · next code isCode =>
      obtain ⟨id, stored⟩ := mem_values_iff.mp (mem_of_find?_eq_some isCode)
      obtain ⟨rfl, -⟩ := inv.codes id code stored
      split_ifs with refused has used
      · exact .inl rfl
      · refine .inr (.inl ⟨code.activationCodeId, isLast ▸ has, by simp [stored], ?_⟩)
        rw [← sameId]
        rfl
      · exact .inl rfl
      · refine .inr (.inr ⟨device, code, rfl, stored, Nat.lt_of_not_le used, ?_⟩)
        rw [← sameId]
        rfl

theorem inv_redeem (inv : run.Inv) (deviceId codeHash : String) (now : Instant)
    (uuidOf : String → String) : (run.step (.redeem deviceId codeHash now uuidOf)).Inv := by
  rcases redeem_cases inv deviceId codeHash now uuidOf with
    same | ⟨id, isLast, present, same⟩ | ⟨device, code, isDevice, stored, within, same⟩
  · rwa [same]
  · have lasts (other : String) : lastRedeemed other (⟨deviceId, id, true⟩ :: run.redemptions) =
        lastRedeemed other run.redemptions := by
      rw [lastRedeemed_cons]
      split_ifs with isSame
      · exact isSame ▸ isLast.symm
      · rfl
    rw [same]
    refine ⟨?_, ?_, ?_, ?_⟩
    · intro other code stored
      rw [countedRedemptions_cons]
      simpa using inv.codes other code stored
    · intro redemption mem
      rcases mem_cons.mp mem with rfl | mem
      · exact present
      · exact inv.known redemption mem
    · intro other device isDevice
      rw [lasts]
      exact inv.devices other device isDevice
    · intro entitlement mem active source isSource
      rw [lasts]
      exact inv.sourced entitlement mem active source isSource
  · obtain ⟨sameId, isLast⟩ := inv.devices deviceId device isDevice
    rw [same]
    refine ⟨?_, ?_, ?_, ?_⟩
    · intro id other isOther
      rw [get?_set] at isOther
      rw [countedRedemptions_cons]
      split at isOther
      · next same =>
        cases isOther
        subst same
        simpa using ⟨within, (inv.codes _ code stored).2.2⟩
      · next differ =>
        simpa [Ne.symm differ] using inv.codes id other isOther
    · intro redemption mem
      rw [get?_set]
      split
      · rfl
      · next differ =>
        rcases mem_cons.mp mem with rfl | mem
        · exact absurd rfl differ
        · exact inv.known redemption mem
    · intro id other isOther
      rw [get?_set] at isOther
      rw [lastRedeemed_cons]
      split at isOther
      · next same =>
        cases isOther
        exact ⟨sameId.trans same.symm, (if_pos same.symm).symm⟩
      · next differ =>
        rw [if_neg (Ne.symm differ)]
        exact inv.devices id other isOther
    · intro entitlement mem active source isSource
      rw [lastRedeemed_cons]
      rcases mem_entitle mem with earlier | ⟨isOwn, fromCode⟩
      · obtain ⟨original, mem, sameDevice, sameSource, wasActive⟩ := mem_revokePrevious earlier
        obtain ⟨originallyActive, notPrevious⟩ := wasActive active
        have wasLast := inv.sourced original mem originallyActive source
          (sameSource.trans isSource)
        rw [sameDevice] at wasLast
        split_ifs with isSame
        · rw [← isSame, ← isLast] at wasLast
          exact absurd isSource (notPrevious (isSame.symm.trans sameId.symm) source wasLast)
        · exact wasLast
      · rw [if_pos (sameId.symm.trans isOwn.symm), ← fromCode, isSource]

end Steps

/-! ## Every run -/

theorem inv_after (start : ActivationStart) (actions : List ActivationAction) :
    (start.after actions).Inv := by
  have starts : ActivationRun.Inv ⟨⟨start.devices, .empty, start.entitlements⟩, []⟩ := by
    refine ⟨by simp, by simp, start.isDevice, ?_⟩
    intro entitlement mem _ source isSource
    rw [start.unsourced entitlement mem] at isSource
    cases isSource
  have steps (actions : List ActivationAction) (run : ActivationRun) (inv : run.Inv) :
      (actions.foldl ActivationRun.step run).Inv := by
    induction actions generalizing run with
    | nil => exact inv
    | cons action rest ih =>
      apply ih
      cases action with
      | create params uuid createdAt => exact inv_create inv params uuid createdAt
      | revoke activationCodeId => exact inv_revoke inv activationCodeId
      | redeem deviceId codeHash now uuidOf => exact inv_redeem inv deviceId codeHash now uuidOf
  exact steps actions _ starts

/-- However codes are created, redeemed and revoked, a code is used at most as often as it may be,
once for every redemption that activates, and the active entitlements that a device has from codes
come from the code that it redeemed last. -/
theorem consistent_after (start : ActivationStart) (actions : List ActivationAction) :
    (start.after actions).Consistent countedRedemptions := by
  have inv := inv_after start actions
  exact ⟨fun id code stored => (inv.codes id code stored).2.1,
    fun id code stored => (inv.codes id code stored).2.2, inv.sourced⟩

/-- A device that goes from one code to another and back uses the first one twice. -/
theorem not_consistent_firstRedemptions :
    ¬ ∀ (start : ActivationStart) (actions : List ActivationAction),
      (start.after actions).Consistent firstRedemptions := by
  intro consistent
  let params (hash : String) : ActivationCodeParams :=
    ⟨"tenant-default", hash, hash, none, 2, [], 9⟩
  let start : ActivationStart :=
    { devices := InsertionMap.empty.set "dev-1" ⟨"dev-1", "tenant-default", none, none⟩
      entitlements := .empty
      isDevice := by
        intro id device stored
        rw [get?_set] at stored
        split at stored
        · next same =>
          cases stored
          exact ⟨same.symm, rfl⟩
        · simp at stored
      unsourced := by simp }
  have counted := (consistent start [.create (params "one") "1" 0, .create (params "other") "2" 0,
    .redeem "dev-1" "one" 1 id, .redeem "dev-1" "other" 2 id,
    .redeem "dev-1" "one" 3 id]).counted "act-1" { params "one" with
      activationCodeId := "act-1", status := .active, useCount := 2,
        createdAt := 0 } (by decide)
  exact absurd counted (by decide)

/-- The code is revoked as it is, and these are its redemptions. -/
structure ActivationRun.Revoked (run : ActivationRun) (code : ActivationCodeRecord)
    (redemptions : List Redemption) : Prop where
  stored : run.tables.activationCodes.get? code.activationCodeId = some code
  status : code.status = .revoked
  redeemed : (run.redemptions.filter fun redemption =>
    redemption.activationCodeId = code.activationCodeId) = redemptions

theorem revoked_step {run : ActivationRun} {code : ActivationCodeRecord}
    {redemptions : List Redemption} (inv : run.Inv) (revoked : run.Revoked code redemptions)
    (action : ActivationAction) : (run.step action).Revoked code redemptions := by
  obtain ⟨stored, status, redeemed⟩ := revoked
  cases action with
  | create params uuid createdAt =>
    rw [ActivationRun.step]
    split
    · exact ⟨stored, status, redeemed⟩
    · next isNew =>
      refine ⟨?_, status, redeemed⟩
      have other : code.activationCodeId ≠ "act-" ++ uuid := fun same => by
        rw [← same, stored] at isNew
        exact isNew rfl
      simpa [createActivationCode, get?_set, other] using stored
  | revoke id =>
    refine ⟨?_, status, redeemed⟩
    rw [ActivationRun.step, revokeActivationCode]
    split
    · exact stored
    · next other found =>
      simp only [get?_set]
      split
      · next same =>
        rw [← same, stored] at found
        cases found
        rw [← status]
      · exact stored
  | redeem deviceId codeHash now uuidOf =>
    simp only [ActivationRun.step, redeemActivationCode]
    cases run.tables.devices.get? deviceId with
    | none => exact ⟨stored, status, redeemed⟩
    | some device =>
      dsimp only
      split
      · exact ⟨stored, status, redeemed⟩
      · next found isFound =>
        obtain ⟨id, foundAt⟩ := mem_values_iff.mp (mem_of_find?_eq_some isFound)
        obtain ⟨rfl, -⟩ := inv.codes id found foundAt
        have other : found.status = .active → found.activationCodeId ≠ code.activationCodeId := by
          intro isActive same
          rw [same, stored] at foundAt
          cases foundAt
          rw [status] at isActive
          cases isActive
        split_ifs with refused has used
        · exact ⟨stored, status, redeemed⟩
        · refine ⟨stored, status, ?_⟩
          simpa [ActivationRedemptionResult.redemption, other (by tauto)] using redeemed
        · exact ⟨stored, status, redeemed⟩
        · have differ := other (by tauto)
          refine ⟨?_, status, ?_⟩
          · simpa [get?_set, differ.symm] using stored
          · simpa [ActivationRedemptionResult.redemption, differ] using redeemed

/-- Once revoked, a code stays as it is and is never redeemed again, whatever follows. -/
theorem revoked_code_never_redeemed (start : ActivationStart)
    (before later : List ActivationAction) (id : String) (code : ActivationCodeRecord)
    (stored : (start.after before).tables.activationCodes.get? id = some code) :
    let run := start.after (before ++ .revoke id :: later)
    run.tables.activationCodes.get? id = some { code with status := .revoked } ∧
      (run.redemptions.filter fun redemption => redemption.activationCodeId = id) =
        (start.after before).redemptions.filter fun redemption =>
          redemption.activationCodeId = id := by
  obtain ⟨rfl, -⟩ := (inv_after start before).codes id code stored
  have holds : (start.after (before ++ .revoke code.activationCodeId :: later)).Revoked
      { code with status := .revoked } ((start.after before).redemptions.filter fun redemption =>
        redemption.activationCodeId = code.activationCodeId) := by
    induction later using reverseRecOn with
    | nil =>
      refine ⟨?_, rfl, ?_⟩
      · simp only [ActivationStart.after, foldl_append, foldl_cons, foldl_nil,
          ActivationRun.step, revokeActivationCode] at stored ⊢
        rw [stored]
        exact (get?_set _ _ _ _).trans (if_pos rfl)
      · simp [ActivationStart.after, ActivationRun.step]
    | append_singleton later action ih =>
      have inv := inv_after start (before ++ .revoke code.activationCodeId :: later)
      have step := revoked_step inv ih action
      simpa [ActivationStart.after] using step
  exact ⟨holds.stored, holds.redeemed⟩

theorem revoked_code_never_redeemed_example :
    ∃ start : ActivationStart, (start.after [.create ⟨"tenant", "hash", "h", none, 2, [], 9⟩ "1" 0,
      .revoke "act-1", .redeem "dev-1" "hash" 1 id]).redemptions.filter
        (fun redemption => redemption.activationCodeId = "act-1") = [] := by
  let start : ActivationStart :=
    { devices := InsertionMap.empty.set "dev-1" ⟨"dev-1", "tenant", none, none⟩
      entitlements := .empty
      isDevice := by
        intro id device stored
        rw [get?_set] at stored
        split at stored
        · next same =>
          cases stored
          exact ⟨same.symm, rfl⟩
        · simp at stored
      unsourced := by simp }
  exact ⟨start, (revoked_code_never_redeemed start [.create ⟨"tenant", "hash", "h", none, 2, [], 9⟩
    "1" 0] [.redeem "dev-1" "hash" 1 id] "act-1" ⟨⟨"tenant", "hash", "h", none, 2, [], 9⟩, "act-1",
      .active, 0, 0⟩ rfl).2⟩

end ActivationStore

end LongHub
