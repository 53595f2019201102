import LongHub.PairingCodes
import Mathlib.Data.List.Perm.Subperm
import Mathlib.Data.Nat.Basic

/-!
# A pairing code binds one user

A challenge that has bound a user is no longer stored, and ids are not drawn twice, so it binds no
other user.
-/

namespace LongHub

open List Option

variable {τ : Type}

namespace PairingHistory

variable {before after history : PairingHistory τ}

structure Inv (history : PairingHistory τ) : Prop where
  codes : history.tables.CodesInv
  storedIssued : ∀ {challengeId challenge},
    history.tables.devicePairingChallenges.get? challengeId = some challenge →
      ⟨challengeId, challenge.codeHash⟩ ∈ history.issued
  boundIssued : ∀ binding ∈ history.bindings, binding.code ∈ history.issued
  boundGone : ∀ binding ∈ history.bindings,
    history.tables.devicePairingChallenges.get? binding.code.challengeId = none
  boundOnce : (history.bindings.map (·.code.challengeId)).Nodup

/-- A call that issues no code and binds none. -/
theorem Inv.takesAway (inv : history.Inv) {tables : PairingTables τ}
    (less : ∀ {challengeId challenge},
      tables.devicePairingChallenges.get? challengeId = some challenge →
        history.tables.devicePairingChallenges.get? challengeId = some challenge)
    (codes : tables.CodesInv) : Inv { history with tables } where
  codes := codes
  storedIssued found := inv.storedIssued (less found)
  __ := inv
  boundGone binding bound := by
    apply eq_none_iff_forall_not_mem.mpr
    intro challenge found
    have stored := less found
    rw [inv.boundGone binding bound] at stored
    cases stored

theorem Inv.issue (inv : history.Inv) {tables : PairingTables τ} {code : IssuedCode}
    (isFresh : code.challengeId ∉ history.issued.map (·.challengeId))
    (stored : ∀ {challengeId challenge},
      tables.devicePairingChallenges.get? challengeId = some challenge →
        ⟨challengeId, challenge.codeHash⟩ = code ∨
          history.tables.devicePairingChallenges.get? challengeId = some challenge)
    (codes : tables.CodesInv) :
    Inv { history with tables, issued := history.issued ++ [code] } where
  codes := codes
  storedIssued found := by
    rcases stored found with isNew | old
    · simp [isNew]
    · exact mem_append_left _ (inv.storedIssued old)
  boundIssued binding bound := mem_append_left _ (inv.boundIssued binding bound)
  boundGone binding bound := by
    apply eq_none_iff_forall_not_mem.mpr
    intro challenge found
    rcases stored found with isNew | old
    · apply isFresh
      rw [← isNew]
      exact List.mem_map.mpr ⟨binding.code, inv.boundIssued binding bound, rfl⟩
    · rw [inv.boundGone binding bound] at old
      cases old
  __ := inv

theorem Inv.bind (inv : history.Inv) {tables : PairingTables τ} {binding : CodeBinding}
    {challenge : DevicePairingChallengeRecord τ}
    (less : ∀ {challengeId challenge},
      tables.devicePairingChallenges.get? challengeId = some challenge →
        history.tables.devicePairingChallenges.get? challengeId = some challenge)
    (stored : history.tables.devicePairingChallenges.get? binding.code.challengeId = some challenge)
    (hashEq : challenge.codeHash = binding.code.codeHash)
    (gone : tables.devicePairingChallenges.get? binding.code.challengeId = none)
    (codes : tables.CodesInv) :
    Inv { history with tables, bindings := history.bindings ++ [binding] } where
  codes := codes
  storedIssued found := inv.storedIssued (less found)
  boundIssued other bound := by
    rcases mem_append.mp bound with old | isNew
    · exact inv.boundIssued other old
    · obtain rfl := mem_singleton.mp isNew
      have issued := inv.storedIssued stored
      rwa [hashEq] at issued
  boundGone other bound := by
    rcases mem_append.mp bound with old | isNew
    · exact (inv.takesAway less codes).boundGone other old
    · obtain rfl := mem_singleton.mp isNew
      exact gone
  boundOnce := by
    rw [map_append, map_singleton]
    apply List.Nodup.append inv.boundOnce (nodup_singleton _)
    apply disjoint_singleton.mpr
    intro boundBefore
    obtain ⟨other, old, sameId⟩ := List.mem_map.mp boundBefore
    have gone := inv.boundGone other old
    rw [sameId, stored] at gone
    cases gone

theorem inv_empty : (empty : PairingHistory τ).Inv := by
  constructor
  · constructor <;> simp [empty, PairingTables.empty]
  all_goals simp [empty, PairingTables.empty]

theorem step_inv [LinearOrder τ] {action : PairingAction τ} (inv : before.Inv)
    (stepTo : before.step action = some after) : after.Inv := by
  cases action with
  | registerDevice generatedId tenantId deviceFingerprint =>
    obtain rfl := some.inj stepTo
    apply inv.takesAway _ (inv.codes.registerDevice generatedId tenantId deviceFingerprint)
    simp
  | bindDevice deviceId userId =>
    obtain rfl := some.inj stepTo
    apply inv.takesAway _ (inv.codes.bindDevice deviceId userId)
    simp
  | updateDeviceStatus deviceId status =>
    obtain rfl := some.inj stepTo
    apply inv.takesAway _ (inv.codes.updateDeviceStatus deviceId status)
    simp
  | createChallenge challengeId deviceId codeHash expiresAt now =>
    simp only [step] at stepTo
    split at stepTo
    · cases stepTo
    next isFresh =>
    generalize createdEq : before.tables.createDevicePairingChallenge challengeId deviceId
      codeHash expiresAt now = outcome at stepTo
    obtain ⟨tables, result⟩ := outcome
    cases result with
    | none =>
      obtain rfl := some.inj stepTo
      rcases PairingTables.createDevicePairingChallenge_cases createdEq with
        ⟨-, rfl⟩ | ⟨device, challenge, -, isNone, -⟩
      · exact inv
      · cases isNone
    | some challenge =>
      obtain rfl := some.inj stepTo
      have unused : before.tables.devicePairingChallenges.get? challengeId = none := by
        apply eq_none_iff_forall_not_mem.mpr
        intro other stored
        exact isFresh (List.mem_map.mpr ⟨_, inv.storedIssued stored, rfl⟩)
      obtain ⟨codes, stored⟩ := inv.codes.createChallenge createdEq unused
      apply inv.issue isFresh _ codes
      intro otherId other found
      rcases stored found with ⟨rfl, rfl⟩ | old
      · exact Or.inl rfl
      · exact Or.inr old
  | consumeChallenge codeHash userId now =>
    simp only [step] at stepTo
    have effect := inv.codes.consumeEffect codeHash userId now
    obtain ⟨less, codes⟩ := inv.codes.consumeChallenge codeHash userId now
    generalize before.tables.consumeDevicePairingChallenge codeHash userId now = outcome
      at stepTo effect less codes
    obtain ⟨tables, result⟩ := outcome
    cases result with
    | error reason =>
      obtain rfl := some.inj stepTo
      exact inv.takesAway less.challenges codes
    | ok bound =>
      obtain ⟨challengeId, challenge, device, found, -, known, -, -, boundEq, tablesEq⟩ := effect
      rw [found] at stepTo
      obtain rfl := some.inj stepTo
      obtain ⟨indexed, stored⟩ := PairingTables.findChallenge_eq_some found
      apply inv.bind less.challenges stored _ _ codes
      · obtain ⟨other, otherStored, hashEq⟩ := inv.codes.indexed indexed
        rw [stored] at otherStored
        obtain rfl := some.inj otherStored
        exact hashEq
      · have keyed : bound.deviceId = challenge.deviceId := by
          have deviceKeyed := inv.codes.deviceKeyed known
          simp [boundEq, deviceKeyed]
        rw [tablesEq]
        exact PairingTables.get?_acceptChallenge_self now keyed.symm

theorem Reachable.inv [LinearOrder τ] (reachable : history.Reachable) : history.Inv :=
  reachable.invariant Inv inv_empty fun _ _ _ inv _ stepTo => step_inv inv stepTo

/-- A code of a history binds one user, and only in the ways that
`ConsumeEffect` allows. -/
structure Guaranteed [LinearOrder τ] (history : PairingHistory τ) : Prop where
  /-- A device has at most one open challenge, expired or not. -/
  oneChallenge : ∀ deviceId, history.tables.devicePairingChallenges.values.countP
      (fun challenge => challenge.deviceId = deviceId ∧ challenge.consumedAt.isNone) ≤ 1
  /-- A device is found under at most one hash. -/
  oneHash : ∀ {firstHash secondHash firstId secondId first second},
    history.tables.findChallenge firstHash = some (firstId, first) →
    history.tables.findChallenge secondHash = some (secondId, second) →
      first.deviceId = second.deviceId → firstHash = secondHash
  /-- No challenge has bound two users. -/
  boundOnce : (history.bindings.map (·.code.challengeId)).Nodup
  /-- A hash has bound no more users than it was issued codes. -/
  boundIssued : ∀ codeHash,
    history.bindings.countP (fun binding => binding.code.codeHash = codeHash) ≤
      history.issued.countP (fun code => code.codeHash = codeHash)
  consumeEffect : ∀ codeHash userId now, history.tables.ConsumeEffect codeHash userId now
      (history.tables.consumeDevicePairingChallenge codeHash userId now)

theorem Inv.oneChallenge (inv : history.Inv) (deviceId : String) :
    history.tables.devicePairingChallenges.values.countP
      (fun challenge => challenge.deviceId = deviceId ∧ challenge.consumedAt.isNone) ≤ 1 := by
  apply InsertionMap.countP_values_le_one
  intro firstId secondId first second foundFirst testFirst foundSecond testSecond
  simp only [Bool.decide_and, Bool.and_eq_true, decide_eq_true_eq] at testFirst testSecond
  have sameDevice : first.deviceId = second.deviceId := testFirst.1.trans testSecond.1.symm
  exact inv.codes.single foundFirst foundSecond sameDevice

theorem Inv.oneHash (inv : history.Inv) {firstHash secondHash firstId secondId : String}
    {first second : DevicePairingChallengeRecord τ}
    (foundFirst : history.tables.findChallenge firstHash = some (firstId, first))
    (foundSecond : history.tables.findChallenge secondHash = some (secondId, second))
    (sameDevice : first.deviceId = second.deviceId) : firstHash = secondHash := by
  obtain ⟨firstIndexed, firstStored⟩ := PairingTables.findChallenge_eq_some foundFirst
  obtain ⟨secondIndexed, secondStored⟩ := PairingTables.findChallenge_eq_some foundSecond
  obtain rfl := inv.codes.single firstStored secondStored sameDevice
  obtain ⟨challenge, stored, rfl⟩ := inv.codes.indexed firstIndexed
  obtain ⟨other, otherStored, rfl⟩ := inv.codes.indexed secondIndexed
  rw [stored] at otherStored
  obtain rfl := some.inj otherStored
  rfl

theorem Inv.countP_bindings (inv : history.Inv) (codeHash : String) :
    history.bindings.countP (fun binding => binding.code.codeHash = codeHash) ≤
      history.issued.countP (fun code => code.codeHash = codeHash) := by
  have nodup : (history.bindings.map (·.code)).Nodup := by
    apply List.Nodup.of_map (·.challengeId)
    rw [List.map_map]
    exact inv.boundOnce
  have issued : history.bindings.map (·.code) ⊆ history.issued := by
    intro code bound
    obtain ⟨binding, mem, rfl⟩ := List.mem_map.mp bound
    exact inv.boundIssued binding mem
  calc
    history.bindings.countP (fun binding => binding.code.codeHash = codeHash) =
        (history.bindings.map (·.code)).countP (fun code => code.codeHash = codeHash) := by
      rw [countP_map]
      rfl
    _ ≤ history.issued.countP (fun code => code.codeHash = codeHash) :=
      (nodup.subperm issued).countP_le _

/-- Pairing is safe in every history. -/
theorem Reachable.guaranteed [LinearOrder τ] (reachable : history.Reachable) :
    history.Guaranteed where
  oneChallenge := reachable.inv.oneChallenge
  oneHash := reachable.inv.oneHash
  boundOnce := reachable.inv.boundOnce
  boundIssued := reachable.inv.countP_bindings
  consumeEffect := reachable.inv.codes.consumeEffect

theorem reachable_of_runActions [LinearOrder τ] {actions : List (PairingAction τ)}
    (runs : runActions step empty actions = some history) : history.Reachable :=
  GuardedRun.of_runActions (fun _ _ => trivial) runs

/-- A code is issued again for the same device before the user enters it. -/
theorem Reachable.guaranteed_reissued : ∃ history : PairingHistory Nat, history.Guaranteed ∧
      history.bindings = [⟨⟨"dpc-2", "second"⟩, "dev-1", "user"⟩] := by
  obtain ⟨history, runs, bindings⟩ := map_eq_some_iff.mp (show (runActions step empty
        [.registerDevice "dev-1" "tenant" "print",
          .createChallenge "dpc-1" "dev-1" "first" (some 9) 1,
          .createChallenge "dpc-2" "dev-1" "second" (some 9) 2, .consumeChallenge "first" "user" 3,
          .consumeChallenge "second" "user" (3 : Nat)]).map (·.bindings) =
      some [⟨⟨"dpc-2", "second"⟩, "dev-1", "user"⟩] by decide)
  have reachable : history.Reachable := reachable_of_runActions runs
  exact ⟨history, reachable.guaranteed, bindings⟩

/-- A code that is entered too late is deleted, and a code that is drawn for
two devices binds two users. -/
theorem not_pairingLaw : (¬ ∀ history : PairingHistory Nat, history.Reachable →
      ∀ codeHash userId now after reason,
        history.tables.consumeDevicePairingChallenge codeHash userId now =
          (after, .error reason) → after = history.tables) ∧
    ¬ ∀ history : PairingHistory Nat, history.Reachable →
      (history.bindings.map (·.code.codeHash)).Nodup := by
  constructor
  · intro unchanged
    obtain ⟨history, runs, deleted⟩ := map_eq_some_iff.mp (show (runActions step empty
          [.registerDevice "dev-1" "tenant" "print",
            .createChallenge "dpc-1" "dev-1" "code" (some 9) (1 : Nat)]).map (fun history =>
          let outcome := history.tables.consumeDevicePairingChallenge "code" "user" 9
          (outcome.2, history.tables.devicePairingChallenges.keys,
            outcome.1.devicePairingChallenges.keys)) =
        some (.error .codeExpired, ["dpc-1"], []) by decide)
    simp only [Prod.mk.injEq] at deleted
    obtain ⟨failed, stored, gone⟩ := deleted
    have same := unchanged history (reachable_of_runActions runs) "code" "user" 9 _ .codeExpired
      (Prod.ext rfl failed)
    have sameKeys := congrArg (fun tables => tables.devicePairingChallenges.keys) same
    have impossible := stored.symm.trans (sameKeys.symm.trans gone)
    cases impossible
  · intro nodup
    obtain ⟨history, runs, hashes⟩ := map_eq_some_iff.mp (show (runActions step empty
          [.registerDevice "dev-1" "tenant" "print", .registerDevice "dev-2" "tenant" "other",
            .createChallenge "dpc-1" "dev-1" "code" (some 9) 1, .consumeChallenge "code" "user" 2,
            .createChallenge "dpc-2" "dev-2" "code" (some 9) 3,
            .consumeChallenge "code" "other" (4 : Nat)]).map
          (fun history => history.bindings.map (·.code.codeHash)) =
        some ["code", "code"] by decide)
    have once := nodup history (reachable_of_runActions runs)
    rw [hashes] at once
    simp at once

end PairingHistory

end LongHub
