import LongHub.FeaturePolicyResolution
import Mathlib.Order.Lattice.Nat
import Mathlib.Order.WithBot

/-!
# What a policy restricts

The restrictions of a feature are ordered from lax to strict, and any two of them have a least
common restriction.
-/

namespace LongHub

open FeaturePolicyEntry List Prod

@[ext]
structure FeatureRestriction where
  disabled : Bool
  emergency : Bool
  /-- The place of the mode in its order. -/
  mode : Nat
  highRisk : Bool
  /-- The limits; what is not limited has the greatest limit. -/
  limits : FeatureLimitKey → WithTop Nat
  /-- The place of the processing location in its order. -/
  location : Nat
  retention : WithTop Nat
  exportForbidden : Bool
  deletionForbidden : Bool
  entitlements : Finset String
  permissions : Finset String

namespace FeatureRestriction

/-- The least common restriction. -/
instance : Max FeatureRestriction where
  max one other :=
    { disabled := one.disabled || other.disabled
      emergency := one.emergency || other.emergency
      mode := max one.mode other.mode
      highRisk := one.highRisk || other.highRisk
      limits := fun key => min (one.limits key) (other.limits key)
      location := max one.location other.location
      retention := min one.retention other.retention
      exportForbidden := one.exportForbidden || other.exportForbidden
      deletionForbidden := one.deletionForbidden || other.deletionForbidden
      entitlements := one.entitlements ∪ other.entitlements
      permissions := one.permissions ∪ other.permissions }

variable (one other third : FeatureRestriction)

@[simp] theorem sup_disabled : (one ⊔ other).disabled = (one.disabled || other.disabled) := rfl

@[simp] theorem sup_emergency : (one ⊔ other).emergency = (one.emergency || other.emergency) := rfl

@[simp] theorem sup_mode : (one ⊔ other).mode = max one.mode other.mode := rfl

@[simp] theorem sup_highRisk : (one ⊔ other).highRisk = (one.highRisk || other.highRisk) := rfl

@[simp] theorem sup_limits (key : FeatureLimitKey) :
    (one ⊔ other).limits key = min (one.limits key) (other.limits key) := rfl

@[simp] theorem sup_location : (one ⊔ other).location = max one.location other.location := rfl

@[simp] theorem sup_retention : (one ⊔ other).retention = min one.retention other.retention := rfl

@[simp] theorem sup_exportForbidden :
    (one ⊔ other).exportForbidden = (one.exportForbidden || other.exportForbidden) := rfl

@[simp] theorem sup_deletionForbidden :
    (one ⊔ other).deletionForbidden = (one.deletionForbidden || other.deletionForbidden) := rfl

@[simp] theorem sup_entitlements :
    (one ⊔ other).entitlements = one.entitlements ∪ other.entitlements := rfl

@[simp] theorem sup_permissions :
    (one ⊔ other).permissions = one.permissions ∪ other.permissions := rfl

theorem sup_comm' : one ⊔ other = other ⊔ one := by
  ext <;> simp [Bool.or_comm, max_comm, min_comm, or_comm]

theorem sup_assoc' : one ⊔ other ⊔ third = one ⊔ (other ⊔ third) := by
  ext <;> simp [Bool.or_assoc, max_assoc, min_assoc]

theorem sup_idem' : one ⊔ one = one := by
  ext <;> simp

instance : SemilatticeSup FeatureRestriction :=
  SemilatticeSup.mk' sup_comm' sup_assoc' sup_idem'

/-- No restriction. -/
instance : OrderBot FeatureRestriction where
  bot := ⟨false, false, 0, false, fun _ => ⊤, 0, ⊤, false, false, ∅, ∅⟩
  bot_le restriction := by
    change _ ⊔ restriction = restriction
    ext <;> simp

variable {one other}

structure Stricter (one other : FeatureRestriction) : Prop where
  disabled : one.disabled = true → other.disabled = true
  emergency : one.emergency = true → other.emergency = true
  mode : one.mode ≤ other.mode
  highRisk : one.highRisk = true → other.highRisk = true
  limits : ∀ key, other.limits key ≤ one.limits key
  location : one.location ≤ other.location
  retention : other.retention ≤ one.retention
  exportForbidden : one.exportForbidden = true → other.exportForbidden = true
  deletionForbidden : one.deletionForbidden = true → other.deletionForbidden = true
  entitlements : one.entitlements ⊆ other.entitlements
  permissions : one.permissions ⊆ other.permissions

theorem stricter_of_le (below : one ≤ other) : Stricter one other := by
  have same : one ⊔ other = other := below
  rw [← same]
  constructor <;> simp +contextual

end FeatureRestriction

namespace FeaturePolicyEntry

def restriction (entry : FeaturePolicyEntry) : FeatureRestriction where
  disabled := entry.emergencyDisabled || !entry.enabled
  emergency := entry.emergencyDisabled
  mode := (featurePolicyModes.map fst).idxOf entry.mode
  highRisk := entry.riskLevel = .high
  limits key := (entry.limits key).elim ⊤ fun limit => WithTop.some limit
  location := (featureProcessingLocations.map fst).idxOf entry.dataPolicy.processingLocation
  retention := WithTop.some entry.dataPolicy.retentionDays
  exportForbidden := !entry.dataPolicy.exportAllowed
  deletionForbidden := !entry.dataPolicy.deletionAllowed
  entitlements := entry.requiredEntitlements.toFinset
  permissions := entry.requiredPermissions.toFinset

end FeaturePolicyEntry

def commonRestriction (entries : List FeaturePolicyEntry) : FeatureRestriction :=
  Multiset.sup (entries.map restriction : List FeatureRestriction)

section CommonRestriction

variable {entries others : List FeaturePolicyEntry}

@[simp]
theorem commonRestriction_nil : commonRestriction [] = ⊥ :=
  rfl

@[simp]
theorem commonRestriction_cons (entry : FeaturePolicyEntry) :
    commonRestriction (entry :: entries) = entry.restriction ⊔ commonRestriction entries := by
  rfl

theorem commonRestriction_perm (same : entries.Perm others) :
    commonRestriction entries = commonRestriction others := by
  unfold commonRestriction
  rw [Multiset.coe_eq_coe.mpr (same.map restriction)]

theorem commonRestriction_mono (more : entries ⊆ others) :
    commonRestriction entries ≤ commonRestriction others := by
  apply Multiset.sup_mono
  intro restriction mem
  obtain ⟨entry, entryIn, rfl⟩ := mem_map.mp (Multiset.mem_coe.mp mem)
  exact Multiset.mem_coe.mpr (mem_map.mpr ⟨entry, more entryIn, rfl⟩)

end CommonRestriction

namespace ResolvedFeaturePolicy

def restriction (policy : ResolvedFeaturePolicy) : FeatureRestriction where
  disabled := !policy.enabled
  emergency := policy.emergencyDisabled
  mode := (featurePolicyModes.map fst).idxOf policy.mode
  highRisk := policy.riskLevel = .high
  limits key := (policy.limits key).elim ⊤ fun limit => WithTop.some limit
  location := (featureProcessingLocations.map fst).idxOf policy.dataPolicy.processingLocation
  retention := WithTop.some policy.dataPolicy.retentionDays
  exportForbidden := !policy.dataPolicy.exportAllowed
  deletionForbidden := !policy.dataPolicy.deletionAllowed
  entitlements := policy.requiredEntitlements.toFinset
  permissions := policy.requiredPermissions.toFinset

end ResolvedFeaturePolicy

section Merging

variable {first : FeaturePolicyEntry} {rest entries : List FeaturePolicyEntry}

/-- The place of the greatest value. -/
theorem idxOf_maxByOrder {α : Type} [DecidableEq α] (first : α) (rest : List α)
    (order : TextTable α) : (order.map fst).idxOf (maxByOrder first rest order) =
      (rest.map (order.map fst).idxOf).foldl max ((order.map fst).idxOf first) := by
  induction rest generalizing first with
  | nil => rfl
  | cons value rest ih =>
    rw [maxByOrder, foldl_cons, ← maxByOrder, ih, map_cons, foldl_cons]
    congr 1
    split <;> omega

theorem foldl_max_eq (first : Nat) (rest : List Nat) :
    rest.foldl max first = max first (rest.foldr max 0) := by
  induction rest generalizing first with
  | nil => simp
  | cons value rest ih => rw [foldl_cons, ih, foldr_cons, max_assoc]

theorem foldl_min_eq (first : Nat) (entries : List FeaturePolicyEntry) :
    WithTop.some (entries.foldl (fun least entry => min least entry.dataPolicy.retentionDays)
        first) = min (WithTop.some first) (commonRestriction entries).retention := by
  induction entries generalizing first with
  | nil => simp [Bot.bot]
  | cons entry entries ih =>
    rw [foldl_cons, ih, commonRestriction_cons]
    rw [WithTop.coe_min]
    simp [restriction, min_assoc]

theorem commonRestriction_disabled : (commonRestriction entries).disabled =
      entries.any fun entry => entry.emergencyDisabled || !entry.enabled := by
  induction entries with
  | nil => rfl
  | cons entry entries ih => simp [ih, restriction]

theorem commonRestriction_emergency :
    (commonRestriction entries).emergency = entries.any (·.emergencyDisabled) := by
  induction entries with
  | nil => rfl
  | cons entry entries ih => simp [ih, restriction]

theorem commonRestriction_mode : (commonRestriction entries).mode =
      ((entries.map (·.mode)).map (featurePolicyModes.map fst).idxOf).foldr max 0 := by
  induction entries with
  | nil => rfl
  | cons entry entries ih =>
    rw [commonRestriction_cons, FeatureRestriction.sup_mode, ih]
    rfl

theorem commonRestriction_highRisk : (commonRestriction entries).highRisk =
      entries.any fun entry => decide (entry.riskLevel = .high) := by
  induction entries with
  | nil => rfl
  | cons entry entries ih => simp [ih, restriction]

theorem commonRestriction_limits (key : FeatureLimitKey) : (commonRestriction entries).limits key =
      (mergeLimits entries key).elim ⊤ fun limit => WithTop.some limit := by
  induction entries with
  | nil => rfl
  | cons entry entries ih =>
    rw [commonRestriction_cons, FeatureRestriction.sup_limits, ih]
    unfold mergeLimits
    cases limitEq : entry.limits key with
    | none => simp [restriction, limitEq]
    | some limit =>
      simp only [filterMap_cons, limitEq, min?_cons]
      cases (entries.filterMap fun entry => entry.limits key).min? with
      | none => simp [restriction, limitEq]
      | some least =>
        simp only [restriction, limitEq, Option.elim]
        exact (WithTop.coe_min limit least).symm

theorem commonRestriction_location : (commonRestriction entries).location =
      ((entries.map (·.dataPolicy.processingLocation)).map
        (featureProcessingLocations.map fst).idxOf).foldr max 0 := by
  induction entries with
  | nil => rfl
  | cons entry entries ih =>
    rw [commonRestriction_cons, FeatureRestriction.sup_location, ih]
    rfl

theorem commonRestriction_exportForbidden :
    (commonRestriction entries).exportForbidden = !entries.all (·.dataPolicy.exportAllowed) := by
  induction entries with
  | nil => rfl
  | cons entry entries ih => simp [ih, restriction]

theorem commonRestriction_deletionForbidden : (commonRestriction entries).deletionForbidden =
      !entries.all (·.dataPolicy.deletionAllowed) := by
  induction entries with
  | nil => rfl
  | cons entry entries ih => simp [ih, restriction]

@[simp]
theorem mem_unionSorted {text : String} {lists : List (List String)} :
    text ∈ unionSorted lists ↔ ∃ list ∈ lists, text ∈ list := by
  simp [unionSorted, mem_eraseDups]

theorem commonRestriction_entitlements : (commonRestriction entries).entitlements =
      (unionSorted (entries.map (·.requiredEntitlements))).toFinset := by
  induction entries with
  | nil => rfl
  | cons entry entries ih =>
    rw [commonRestriction_cons, FeatureRestriction.sup_entitlements, ih]
    ext text
    simp [restriction]

theorem commonRestriction_permissions : (commonRestriction entries).permissions =
      (unionSorted (entries.map (·.requiredPermissions))).toFinset := by
  induction entries with
  | nil => rfl
  | cons entry entries ih =>
    rw [commonRestriction_cons, FeatureRestriction.sup_permissions, ih]
    ext text
    simp [restriction]

theorem restriction_mergeEntries (policyVersion : String) (featureId : FeatureId) :
    (mergeEntries policyVersion featureId first rest).restriction =
      commonRestriction (first :: rest) := by
  apply FeatureRestriction.ext
  · rw [commonRestriction_disabled]
    generalize entriesEq : first :: rest = entries
    simp only [ResolvedFeaturePolicy.restriction, mergeEntries, entriesEq]
    clear entriesEq
    induction entries with
    | nil => rfl
    | cons entry entries ih =>
      simp only [any_cons, all_cons, ← ih]
      cases entry.emergencyDisabled <;> cases entry.enabled <;> simp
  · rw [commonRestriction_emergency]
    rfl
  · rw [commonRestriction_mode]
    simp only [ResolvedFeaturePolicy.restriction, mergeEntries, idxOf_maxByOrder, foldl_max_eq]
    rfl
  · rw [commonRestriction_highRisk]
    simp only [ResolvedFeaturePolicy.restriction, mergeEntries]
    split <;> simp_all
  · funext key
    rw [commonRestriction_limits]
    rfl
  · rw [commonRestriction_location]
    simp only [ResolvedFeaturePolicy.restriction, mergeEntries, mergeDataPolicy,
      idxOf_maxByOrder, foldl_max_eq]
    rfl
  · simp only [ResolvedFeaturePolicy.restriction, mergeEntries, mergeDataPolicy, foldl_min_eq,
      commonRestriction_cons]
    rfl
  · rw [commonRestriction_exportForbidden]
    rfl
  · rw [commonRestriction_deletionForbidden]
    rfl
  · rw [commonRestriction_entitlements]
    rfl
  · rw [commonRestriction_permissions]
    rfl

end Merging

end LongHub
