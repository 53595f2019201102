import LongHub.DepthFirst
import LongHub.InsertionMap

/-!
# The capabilities of a pack

The part of `validatePackContent` that compares the capabilities of the manifest with one another
and with those of the profile.
-/

namespace LongHub

open InsertionMap List
namespace PackSchema

structure CapabilityRef where
  id : String
  required : Bool
  permissions : List String
  dependsOn : List String

/-- A capability that the schema of profiles accepts. -/
structure AgentProfileCapability where
  id : String
  permissions : List String
  unique : permissions.Nodup

structure ProfileValidationIssue where
  path : String
  message : String

def sameStringSet (left right : List String) : Bool :=
  left.length = right.length && left.all fun value => value ∈ right

variable (capabilities : List CapabilityRef)

def manifestCapabilities : InsertionMap String CapabilityRef :=
  .setAll .empty (capabilities.map fun capability => (capability.id, capability))

def profileCapabilities (capabilities : List AgentProfileCapability) :
    InsertionMap String AgentProfileCapability :=
  .setAll .empty (capabilities.map fun capability => (capability.id, capability))

def dependencies (id : String) : Option (List String) :=
  ((manifestCapabilities capabilities).get? id).map CapabilityRef.dependsOn

def dependencyIssues : List ProfileValidationIssue :=
  (DepthFirst.visitAll (dependencies capabilities)
    (fun id => ⟨"manifest.capabilities." ++ id ++ ".dependsOn", "能力依赖不得形成循环"⟩)
    (fun id dependency =>
      ⟨"manifest.capabilities." ++ id ++ ".dependsOn", "缺少依赖能力 " ++ dependency⟩)
    (capabilities.map CapabilityRef.id)).issues

def mappingIssues (profilePath : String) (profile : List AgentProfileCapability)
    (capability : CapabilityRef) : List ProfileValidationIssue :=
  match (profileCapabilities profile).get? capability.id with
  | none =>
    if capability.required then
      [⟨"files." ++ profilePath ++ ".capabilities", "缺少必需能力 " ++ capability.id⟩]
    else []
  | some mapped =>
    if sameStringSet mapped.permissions capability.permissions then []
    else
      [⟨"files." ++ profilePath ++ ".capabilities." ++ capability.id ++ ".permissions",
        "Profile 权限必须与 Manifest 能力权限完全一致"⟩]

def capabilityIssues (profilePath : String) (manifest : List CapabilityRef)
    (profile : List AgentProfileCapability) : List ProfileValidationIssue :=
  (if (manifestCapabilities manifest).entries.length = manifest.length then []
    else [⟨"manifest.capabilities", "能力 ID 不得重复"⟩]) ++
  dependencyIssues manifest ++ manifest.flatMap (mappingIssues profilePath profile) ++
  profile.flatMap fun capability =>
    if ((manifestCapabilities manifest).get? capability.id).isSome then []
    else
      [⟨"files." ++ profilePath ++ ".capabilities." ++ capability.id,
        "Profile 引用了 Manifest 未声明的能力"⟩]

def DependsOn (id other : String) : Prop :=
  ∃ capability ∈ capabilities, capability.id = id ∧ other ∈ capability.dependsOn

structure CapabilitiesFit (manifest : List CapabilityRef)
    (profile : List AgentProfileCapability) : Prop where
  distinct : (manifest.map CapabilityRef.id).Nodup
  closed : ∀ id other, DependsOn manifest id other → other ∈ manifest.map CapabilityRef.id
  acyclic : ∀ id, ¬ Relation.TransGen (DependsOn manifest) id id
  mapped : ∀ capability ∈ manifest, capability.required = true →
    capability.id ∈ profile.map AgentProfileCapability.id
  permitted : ∀ capability ∈ manifest, ∀ mapped,
    (profileCapabilities profile).get? capability.id = some mapped →
    mapped.permissions.Perm capability.permissions
  declared : ∀ capability ∈ profile, capability.id ∈ manifest.map CapabilityRef.id

theorem isSome_get?_setAll {ν : Type} {entries : List (String × ν)} {key : String}
    (map : InsertionMap String ν) : ((map.setAll entries).get? key).isSome = true ↔
      key ∈ entries.map Prod.fst ∨ (map.get? key).isSome = true := by
  induction entries generalizing map with
  | nil => simp [setAll]
  | cons entry entries ih =>
    have step := ih (map.set entry.1 entry.2)
    change ((setAll (map.set entry.1 entry.2) entries).get? key).isSome = true ↔ _
    rw [step]
    by_cases same : key = entry.1 <;> simp [same]

theorem sameStringSet_iff {left right : List String} (unique : left.Nodup) :
    sameStringSet left right = true ↔ left.Perm right := by
  simp only [sameStringSet, Bool.and_eq_true, decide_eq_true_eq, all_eq_true]
  constructor
  · rintro ⟨length, within⟩
    exact (subperm_of_subset unique within).perm_of_length_le (Nat.le_of_eq length.symm)
  · exact fun perm => ⟨perm.length_eq, fun _ mem => perm.subset mem⟩

variable {manifest : List CapabilityRef} {profile : List AgentProfileCapability} {id : String}

theorem isSome_manifestCapabilities : ((manifestCapabilities manifest).get? id).isSome = true ↔
    id ∈ manifest.map CapabilityRef.id := by
  rw [manifestCapabilities, isSome_get?_setAll]
  simp

theorem isSome_profileCapabilities : ((profileCapabilities profile).get? id).isSome = true ↔
    id ∈ profile.map AgentProfileCapability.id := by
  rw [profileCapabilities, isSome_get?_setAll]
  simp

theorem entries_manifestCapabilities (distinct : (manifest.map CapabilityRef.id).Nodup) :
    (manifestCapabilities manifest).entries =
      manifest.map fun capability => (capability.id, capability) := by
  have distinctKeys : (((empty : InsertionMap String CapabilityRef).entries ++
      manifest.map fun capability => (capability.id, capability)).map Prod.fst).Nodup := by
    simpa [empty, Function.comp_def] using distinct
  exact entries_setAll_of_nodup distinctKeys

/-- The map has as many entries as the list exactly when no identifier occurs twice. -/
theorem distinct_iff : (manifestCapabilities manifest).entries.length = manifest.length ↔
    (manifest.map CapabilityRef.id).Nodup := by
  constructor
  · intro length
    have within : (manifestCapabilities manifest).keys ⊆ manifest.map CapabilityRef.id := by
      intro key mem
      apply isSome_manifestCapabilities.mp
      by_contra absent
      exact get?_eq_none_iff.mp (by simpa using absent) mem
    have perm := (subperm_of_subset (manifestCapabilities manifest).nodupKeys
      within).perm_of_length_le (by simp [length])
    exact perm.nodup_iff.mp (manifestCapabilities manifest).nodupKeys
  · intro distinct
    rw [entries_manifestCapabilities distinct, length_map]

theorem edge_iff (distinct : (manifest.map CapabilityRef.id).Nodup) {other : String} :
    DepthFirst.Edge (dependencies manifest) id other ↔ DependsOn manifest id other := by
  have found (capability : CapabilityRef) :
      (manifestCapabilities manifest).get? id = some capability ↔
        capability ∈ manifest ∧ capability.id = id := by
    rw [get?_eq_some_iff, entries_manifestCapabilities distinct]
    simp [and_comm]
  unfold DepthFirst.Edge dependencies DependsOn
  cases present : (manifestCapabilities manifest).get? id with
  | none =>
    simp only [Option.map_none, Option.getD_none, not_mem_nil, false_iff, not_exists]
    rintro capability ⟨mem, same, -⟩
    simp [(found capability).mpr ⟨mem, same⟩] at present
  | some capability =>
    obtain ⟨mem, same⟩ := (found capability).mp present
    constructor
    · exact fun depends => ⟨capability, mem, same, depends⟩
    · rintro ⟨another, anotherIn, anotherSame, depends⟩
      have isSame := (found another).mpr ⟨anotherIn, anotherSame⟩
      rw [present] at isSame
      cases isSame
      exact depends

theorem dependencyIssues_eq_nil_iff (distinct : (manifest.map CapabilityRef.id).Nodup) :
    dependencyIssues manifest = [] ↔
      (∀ id other, DependsOn manifest id other → other ∈ manifest.map CapabilityRef.id) ∧
        ∀ id, ¬ Relation.TransGen (DependsOn manifest) id id := by
  have known (id : String) : (dependencies manifest id).isSome = true ↔
      id ∈ manifest.map CapabilityRef.id := by
    rw [dependencies, Option.isSome_map, isSome_manifestCapabilities]
  have edges : DepthFirst.Edge (dependencies manifest) = DependsOn manifest := by
    ext id other
    exact edge_iff distinct
  rw [dependencyIssues, DepthFirst.issues_visitAll_eq_nil_iff known, edges]
  simp only [known]

theorem capabilityIssues_eq_nil_iff (profilePath : String) (manifest : List CapabilityRef)
    (profile : List AgentProfileCapability) :
    capabilityIssues profilePath manifest profile = [] ↔ CapabilitiesFit manifest profile := by
  have mapping (capability : CapabilityRef) : mappingIssues profilePath profile capability = [] ↔
      (capability.required = true → capability.id ∈ profile.map AgentProfileCapability.id) ∧
      ∀ mapped, (profileCapabilities profile).get? capability.id = some mapped →
        mapped.permissions.Perm capability.permissions := by
    rw [← isSome_profileCapabilities, mappingIssues]
    cases (profileCapabilities profile).get? capability.id with
    | none => simp
    | some mapped => simp [sameStringSet_iff mapped.unique]
  have declared : (profile.flatMap fun capability =>
      if ((manifestCapabilities manifest).get? capability.id).isSome then []
      else [(⟨"files." ++ profilePath ++ ".capabilities." ++ capability.id,
        "Profile 引用了 Manifest 未声明的能力"⟩ : ProfileValidationIssue)]) = [] ↔
      ∀ capability ∈ profile, capability.id ∈ manifest.map CapabilityRef.id := by
    simp only [flatMap_eq_nil_iff, isSome_manifestCapabilities, ite_eq_left_iff,
      cons_ne_nil, imp_false, not_not]
  unfold capabilityIssues
  rw [append_eq_nil_iff, append_eq_nil_iff, append_eq_nil_iff, declared, flatMap_eq_nil_iff]
  simp only [mapping, ite_eq_left_iff, cons_ne_nil, imp_false, not_not, distinct_iff]
  constructor
  · rintro ⟨⟨⟨distinct, quiet⟩, mapped⟩, declared⟩
    obtain ⟨closed, acyclic⟩ := (dependencyIssues_eq_nil_iff distinct).mp quiet
    exact ⟨distinct, closed, acyclic, fun capability mem => (mapped capability mem).1,
      fun capability mem => (mapped capability mem).2, declared⟩
  · intro fit
    have quiet := (dependencyIssues_eq_nil_iff fit.distinct).mpr ⟨fit.closed, fit.acyclic⟩
    exact ⟨⟨⟨fit.distinct, quiet⟩, fun capability mem =>
      ⟨fit.mapped capability mem, fit.permitted capability mem⟩⟩, fit.declared⟩

/-- Two capabilities, of which the second needs the first. -/
def linked (dependsOn : List String) : List CapabilityRef :=
  [⟨"draft", false, [], dependsOn⟩, ⟨"send", true, ["mail.read", "mail.send"], ["draft"]⟩]

def mailProfile : List AgentProfileCapability := [⟨"send", ["mail.send", "mail.read"], by decide⟩]

theorem capabilitiesFit_linked : CapabilitiesFit (linked []) mailProfile ∧
    ¬ CapabilitiesFit (linked ["send"]) mailProfile := by
  constructor
  · exact (capabilityIssues_eq_nil_iff "hr.json" _ _).mp (by decide)
  · intro fits
    exact absurd ((capabilityIssues_eq_nil_iff "hr.json" _ _).mpr fits) (by decide)

end PackSchema

end LongHub
