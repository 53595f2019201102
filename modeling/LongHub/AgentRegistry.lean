import LongHub.BridgeAuthorization
import LongHub.Collation

/-!
# The registry of agents

The registry maps the profiles of installed packs to the agents of OpenClaw.
-/

namespace LongHub

open List

inductive PackLifecycleCode where
  | packNotInstalled
  | packVerificationFailed
  | packNotEntitled
  | packEnableFailed
  | packDisableFailed
  | configRollbackFailed
  deriving DecidableEq

structure LifecycleError where
  code : Option PackLifecycleCode
  message : String

namespace LifecycleError

def plain (message : String) : LifecycleError := ⟨none, message⟩

def ofCode (code : PackLifecycleCode) (message : String) : LifecycleError := ⟨some code, message⟩

end LifecycleError

inductive DiskOperation where
  | listInstalled
  | readPack (packId : String)
  | verifyPack (packId : String)
  | writeRegistry (revision : Nat)
  | materialize (agentId : String)

abbrev Disk := DiskOperation → Option String

def replaceRuns (keep : Char → Bool) (mark : Char) : Bool → List Char → List Char
  | _, [] => []
  | inRun, char :: rest =>
    if keep char then char :: replaceRuns keep mark false rest
    else if inRun then replaceRuns keep mark true rest
    else mark :: replaceRuns keep mark true rest

def isAgentIdChar (char : Char) : Bool := char.isLower || char.isDigit || char ∈ ['_', '-']

def openclawAgentIdPattern : String → Bool :=
  matchesClasses (fun char => char.isLower || char.isDigit) isAgentIdChar 0 63

def agentIdForProfile (node : NodePlatform) (profileId : String) : Except String String :=
  let lower := (trimText profileId).toList.map Char.toLower
  let dashed := (replaceRuns isAgentIdChar '-' false lower).dropWhile (· = '-')
  let normalized := (dashed.reverse.dropWhile (· = '-')).reverse
  if normalized = [] ∨ profileId = "main" then .error "Profile ID 不能映射为 main"
  else
    let suffix := (node.sha256Hex profileId).toList.take 12
    .ok (String.ofList (normalized.take 51 ++ '-' :: suffix))

structure AgentRegistryEntry where
  profileId : String
  agentId : String
  packId : String
  profileVersion : String
  packVersion : String
  enabled : Bool
  deriving DecidableEq

def isRegistryEntry (node : NodePlatform) (entry : AgentRegistryEntry) : Except String Bool :=
  if openclawAgentIdPattern entry.agentId && entry.agentId ≠ "main" then
    (agentIdForProfile node entry.profileId).map fun agentId => entry.agentId = agentId
  else .ok false

def entryLe (left right : AgentRegistryEntry) : Prop :=
  Collation.localeLe left.profileId right.profileId

instance : DecidableRel entryLe := fun left right =>
  inferInstanceAs (Decidable (Collation.localeLe left.profileId right.profileId))

def sortEntries (entries : List AgentRegistryEntry) : List AgentRegistryEntry :=
  entries.insertionSort entryLe

theorem sortEntries_perm (entries : List AgentRegistryEntry) : (sortEntries entries).Perm entries :=
  perm_insertionSort entryLe entries

variable {entries : List AgentRegistryEntry}

theorem mem_sortEntries {entry : AgentRegistryEntry} :
    entry ∈ sortEntries entries ↔ entry ∈ entries :=
  (sortEntries_perm entries).mem_iff

theorem pairwise_sortEntries (entries : List AgentRegistryEntry) :
    (sortEntries entries).Pairwise entryLe := by
  have isTotal : Std.Total entryLe := ⟨fun left right =>
    Std.Total.total (r := Collation.localeLe) left.profileId right.profileId⟩
  have isTrans : IsTrans AgentRegistryEntry entryLe := ⟨fun _ _ _ => le_trans⟩
  exact pairwise_insertionSort entryLe entries

theorem sortEntries_of_pairwise (inOrder : entries.Pairwise entryLe) :
    sortEntries entries = entries :=
  inOrder.insertionSort_eq

structure AgentRegistry where
  revision : Nat
  entries : List AgentRegistryEntry
  distinct : (entries.map AgentRegistryEntry.profileId).Nodup

namespace AgentRegistry

def InOrder (registry : AgentRegistry) : Prop := registry.entries.Pairwise entryLe

/-- What an operation answers, with the registry it leaves. -/
abbrev Outcome (α : Type) := Except LifecycleError α × AgentRegistry

def findByProfile (registry : AgentRegistry) (profileId : String) : Option AgentRegistryEntry :=
  registry.entries.find? fun entry => entry.profileId = profileId

def enabledEntries (registry : AgentRegistry) : List AgentRegistryEntry :=
  registry.entries.filter AgentRegistryEntry.enabled

/-- Write the entries and make them the state. -/
def commit (disk : Disk) (registry : AgentRegistry) (entries : List AgentRegistryEntry)
    (distinct : (entries.map AgentRegistryEntry.profileId).Nodup) : Outcome Unit :=
  match disk (.writeRegistry (registry.revision + 1)) with
  | some message => (.error (.plain message), registry)
  | none =>
    (.ok (), ⟨registry.revision + 1, sortEntries entries,
      ((sortEntries_perm entries).map _).nodup_iff.mpr distinct⟩)

/-- Put back the entries of a snapshot. -/
def restore (node : NodePlatform) (disk : Disk) (registry : AgentRegistry)
    (snapshot : List AgentRegistryEntry) : Outcome Unit :=
  match snapshot.mapM (isRegistryEntry node) with
  | .error message => (.error (.plain message), registry)
  | .ok valid =>
    if valid.all id then
      if distinct : (snapshot.map AgentRegistryEntry.profileId).Nodup then
        if (snapshot.map AgentRegistryEntry.agentId).Nodup then
          registry.commit disk snapshot distinct
        else (.error (.plain "Agent Registry 快照存在重复 agentId"), registry)
      else (.error (.plain "Agent Registry 快照存在重复 Profile ID"), registry)
    else (.error (.plain "Agent Registry 快照条目无效"), registry)

theorem distinct_replace {entries : List AgentRegistryEntry}
    (distinct : (entries.map AgentRegistryEntry.profileId).Nodup)
    {change : AgentRegistryEntry → AgentRegistryEntry}
    (sameProfile : ∀ entry, (change entry).profileId = entry.profileId) :
    ((entries.map change).map AgentRegistryEntry.profileId).Nodup := by
  have same : (entries.map change).map AgentRegistryEntry.profileId =
      entries.map AgentRegistryEntry.profileId := by
    rw [map_map]
    exact map_congr_left fun entry _ => sameProfile entry
  rw [same]
  exact distinct

def setPackEnabled (disk : Disk) (registry : AgentRegistry) (packId : String) (enabled : Bool) :
    Outcome Unit :=
  let owned := registry.entries.filter fun entry => entry.packId = packId
  if owned = [] then (.error (.plain ("未注册的 Pack: " ++ packId)), registry)
  else if owned.all fun entry => entry.enabled = enabled then (.ok (), registry)
  else
    let profileIds := owned.map AgentRegistryEntry.profileId
    registry.commit disk (registry.entries.map fun entry =>
        if entry.profileId ∈ profileIds then { entry with enabled } else entry)
      (distinct_replace registry.distinct fun entry => by split <;> rfl)

def enter (disk : Disk) (registry : AgentRegistry) (next : AgentRegistryEntry) :
    Outcome AgentRegistryEntry :=
  match found : registry.findByProfile next.profileId with
  | some existing =>
    if existing = next then (.ok existing, registry)
    else
      let (outcome, after) := registry.commit disk (registry.entries.map fun entry =>
          if entry.profileId = next.profileId then next else entry)
        (distinct_replace registry.distinct fun entry => by
          split
          · next same => exact same.symm
          · rfl)
      (outcome.map fun _ => next, after)
  | none =>
    let (outcome, after) := registry.commit disk (registry.entries ++ [next]) (by
      rw [map_append, map_singleton]
      apply registry.distinct.append (nodup_singleton _)
      intro profileId mem single
      obtain ⟨entry, isEntry, rfl⟩ := mem_map.mp mem
      have absent := find?_eq_none.mp found entry isEntry
      exact absent (by simpa using mem_singleton.mp single))
    (outcome.map fun _ => next, after)

section Lemmas

variable {node : NodePlatform} {disk : Disk} {registry after : AgentRegistry}

variable {entries : List AgentRegistryEntry}

theorem commit_cases {distinct : (entries.map AgentRegistryEntry.profileId).Nodup}
    {outcome : Except LifecycleError Unit}
    (committed : registry.commit disk entries distinct = (outcome, after)) :
    (after = registry ∧ ∃ message, outcome = .error (.plain message)) ∨
      (after.entries = sortEntries entries ∧ outcome = .ok ()) := by
  unfold commit at committed
  split at committed
  · cases committed
    exact Or.inl ⟨rfl, _, rfl⟩
  · cases committed
    exact Or.inr ⟨rfl, rfl⟩

theorem inOrder_commit {distinct : (entries.map AgentRegistryEntry.profileId).Nodup}
    (inOrder : registry.InOrder) : (registry.commit disk entries distinct).2.InOrder := by
  generalize committed : registry.commit disk entries distinct = result
  rcases commit_cases committed with ⟨rfl, -⟩ | ⟨sorted, -⟩
  · exact inOrder
  · unfold InOrder
    rw [sorted]
    exact pairwise_sortEntries entries

theorem inOrder_setPackEnabled (inOrder : registry.InOrder) (packId : String) (enabled : Bool) :
    (registry.setPackEnabled disk packId enabled).2.InOrder := by
  simp only [setPackEnabled]
  split
  · exact inOrder
  · split
    · exact inOrder
    · exact inOrder_commit inOrder

theorem inOrder_enter (inOrder : registry.InOrder) (next : AgentRegistryEntry) :
    (registry.enter disk next).2.InOrder := by
  unfold enter
  split
  · split
    · exact inOrder
    · exact inOrder_commit inOrder
  · exact inOrder_commit inOrder

theorem entries_restore {snapshot : List AgentRegistryEntry} (inOrder : snapshot.Pairwise entryLe)
    (restored : registry.restore node disk snapshot = (.ok (), after)) :
    after.entries = snapshot := by
  unfold restore at restored
  split at restored
  · cases restored
  · split at restored
    · split at restored
      · split at restored
        · rcases commit_cases restored with ⟨-, _, bad⟩ | ⟨sorted, -⟩
          · cases bad
          · rw [sorted, sortEntries_of_pairwise inOrder]
        · cases restored
      · cases restored
    · cases restored

theorem findByProfile_eq_some_iff {profileId : String} {entry : AgentRegistryEntry} :
    registry.findByProfile profileId = some entry ↔
      entry ∈ registry.entries ∧ entry.profileId = profileId := by
  constructor
  · intro found
    exact ⟨mem_of_find?_eq_some found, by simpa using find?_some found⟩
  · rintro ⟨mem, same⟩
    cases found : registry.findByProfile profileId with
    | none =>
      have absent := find?_eq_none.mp found entry mem
      exact absurd same (by simpa using absent)
    | some other =>
      have otherIs : other.profileId = profileId := by simpa using find?_some found
      have equal := inj_on_of_nodup_map registry.distinct
        (mem_of_find?_eq_some found) mem (otherIs.trans same.symm)
      rw [equal]

theorem findByProfile_enter {next entered : AgentRegistryEntry}
    (enters : registry.enter disk next = (.ok entered, after)) :
    entered = next ∧ ∀ profileId, after.findByProfile profileId =
      if profileId = next.profileId then some next else registry.findByProfile profileId := by
  -- whatever list is committed, its members decide the lookups
  have lookups {entries : List AgentRegistryEntry} (sorted : after.entries = sortEntries entries)
      (members : ∀ entry, entry ∈ entries ↔
        entry = next ∨ entry ∈ registry.entries ∧ entry.profileId ≠ next.profileId)
      (profileId : String) : after.findByProfile profileId =
        if profileId = next.profileId then some next else registry.findByProfile profileId := by
    apply Option.ext
    intro entry
    rw [findByProfile_eq_some_iff, sorted, mem_sortEntries, members]
    by_cases isNext : profileId = next.profileId
    · rw [if_pos isNext, Option.some.injEq]
      constructor
      · rintro ⟨same | ⟨-, other⟩, isProfile⟩
        · exact same.symm
        · exact absurd (isProfile.trans isNext) other
      · rintro rfl
        exact ⟨Or.inl rfl, isNext.symm⟩
    · rw [if_neg isNext, findByProfile_eq_some_iff]
      constructor
      · rintro ⟨same | ⟨mem, -⟩, isProfile⟩
        · exact absurd (isProfile.symm.trans (congrArg _ same)) isNext
        · exact ⟨mem, isProfile⟩
      · rintro ⟨mem, isProfile⟩
        exact ⟨Or.inr ⟨mem, fun same => isNext (isProfile.symm.trans same)⟩, isProfile⟩
  unfold enter at enters
  split at enters
  · next existing found =>
    have isExisting := findByProfile_eq_some_iff.mp found
    split at enters
    · next same =>
      cases enters
      refine ⟨same, fun profileId => ?_⟩
      split
      · next isNext => rw [isNext, found, same]
      · rfl
    · generalize committed : registry.commit disk _ _ = result at enters
      obtain ⟨outcome, last⟩ := result
      rcases commit_cases committed with ⟨-, message, rfl⟩ | ⟨sorted, rfl⟩
      · cases enters
      · cases enters
        refine ⟨rfl, lookups sorted fun entry => ?_⟩
        rw [mem_map]
        constructor
        · rintro ⟨old, mem, rfl⟩
          split
          · exact Or.inl rfl
          · next other => exact Or.inr ⟨mem, other⟩
        · rintro (rfl | ⟨mem, other⟩)
          · exact ⟨existing, isExisting.1, if_pos isExisting.2⟩
          · exact ⟨entry, mem, if_neg other⟩
  · next absent =>
    generalize committed : registry.commit disk _ _ = result at enters
    obtain ⟨outcome, last⟩ := result
    rcases commit_cases committed with ⟨-, message, rfl⟩ | ⟨sorted, rfl⟩
    · cases enters
    · cases enters
      refine ⟨rfl, lookups sorted fun entry => ?_⟩
      rw [mem_append, mem_singleton]
      constructor
      · rintro (mem | same)
        · exact Or.inr ⟨mem, by simpa using find?_eq_none.mp absent entry mem⟩
        · exact Or.inl same
      · rintro (same | ⟨mem, -⟩)
        · exact Or.inr same
        · exact Or.inl mem

end Lemmas

end AgentRegistry

end LongHub
