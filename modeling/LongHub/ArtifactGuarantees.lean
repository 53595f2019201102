import LongHub.ArtifactServer

/-!
# Acknowledged changes of artifact releases

In every run in which no upload saves over what was saved since it loaded the index, every change
that was saved stays in force: uploaded versions are listed, withdrawn versions are neither
offered nor downloaded, and the last rollout of a version is its rollout.
-/

namespace LongHub

open List Option

namespace CloudApi

namespace ArtifactServer

section Guarantees

variable {surface : ArtifactSurface} {signer : ArtifactSigner}
variable {server next : ArtifactServer} {action : ArtifactAction} {change : ArtifactChange}

def InForce (index : List ArtifactRecord) : ArtifactChange → Prop
  | .upload version => ∃ record ∈ index, record.version = version
  | .withdraw version =>
    ∃ record ∈ index, record.version = version ∧ record.withdrawnAt.isSome = true
  | .rollout version status basisPoints =>
    ∃ record ∈ index, record.version = version ∧ record.manifest.rollout.status = status ∧
      record.manifest.rollout.basisPoints = basisPoints

def Sets (change : ArtifactChange) (version : String) : Prop :=
  ∃ status basisPoints, change = .rollout version status basisPoints

def Superseded (change later : ArtifactChange) : Prop :=
  ∃ version, Sets change version ∧ Sets later version

variable {index saved : List ArtifactRecord} {now actor version : String}

theorem InForce.keeps {later : ArtifactChange} (inForce : InForce index change)
    (keeps : Keeps index saved (Sets later)) (notSuperseded : ¬ Superseded change later) :
    InForce saved change := by
  cases change with
  | upload version =>
    obtain ⟨record, mem, rfl⟩ := inForce
    obtain ⟨kept, inside, same, -⟩ := keeps.kept record mem
    exact ⟨kept, inside, same⟩
  | withdraw version =>
    obtain ⟨record, mem, rfl, withdrawn⟩ := inForce
    obtain ⟨kept, inside, same, -, -, stays, -⟩ := keeps.kept record mem
    exact ⟨kept, inside, same, stays withdrawn⟩
  | rollout version status basisPoints =>
    obtain ⟨record, mem, rfl, rfl, rfl⟩ := inForce
    obtain ⟨kept, inside, same, -, -, -, sets | rollout⟩ := keeps.kept record mem
    · exact absurd ⟨record.version, ⟨_, _, rfl⟩, sets⟩ notSuperseded
    · exact ⟨kept, inside, same, by rw [rollout], by rw [rollout]⟩

/-- What a part of a request may do to the index. -/
inductive Saves (surface : ArtifactSurface) (signer : ArtifactSigner)
    (server next : ArtifactServer) : Prop where
  | same (index : next.index = server.index) (changes : next.changes = server.changes)
  | saved (change : ArtifactChange) (changes : next.changes = server.changes ++ [change])
      (isIndex : IsIndex surface signer next.index)
      (keeps : Keeps server.index next.index (Sets change)) (inForce : InForce next.index change)

/-- What holds in every state of a run without lost saves. -/
structure Kept (surface : ArtifactSurface) (signer : ArtifactSigner) (server : ArtifactServer) :
    Prop where
  isIndex : IsIndex surface signer server.index
  filenames : ∀ record ∈ server.index, record.manifest.filename = surface.filenameFor record.version
  inForce : ∀ earlier change later, server.changes = earlier ++ change :: later →
    (∀ other ∈ later, ¬ Superseded change other) → InForce server.index change
  answered : ∀ change ∈ server.audits ++ server.acknowledged, change ∈ server.changes
  pending : ∀ upload ∈ server.uploads, ∀ record ∈ upload.records, record.version ≠ upload.version

theorem kept_empty : Kept surface signer empty where
  isIndex := ⟨fun _ mem => absurd mem not_mem_nil, nodup_nil, nodup_nil⟩
  filenames _ mem := absurd mem not_mem_nil
  inForce earlier change later same := by
    have mem : change ∈ (empty : ArtifactServer).changes := by simp [same]
    exact absurd mem not_mem_nil
  answered _ mem := absurd mem not_mem_nil
  pending _ mem := absurd mem not_mem_nil

theorem inForce_append {changes : List ArtifactChange} {latest : ArtifactChange}
    (before : ∀ earlier change later, changes = earlier ++ change :: later →
      (∀ other ∈ later, ¬ Superseded change other) → InForce index change)
    (keeps : Keeps index saved (Sets latest)) (isNow : InForce saved latest)
    (earlier : List ArtifactChange) (change : ArtifactChange) (later : List ArtifactChange)
    (split : changes ++ [latest] = earlier ++ change :: later)
    (notSuperseded : ∀ other ∈ later, ¬ Superseded change other) : InForce saved change := by
  rcases eq_nil_or_concat later with rfl | ⟨rest, last, rfl⟩
  · obtain ⟨-, same⟩ := append_inj' split rfl
    cases same
    exact isNow
  · rw [concat_eq_append, ← cons_append, ← append_assoc] at split
    obtain ⟨sameChanges, sameLast⟩ := append_inj' split rfl
    cases sameLast
    have was := before earlier change rest sameChanges fun other mem =>
      notSuperseded other (by simp [mem])
    exact was.keeps keeps (notSuperseded latest (by simp))

theorem saves_finishUpload {which size : Nat} {sha256 seed : String}
    (kept : Kept surface signer server)
    (current : server.IsCurrent surface signer (.finishUpload which size sha256 now seed))
    (finishes : server.finishUpload surface signer which size sha256 now seed = some next) :
    Saves surface signer server next ∧ (∀ record ∈ next.index,
        record.manifest.filename = surface.filenameFor record.version) ∧
      next.uploads = server.uploads.eraseIdx which := by
  obtain ⟨upload, found, rest⟩ := bind_eq_some_iff.mp finishes
  simp only [ite_none_right_eq_some, Option.some.injEq] at rest
  obtain ⟨-, rfl⟩ := rest
  obtain ⟨isLoaded, exactNumbers⟩ := current upload found
  have perm := kept.isIndex.load_perm
  have newVersion : upload.version ∉
      (load surface signer server.index).map ArtifactRecord.version := by
    intro mem
    obtain ⟨record, inside, same⟩ := List.mem_map.mp mem
    exact kept.pending upload (mem_of_getElem? found) record (isLoaded ▸ inside) same
  have higher {record : ArtifactRecord} (mem : record ∈ load surface signer server.index) :
      record.sequence < nextSequence upload.records := by
    rw [isLoaded]
    exact lt_nextSequence pairwise_load
      (fun other inside => exactNumbers other (perm.subset inside)) mem
  have newSequence : nextSequence upload.records ∉
      (load surface signer server.index).map ArtifactRecord.sequence := by
    intro mem
    obtain ⟨record, inside, same⟩ := List.mem_map.mp mem
    have isLower := higher inside
    omega
  have listed : isListed surface signer (uploadRecord surface signer upload size sha256 now seed) =
      true := by
    simp [isListed, uploadRecord, uploadManifest, signManifest, signer.isSignature]
    exact signer.verifies _
  refine ⟨.saved (.upload upload.version) rfl ?_ ?_ ?_, ?_, rfl⟩
  · have whole := (kept.isIndex.perm perm).cons listed newVersion newSequence
    rw [← isLoaded] at whole
    exact whole
  · refine ⟨fun record mem => ?_⟩
    have inside := perm.symm.subset mem
    rw [← isLoaded] at inside
    exact ⟨record, mem_cons_of_mem _ inside, rfl, rfl, le_refl _, id, .inr rfl⟩
  · exact ⟨_, mem_cons_self, rfl⟩
  · intro record mem
    rcases mem_cons.mp mem with rfl | earlier
    · rfl
    · rw [isLoaded] at earlier
      exact kept.filenames record (perm.subset earlier)

theorem saves_replace {existing record : ArtifactRecord} {latest : ArtifactChange}
    (kept : Kept surface signer server) (mem : existing ∈ load surface signer server.index)
    (listed : isListed surface signer record = true)
    (version : record.version = existing.version) (channel : record.channel = existing.channel)
    (filename : record.manifest.filename = existing.manifest.filename)
    (sequence : record.sequence = existing.sequence ∨
      ∀ other ∈ load surface signer server.index, other.sequence < record.sequence)
    (withdrawn : existing.withdrawnAt.isSome = true → record.withdrawnAt.isSome = true)
    (rollout : Sets latest existing.version ∨ record.manifest.rollout = existing.manifest.rollout)
    (isNow : InForce (record :: (load surface signer server.index).erase existing) latest) :
    Saves surface signer server
        (server.save (record :: (load surface signer server.index).erase existing) latest) ∧
      ∀ other ∈ record :: (load surface signer server.index).erase existing,
        other.manifest.filename = surface.filenameFor other.version := by
  have perm := kept.isIndex.load_perm
  have loaded := kept.isIndex.perm perm
  have split := loaded.perm (perm_cons_erase mem).symm
  have sequences := split.sequences
  rw [map_cons, nodup_cons] at sequences
  have higher : existing.sequence ≤ record.sequence := by
    rcases sequence with same | higher
    · exact same.symm.le
    · exact (higher existing mem).le
  have newSequence : record.sequence ∉
      ((load surface signer server.index).erase existing).map ArtifactRecord.sequence := by
    intro inside
    rcases sequence with same | higher
    · rw [same] at inside
      exact sequences.1 inside
    · obtain ⟨other, isOther, sameSequence⟩ := List.mem_map.mp inside
      have isLower := higher other (mem_of_mem_erase isOther)
      omega
  constructor
  · refine .saved latest rfl (loaded.replace mem listed version newSequence) ?_ isNow
    exact (keeps_replace mem version channel higher withdrawn rollout).perm perm.symm
  · intro other inside
    rcases mem_cons.mp inside with rfl | rest
    · rw [filename, version]
      exact kept.filenames existing (perm.subset mem)
    · exact kept.filenames other (perm.subset (mem_of_mem_erase rest))

theorem saves_setRollout {status : String} {basisPoints : Int} (kept : Kept surface signer server)
    (current : ∀ record ∈ server.index, record.sequence < 2 ^ 53)
    (changes : server.setRollout surface signer actor version status basisPoints now = some next) :
    Saves surface signer server next ∧ (∀ record ∈ next.index,
        record.manifest.filename = surface.filenameFor record.version) ∧
      next.uploads = server.uploads := by
  obtain ⟨existing, found, rest⟩ := bind_eq_some_iff.mp changes
  simp only [ite_none_right_eq_some, Option.some.injEq] at rest
  obtain ⟨-, rfl⟩ := rest
  have perm := kept.isIndex.load_perm
  have mem := mem_of_find?_eq_some found
  have isVersion : existing.version = version := by simpa using find?_some found
  have wasListed := kept.isIndex.listed existing (perm.subset mem)
  have listed : isListed surface signer (rolloutRecord signer (load surface signer server.index)
      existing actor status basisPoints now) = true := by
    simp only [isListed, Bool.and_eq_true, decide_eq_true_eq] at wasListed ⊢
    obtain ⟨⟨⟨schema, product⟩, -⟩, -⟩ := wasListed
    refine ⟨⟨⟨schema, product⟩, ?_⟩, ?_⟩
    · simp [rolloutRecord, signManifest, signer.isSignature]
    · exact signer.verifies _
  have higher : ∀ other ∈ load surface signer server.index, other.sequence <
      (rolloutRecord signer (load surface signer server.index) existing actor status basisPoints
        now).sequence := by
    intro other inside
    exact lt_nextSequence pairwise_load (fun one isOne => current one (perm.subset isOne)) inside
  obtain ⟨saves, filenames⟩ := @saves_replace surface signer server existing _
    (.rollout version status basisPoints) kept mem listed rfl rfl rfl (.inr higher) id
    (.inl ⟨status, basisPoints, by rw [isVersion]⟩) ⟨_, mem_cons_self, isVersion, rfl, rfl⟩
  exact ⟨saves, filenames, rfl⟩

theorem saves_withdraw (kept : Kept surface signer server)
    (withdraws : server.withdraw surface signer actor version now = some next) :
    Saves surface signer server next ∧ (∀ record ∈ next.index,
        record.manifest.filename = surface.filenameFor record.version) ∧
      next.uploads = server.uploads := by
  obtain ⟨existing, found, rest⟩ := bind_eq_some_iff.mp withdraws
  simp only [ite_none_left_eq_some, Option.some.injEq] at rest
  obtain ⟨-, rfl⟩ := rest
  have mem := mem_of_find?_eq_some found
  have isVersion : existing.version = version := by simpa using find?_some found
  have listed := kept.isIndex.listed existing (kept.isIndex.load_perm.subset mem)
  obtain ⟨saves, filenames⟩ := @saves_replace surface signer server existing
    { existing with withdrawnBy := some actor, withdrawnAt := some now } (.withdraw version) kept
    mem listed rfl rfl rfl (.inl rfl) (fun _ => rfl) (.inr rfl)
    ⟨_, mem_cons_self, isVersion, rfl⟩
  exact ⟨saves, filenames, rfl⟩

end Guarantees

end ArtifactServer

end CloudApi

end LongHub
