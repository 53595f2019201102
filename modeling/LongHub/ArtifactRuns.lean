import LongHub.ArtifactGuarantees

/-!
# Runs of the artifact release server

A run in which no upload saves over a save that came after its load keeps every change in force, the
sequence numbers apart and the newest record of every channel at no lower a number.
-/

namespace LongHub

open List
namespace CloudApi

open CloudCli (basename)

namespace ArtifactServer

section Runs

variable {surface : ArtifactSurface} {signer : ArtifactSigner}
variable {server next after : ArtifactServer} {action : ArtifactAction}

theorem Kept.saves (kept : Kept surface signer server) (saves : Saves surface signer server next)
    (filenames : ∀ record ∈ next.index,
      record.manifest.filename = surface.filenameFor record.version)
    (answered : ∀ change ∈ next.audits ++ next.acknowledged, change ∈ next.changes)
    (pending : ∀ upload ∈ next.uploads, ∀ record ∈ upload.records,
      record.version ≠ upload.version) : Kept surface signer next := by
  cases saves with
  | same index changes =>
    refine ⟨index ▸ kept.isIndex, filenames, ?_, answered, pending⟩
    rw [index, changes]
    exact kept.inForce
  | saved change changes isIndex keeps inForce =>
    refine ⟨isIndex, filenames, ?_, answered, pending⟩
    rw [changes]
    exact fun earlier other later =>
      inForce_append kept.inForce keeps inForce earlier other later

theorem Kept.answered_save (kept : Kept surface signer server) {change : ArtifactChange}
    (audits : next.audits = server.audits ++ [change])
    (changes : next.changes = server.changes ++ [change])
    (acknowledged : next.acknowledged = server.acknowledged) :
    ∀ other ∈ next.audits ++ next.acknowledged, other ∈ next.changes := by
  intro other mem
  rw [audits, acknowledged] at mem
  rw [changes]
  have before := kept.answered other
  simp only [mem_append, mem_singleton] at mem before ⊢
  tauto

theorem kept_step (kept : Kept surface signer server)
    (current : server.IsCurrent surface signer action)
    (steps : server.step surface signer action = some next) :
    Kept surface signer next ∧ Saves surface signer server next := by
  cases action with
  | beginUpload actor version rawFilename channel declared =>
    simp only [step, beginUpload, Option.ite_none_right_eq_some, Option.some.injEq] at steps
    obtain ⟨accepted, rfl⟩ := steps
    simp only [Bool.and_eq_true, Bool.not_eq_true', any_eq_false, decide_eq_true_eq] at accepted
    obtain ⟨⟨-, isNew⟩, -⟩ := accepted
    have saves : Saves surface signer server { server with uploads := server.uploads ++
      [⟨actor, version, channel, declared, load surface signer server.index⟩] } := .same rfl rfl
    refine ⟨kept.saves saves kept.filenames kept.answered fun upload mem => ?_, saves⟩
    rcases mem_append.mp mem with earlier | isLast
    · exact kept.pending upload earlier
    · rw [mem_singleton.mp isLast]
      exact isNew
  | finishUpload which size sha256 now seed =>
    obtain ⟨saves, filenames, uploads⟩ := saves_finishUpload kept current steps
    refine ⟨kept.saves saves filenames ?_ ?_, saves⟩
    · obtain ⟨upload, found, rest⟩ := Option.bind_eq_some_iff.mp steps
      simp only [Option.ite_none_right_eq_some, Option.some.injEq] at rest
      obtain ⟨-, rfl⟩ := rest
      exact kept.answered_save rfl rfl rfl
    · rw [uploads]
      exact fun upload mem => kept.pending upload (mem_of_mem_eraseIdx mem)
  | failUpload which =>
    cases steps
    have saves : Saves surface signer server
      { server with uploads := server.uploads.eraseIdx which } := .same rfl rfl
    exact ⟨kept.saves saves kept.filenames kept.answered fun upload mem =>
      kept.pending upload (mem_of_mem_eraseIdx mem), saves⟩
  | setRollout actor version status basisPoints now =>
    obtain ⟨saves, filenames, uploads⟩ := saves_setRollout kept current steps
    refine ⟨kept.saves saves filenames ?_ (uploads ▸ kept.pending), saves⟩
    obtain ⟨existing, found, rest⟩ := Option.bind_eq_some_iff.mp steps
    simp only [Option.ite_none_right_eq_some, Option.some.injEq] at rest
    obtain ⟨-, rfl⟩ := rest
    exact kept.answered_save rfl rfl rfl
  | withdraw actor version now =>
    obtain ⟨saves, filenames, uploads⟩ := saves_withdraw kept steps
    refine ⟨kept.saves saves filenames ?_ (uploads ▸ kept.pending), saves⟩
    obtain ⟨existing, found, rest⟩ := Option.bind_eq_some_iff.mp steps
    simp only [Option.ite_none_left_eq_some, Option.some.injEq] at rest
    obtain ⟨-, rfl⟩ := rest
    exact kept.answered_save rfl rfl rfl
  | acknowledge which =>
    simp only [step, Option.map_eq_some_iff] at steps
    obtain ⟨change, found, rfl⟩ := steps
    have saves : Saves surface signer server { server with
      audits := server.audits.eraseIdx which
      acknowledged := server.acknowledged ++ [change] } := .same rfl rfl
    refine ⟨kept.saves saves kept.filenames (fun other mem => ?_) kept.pending, saves⟩
    apply kept.answered
    simp only [mem_append, mem_singleton] at mem ⊢
    rcases mem with audit | earlier | rfl
    · exact .inl (mem_of_mem_eraseIdx audit)
    · exact .inr earlier
    · exact .inl (mem_of_getElem? found)
  | failAudit which =>
    cases steps
    have saves : Saves surface signer server
      { server with audits := server.audits.eraseIdx which } := .same rfl rfl
    refine ⟨kept.saves saves kept.filenames (fun other mem => ?_) kept.pending, saves⟩
    apply kept.answered
    rcases mem_append.mp mem with audit | acknowledged
    · exact mem_append_left _ (mem_of_mem_eraseIdx audit)
    · exact mem_append_right _ acknowledged

theorem newest_saves (kept : Kept surface signer server) (keptNext : Kept surface signer next)
    (saves : Saves surface signer server next) {channel : String} {sequence : Int}
    (newest : server.newest surface signer channel = some sequence) :
    ∃ later, next.newest surface signer channel = some later ∧ sequence ≤ later := by
  obtain ⟨record, mem, isChannel, rfl, -⟩ := (newest_eq_some_iff kept.isIndex rfl).mp newest
  obtain ⟨other, inside, otherChannel, notLower⟩ : ∃ other ∈ next.index,
      other.channel = channel ∧ record.sequence ≤ other.sequence := by
    cases saves with
    | same index changes => exact ⟨record, index ▸ mem, isChannel, le_refl _⟩
    | saved change changes isIndex keeps inForce =>
      obtain ⟨other, inside, -, sameChannel, notLower, -⟩ := keeps.kept record mem
      exact ⟨other, inside, sameChannel.trans isChannel, notLower⟩
  cases found : next.newest surface signer channel with
  | none =>
    rw [ArtifactServer.newest, Option.map_eq_none_iff, find?_eq_none] at found
    have notChannel := found other (keptNext.isIndex.load_perm.symm.subset inside)
    simp [otherChannel] at notChannel
  | some later =>
    obtain ⟨-, -, -, -, most⟩ := (newest_eq_some_iff keptNext.isIndex rfl).mp found
    exact ⟨later, rfl, notLower.trans (most other inside otherChannel)⟩

theorem kept_run (kept : Kept surface signer server)
    (run : GuardedRun (step surface signer) (IsCurrent surface signer) server after) :
    Kept surface signer after ∧ ∀ channel sequence,
      server.newest surface signer channel = some sequence →
      ∃ later, after.newest surface signer channel = some later ∧ sequence ≤ later := by
  induction run with
  | refl => exact ⟨kept, fun channel sequence newest => ⟨sequence, newest, le_refl _⟩⟩
  | tail _ action current steps ih =>
    obtain ⟨keptBefore, grows⟩ := ih
    obtain ⟨keptAfter, saves⟩ := kept_step keptBefore current steps
    refine ⟨keptAfter, fun channel sequence newest => ?_⟩
    obtain ⟨middle, isMiddle, notLower⟩ := grows channel sequence newest
    obtain ⟨later, isLater, higher⟩ := newest_saves keptBefore keptAfter saves isMiddle
    exact ⟨later, isLater, notLower.trans higher⟩

theorem eq_of_filename_eq {front back one other : String}
    (same : front ++ one ++ back = front ++ other ++ back) : one = other := by
  have texts := congrArg String.toList same
  simp only [String.toList_append] at texts
  have versions := append_cancel_left (append_cancel_right texts)
  exact String.toList_inj.mp versions

theorem filenameFor_injective : Function.Injective surface.filenameFor := by
  intro one other same
  cases surface with
  | cloudPlugin => exact eq_of_filename_eq same
  | cloudCli => exact eq_of_filename_eq same

theorem Kept.withdrawn (kept : Kept surface signer server) {record : ArtifactRecord}
    (mem : record ∈ server.index) (withdrawn : record.withdrawnAt.isSome = true) :
    server.versionRelease surface signer record.version = .error 410 ∧
      (∀ channel manifest, server.latest surface signer channel = some manifest →
        manifest.version ≠ record.version) ∧
      ∀ path, basename path = surface.filenameFor record.version →
        ∃ status, server.download surface signer path = .error status := by
  have perm := kept.isIndex.load_perm
  have inside := perm.symm.subset mem
  have only {other : ArtifactRecord} (isOther : other ∈ load surface signer server.index)
      (sameVersion : other.version = record.version) : other = record :=
    inj_on_of_nodup_map (kept.isIndex.perm perm).versions isOther inside sameVersion
  refine ⟨?_, fun channel manifest offered same => ?_, fun path isName => ?_⟩
  · unfold versionRelease
    split
    · next none =>
      have noOther := find?_eq_none.mp none record inside
      simp at noOther
    · next found isFound =>
      have isRecord := only (mem_of_find?_eq_some isFound)
        (by simpa using find?_some isFound)
      rw [isRecord, if_pos withdrawn]
  · obtain ⟨other, found, rfl⟩ := Option.map_eq_some_iff.mp offered
    have isRecord := only (mem_of_find?_eq_some found) same
    have passes := find?_some found
    rw [isRecord] at passes
    cases at_ : record.withdrawnAt with
    | none => simp [at_] at withdrawn
    | some time => simp [at_] at passes
  · unfold download
    split
    · split
      · next other size found isFile =>
        have isOther := mem_of_find?_eq_some found
        have named : other.manifest.filename = basename path := by
          simpa using find?_some found
        have sameVersion : other.version = record.version := by
          apply @filenameFor_injective surface
          rw [← kept.filenames other (perm.subset isOther), named, isName]
        rw [only isOther sameVersion, if_pos withdrawn]
        exact ⟨410, rfl⟩
      · exact ⟨404, rfl⟩
    · exact ⟨404, rfl⟩

/-- In every run in which each upload that saves finds the list that it has loaded, what was
acknowledged was saved and is in force: uploaded versions are listed, withdrawn ones are neither
offered nor downloaded, and the last rollout of a version is its rollout. -/
theorem acknowledged_changes_kept (surface : ArtifactSurface) (signer : ArtifactSigner)
    (server after : ArtifactServer)
    (reached : GuardedRun (step surface signer) (IsCurrent surface signer) empty server)
    (more : GuardedRun (step surface signer) (IsCurrent surface signer) server after) :
    (∀ change ∈ server.acknowledged, change ∈ server.changes) ∧
    (∀ version, .upload version ∈ server.changes →
      ∃ record ∈ server.index, record.version = version) ∧
    (∀ version, .withdraw version ∈ server.changes →
      server.versionRelease surface signer version = .error 410 ∧
      (∀ channel manifest, server.latest surface signer channel = some manifest →
        manifest.version ≠ version) ∧ ∀ path, basename path = surface.filenameFor version →
        ∃ status, server.download surface signer path = .error status) ∧
    (∀ earlier version status basisPoints later,
      server.changes = earlier ++ .rollout version status basisPoints :: later →
      (∀ other points, .rollout version other points ∉ later) →
      ∃ record ∈ server.index, record.version = version ∧ record.manifest.rollout.status = status ∧
        record.manifest.rollout.basisPoints = basisPoints) ∧
    (server.index.map ArtifactRecord.sequence).Nodup ∧
    ∀ channel sequence, server.newest surface signer channel = some sequence →
      ∃ later, after.newest surface signer channel = some later ∧ sequence ≤ later := by
  obtain ⟨kept, -⟩ := kept_run kept_empty reached
  have inForce {change : ArtifactChange} (mem : change ∈ server.changes)
      (never : ∀ other, ¬ Superseded change other) : InForce server.index change := by
    obtain ⟨earlier, later, split⟩ := append_of_mem mem
    exact kept.inForce earlier change later split fun other _ => never other
  refine ⟨?_, ?_, ?_, ?_, kept.isIndex.sequences, (kept_run kept more).2⟩
  · exact fun change mem => kept.answered change (mem_append_right _ mem)
  · intro version mem
    refine inForce mem fun other superseded => ?_
    obtain ⟨_, ⟨_, _, same⟩, -⟩ := superseded
    cases same
  · intro version mem
    obtain ⟨record, inside, rfl, withdrawn⟩ := inForce mem fun other superseded => by
      obtain ⟨_, ⟨_, _, same⟩, -⟩ := superseded
      cases same
    exact kept.withdrawn inside withdrawn
  · intro earlier version status basisPoints later split last
    refine kept.inForce earlier _ later split fun other mem superseded => ?_
    obtain ⟨_, ⟨_, _, same⟩, ⟨newStatus, points, rfl⟩⟩ := superseded
    cases same
    exact last newStatus points mem

end Runs

section Example

/-- A key whose only signature is a constant. -/
def exampleSigner : ArtifactSigner where
  keyId := "cloud-2026"
  sign _ := String.ofList (replicate 86 'A' ++ ['=', '='])
  verify _ signature := signature = String.ofList (replicate 86 'A' ++ ['=', '='])
  isSignature _ := by decide
  verifies _ := by simp

def overlappingUploads : List ArtifactAction :=
  [.beginUpload "admin" "1.0.0" "longhub-cloud-cli-1.0.0.tgz" "stable" none,
    .beginUpload "admin" "1.1.0" "longhub-cloud-cli-1.1.0.tgz" "stable" none,
    .finishUpload 1 5 "" "" "", .acknowledge 0, .finishUpload 0 5 "" "" "", .acknowledge 0]

/-- The upload that began first saves last, and the other version is gone. -/
theorem overlapping_upload_drops_acknowledged_version :
    ∃ server, runActions (step .cloudCli exampleSigner) empty overlappingUploads = some server ∧
      .upload "1.1.0" ∈ server.acknowledged ∧
      ∀ record ∈ server.index, record.version ≠ "1.1.0" := by
  have runs : (runActions (step .cloudCli exampleSigner) empty overlappingUploads).any
      (fun server => .upload "1.1.0" ∈ server.acknowledged ∧
        ∀ record ∈ server.index, record.version ≠ "1.1.0") = true := by
    decide
  obtain ⟨server, reached, lost⟩ := (Option.any_eq_true _ _).mp runs
  exact ⟨server, reached, of_decide_eq_true lost⟩

def beginsEmpty (server : ArtifactServer) : ArtifactAction → Bool
  | .finishUpload _ _ _ _ _ => server.uploads.all (fun upload => upload.records = []) &&
      server.index = []
  | .setRollout .. => false
  | _ => true

theorem acknowledged_changes_kept_example :
    ∃ server : ArtifactServer, .withdraw "1.0.0" ∈ server.acknowledged ∧
      server.versionRelease .cloudCli exampleSigner "1.0.0" = .error 410 := by
  have run : (runActions (fun server action =>
        if beginsEmpty server action = true then step .cloudCli exampleSigner server action
        else none) empty
      (overlappingUploads.take 2 ++
        [.finishUpload 0 5 "" "" "", .withdraw "admin" "1.0.0" "", .acknowledge 1])).any
      (fun server => .withdraw "1.0.0" ∈ server.acknowledged) = true := by
    decide
  obtain ⟨server, reached, mem⟩ := (Option.any_eq_true _ _).mp run
  have guarded : GuardedRun (step .cloudCli exampleSigner) (IsCurrent .cloudCli exampleSigner) empty
      server := by
    refine GuardedRun.of_checkedActions (fun state action checked => ?_) reached
    cases action with
    | finishUpload which size sha256 now seed =>
      simp only [beginsEmpty, Bool.and_eq_true, all_eq_true, decide_eq_true_eq] at checked
      intro upload found
      rw [checked.1 upload (mem_of_getElem? found), checked.2]
      exact ⟨rfl, fun record inside => absurd inside not_mem_nil⟩
    | setRollout actor version status basisPoints now => cases checked
    | _ => trivial
  have acknowledged := of_decide_eq_true mem
  have kept := acknowledged_changes_kept .cloudCli exampleSigner server server guarded .refl
  exact ⟨server, acknowledged, (kept.2.2.1 "1.0.0" (kept.1 _ acknowledged)).1⟩

end Example

end ArtifactServer

end CloudApi

end LongHub
