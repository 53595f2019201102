import LongHub.ClientReleaseIndex

/-!
# Clients never meet a rollback

What a request does to the directory, call by call: only the rename of a draft changes the index,
and only an upload that has linked its installer removes it again.
-/

namespace LongHub

open Function Program Program.Calls
namespace ClientRelease

open ClientUpdate (ClientUpdateManifest SignedClientUpdateMetadata UpdateChannel)

section Calls

variable {signer : ReleaseSigner} {directory after : ReleaseDirectory}

theorem perform_eq_some {request : ReleaseCall} {choice : Bool}
    {answer : Except ReleaseError request.Answer}
    (acts : releaseDisk.perform request choice directory = some (answer, after)) :
    (answer = .error .fileFailed ∧ after = directory) ∨
      directory.performed request = (answer, after) := by
  unfold releaseDisk at acts
  simp only at acts
  split_ifs at acts with fails never
  · cases acts
    exact .inl ⟨rfl, rfl⟩
  · exact .inr (Option.some.inj acts)

/-- The index and the installers are the same but for one installer. -/
structure Beside (filename : Option String) (directory after : ReleaseDirectory) : Prop where
  index : after.index = directory.index
  targets : ∀ other, some other ≠ filename → after.targets other = directory.targets other

variable {filename : Option String}

theorem beside_refl : Beside filename directory directory :=
  ⟨rfl, fun _ _ => rfl⟩

theorem Beside.trans {last : ReleaseDirectory} (first : Beside filename directory after)
    (second : Beside filename after last) : Beside filename directory last :=
  ⟨second.index.trans first.index, fun other differ =>
    (second.targets other differ).trans (first.targets other differ)⟩

theorem Beside.weaken (beside : Beside none directory after) : Beside filename directory after :=
  ⟨beside.index, fun other _ => beside.targets other (by simp)⟩

theorem Beside.targets_eq (beside : Beside none directory after) :
    after.targets = directory.targets :=
  funext fun other => beside.targets other (by simp)

def IsBeside (filename : Option String) : ReleaseCall → Prop
  | .renameDraft => False
  | .linkTarget _ other | .unlinkTarget other => some other = filename
  | _ => True

theorem beside_perform (filename : Option String) (request : ReleaseCall)
    (isBeside : IsBeside filename request) {choice : Bool}
    {answer : Except ReleaseError request.Answer}
    (acts : releaseDisk.perform request choice directory = some (answer, after)) :
    Beside filename directory after := by
  rcases perform_eq_some acts with ⟨-, rfl⟩ | done
  · exact beside_refl
  · cases request with
    | renameDraft => exact isBeside.elim
    | linkTarget id other =>
      simp only [ReleaseDirectory.performed] at done
      split at done
      · cases done
        refine ⟨rfl, fun name differ => update_of_ne ?_ _ _⟩
        rintro rfl
        exact differ isBeside
      · cases done
        exact beside_refl
    | unlinkTarget other =>
      simp only [ReleaseDirectory.performed] at done
      split_ifs at done
      · cases done
        refine ⟨rfl, fun name differ => update_of_ne ?_ _ _⟩
        rintro rfl
        exact differ isBeside
      · cases done
        exact beside_refl
    | readIndex =>
      simp only [ReleaseDirectory.performed] at done
      split at done <;> cases done <;> exact beside_refl
    | unlinkTemporary id | chmodTemporary id =>
      simp only [ReleaseDirectory.performed] at done
      split_ifs at done <;> cases done <;> exact ⟨rfl, fun _ _ => rfl⟩
    | indexExists | makeDirectory | writeDraft items | writeTemporary id content
    | temporaryExists id | targetExists filename =>
      cases done
      exact ⟨rfl, fun _ _ => rfl⟩

theorem sound_beside {α : Type} {program : ReleaseProgram α} {start : ReleaseDirectory}
    (calls : program.Calls (IsBeside filename)) (begun : Beside filename start directory) :
    releaseDisk.Sound (Beside filename start) (fun _ after => Beside filename start after)
      program directory := by
  induction program generalizing directory with
  | pure value => exact ⟨begun, begun⟩
  | throw error => exact ⟨begun, begun⟩
  | call request next ih =>
    exact ⟨begun, fun choice answer after acts =>
      ih answer (calls.2 answer) (begun.trans (beside_perform _ _ calls.1 acts))⟩

theorem loaded_of_index (directory : ReleaseDirectory) {items : List ReleaseItem}
    (isIndex : directory.index = some items) :
    directory.releases = items.filterMap ReleaseItem.record? := by
  rw [ReleaseDirectory.releases, isIndex]
  rfl

/-- Loading changes nothing. -/
theorem sound_loadReleases : releaseDisk.Sound (· = directory)
      (fun outcome after => after = directory ∧
        ∀ releases, outcome = .ok releases → Loaded directory.releases releases)
      (loadReleases signer) directory := by
  refine Device.sound_perform_bind rfl (fun choice found after acts => ?_)
    fun choice error after acts => ?_
  · rcases perform_eq_some acts with ⟨failed, -⟩ | done
    · cases failed
    cases done
    cases isIndex : directory.index with
    | none =>
      refine ⟨rfl, rfl, ?_⟩
      rintro releases ⟨⟩
      rw [ReleaseDirectory.releases, isIndex]
      exact ⟨.refl _, List.Pairwise.nil⟩
    | some items =>
      refine Device.sound_perform_bind rfl (fun choice read after acts => ?_)
        fun choice error after acts => ?_
      · rcases perform_eq_some acts with ⟨failed, -⟩ | done
        · cases failed
        simp only [ReleaseDirectory.performed, isIndex] at done
        cases done
        cases trusted : trustedReleases signer items with
        | error error => exact ⟨rfl, rfl, fun _ differ => by cases differ⟩
        | ok releases =>
          refine ⟨rfl, rfl, ?_⟩
          rintro _ ⟨⟩
          rw [loaded_of_index directory isIndex]
          exact loaded_of_trustedReleases trusted
      · have same := perform_eq_some acts
        simp only [ReleaseDirectory.performed, isIndex] at same
        rcases same with ⟨-, rfl⟩ | differ
        · exact ⟨rfl, rfl, fun _ differ => by cases differ⟩
        · cases differ
  · rcases perform_eq_some acts with ⟨-, rfl⟩ | done
    · exact ⟨rfl, rfl, fun _ differ => by cases differ⟩
    · cases done

structure Saved (releases : List ClientReleaseRecord) (directory after : ReleaseDirectory) :
    Prop where
  index : after.index = some (releases.map .release)
  targets : after.targets = directory.targets

theorem sound_saveReleases (releases : List ClientReleaseRecord) :
    releaseDisk.Sound (fun after => Beside none directory after ∨ Saved releases directory after)
      (fun outcome after => match outcome with
        | .ok _ => Saved releases directory after
        | .error _ => Beside none directory after)
      (saveReleases releases) directory := by
  refine Device.sound_perform_bind (.inl beside_refl) (fun choice done after acts => ?_)
    fun choice error after acts => ?_
  · have first := beside_perform none .makeDirectory trivial acts
    refine Device.sound_perform_bind (.inl first) (fun choice done drafted writes => ?_)
      fun choice error drafted writes => ?_
    · have second := first.trans (beside_perform none (.writeDraft _) trivial writes)
      have isDraft : drafted.draft = some (releases.map .release) := by
        rcases perform_eq_some writes with ⟨failed, -⟩ | written
        · cases failed
        · cases written
          rfl
      refine ⟨.inl second, fun choice answer last renames => ?_⟩
      rcases perform_eq_some renames with ⟨rfl, rfl⟩ | renamed
      · exact ⟨.inl second, second⟩
      · simp only [ReleaseDirectory.performed, isDraft] at renamed
        cases renamed
        exact ⟨.inr ⟨rfl, second.targets_eq⟩, rfl, second.targets_eq⟩
    · have second := first.trans (beside_perform none (.writeDraft _) trivial writes)
      exact ⟨.inl second, second⟩
  · have first := beside_perform none .makeDirectory trivial acts
    exact ⟨.inl first, first⟩

end Calls

def Covers (releases : List ClientReleaseRecord)
    (answers : List (UpdateChannel × Option SignedClientUpdateMetadata)) : Prop :=
  ∀ answer ∈ answers, ∀ shown, answer.2 = some shown →
    ∃ record ∈ releases, record.channel = answer.1 ∧ (shown.manifest.sequence < record.sequence ∨
        record.toSignedClientUpdateMetadata = shown)

structure Kept (signer : ReleaseSigner)
    (answers : List (UpdateChannel × Option SignedClientUpdateMetadata))
    (directory : ReleaseDirectory) : Prop where
  numbered : Numbered directory.releases
  stored : ∀ record ∈ directory.releases, Stored signer directory record
  covers : Covers directory.releases answers

section Kept

variable {signer : ReleaseSigner} {directory middle after : ReleaseDirectory}
variable {answers : List (UpdateChannel × Option SignedClientUpdateMetadata)}
variable {releases saved : List ClientReleaseRecord} {record existing : ClientReleaseRecord}
variable {filename : String} {content : List UInt8}

theorem Kept.wellIndexed (kept : Kept signer answers directory) : WellIndexed signer directory :=
  ⟨kept.numbered.sequences, kept.numbered.versions, kept.numbered.ordered, kept.stored⟩

theorem Covers.continues (covers : Covers releases answers)
    (continues : Continues releases saved) : Covers saved answers := by
  intro answer mem shown isShown
  obtain ⟨record, listed, isChannel, follows⟩ := covers answer mem shown isShown
  obtain ⟨next, isListed, sameChannel, higher⟩ := continues record listed
  refine ⟨next, isListed, sameChannel.trans isChannel, ?_⟩
  rcases higher with higher | rfl
  · rcases follows with lower | rfl
    · exact .inl (lower.trans higher)
    · exact .inl higher
  · exact follows

theorem Beside.releases_eq {name : Option String} (beside : Beside name directory after) :
    after.releases = directory.releases := by
  rw [ReleaseDirectory.releases, ReleaseDirectory.releases, beside.index]

theorem Saved.releases_eq (isSaved : Saved saved directory after) : after.releases = saved := by
  have same : (saved.map ReleaseItem.release).filterMap ReleaseItem.record? = saved := by
    rw [List.filterMap_map]
    exact List.filterMap_some
  rw [ReleaseDirectory.releases, isSaved.index]
  exact same

/-- An installer that is not listed may come and go. -/
theorem Kept.beside {name : Option String} (kept : Kept signer answers directory)
    (free : ∀ free, name = some free → directory.targets free = none)
    (beside : Beside name directory after) : Kept signer answers after := by
  have same := beside.releases_eq
  refine ⟨same ▸ kept.numbered, fun record mem => ?_, same ▸ kept.covers⟩
  obtain ⟨isName, content, isTarget, size, sha256⟩ := kept.stored record (same ▸ mem)
  refine ⟨isName, content, ?_, size, sha256⟩
  rw [beside.targets _ fun isFree => ?_, isTarget]
  rw [free _ isFree.symm] at isTarget
  cases isTarget

theorem Kept.save (kept : Kept signer answers directory) (numbered : Numbered saved)
    (continues : Continues directory.releases saved)
    (stored : ∀ record ∈ saved, Stored signer after record) (isSaved : Saved saved middle after) :
    Kept signer answers after := by
  have same := isSaved.releases_eq
  exact ⟨same.symm ▸ numbered, same.symm ▸ stored, same.symm ▸ kept.covers.continues continues⟩

structure Linked (filename : String) (content : List UInt8)
    (directory after : ReleaseDirectory) : Prop where
  free : directory.targets filename = none
  index : after.index = directory.index
  targets : after.targets = update directory.targets filename (some content)

theorem Linked.beside (linked : Linked filename content directory after) :
    Beside (some filename) directory after := by
  refine ⟨linked.index, fun other differ => ?_⟩
  rw [linked.targets]
  exact update_of_ne (fun same => differ (congrArg some same)) _ _

theorem Linked.kept (linked : Linked filename content directory after)
    (kept : Kept signer answers directory) (beside : Beside (some filename) directory middle) :
    Kept signer answers middle := by
  refine kept.beside (fun free isFree => ?_) beside
  cases isFree
  exact linked.free

theorem Linked.stored (linked : Linked filename content directory middle)
    (kept : Kept signer answers directory) (loaded : Loaded directory.releases releases)
    (sameTargets : after.targets = middle.targets) (isName : record.manifest.filename = filename)
    (isInstaller : filename = installerName record.version)
    (size : record.manifest.size = content.length)
    (sha256 : record.manifest.sha256 = signer.sha256 content) :
    ∀ other ∈ record :: releases, Stored signer after other := by
  intro other mem
  rcases List.mem_cons.mp mem with rfl | listed
  · refine ⟨isName.trans isInstaller, content, ?_, size.symm, sha256.symm⟩
    rw [sameTargets, linked.targets, isName, update_self]
  · obtain ⟨hasName, stored, isTarget, isSize, isDigest⟩ :=
      kept.stored other (loaded.perm.subset listed)
    refine ⟨hasName, stored, ?_, isSize, isDigest⟩
    have differ : other.manifest.filename ≠ filename := by
      rintro same
      rw [same, linked.free] at isTarget
      cases isTarget
    rw [sameTargets, linked.targets, update_of_ne differ, isTarget]

end Kept

section Requests

variable {signer : ReleaseSigner} {directory after : ReleaseDirectory}
variable {answers : List (UpdateChannel × Option SignedClientUpdateMetadata)}
variable {upload : ReleaseUpload}

def Safe (signer : ReleaseSigner)
    (answers : List (UpdateChannel × Option SignedClientUpdateMetadata)) {α : Type}
    (program : ReleaseProgram α) (directory : ReleaseDirectory) : Prop :=
  releaseDisk.Sound (Kept signer answers) (fun _ after => Kept signer answers after) program
    directory

theorem safe_beside {α : Type} {program : ReleaseProgram α} (kept : Kept signer answers directory)
    (calls : program.Calls (IsBeside none)) : Safe signer answers program directory := by
  have keep : ∀ after, Beside none directory after → Kept signer answers after :=
    fun after beside => kept.beside (fun _ differ => by cases differ) beside
  exact ((sound_beside calls beside_refl).mono fun _ after _ beside => keep after beside).mono_keep
    keep

theorem safe_ofExcept_bind {α β : Type} {outcome : Except ReleaseError α}
    {next : α → ReleaseProgram β} (kept : Kept signer answers directory)
    (passes : ∀ value, outcome = .ok value → Safe signer answers (next value) directory) :
    Safe signer answers (.ofExcept outcome >>= next) directory :=
  Device.sound_ofExcept_bind kept passes fun _ _ => kept

theorem safe_loadReleases_bind {β : Type} {next : List ClientReleaseRecord → ReleaseProgram β}
    (kept : Kept signer answers directory)
    (continues : ∀ releases, Loaded directory.releases releases →
      Safe signer answers (next releases) directory) :
    Safe signer answers (loadReleases signer >>= next) directory := by
  refine Device.sound_bind
    (sound_loadReleases.mono_keep fun after (same : after = directory) => same.symm ▸ kept)
    (fun releases after keptAfter done => ?_) fun error after keptAfter done => keptAfter
  obtain ⟨rfl, loaded⟩ := done
  exact continues releases (loaded releases rfl)

theorem calls_unlinkExistingTemporary (filename : Option String) (id : Nat) :
    (unlinkExistingTemporary id).Calls (IsBeside filename) := by
  refine bind (calls_perform trivial) fun found => ?_
  cases found
  · trivial
  · exact calls_perform trivial

theorem calls_unlinkExistingTarget (filename : String) :
    (unlinkExistingTarget filename).Calls (IsBeside (some filename)) := by
  refine bind (calls_perform trivial) fun found => ?_
  cases found
  · trivial
  · have isBeside : IsBeside (some filename) (.unlinkTarget filename) := rfl
    exact calls_perform isBeside

theorem calls_loadReleases : (loadReleases signer).Calls (IsBeside none) := by
  refine bind (calls_perform trivial) fun found => ?_
  cases found
  · trivial
  · exact bind (calls_perform trivial) fun _ => calls_ofExcept _

theorem calls_beginUpload (form : UploadForm) (id : Nat) :
    (beginUpload signer form id).Calls (IsBeside none) := by
  refine bind (calls_ofExcept _) fun channel => ?_
  refine bind calls_loadReleases fun releases => ?_
  refine bind (calls_ofExcept _) fun _ => ?_
  refine bind (calls_perform trivial) fun _ => ?_
  refine bind (calls_perform trivial) fun occupied => ?_
  exact bind (calls_ofExcept _) fun _ => trivial

theorem calls_breakOffUpload (upload : ReleaseUpload) :
    (breakOffUpload upload).Calls (IsBeside none) :=
  bind (calls_unlinkExistingTemporary none upload.id) fun _ => trivial

theorem calls_refuseUpload (upload : ReleaseUpload) (error : ReleaseError) :
    (refuseUpload upload error).Calls (IsBeside none) :=
  bind (calls_perform trivial) fun _ => trivial

end Requests

end ClientRelease

end LongHub
