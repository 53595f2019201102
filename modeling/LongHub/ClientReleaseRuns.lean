import LongHub.ClientReleaseGuarantees

/-!
# The runs of the client release server

Each request keeps the directory wherever it stops, so every reachable index is well numbered
and every answer follows the answers before it.
-/

namespace LongHub

open Device List Option

namespace ClientRelease

open ClientUpdate (ClientUpdateManifest SignedClientUpdateMetadata UpdateChannel)

section Requests

variable {signer : ReleaseSigner} {directory middle after : ReleaseDirectory}
variable {answers : List (UpdateChannel × Option SignedClientUpdateMetadata)}
variable {releases : List ClientReleaseRecord} {record existing : ClientReleaseRecord}
variable {upload : ReleaseUpload} {filename : String} {content : List UInt8} {id : Nat}

theorem linked_perform {choice : Bool} {done : Unit}
    (temporary : directory.temporaries id = some content)
    (acts : releaseDisk.perform (.linkTarget id filename) choice directory =
      some (.ok done, after)) : Linked filename content directory after := by
  rcases perform_eq_some acts with ⟨failed, -⟩ | linked
  · cases failed
  · simp only [ReleaseDirectory.performed, temporary] at linked
    split at linked
    · next isContent free =>
        cases isContent
        cases linked
        exact ⟨free, rfl, rfl⟩
    · cases linked

/-- Linking fails without an effect. -/
theorem linkTarget_error {choice : Bool} {error : ReleaseError}
    (acts : releaseDisk.perform (.linkTarget id filename) choice directory =
      some (.error error, after)) : after = directory := by
  rcases perform_eq_some acts with ⟨-, rfl⟩ | linked
  · rfl
  · simp only [ReleaseDirectory.performed] at linked
    split at linked
    · cases linked
    · cases linked
      rfl

theorem temporaries_chmod {choice : Bool} {answer : Except ReleaseError Unit}
    (acts : releaseDisk.perform (.chmodTemporary id) choice directory = some (answer, after)) :
    after = directory := by
  rcases perform_eq_some acts with ⟨-, rfl⟩ | done
  · rfl
  · simp only [ReleaseDirectory.performed] at done
    split_ifs at done
    · cases done
      rfl
    · cases done
      rfl

theorem sound_latest (channel : Option String) : releaseDisk.Sound (· = directory)
      (fun outcome after => after = directory ∧ ∀ answer, outcome = .ok answer →
        ∃ releases, Loaded directory.releases releases ∧
          answer.2 = (latestInChannel releases answer.1).map (·.toSignedClientUpdateMetadata))
      (latest signer channel) directory := by
  refine sound_ofExcept_bind rfl (fun channel _ => ?_)
    fun error _ => ⟨rfl, fun _ differ => by cases differ⟩
  refine sound_bind sound_loadReleases (fun releases after _ done => ?_)
    fun error after same _ => ⟨same, fun _ differ => by cases differ⟩
  obtain ⟨rfl, loaded⟩ := done
  refine ⟨rfl, rfl, fun answer same => ?_⟩
  cases same
  exact ⟨releases, loaded releases rfl, rfl⟩

theorem follows_of_covers {answer earlier : UpdateChannel × Option SignedClientUpdateMetadata}
    (kept : Kept signer answers directory) (loaded : Loaded directory.releases releases)
    (isLatest : answer.2 = (latestInChannel releases answer.1).map (·.toSignedClientUpdateMetadata))
    (mem : earlier ∈ answers) : Follows earlier answer := by
  intro sameChannel shown isShown
  obtain ⟨record, listed, isChannel, follows⟩ := kept.covers earlier mem shown isShown
  have inChannel : record.channel = answer.1 := isChannel.trans sameChannel
  cases found : latestInChannel releases answer.1 with
  | none => exact absurd inChannel (loaded.latest_none found listed)
  | some newest =>
    obtain ⟨isListed, -, most⟩ := loaded.latest found
    have atMost := most record listed inChannel
    refine ⟨newest.toSignedClientUpdateMetadata, by rw [isLatest, found]; rfl, ?_, ?_⟩
    · rcases follows with lower | rfl
      · exact (lower.trans_le atMost).le
      · exact atMost
    · intro same
      change shown.manifest.sequence = newest.sequence at same
      rcases follows with lower | rfl
      · omega
      · have equal : newest = record :=
          inj_on_of_nodup_map kept.numbered.sequences isListed listed same.symm
        rw [equal]

theorem covers_append {answer : UpdateChannel × Option SignedClientUpdateMetadata}
    (kept : Kept signer answers directory) (loaded : Loaded directory.releases releases)
    (isLatest : answer.2 =
      (latestInChannel releases answer.1).map (·.toSignedClientUpdateMetadata)) :
    Covers directory.releases (answers ++ [answer]) := by
  intro other mem shown isShown
  rcases mem_append.mp mem with earlier | last
  · exact kept.covers other earlier shown isShown
  · rw [mem_singleton] at last
    subst last
    rw [isLatest, map_eq_some_iff] at isShown
    obtain ⟨newest, found, rfl⟩ := isShown
    obtain ⟨isListed, isChannel, -⟩ := loaded.latest found
    exact ⟨newest, isListed, isChannel, .inr rfl⟩

variable (kept : Kept signer answers directory)
include kept

theorem sound_link (temporary : directory.temporaries id = some content) :
    releaseDisk.Sound (Kept signer answers) (fun outcome after => match outcome with
        | .ok _ => Linked filename content directory after
        | .error _ => after = directory)
      (do
        let _ : Unit ← ask (.chmodTemporary id)
        ask (.linkTarget id filename)) directory := by
  refine sound_perform_bind kept (fun choice done after acts => ?_)
    fun choice error after acts => ?_
  · have same := temporaries_chmod acts
    subst same
    refine sound_perform kept fun choice answer last links => ?_
    cases answer with
    | ok done =>
      have linked := linked_perform temporary links
      exact ⟨linked.kept kept linked.beside, linked⟩
    | error error =>
      have same := linkTarget_error links
      exact ⟨same.symm ▸ kept, same⟩
  · have same := temporaries_chmod acts
    exact ⟨same.symm ▸ kept, same⟩

theorem sound_save (linked : Linked filename content directory middle)
    (loaded : Loaded directory.releases releases) (numbered : Numbered (record :: releases))
    (isName : record.manifest.filename = filename)
    (isInstaller : filename = installerName record.version)
    (size : record.manifest.size = content.length)
    (sha256 : record.manifest.sha256 = signer.sha256 content) :
    releaseDisk.Sound (Kept signer answers) (fun outcome after => match outcome with
        | .ok _ => Kept signer answers after
        | .error _ => Beside (some filename) directory after)
      (do
        let _ : Unit ← ask (.unlinkTemporary id)
        saveReleases (record :: releases)) middle := by
  have continues : Continues directory.releases (record :: releases) :=
    continues_cons.perm loaded.perm.symm
  have savedKept : ∀ {unlinked last : ReleaseDirectory}, Beside none middle unlinked →
      Saved (record :: releases) unlinked last → Kept signer answers last := by
    intro unlinked last beside saved
    have sameTargets : last.targets = middle.targets := by
      rw [saved.targets, beside.targets_eq]
    exact kept.save numbered continues
      (linked.stored kept loaded sameTargets isName isInstaller size sha256) saved
  have unsaved : ∀ {unlinked last : ReleaseDirectory}, Beside none middle unlinked →
      Beside none unlinked last → Beside (some filename) directory last := fun beside more =>
    linked.beside.trans (beside.trans more).weaken
  refine sound_perform_bind (linked.kept kept linked.beside)
    (fun choice done unlinked acts => ?_) fun choice error unlinked acts => ?_
  · have beside := beside_perform none (.unlinkTemporary _) trivial acts
    refine ((sound_saveReleases (record :: releases)).mono fun outcome last _ ends => ?_).mono_keep
      fun last reached => ?_
    · cases outcome with
      | ok value => exact savedKept beside ends
      | error error => exact unsaved beside ends
    · rcases reached with more | saved
      · exact linked.kept kept (unsaved beside more)
      · exact savedKept beside saved
  · have beside := beside_perform none (.unlinkTemporary _) trivial acts
    have failed := unsaved beside beside_refl
    exact ⟨linked.kept kept failed, failed⟩

theorem safe_publish (temporary : directory.temporaries upload.id = some content)
    (loaded : Loaded directory.releases releases) (numbered : Numbered (record :: releases))
    (isName : record.manifest.filename = installerName upload.version)
    (sameVersion : record.version = upload.version) (size : record.manifest.size = content.length)
    (sha256 : record.manifest.sha256 = signer.sha256 content) :
    Safe signer answers (publish upload record releases) directory := by
  refine sound_bind (sound_link kept temporary).attempt
    (fun outcome middle keptMiddle done => ?_) fun _ _ keptMiddle _ => keptMiddle
  obtain ⟨inner, same, links⟩ := done
  cases same
  cases outcome with
  | error error =>
    change middle = directory at links
    subst links
    exact safe_beside kept
      (Program.Calls.bind (calls_unlinkExistingTemporary none upload.id) fun _ => trivial)
  | ok done =>
    change Linked _ content directory middle at links
    have isInstaller : installerName upload.version = installerName record.version := by
      rw [sameVersion]
    refine sound_bind (sound_save kept links loaded numbered isName isInstaller size sha256).attempt
      (fun outcome last keptLast done => ?_) fun _ _ keptLast _ => keptLast
    obtain ⟨inner, same, saves⟩ := done
    cases same
    cases outcome with
    | ok value => exact ⟨keptLast, keptLast⟩
    | error error =>
      -- the cleanup removes the installer that this upload has linked
      change Beside _ directory last at saves
      have calls : Program.Calls (IsBeside (some (installerName upload.version))) (do
            unlinkExistingTemporary upload.id
            unlinkExistingTarget (installerName upload.version)
            .throw .publishFailed : ReleaseProgram ClientReleaseRecord) :=
        Program.Calls.bind (calls_unlinkExistingTemporary _ upload.id) fun _ =>
          Program.Calls.bind (calls_unlinkExistingTarget _) fun _ => trivial
      exact ((sound_beside calls saves).mono fun _ after _ beside =>
        links.kept kept beside).mono_keep fun after beside => links.kept kept beside

theorem safe_completeUpload (upload : ReleaseUpload) (now seed : String) :
    Safe signer answers (completeUpload signer upload now seed) directory := by
  have written : releaseDisk.Sound (Kept signer answers)
      (fun outcome after => Kept signer answers after ∧ (outcome.isOk = true →
        after.temporaries upload.id = some upload.received))
      (ask (.writeTemporary upload.id upload.received)) directory := by
    refine sound_perform kept fun choice answer after acts => ?_
    have beside := beside_perform none (.writeTemporary _ _) trivial acts
    have keptAfter := kept.beside (fun _ differ => by cases differ) beside
    refine ⟨keptAfter, keptAfter, fun isOk => ?_⟩
    rcases perform_eq_some acts with ⟨rfl, -⟩ | done
    · cases isOk
    · cases done
      exact Function.update_self _ _ _
  refine sound_bind written.attempt (fun outcome middle keptMiddle done => ?_)
    fun _ _ keptMiddle _ => keptMiddle
  obtain ⟨inner, same, -, isContent⟩ := done
  cases same
  cases outcome with
  | error error => exact safe_beside keptMiddle (calls_breakOffUpload upload)
  | ok done =>
    have temporary := isContent rfl
    split_ifs
    · exact safe_beside keptMiddle (calls_refuseUpload upload _)
    refine safe_loadReleases_bind keptMiddle fun releases loaded => ?_
    split
    · exact ⟨keptMiddle, keptMiddle⟩
    · exact safe_beside keptMiddle (calls_refuseUpload upload _)
    · next passes =>
        refine safe_ofExcept_bind keptMiddle fun signature signs => ?_
        exact safe_publish keptMiddle temporary loaded
          (loaded.numbered_upload keptMiddle.numbered passes rfl) rfl rfl rfl rfl

theorem safe_setRollout (actor version status : String) (basisPoints : Int) (now : String) :
    Safe signer answers (setRollout signer actor version status basisPoints now) directory := by
  refine safe_ofExcept_bind kept fun _ _ => safe_ofExcept_bind kept fun policy _ => ?_
  refine safe_loadReleases_bind kept fun releases loaded => ?_
  refine safe_ofExcept_bind kept fun existing found => safe_ofExcept_bind kept fun _ isLatest => ?_
  refine safe_ofExcept_bind kept fun _ _ => safe_ofExcept_bind kept fun signature signs => ?_
  have isFirst := Except.require_eq_ok.mp found
  have listed := mem_of_find?_eq_some isFirst
  have sameVersion : existing.version = version := by simpa using find?_some isFirst
  subst sameVersion
  generalize isUpdated : ({ existing with
    manifest := rolloutManifest existing releases policy now
    signatureKeyId := signer.keyId
    signature := signature
    rolloutUpdatedBy := actor
    rolloutUpdatedAt := now } : ClientReleaseRecord) = updated
  have isVersion : updated.version = existing.version := isUpdated ▸ rfl
  have isChannel : updated.channel = existing.channel := isUpdated ▸ rfl
  have isNext : updated.sequence = nextSequence releases := isUpdated ▸ rfl
  have numbered := loaded.numbered_rollout kept.numbered isFirst
    (Except.ensure_eq_ok.mp isLatest) isVersion isChannel isNext
  have higher : existing.sequence < updated.sequence :=
    isNext ▸ loaded.lt_nextSequence (loaded.perm.subset listed)
  have continues : Continues directory.releases (updated :: releases.erase existing) :=
    (continues_replace isChannel higher).perm loaded.perm.symm
  have stored : ∀ {last : ReleaseDirectory}, last.targets = directory.targets →
      ∀ other ∈ updated :: releases.erase existing, Stored signer last other := by
    intro last sameTargets other mem
    have source : ∃ origin ∈ directory.releases, other.version = origin.version ∧
        other.manifest.filename = origin.manifest.filename ∧
        other.manifest.size = origin.manifest.size ∧
        other.manifest.sha256 = origin.manifest.sha256 := by
      rcases mem_cons.mp mem with rfl | rest
      · exact ⟨existing, loaded.perm.subset listed, isVersion, isUpdated ▸ rfl, isUpdated ▸ rfl,
          isUpdated ▸ rfl⟩
      · exact ⟨other, loaded.perm.subset (mem_of_mem_erase rest), rfl, rfl, rfl, rfl⟩
    obtain ⟨origin, inside, version, name, size, sha256⟩ := source
    obtain ⟨hasName, content, isTarget, isSize, isDigest⟩ := kept.stored origin inside
    refine ⟨by rw [name, version, hasName], content, ?_, by rw [size, isSize],
      by rw [sha256, isDigest]⟩
    rw [sameTargets, name, isTarget]
  have keep : ∀ last, Beside none directory last ∨
      Saved (updated :: releases.erase existing) directory last → Kept signer answers last := by
    rintro last (beside | saved)
    · exact kept.beside (fun _ differ => by cases differ) beside
    · exact kept.save numbered continues (stored saved.targets) saved
  refine sound_bind ((sound_saveReleases _).mono_keep keep)
    (fun _ last keptLast _ => ⟨keptLast, keptLast⟩) fun _ last keptLast _ => keptLast

end Requests

structure Consistent (signer : ReleaseSigner) (server : ReleaseServer) : Prop where
  kept : Kept signer server.answers server.directory
  follows : server.answers.Pairwise Follows

section Runs

variable {signer : ReleaseSigner} {server after : ReleaseServer}
variable {request : ReleaseRequest} {program : ReleaseProgram ReleaseResponse}
variable {answers : List (UpdateChannel × Option SignedClientUpdateMetadata)}
variable {directory : ReleaseDirectory}

structure Answered (signer : ReleaseSigner)
    (answers : List (UpdateChannel × Option SignedClientUpdateMetadata))
    (outcome : Except ReleaseError ReleaseResponse) (directory : ReleaseDirectory) : Prop where
  kept : Kept signer answers directory
  latest : ∀ channel metadata, outcome = .ok (.latest channel metadata) →
    ∃ releases, Loaded directory.releases releases ∧
      metadata = (latestInChannel releases channel).map (·.toSignedClientUpdateMetadata)

theorem answered_error {error : ReleaseError} (kept : Kept signer answers directory) :
    Answered signer answers (.error error) directory :=
  ⟨kept, fun _ _ differ => by cases differ⟩

theorem sound_return {α : Type} {start : ReleaseProgram α} {wrap : α → ReleaseResponse}
    (other : ∀ value channel metadata, wrap value ≠ .latest channel metadata)
    (safe : Safe signer answers start directory) :
    releaseDisk.Sound (Kept signer answers) (Answered signer answers)
      (start >>= fun value => pure (wrap value)) directory := by
  refine sound_bind safe (fun value after kept _ => ⟨kept, kept, ?_⟩)
    fun _ _ kept _ => answered_error kept
  intro channel metadata same
  exact absurd (Except.ok.inj same) (other value channel metadata)

theorem sound_program (kept : Kept signer server.answers server.directory)
    (isProgram : server.program signer request = some program) :
    releaseDisk.Sound (Kept signer server.answers) (Answered signer server.answers) program
      server.directory := by
  cases request with
  | beginUpload form id =>
    simp only [ReleaseServer.program] at isProgram
    split_ifs at isProgram
    cases isProgram
    exact sound_return (fun _ _ _ => nofun) (safe_beside kept (calls_beginUpload form id))
  | completeUpload which now seed =>
    obtain ⟨upload, -, rfl⟩ := map_eq_some_iff.mp isProgram
    exact sound_return (fun _ _ _ => nofun) (safe_completeUpload kept upload now seed)
  | breakOffUpload which =>
    obtain ⟨upload, -, rfl⟩ := map_eq_some_iff.mp isProgram
    exact sound_return (fun _ _ _ => nofun) (safe_beside kept (calls_breakOffUpload upload))
  | setRollout actor version status basisPoints now =>
    cases isProgram
    exact sound_return (fun _ _ _ => nofun)
      (safe_setRollout kept actor version status basisPoints now)
  | latest channel =>
    cases isProgram
    have keep : ∀ after, after = server.directory → Kept signer server.answers after :=
      fun after same => same.symm ▸ kept
    refine sound_bind ((sound_latest channel).mono_keep keep)
      (fun answer after keptAfter done => ?_) fun _ _ keptAfter _ => answered_error keptAfter
    obtain ⟨rfl, isLatest⟩ := done
    refine ⟨keptAfter, keptAfter, fun channel metadata same => ?_⟩
    cases same
    exact isLatest answer rfl

theorem Consistent.answered {outcome : Except ReleaseError ReleaseResponse}
    (consistent : Consistent signer server)
    (answered : Answered signer server.answers outcome directory) :
    Consistent signer (server.answered request outcome directory) := by
  have unchanged : Consistent signer { server with
      directory := directory, uploads := server.remaining request } :=
    ⟨answered.kept, consistent.follows⟩
  cases outcome with
  | error error => exact unchanged
  | ok response =>
    cases response with
    | uploading upload => exact ⟨answered.kept, consistent.follows⟩
    | changed record => exact unchanged
    | latest channel metadata =>
      obtain ⟨releases, loaded, isLatest⟩ := answered.latest channel metadata rfl
      refine ⟨⟨answered.kept.numbered, answered.kept.stored,
        covers_append answered.kept loaded isLatest⟩, ?_⟩
      refine pairwise_append.mpr
        ⟨consistent.follows, pairwise_singleton _ _, fun earlier mem last isLast => ?_⟩
      rw [mem_singleton] at isLast
      subst isLast
      exact follows_of_covers answered.kept loaded isLatest mem

theorem Consistent.step {action : ReleaseAction} (consistent : Consistent signer server)
    (steps : server.step signer action = some after) : Consistent signer after := by
  cases action with
  | handle request choices =>
    obtain ⟨program, isProgram, rest⟩ := bind_eq_some_iff.mp steps
    obtain ⟨⟨outcome, directory⟩, finishes, isAfter⟩ := bind_eq_some_iff.mp rest
    cases isAfter
    have sound := sound_program consistent.kept isProgram
    exact consistent.answered (sound.ends (ends_of_finish finishes))
  | arrive which chunk =>
    obtain ⟨upload, -, rfl⟩ := map_eq_some_iff.mp steps
    have beside : Beside none server.directory { server.directory with
        temporaries := Function.update server.directory.temporaries upload.id
          (some (upload.take chunk).received) } := ⟨rfl, fun _ _ => rfl⟩
    exact ⟨consistent.kept.beside (fun _ differ => by cases differ) beside,
      consistent.follows⟩
  | crash request choices =>
    obtain ⟨program, isProgram, rest⟩ := bind_eq_some_iff.mp steps
    obtain ⟨⟨left, directory⟩, advances, isAfter⟩ := bind_eq_some_iff.mp rest
    cases isAfter
    have sound := sound_program consistent.kept isProgram
    exact ⟨sound.stops ⟨choices, left, advances⟩, consistent.follows⟩

theorem consistent_empty : Consistent signer .empty where
  kept := ⟨numbered_nil, fun _ mem => absurd mem not_mem_nil,
    fun _ mem => absurd mem not_mem_nil⟩
  follows := List.Pairwise.nil

theorem consistent_of_reached (reached : ReleaseServer.Reached signer server) :
    Consistent signer server :=
  GuardedRun.invariant (Consistent signer) consistent_empty
    (fun _ _ _ consistent _ steps => consistent.step steps) reached

end Runs

/-- In whatever order uploads, changes of the rollout, failing file operations and crashes come,
the index is well numbered, and no answer for the latest release goes back behind an earlier one
or contradicts it. -/
theorem client_releases_never_roll_back (signer : ReleaseSigner) (server : ReleaseServer)
    (reached : ReleaseServer.Reached signer server) :
    WellIndexed signer server.directory ∧ server.answers.Pairwise Follows :=
  have consistent := consistent_of_reached reached
  ⟨consistent.kept.wellIndexed, consistent.follows⟩

def exampleSigner : ReleaseSigner where
  keyId := "release-key"
  sign _ := "0123456789012345678901234567890123456789"
  verify _ _ _ := true
  sha256 _ := String.ofList (replicate 64 '0')
  parsesDate _ := true
  secondsOptional := false

/-- Version 1.0.0 is uploaded, a client asks for it, it is rolled out, and the client asks
again. -/
def exampleActions : List ReleaseAction :=
  let now := "2026-07-30T00:00:00.000Z"
  [.handle (.beginUpload ⟨"admin", "1.0.0", installerName "1.0.0", "stable", some 2⟩ 7)
      [false, false, false],
    .arrive 0 [1, 2],
    .handle (.completeUpload 0 now (String.ofList (replicate 64 'a')))
      [false, false, false, false, false, false, false, false],
    .handle (.latest none) [false, false],
    .handle (.setRollout "admin" "1.0.0" "active" 10000 now) [false, false, false, false, false],
    .handle (.latest (some "stable")) [false, false]]

theorem exampleActions_answers :
    (runActions (ReleaseServer.step exampleSigner) .empty exampleActions).any (fun server =>
      server.answers.map (fun answer => answer.2.map fun shown => shown.manifest.sequence) =
        [some 1, some 2]) = true := by
  decide +kernel

theorem client_releases_never_roll_back_example :
    ∃ server : ReleaseServer, ReleaseServer.Reached exampleSigner server ∧
      server.answers.map (fun answer => answer.2.map fun shown => shown.manifest.sequence) =
        [some 1, some 2] ∧
      WellIndexed exampleSigner server.directory ∧ server.answers.Pairwise Follows := by
  obtain ⟨server, runs, answers⟩ := (any_eq_true _ _).mp exampleActions_answers
  have reached : ReleaseServer.Reached exampleSigner server :=
    GuardedRun.of_runActions (fun _ _ => trivial) runs
  exact ⟨server, reached, by simpa using answers,
    client_releases_never_roll_back exampleSigner server reached⟩

end ClientRelease

end LongHub
