import LongHub.CanonicalDepth
import LongHub.GuardedRun
import LongHub.NoCodeWorkspace

/-!
# Reopening the no-code workspace

The file of a workspace always holds the collections of the service, so a new service shows what the
old one did, unless the loader refuses the file for its size or for the number of items in a
collection.
-/

namespace LongHub

open JsonValue List Stored

namespace NoCode

section Items

variable {α β : Type} {parse : JsonValue → Except String α} {shown : α → β}

def ReadsAgain (shown : α → β) (item : Stored parse) : Prop :=
  ∃ content, parse item.value.finite = .ok content ∧ shown content = shown item.content

theorem readsAgain_skill (skill : StoredSkill) : ReadsAgain shownSkill skill :=
  ⟨skill.content, parseUserContentSkill_finite skill.accepted, rfl⟩

theorem readsAgain_workflow (workflow : StoredWorkflow) : ReadsAgain shownWorkflow workflow := by
  obtain ⟨back, parsed, sameId, sameName, sameCount⟩ :=
    BoundedWorkflow.parseBoundedWorkflow_finite workflow.accepted
  refine ⟨back, parsed, ?_⟩
  unfold shownWorkflow
  rw [sameId, sameName, sameCount]

theorem readsAgain_overlay {overlay : StoredOverlay}
    (written : overlay.value.finite = overlay.value) : ReadsAgain id overlay := by
  refine ⟨overlay.content, ?_, rfl⟩
  rw [written]
  exact overlay.accepted

theorem mapM_finite {items : List (Stored parse)} (each : ∀ item ∈ items, ReadsAgain shown item) :
    ∃ loaded : List (Stored parse),
      (items.map fun item => item.value.finite).mapM (of parse) = .ok loaded ∧
      (loaded.map value = items.map fun item => item.value.finite) ∧
      (loaded.map fun item => shown item.content) = items.map fun item => shown item.content := by
  induction items with
  | nil => exact ⟨[], rfl, rfl, rfl⟩
  | cons item rest ih =>
    rw [forall_mem_cons] at each
    obtain ⟨content, parsed, same⟩ := each.1
    obtain ⟨others, loaded, values, sameOthers⟩ := ih each.2
    refine ⟨⟨item.value.finite, content, parsed⟩ :: others, ?_, ?_, ?_⟩
    · rw [map_cons, mapM_cons, of_eq_ok parsed, loaded]
      rfl
    · rw [map_cons, values, map_cons]
    · rw [map_cons, sameOthers, map_cons, same]

end Items

structure Collections.Written (collections : Collections) : Prop where
  contentSkills : ∀ skill ∈ collections.contentSkills, skill.value.WellFormed
  workflows : ∀ workflow ∈ collections.workflows, workflow.value.WellFormed
  overlays : ∀ overlay ∈ collections.overlays,
    overlay.value.WellFormed ∧ overlay.value.finite = overlay.value

structure Collections.ReadsAs (collections loaded : Collections) : Prop where
  contentSkills : loaded.contentSkills.map value =
    collections.contentSkills.map fun skill => skill.value.finite
  workflows : loaded.workflows.map value =
    collections.workflows.map fun workflow => workflow.value.finite
  overlays : loaded.overlays.map value =
    collections.overlays.map fun overlay => overlay.value.finite
  shown : loaded.shown = collections.shown

def Collections.Few (collections : Collections) : Prop :=
  collections.contentSkills.length ≤ maxItems ∧ collections.workflows.length ≤ maxItems ∧
    collections.overlays.length ≤ maxItems

section Load

variable {ownerHash : String} {collections loaded : Collections}

theorem wellFormed_values {α : Type} {parse : JsonValue → Except String α}
    {items : List (Stored parse)} (each : ∀ item ∈ items, item.value.WellFormed) :
    (array (items.map value)).WellFormed := by
  apply JsonValue.WellFormed.array
  intro value mem
  obtain ⟨item, inside, rfl⟩ := mem_map.mp mem
  exact each item inside

theorem wellFormed_stateJson (written : collections.Written) :
    (stateJson ownerHash collections).WellFormed := by
  have contentSkills := wellFormed_values written.contentSkills
  have workflows := wellFormed_values written.workflows
  have overlays := wellFormed_values fun overlay mem => (written.overlays overlay mem).1
  exact wellFormed_of_names
    ["schemaVersion", "ownerHash", "contentSkills", "workflows", "overlays"] rfl (by decide)
    (by decide) (by simp [JsonValue.WellFormed.text, contentSkills, workflows, overlays])

theorem finite_stateJson : (stateJson ownerHash collections).finite = .record [
      ("schemaVersion", .text "longhub/nocode-workspace/v1"), ("ownerHash", .text ownerHash),
      ("contentSkills", .array (collections.contentSkills.map fun skill => skill.value.finite)),
      ("workflows", .array (collections.workflows.map fun workflow => workflow.value.finite)),
      ("overlays", .array (collections.overlays.map fun overlay => overlay.value.finite))] := by
  simp [stateJson, Function.comp_def]

theorem load_persisted (written : collections.Written)
    (small : fileSize (persisted ownerHash collections) ≤ maxFileSize) :
    load ownerHash (some (persisted ownerHash collections)) =
      loadState ownerHash (stateJson ownerHash collections).finite := by
  have space : JsonValue.IsSpace ['\n'] := by
    intro char mem
    rw [mem_singleton.mp mem]
    rfl
  have parsed : JsonValue.parse (persisted ownerHash collections) =
      some (stateJson ownerHash collections).finite :=
    parse_stringify (wellFormed_stateJson written) space
  unfold load
  simp only [parsed, if_neg (Nat.not_lt.mpr small), Except.require]
  rfl

theorem collectionsOf_written (contentSkills workflows overlays : List JsonValue) :
    collectionsOf ownerHash [("schemaVersion", .text "longhub/nocode-workspace/v1"),
      ("ownerHash", .text ownerHash), ("contentSkills", .array contentSkills),
      ("workflows", .array workflows), ("overlays", .array overlays)] =
      if contentSkills.length ≤ maxItems ∧ workflows.length ≤ maxItems ∧
        overlays.length ≤ maxItems then some (contentSkills, workflows, overlays) else none := by
  simp [collectionsOf, lookup_cons, hasExactKeys_of_names]

theorem loadState_of_few (written : collections.Written) (few : collections.Few) :
    ∃ loaded, loadState ownerHash (stateJson ownerHash collections).finite = .ok loaded ∧
      collections.ReadsAs loaded := by
  obtain ⟨contentSkills, skillsLoaded, skillValues, sameSkills⟩ :=
    mapM_finite fun skill (_ : skill ∈ collections.contentSkills) => readsAgain_skill skill
  obtain ⟨workflows, workflowsLoaded, workflowValues, sameWorkflows⟩ :=
    mapM_finite fun workflow (_ : workflow ∈ collections.workflows) => readsAgain_workflow workflow
  obtain ⟨overlays, overlaysLoaded, overlayValues, sameOverlays⟩ :=
    mapM_finite fun overlay mem => readsAgain_overlay (written.overlays overlay mem).2
  have shown : Collections.shown ⟨contentSkills, workflows, overlays⟩ = collections.shown := by
    unfold Collections.shown
    congr 1
  refine ⟨⟨contentSkills, workflows, overlays⟩, ?_,
    ⟨skillValues, workflowValues, overlayValues, shown⟩⟩
  rw [finite_stateJson]
  simp only [loadState, collectionsOf_written, length_map]
  unfold Collections.Few at few
  rw [if_pos few, Except.require]
  simp only [bind, Except.bind, skillsLoaded, workflowsLoaded, overlaysLoaded]
  rfl

theorem loadState_of_many (many : ¬ collections.Few) :
    loadState ownerHash (stateJson ownerHash collections).finite = .error "无代码工作台 owner 或格式无效" := by
  rw [finite_stateJson]
  simp only [loadState, collectionsOf_written, length_map]
  unfold Collections.Few at many
  rw [if_neg many]
  rfl

theorem load_of_large (large : maxFileSize < fileSize (persisted ownerHash collections)) :
    load ownerHash (some (persisted ownerHash collections)) = .error "无代码工作台状态无效" := by
  simp only [load]
  rw [if_pos large]

end Load

/-- What the loader checks of the size of the state. -/
def Workspace.WithinLimits (workspace : Workspace) : Prop :=
  workspace.collections.Few ∧ ∀ text, workspace.file = some text → fileSize text ≤ maxFileSize

structure Workspace.Saved (setup : WorkspaceSetup) (workspace : Workspace) : Prop where
  written : workspace.collections.Written
  file : (workspace.file = none ∧ workspace.collections = .empty) ∨
    workspace.file = some (persisted setup.ownerHash workspace.collections)

section Saved

variable {setup : WorkspaceSetup} {workspace : Workspace}

theorem written_empty : Collections.empty.Written := by
  constructor <;> intro item mem <;> cases mem

theorem readsAs_empty : Collections.empty.ReadsAs .empty := ⟨rfl, rfl, rfl, rfl⟩

theorem few_empty : Collections.empty.Few := ⟨Nat.zero_le _, Nat.zero_le _, Nat.zero_le _⟩

theorem saved_newWorkspace : newWorkspace.Saved setup := ⟨written_empty, .inl ⟨rfl, rfl⟩⟩

theorem openWorkspace_of_withinLimits (saved : workspace.Saved setup)
    (limits : workspace.WithinLimits) :
    ∃ loaded, openWorkspace setup workspace.file = .ok ⟨loaded, .empty, workspace.file⟩ ∧
      workspace.collections.ReadsAs loaded := by
  rcases saved.file with ⟨noFile, noItems⟩ | file
  · rw [noFile, noItems]
    exact ⟨.empty, rfl, readsAs_empty⟩
  · obtain ⟨loaded, isLoaded, readsAs⟩ :=
      @loadState_of_few setup.ownerHash workspace.collections saved.written limits.1
    refine ⟨loaded, ?_, readsAs⟩
    rw [openWorkspace, file, load_persisted saved.written (limits.2 _ file), isLoaded]
    rfl

theorem openWorkspace_of_not_withinLimits (saved : workspace.Saved setup)
    (beyond : ¬ workspace.WithinLimits) :
    ∃ message, openWorkspace setup workspace.file = .error message := by
  rcases saved.file with ⟨noFile, noItems⟩ | file
  · refine absurd ⟨?_, ?_⟩ beyond
    · rw [noItems]
      exact few_empty
    · intro text found
      rw [noFile] at found
      cases found
  · rw [openWorkspace, file]
    by_cases large : maxFileSize < fileSize (persisted setup.ownerHash workspace.collections)
    · rw [load_of_large large]
      exact ⟨_, rfl⟩
    · rw [load_persisted saved.written (by omega), loadState_of_many]
      · exact ⟨_, rfl⟩
      · intro few
        apply beyond
        refine ⟨few, fun text found => ?_⟩
        rw [file] at found
        cases found
        omega

end Saved

section Loaded

variable {α : Type} {parse : JsonValue → Except String α} {items loaded : List (Stored parse)}

theorem value_of_loaded (values : loaded.map value = items.map fun item => item.value.finite)
    {item : Stored parse} (mem : item ∈ loaded) :
    ∃ origin ∈ items, item.value = origin.value.finite := by
  have inside : item.value ∈ loaded.map value := mem_map_of_mem mem
  rw [values] at inside
  obtain ⟨origin, originMember, same⟩ := mem_map.mp inside
  exact ⟨origin, originMember, same.symm⟩

theorem finite_of_loaded (values : loaded.map value = items.map fun item => item.value.finite)
    (each : ∀ item ∈ items, item.value.WellFormed) :
    (loaded.map fun item => item.value.finite) = items.map fun item => item.value.finite := by
  have twice : (loaded.map fun item => item.value.finite) =
      (loaded.map value).map finite := by rw [map_map]; rfl
  rw [twice, values, map_map]
  apply map_congr_left
  intro item mem
  exact finite_finite (each item mem)

end Loaded

namespace Collections.ReadsAs

variable {collections loaded : Collections}

theorem persisted_eq (ownerHash : String) (readsAs : collections.ReadsAs loaded)
    (written : collections.Written) :
    persisted ownerHash loaded = persisted ownerHash collections := by
  have same : (stateJson ownerHash loaded).finite = (stateJson ownerHash collections).finite := by
    rw [finite_stateJson, finite_stateJson,
      finite_of_loaded readsAs.contentSkills written.contentSkills,
      finite_of_loaded readsAs.workflows written.workflows,
      finite_of_loaded readsAs.overlays fun overlay mem => (written.overlays overlay mem).1]
  rw [persisted, serialize, stringify, same]
  rfl

theorem written (readsAs : collections.ReadsAs loaded) (before : collections.Written) :
    loaded.Written where
  contentSkills := by
    intro skill mem
    obtain ⟨origin, inside, same⟩ := value_of_loaded readsAs.contentSkills mem
    rw [same]
    exact wellFormed_finite (before.contentSkills origin inside)
  workflows := by
    intro workflow mem
    obtain ⟨origin, inside, same⟩ := value_of_loaded readsAs.workflows mem
    rw [same]
    exact wellFormed_finite (before.workflows origin inside)
  overlays := by
    intro overlay mem
    obtain ⟨origin, inside, same⟩ := value_of_loaded readsAs.overlays mem
    obtain ⟨wellFormed, isFinite⟩ := before.overlays origin inside
    rw [same, isFinite]
    exact ⟨wellFormed, isFinite⟩

end Collections.ReadsAs

/-- The collections after one item has been pushed. -/
inductive Adds (before : Collections) : Collections → Prop where
  | contentSkill (skill : StoredSkill) (wellFormed : skill.value.WellFormed) :
      Adds before { before with contentSkills := before.contentSkills ++ [skill] }
  | workflow (workflow : StoredWorkflow) (wellFormed : workflow.value.WellFormed) :
      Adds before { before with workflows := before.workflows ++ [workflow] }
  | overlay (overlay : StoredOverlay) (wellFormed : overlay.value.WellFormed)
      (isFinite : overlay.value.finite = overlay.value) :
      Adds before { before with overlays := before.overlays ++ [overlay] }

namespace Adds

variable {before after : Collections}

theorem written (adds : Adds before after) (written : before.Written) : after.Written := by
  cases adds with
  | contentSkill skill wellFormed =>
    refine { written with contentSkills := fun item mem => ?_ }
    rcases mem_append.mp mem with old | new
    · exact written.contentSkills item old
    · rw [mem_singleton.mp new]
      exact wellFormed
  | workflow workflow wellFormed =>
    refine { written with workflows := fun item mem => ?_ }
    rcases mem_append.mp mem with old | new
    · exact written.workflows item old
    · rw [mem_singleton.mp new]
      exact wellFormed
  | overlay overlay wellFormed isFinite =>
    refine { written with overlays := fun item mem => ?_ }
    rcases mem_append.mp mem with old | new
    · exact written.overlays item old
    · rw [mem_singleton.mp new]
      exact ⟨wellFormed, isFinite⟩

theorem ne (adds : Adds before after) : after ≠ before := by
  intro same
  cases adds with
  | contentSkill skill => simpa using congrArg Collections.contentSkills same
  | workflow workflow => simpa using congrArg Collections.workflows same
  | overlay overlay => simpa using congrArg Collections.overlays same

end Adds

theorem wellFormed_contentSkillJson (skill : UserContentSkill) :
    (contentSkillJson skill).WellFormed := by
  have identity : (record [("id", .text skill.id), ("name", .text skill.name),
      ("description", .text skill.description)]).WellFormed :=
    wellFormed_of_names ["id", "name", "description"] rfl (by decide) (by decide)
      (by simp [JsonValue.WellFormed.text])
  have nothing : (array []).WellFormed := .array (by simp)
  exact wellFormed_of_names
    ["schemaVersion", "source", "skill", "instructions", "examples", "permissions"] rfl
    (by decide) (by decide)
    (by simp [JsonValue.WellFormed.text, identity, wellFormed_texts, nothing])

theorem wellFormed_overlayJson (overlay : NoCodeAgentOverlay) :
    (overlayJson overlay).WellFormed := by
  have preferences : (record [("language", .text overlay.language),
      ("tone", .text overlay.tone)]).WellFormed :=
    wellFormed_of_names ["language", "tone"] rfl (by decide) (by decide)
      (by simp [JsonValue.WellFormed.text])
  exact wellFormed_of_names
    ["schemaVersion", "overlayId", "baseProfileId", "targetAgentId", "name", "description",
      "preferences", "personalEntryIds", "skillIds"] rfl (by decide) (by decide)
    (by simp [JsonValue.WellFormed.text, preferences, wellFormed_texts])

theorem wellFormed_workflowJson (uuid name : String) (steps : JsList) :
    (workflowJson uuid name steps.items).WellFormed := by
  have items : (array steps.items).WellFormed := .array steps.wellFormed
  exact wellFormed_of_names ["schemaVersion", "workflowId", "name", "steps"] rfl
    (by decide) (by decide) (by simp [JsonValue.WellFormed.text, items])

section Pushed

variable {choice : WorkspaceChoice} {before after : Collections}

theorem wellFormed_created {uuid source name description instructions : String}
    {examples : List String} {skill : StoredSkill}
    (created : createUserContentSkill uuid source name description instructions examples =
      .ok skill) : skill.value.WellFormed := by
  rw [value_of created]
  exact wellFormed_contentSkillJson _

theorem wellFormed_imported {uuid serialized : String} {skill : StoredSkill}
    (imported : importUserContentSkill uuid serialized = .ok skill) : skill.value.WellFormed := by
  unfold importUserContentSkill at imported
  split_ifs at imported with size
  simp only [Except.bind_eq_ok] at imported
  obtain ⟨input, -, parsed, -, created⟩ := imported
  exact wellFormed_created created

theorem adds_of_pushed {action : NoCodeWorkspaceAction}
    (push : pushed choice before action = .ok (some after)) : Adds before after := by
  cases action with
  | contentCreate name description instructions =>
    simp only [pushed, Except.bind_eq_ok, Except.pure_eq_ok, Option.some.injEq] at push
    obtain ⟨skill, created, rfl⟩ := push
    exact .contentSkill skill (wellFormed_created created)
  | contentImport serialized =>
    simp only [pushed, Except.bind_eq_ok, Except.pure_eq_ok, Option.some.injEq] at push
    obtain ⟨skill, imported, rfl⟩ := push
    exact .contentSkill skill (wellFormed_imported imported)
  | openclawImport =>
    simp only [pushed, Except.bind_eq_ok] at push
    obtain ⟨selection, -, selected, -, found⟩ := push
    cases selected with
    | none => cases found
    | some imported =>
      simp only [Except.bind_eq_ok, Except.pure_eq_ok, Option.some.injEq] at found
      obtain ⟨skill, kept, rfl⟩ := found
      apply Adds.contentSkill skill
      rw [value_of kept]
      exact imported.wellFormed
  | workflowCreate name steps =>
    simp only [pushed, Except.bind_eq_ok, Except.pure_eq_ok, Option.some.injEq] at push
    obtain ⟨workflow, kept, -, -, rfl⟩ := push
    apply Adds.workflow workflow
    rw [value_of kept]
    exact wellFormed_workflowJson _ _ _
  | agentCreate overlay =>
    simp only [pushed, Except.bind_eq_ok, Except.pure_eq_ok, Option.some.injEq] at push
    obtain ⟨-, -, -, -, -, -, created, kept, rfl⟩ := push
    have value := value_of kept
    refine .overlay created ?_ ?_
    · rw [value]
      exact wellFormed_overlayJson _
    · rw [value]
      exact finite_overlayJson _
  | contentExport | workflowRun | handoffPreview | handoffConfirm | handoffCancel => cases push

end Pushed

section Perform

variable {setup : WorkspaceSetup} {choice : WorkspaceChoice} {action : NoCodeWorkspaceAction}
variable {workspace : Workspace}

def Workspace.cleared (workspace : Workspace) (action : NoCodeWorkspaceAction) : Workspace :=
  { workspace with transient := clearTransient workspace.transient action }

theorem perform_of_pushed {collections : Collections}
    (push : pushed choice workspace.collections action = .ok (some collections)) :
    perform setup choice action workspace =
      save setup choice collections (workspace.cleared action) := by
  simp only [perform, push]
  rfl

theorem perform_of_not_pushed
    (none : ∀ collections, pushed choice workspace.collections action ≠ .ok (some collections)) :
    (perform setup choice action workspace).2.collections = workspace.collections ∧
      (perform setup choice action workspace).2.file = workspace.file := by
  unfold perform
  split
  · exact ⟨rfl, rfl⟩
  · rename_i collections push
    exact absurd push (none collections)
  · exact ⟨rfl, rfl⟩

/-- An action that returns normally leaves its collections in the file. -/
theorem saved_perform {after : Workspace} (saved : workspace.Saved setup)
    (ran : perform setup choice action workspace = (.ok (), after)) : after.Saved setup := by
  by_cases pushes : ∃ collections,
      pushed choice workspace.collections action = .ok (some collections)
  · obtain ⟨collections, push⟩ := pushes
    rw [perform_of_pushed push, save] at ran
    split at ran
    · cases ran
    · cases ran
      exact ⟨(adds_of_pushed push).written saved.written, .inr rfl⟩
  · have kept := @perform_of_not_pushed setup choice action workspace (not_exists.mp pushes)
    rw [ran] at kept
    obtain ⟨sameCollections, sameFile⟩ := kept
    constructor
    · rw [sameCollections]
      exact saved.written
    · rw [sameCollections, sameFile]
      exact saved.file

/-- A new service holds what it has read in the file. -/
theorem saved_openWorkspace {after : Workspace} (saved : workspace.Saved setup)
    (opened : openWorkspace setup workspace.file = .ok after) : after.Saved setup := by
  by_cases limits : workspace.WithinLimits
  · obtain ⟨loaded, opens, readsAs⟩ := openWorkspace_of_withinLimits saved limits
    rw [opens] at opened
    rw [← Except.ok.inj opened]
    refine ⟨readsAs.written saved.written, ?_⟩
    rcases saved.file with ⟨noFile, noItems⟩ | file
    · left
      refine ⟨noFile, ?_⟩
      rw [openWorkspace, noFile] at opens
      exact congrArg Workspace.collections (Except.ok.inj opens).symm
    · right
      rw [readsAs.persisted_eq setup.ownerHash saved.written]
      exact file
  · obtain ⟨message, refused⟩ := openWorkspace_of_not_withinLimits saved limits
    rw [refused] at opened
    cases opened

theorem saved_step {before after : Workspace} {event : WorkspaceEvent} (saved : before.Saved setup)
    (steps : workspaceStep setup before event = some after) : after.Saved setup := by
  cases event with
  | perform action choice =>
    simp only [workspaceStep] at steps
    split at steps
    · rename_i next ran
      cases steps
      exact saved_perform saved ran
    · cases steps
  | reopen =>
    simp only [workspaceStep] at steps
    cases opened : openWorkspace setup before.file with
    | error message =>
      rw [opened] at steps
      cases steps
    | ok next =>
      rw [opened] at steps
      cases steps
      exact saved_openWorkspace saved opened

abbrev WorkspaceRun (setup : WorkspaceSetup) : Workspace → Prop :=
  GuardedRun (workspaceStep setup) (fun _ _ => True) newWorkspace

theorem saved_of_run (run : WorkspaceRun setup workspace) : workspace.Saved setup :=
  run.invariant (Workspace.Saved setup) saved_newWorkspace
    fun _ _ _ saved _ steps => saved_step saved steps

/-- A new service over the file shows what this one shows. -/
def Workspace.Reopens (setup : WorkspaceSetup) (workspace : Workspace) : Prop :=
  ∃ reopened, openWorkspace setup workspace.file = .ok reopened ∧
    reopened.collections.shown = workspace.collections.shown

theorem reopens_iff (saved : workspace.Saved setup) :
    workspace.Reopens setup ↔ workspace.WithinLimits := by
  constructor
  · rintro ⟨reopened, opens, -⟩
    by_contra beyond
    obtain ⟨message, refused⟩ := openWorkspace_of_not_withinLimits saved beyond
    rw [refused] at opens
    cases opens
  · intro limits
    obtain ⟨loaded, opens, readsAs⟩ := openWorkspace_of_withinLimits saved limits
    exact ⟨_, opens, readsAs.shown⟩

/-- The action adds something, and the file cannot be written. -/
def FailsToSave (choice : WorkspaceChoice) (collections : Collections)
    (action : NoCodeWorkspaceAction) : Prop :=
  choice.disk.isSome ∧ ∃ next, pushed choice collections action = .ok (some next)

theorem perform_error {after : Workspace} {message : String}
    (ran : perform setup choice action workspace = (.error message, after)) :
    (after.collections = workspace.collections ∧ after.file = workspace.file) ↔
      ¬ FailsToSave choice workspace.collections action := by
  by_cases pushes : ∃ collections,
      pushed choice workspace.collections action = .ok (some collections)
  · obtain ⟨collections, push⟩ := pushes
    rw [perform_of_pushed push, save] at ran
    split at ran
    · rename_i problem failed
      cases ran
      have fails : FailsToSave choice workspace.collections action :=
        ⟨by rw [failed]; rfl, collections, push⟩
      constructor
      · intro same
        exact absurd same.1 (adds_of_pushed push).ne
      · intro succeeds
        exact absurd fails succeeds
    · cases ran
  · have kept := @perform_of_not_pushed setup choice action workspace (not_exists.mp pushes)
    rw [ran] at kept
    constructor
    · intro _ fails
      exact pushes fails.2
    · intro _
      exact kept

/-- Whatever actions have returned normally, the workspace can be opened again and shows the
same exactly within the limits of the loader; and an action that throws leaves the
collections and the file as they were unless it has added something that could not be
written. -/
theorem reopens_within_limits_and_errors_keep (setup : WorkspaceSetup) :
    (∀ workspace, WorkspaceRun setup workspace →
      (workspace.Reopens setup ↔ workspace.WithinLimits)) ∧
    ∀ choice action workspace message after,
      perform setup choice action workspace = (.error message, after) →
      ((after.collections = workspace.collections ∧ after.file = workspace.file) ↔
        ¬ FailsToSave choice workspace.collections action) :=
  ⟨fun _ run => reopens_iff (saved_of_run run), fun _ _ _ _ _ ran => perform_error ran⟩

def exampleSetup : WorkspaceSetup := ⟨composingNode, "user:0001", by decide⟩

def exampleChoice (disk : Option String) : WorkspaceChoice where
  agents := []
  personalEntryIds := fun _ => []
  authorizedSkillIds := fun _ => []
  selectOpenClawContent := none
  runWorkflow := .error "Workflow 执行失败"
  uuid := "00000000-0000-4000-8000-000000000000"
  token := ""
  now := 0
  disk := disk

def exampleAction : NoCodeWorkspaceAction := .contentCreate "会议纪要" "" "整理会议要点"

theorem pushed_exampleAction (disk : Option String) (collections : Collections) :
    ∃ next, pushed (exampleChoice disk) collections exampleAction = .ok (some next) ∧
      next.contentSkills.length = collections.contentSkills.length + 1 := by
  have accepted : parseUserContentSkill (contentSkillJson ⟨"user_local",
      "user.skill." ++ "00000000-0000-4000-8000-000000000000", "会议纪要", "", "整理会议要点", []⟩) =
      .ok ⟨"user_local", "user.skill." ++ "00000000-0000-4000-8000-000000000000", "会议纪要", "",
        "整理会议要点", []⟩ := by decide
  have created := of_eq_ok accepted
  refine ⟨{ collections with contentSkills := collections.contentSkills ++ [⟨_, _, accepted⟩] },
    ?_, by simp⟩
  simp only [pushed, exampleAction, createUserContentSkill, exampleChoice]
  rfl

theorem exists_run_of_skills (setup : WorkspaceSetup) (count : Nat) :
    ∃ workspace, WorkspaceRun setup workspace ∧
      workspace.collections.contentSkills.length = count := by
  induction count with
  | zero => exact ⟨newWorkspace, .refl, rfl⟩
  | succ count ih =>
    obtain ⟨workspace, run, length⟩ := ih
    obtain ⟨next, push, nextLength⟩ := pushed_exampleAction none workspace.collections
    have ran := @perform_of_pushed setup _ _ workspace _ push
    have steps : workspaceStep setup workspace (.perform exampleAction (exampleChoice none)) =
        some ⟨next, clearTransient workspace.transient exampleAction,
          some (persisted setup.ownerHash next)⟩ := by
      simp only [workspaceStep, ran]
      rfl
    refine ⟨_, run.tail _ trivial steps, ?_⟩
    rw [nextLength, length]

/-- After 257 new Skills no service takes the file; and a Skill that could not be written
stays in the memory. -/
theorem not_reopened_and_not_kept :
    (¬ ∀ workspace, WorkspaceRun exampleSetup workspace → workspace.Reopens exampleSetup) ∧
    ¬ ∀ choice action workspace message after,
      perform exampleSetup choice action workspace = (.error message, after) →
      after.collections = workspace.collections ∧ after.file = workspace.file := by
  constructor
  · intro always
    obtain ⟨workspace, run, length⟩ := exists_run_of_skills exampleSetup 257
    have limits := (reopens_iff (saved_of_run run)).mp (always workspace run)
    have few : workspace.collections.contentSkills.length ≤ 256 := limits.1.1
    omega
  · intro always
    obtain ⟨next, push, -⟩ := pushed_exampleAction (some "ENOSPC") newWorkspace.collections
    have ran := @perform_of_pushed exampleSetup _ _ newWorkspace _ push
    exact (perform_error ran).mp (always _ _ _ _ _ ran) ⟨rfl, next, push⟩

theorem reopens_within_limits_and_errors_keep_example :
    (∃ workspace, WorkspaceRun exampleSetup workspace ∧
      workspace.collections.contentSkills.length = 1 ∧
      (workspace.Reopens exampleSetup ↔ workspace.WithinLimits)) ∧
    ∃ message after, perform exampleSetup (exampleChoice none) (.contentCreate "" "" "")
        newWorkspace = (.error message, after) ∧
      ((after.collections = newWorkspace.collections ∧ after.file = newWorkspace.file) ↔
        ¬ FailsToSave (exampleChoice none) newWorkspace.collections (.contentCreate "" "" "")) := by
  obtain ⟨reopens, keeps⟩ := reopens_within_limits_and_errors_keep exampleSetup
  constructor
  · obtain ⟨workspace, run, length⟩ := exists_run_of_skills exampleSetup 1
    exact ⟨workspace, run, length, reopens workspace run⟩
  · have ran : perform exampleSetup (exampleChoice none) (.contentCreate "" "" "")
        newWorkspace = (.error skillFieldsInvalid, newWorkspace) := by
      have refused : parseUserContentSkill (contentSkillJson ⟨"user_local",
          "user.skill." ++ "00000000-0000-4000-8000-000000000000", "", "", "", []⟩) =
          .error skillFieldsInvalid := by decide
      simp only [perform, pushed, createUserContentSkill, exampleChoice]
      rw [of_eq_error refused]
      rfl
    exact ⟨_, _, ran, keeps _ _ _ _ _ ran⟩

end Perform

end NoCode

end LongHub
