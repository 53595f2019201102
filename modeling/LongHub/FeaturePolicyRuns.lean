import LongHub.FeaturePolicyGuarantees

/-!
# Runs of the feature policy

High-risk features are not allowed after a refresh without an answer if it has had a cached policy
to fall back on.
-/

namespace LongHub

open JsonText JsonValue List Option Or String

namespace FeaturePolicyCoordinator

open FeaturePolicyCache

structure RefreshReport where
  before : Coordinator
  after : Coordinator
  announced : Bool

structure CoordinatorRun where
  coordinator : Coordinator
  /-- The last refresh that has settled has obtained a 200 or 304 answer. -/
  answered : Bool
  reports : List RefreshReport

def isAnswer : FetchOutcome → Bool
  | .failed => false
  | .response status _ _ _ => status = 200 || status = 304

/-- The request fails, or Cloud says that it cannot serve it now. -/
def isOutage : FetchOutcome → Bool
  | .failed => true
  | .response status _ _ _ => status = 429 || 500 ≤ status

def recordAction (run : CoordinatorRun) (action : CoordinatorAction) (after : Coordinator) :
    CoordinatorRun :=
  let announced := (after.effects.drop run.coordinator.effects.length).any isAnnouncement
  let reports := run.reports ++ [⟨run.coordinator, after, announced⟩]
  match action, after.phase with
  | .response outcome _, .idle => ⟨after, isAnswer outcome, reports⟩
  | .body _ _, .idle => ⟨after, true, reports⟩
  | _, _ => { run with coordinator := after }

def runStep (options : CoordinatorOptions) (run : CoordinatorRun) (action : CoordinatorAction) :
    Option CoordinatorRun :=
  (step options run.coordinator action).map (recordAction run action)

def runStart : CoordinatorRun := ⟨initial, true, []⟩

def FallsBack (options : CoordinatorOptions) (run : CoordinatorRun) : CoordinatorAction → Prop
  | .response outcome _ => isOutage outcome = true → run.coordinator.phase = .fetching none →
        ∀ request, ¬ AllowsHighRisk options run.coordinator request
  | _ => True

/-- No policy that allows something is in force when an answer is rejected. -/
def RejectsNothing (options : CoordinatorOptions) (run : CoordinatorRun)
    (action : CoordinatorAction) : Prop :=
  verdictOf run.coordinator action = some .rejects →
    ∀ request, ¬ Allows options run.coordinator request

section Runs

variable {options : CoordinatorOptions} {run : CoordinatorRun} {after : Coordinator}
variable {action : CoordinatorAction}

theorem recordAction_cases (run : CoordinatorRun) (action : CoordinatorAction)
    (after : Coordinator) : (recordAction run action after).coordinator = after ∧
    ((after.phase = .idle ∧ (recordAction run action after).reports = run.reports ++
        [⟨run.coordinator, after,
          (after.effects.drop run.coordinator.effects.length).any isAnnouncement⟩] ∧
        ((∃ outcome answers, action = .response outcome answers ∧
            (recordAction run action after).answered = isAnswer outcome) ∨
          (∃ outcome answers, action = .body outcome answers) ∧
            (recordAction run action after).answered = true)) ∨
      ((recordAction run action after).reports = run.reports ∧
        (recordAction run action after).answered = run.answered ∧
        (after.phase ≠ .idle ∨ verdictOf run.coordinator action = none))) := by
  unfold recordAction
  cases action with
  | response outcome answers =>
    cases phase : after.phase with
    | idle => exact ⟨rfl, inl ⟨rfl, rfl, inl ⟨outcome, answers, rfl, rfl⟩⟩⟩
    | _ => exact ⟨rfl, inr ⟨rfl, rfl, by simp⟩⟩
  | body outcome answers =>
    cases phase : after.phase with
    | idle => exact ⟨rfl, inl ⟨rfl, rfl, inr ⟨⟨outcome, answers, rfl⟩, rfl⟩⟩⟩
    | _ => exact ⟨rfl, inr ⟨rfl, rfl, by simp⟩⟩
  | _ => exact ⟨rfl, inr ⟨rfl, rfl, inr rfl⟩⟩

variable {before : Coordinator} {answers : RefreshAnswers} {next : CoordinatorRun}

theorem snapshotValue_unsettled (steps : step options before action = some after)
    (unsettled : after.phase ≠ .idle ∨ verdictOf before action = none) :
    after.snapshotValue = before.snapshotValue ∨ after.snapshotValue = none := by
  cases asked : verdictOf before action with
  | none => exact (quiet_step asked steps).2
  | some verdict =>
    have decided := decided_step asked steps
    cases verdict with
    | continues => exact inl decided.snapshot
    | _ =>
      have idle : after.phase = .idle := decided.phase.mpr (by simp)
      rcases unsettled with waits | none
      · exact absurd idle waits
      · rw [asked] at none
        cases none

theorem verdictOf_response {outcome : FetchOutcome}
    (steps : step options before (.response outcome answers) = some after) :
    ∃ cached, before.phase = .fetching cached ∧ verdictOf before (.response outcome answers) =
        some (responseVerdict cached outcome answers) := by
  cases phase : before.phase with
  | fetching cached => exact ⟨cached, rfl, by simp only [verdictOf, phase]⟩
  | _ => simp [step, phase] at steps

theorem verdictOf_body {outcome : BodyOutcome}
    (steps : step options before (.body outcome answers) = some after) :
    ∃ verdict, verdictOf before (.body outcome answers) = some verdict := by
  cases phase : before.phase with
  | reading etag refreshedAt =>
    exact ⟨bodyVerdict etag refreshedAt outcome answers, by simp only [verdictOf, phase]⟩
  | _ => simp [step, phase] at steps

theorem responseVerdict_of_unanswered {cached : Option FeaturePolicyCacheRecord}
    {outcome : FetchOutcome} {answers : RefreshAnswers} (unanswered : isAnswer outcome = false) :
    (∃ document, responseVerdict cached outcome answers = .publishes document .cache) ∨
    responseVerdict cached outcome answers = .rejects ∨
    (responseVerdict cached outcome answers = .keeps ∧ cached = none ∧
      isOutage outcome = true) := by
  have offline : (∃ document, offlineVerdict cached = .publishes document .cache) ∨
      (offlineVerdict cached = .keeps ∧ cached = none) := by
    cases cached with
    | none => exact inr ⟨rfl, rfl⟩
    | some record => exact inl ⟨record.document, rfl⟩
  cases outcome with
  | failed =>
    rcases offline with publishes | ⟨keeps, absent⟩
    · exact inl publishes
    · exact inr (inr ⟨keeps, absent, rfl⟩)
  | response status contentType contentLength etag =>
    simp only [isAnswer, Bool.or_eq_false_iff, decide_eq_false_iff_not] at unanswered
    obtain ⟨notOk, notModified⟩ := unanswered
    simp only [responseVerdict]
    by_cases denied : status = 401 ∨ status = 403
    · rw [if_pos denied]
      exact inr (inl rfl)
    rw [if_neg denied, if_neg notModified]
    by_cases unavailable : status = 429 ∨ 500 ≤ status
    · rw [if_pos unavailable]
      rcases offline with publishes | ⟨keeps, absent⟩
      · exact inl publishes
      · exact inr (inr ⟨keeps, absent, by simpa [isOutage] using unavailable⟩)
    · rw [if_neg unavailable, if_pos (inl notOk)]
      exact inr (inl rfl)

/-- After a refresh without an answer nothing of high risk is allowed. -/
def OfflineInv (options : CoordinatorOptions) (run : CoordinatorRun) : Prop :=
  run.answered = false → ∀ request, ¬ AllowsHighRisk options run.coordinator request

theorem offlineInv_runStep (inv : OfflineInv options run) (fallsBack : FallsBack options run action)
    (steps : runStep options run action = some next) : OfflineInv options next := by
  obtain ⟨after, stepTo, rfl⟩ := map_eq_some_iff.mp steps
  obtain ⟨sameCoordinator, outcome⟩ := recordAction_cases run action after
  intro unanswered request
  rw [sameCoordinator]
  rcases outcome with ⟨_, _, ⟨outcome, answers, rfl, answered⟩ | ⟨_, answered⟩⟩ |
    ⟨_, answered, notSettled⟩
  · rw [unanswered] at answered
    obtain ⟨cached, phase, asked⟩ := verdictOf_response stepTo
    have decided := decided_step asked stepTo
    rcases @responseVerdict_of_unanswered cached outcome answers answered.symm with
      ⟨document, publishes⟩ | rejects | ⟨keeps, absent, outage⟩
    · rw [publishes] at decided
      obtain ⟨refreshedAt, inForce⟩ := decided.snapshot
      exact not_allowsHighRisk_of_cache inForce rfl
    · rw [rejects] at decided
      exact fun allows => not_allows_of_none decided.snapshot allows.allows
    · rw [keeps] at decided
      rw [allowsHighRisk_congr decided.snapshot]
      exact fallsBack outage (absent ▸ phase) request
  · rw [unanswered] at answered
    cases answered
  · rw [unanswered] at answered
    rcases snapshotValue_unsettled stepTo notSettled with same | none
    · rw [allowsHighRisk_congr same]
      exact inv answered.symm request
    · exact fun allows => not_allows_of_none none allows.allows

def Announced (options : CoordinatorOptions) (report : RefreshReport) : Prop :=
  (∃ request, Allows options report.before request ∧ ¬ Allows options report.after request) →
    report.announced = true

theorem announced_settled {verdict : Verdict} (rejectsNothing : RejectsNothing options run action)
    (asked : verdictOf run.coordinator action = some verdict)
    (steps : step options run.coordinator action = some after) :
    Announced options ⟨run.coordinator, after,
      (after.effects.drop run.coordinator.effects.length).any isAnnouncement⟩ := by
  rintro ⟨request, allowed, denied⟩
  have decided := decided_step asked steps
  obtain ⟨more, appended, told⟩ := decided.effects
  rw [appended, drop_left]
  cases verdict with
  | publishes document source => exact told.mpr ⟨document, source, rfl⟩
  | rejects => exact absurd allowed (rejectsNothing asked request)
  | keeps => exact absurd ((allows_congr decided.snapshot).mpr allowed) denied
  | continues => exact absurd ((allows_congr decided.snapshot).mpr allowed) denied

theorem announced_runStep (announced : ∀ report ∈ run.reports, Announced options report)
    (rejectsNothing : RejectsNothing options run action)
    (steps : runStep options run action = some next) :
    ∀ report ∈ next.reports, Announced options report := by
  obtain ⟨after, stepTo, rfl⟩ := map_eq_some_iff.mp steps
  obtain ⟨_, outcome⟩ := recordAction_cases run action after
  rcases outcome with ⟨_, reports, kind⟩ | ⟨reports, _, _⟩
  · have asked : ∃ verdict, verdictOf run.coordinator action = some verdict := by
      rcases kind with ⟨outcome, answers, rfl, _⟩ | ⟨⟨outcome, answers, rfl⟩, _⟩
      · obtain ⟨cached, _, asked⟩ := verdictOf_response stepTo
        exact ⟨_, asked⟩
      · exact verdictOf_body stepTo
    obtain ⟨verdict, asked⟩ := asked
    rw [reports]
    intro report mem
    rcases mem_append.mp mem with earlier | last
    · exact announced report earlier
    · rw [mem_singleton.mp last]
      exact announced_settled rejectsNothing asked stepTo
  · rw [reports]
    exact announced

end Runs

/-- After a refresh that has obtained no 200 or 304 answer no feature of high risk is
allowed until a later one obtains it, if every refresh in an outage has a cached
policy or finds none in force that allows such a feature. -/
theorem highRisk_needsAnswer (options : CoordinatorOptions) (run : CoordinatorRun)
    (reached : GuardedRun (runStep options) (FallsBack options) runStart run)
    (unanswered : run.answered = false) (request : DecisionRequest) :
    ¬ AllowsHighRisk options run.coordinator request := by
  have inv : OfflineInv options run := by
    apply reached.invariant (OfflineInv options)
    · intro bad
      cases bad
    · intro before after action kept fallsBack steps
      exact offlineInv_runStep kept fallsBack steps
  exact inv unanswered request

def cachedPolicy : CacheFile :=
  .file 0 (print (.record [("schema_version", .text cacheSchema),
    ("cloud_origin", .text "https://cloud.example"), ("device_id", .text "device-a"),
    ("etag", .text ""), ("cached_at", .text "2026-07-30T12:01:00.000Z"),
    ("document", catalogPolicy "high" false)]))

def checkFallback (run : CoordinatorRun) (action : CoordinatorAction) : Bool :=
  match action, run.coordinator.phase with
  | .response _ _, .fetching none => run.coordinator.snapshotValue.isNone
  | _, _ => true

theorem fallsBack_of_check (options : CoordinatorOptions) (run : CoordinatorRun)
    (action : CoordinatorAction) (checked : checkFallback run action = true) :
    FallsBack options run action := by
  cases action with
  | response outcome answers =>
    intro _ phase request allows
    simp only [checkFallback, phase, isNone_iff_eq_none] at checked
    exact not_allows_of_none checked allows.allows
  | _ => trivial

theorem highRisk_needsAnswer_cached : ∃ run,
    GuardedRun (runStep exampleOptions) (FallsBack exampleOptions) runStart run ∧
    run.answered = false ∧ run.coordinator.snapshotValue.isSome ∧
    ¬ AllowsHighRisk exampleOptions run.coordinator catalogRequest := by
  have evaluates : (runActions (fun run action => if checkFallback run action then
      runStep exampleOptions run action else none) runStart
      [.refresh exampleNow cachedPolicy, .response .failed (exampleAnswers true)]).map
      (fun run => (run.answered, run.coordinator.snapshotValue.isSome)) =
      some (false, true) := by
    simp only [cachedPolicy, cacheSchema, catalogPolicy, featurePolicySchema, print, printFields,
      printItems, field, toList_quote, reduceToList]
    decide +kernel
  obtain ⟨run, runs, facts⟩ := map_eq_some_iff.mp evaluates
  obtain ⟨unanswered, inForce⟩ := Prod.mk.inj facts
  have reached : GuardedRun (runStep exampleOptions) (FallsBack exampleOptions) runStart run :=
    GuardedRun.of_checkedActions (fallsBack_of_check exampleOptions) runs
  exact ⟨run, reached, unanswered, inForce,
    highRisk_needsAnswer exampleOptions run reached unanswered catalogRequest⟩

/-- In an outage without a cache the policy of high risk stays in force. -/
theorem not_highRisk_needsAnswer : ¬ ∀ (options : CoordinatorOptions) (run : CoordinatorRun),
    GuardedRun (runStep options) (fun _ _ => True) runStart run → run.answered = false →
      ∀ request, ¬ AllowsHighRisk options run.coordinator request := by
  intro claim
  have evaluates : (runActions (runStep exampleOptions) runStart
      (receiving (catalogPolicy "high" false) true ++
        [.refresh exampleNow .absent, .response .failed (exampleAnswers true)])).map
      (fun run => (run.answered, (allowedPolicy (decide exampleOptions catalogRequest
        run.coordinator).1).map (·.riskLevel))) = some (false, some .high) := by
    simp only [receiving, catalogPolicy, featurePolicySchema, print, printFields, printItems, field,
      toList_quote, reduceToList]
    decide +kernel
  obtain ⟨run, runs, facts⟩ := map_eq_some_iff.mp evaluates
  obtain ⟨unanswered, decision⟩ := Prod.mk.inj facts
  obtain ⟨policy, isAllowed, high⟩ := map_eq_some_iff.mp decision
  exact claim exampleOptions run (GuardedRun.of_runActions (fun _ _ => trivial) runs) unanswered
    catalogRequest ⟨policy, isAllowed, high⟩

/-- Every refresh that takes something away tells its owner, if no answer is rejected
while something is allowed. -/
theorem policyChanges_announced (options : CoordinatorOptions) (run : CoordinatorRun)
    (reached : GuardedRun (runStep options) (RejectsNothing options) runStart run) :
    ∀ report ∈ run.reports, Announced options report := by
  apply reached.invariant (fun run => ∀ report ∈ run.reports, Announced options report)
  · intro report mem
    cases mem
  · intro before after action kept rejectsNothing steps
    exact announced_runStep kept rejectsNothing steps

def checkRejection (run : CoordinatorRun) (action : CoordinatorAction) : Bool :=
  match verdictOf run.coordinator action with
  | some .rejects => run.coordinator.snapshotValue.isNone
  | _ => true

theorem rejectsNothing_of_check (options : CoordinatorOptions) (run : CoordinatorRun)
    (action : CoordinatorAction) (checked : checkRejection run action = true) :
    RejectsNothing options run action := by
  intro asked request
  simp only [checkRejection, asked, isNone_iff_eq_none] at checked
  exact not_allows_of_none checked

/-- Whether the last refresh has taken the catalog away, and has announced it. -/
def lastReport (run : CoordinatorRun) : Option (Bool × Bool × Bool) :=
  run.reports.getLast?.map fun report =>
    ((allowedPolicy (decide exampleOptions catalogRequest report.before).1).isSome,
      (allowedPolicy (decide exampleOptions catalogRequest report.after).1).isSome,
      report.announced)

theorem tightened_of_lastReport {run : CoordinatorRun} {announced : Bool}
    (last : lastReport run = some (true, false, announced)) :
    ∃ report ∈ run.reports, (∃ request, Allows exampleOptions report.before request ∧
      ¬ Allows exampleOptions report.after request) ∧ report.announced = announced := by
  obtain ⟨report, isLast, facts⟩ := map_eq_some_iff.mp last
  obtain ⟨before, rest⟩ := Prod.mk.inj facts
  obtain ⟨after, told⟩ := Prod.mk.inj rest
  refine ⟨report, mem_of_getLast? isLast, ⟨catalogRequest, before, ?_⟩, told⟩
  rw [Allows, after]
  decide

theorem policyChanges_announced_emergency : ∃ run,
    GuardedRun (runStep exampleOptions) (RejectsNothing exampleOptions) runStart run ∧
    ∃ report ∈ run.reports, (∃ request, Allows exampleOptions report.before request ∧
      ¬ Allows exampleOptions report.after request) ∧ report.announced = true := by
  have evaluates : (runActions (fun run action => if checkRejection run action then
      runStep exampleOptions run action else none) runStart
      (receiving (catalogPolicy "low" false) true ++
        receiving (catalogPolicy "low" true) true)).map (fun run =>
          (lastReport run).map fun report => (report.1, report.2.1)) =
      some (some (true, false)) := by
    simp only [receiving, catalogPolicy, featurePolicySchema, print, printFields, printItems, field,
      toList_quote, reduceToList]
    decide +kernel
  obtain ⟨run, runs, last⟩ := map_eq_some_iff.mp evaluates
  obtain ⟨⟨before, after, announced⟩, isLast, facts⟩ := map_eq_some_iff.mp last
  obtain ⟨rfl, rfl⟩ := Prod.mk.inj facts
  have reached : GuardedRun (runStep exampleOptions) (RejectsNothing exampleOptions) runStart run :=
    GuardedRun.of_checkedActions (rejectsNothing_of_check exampleOptions) runs
  obtain ⟨report, mem, tightens, _⟩ := tightened_of_lastReport isLast
  exact ⟨run, reached, report, mem, tightens,
    policyChanges_announced exampleOptions run reached report mem tightens⟩

/-- Rejected credentials take the policy away without a word. -/
theorem not_policyChanges_announced : ¬ ∀ (options : CoordinatorOptions) (run : CoordinatorRun),
    GuardedRun (runStep options) (fun _ _ => True) runStart run →
      ∀ report ∈ run.reports, Announced options report := by
  intro claim
  have evaluates : (runActions (runStep exampleOptions) runStart
      (receiving (catalogPolicy "low" false) true ++ [.refresh exampleNow .absent,
        .response (.response 401 none none "") (exampleAnswers true)])).map lastReport =
      some (some (true, false, false)) := by
    simp only [receiving, catalogPolicy, featurePolicySchema, print, printFields, printItems, field,
      toList_quote, reduceToList]
    decide +kernel
  obtain ⟨run, runs, last⟩ := map_eq_some_iff.mp evaluates
  obtain ⟨report, mem, tightens, quiet⟩ := tightened_of_lastReport last
  have announced := claim exampleOptions run (GuardedRun.of_runActions (fun _ _ => trivial) runs)
    report mem tightens
  rw [quiet] at announced
  cases announced

end FeaturePolicyCoordinator

end LongHub
