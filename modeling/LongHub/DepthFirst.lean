import Mathlib.Logic.Relation
import Mathlib.Data.List.Perm.Subperm

/-!
# Depth-first search for cycles

A search that keeps the path it is on reports nothing if and only if the graph is closed and
has no cycle.
-/

/-- A search in flight: the path, the finished nodes and what has been reported. -/
structure DepthFirst (α ι : Type*) where
  visiting : List α
  visited : List α
  issues : List ι

namespace DepthFirst

variable {α ι : Type*} (next : α → Option (List α))

def Edge (node other : α) : Prop := other ∈ (next node).getD []

def Ordered : List α → Prop
  | [] => True
  | node :: rest => (∀ other, Edge next node other → (next other).isSome = true ∧ other ∈ rest) ∧
      Ordered rest

/-- What following some nodes does to a search. -/
structure Leads (before : DepthFirst α ι) (others : List α) (after : DepthFirst α ι) : Prop where
  visiting : after.visiting = before.visiting
  visited : before.visited ⊆ after.visited
  issues : before.issues <+: after.issues
  ordered : after.issues = before.issues → Ordered next before.visited →
    Ordered next after.visited ∧
      ∀ other ∈ others, (next other).isSome = true ∧ other ∈ after.visited

variable {next} {search before middle after : DepthFirst α ι} {nodes others : List α} {node : α}

theorem Leads.refl (search : DepthFirst α ι) : Leads next search [] search where
  visiting := rfl
  visited := List.Subset.refl _
  issues := List.prefix_rfl
  ordered _ ordered := ⟨ordered, by simp⟩

theorem Leads.trans (first : Leads next before [node] middle)
    (rest : Leads next middle others after) : Leads next before (node :: others) after where
  visiting := rest.visiting.trans first.visiting
  visited := List.Subset.trans first.visited rest.visited
  issues := first.issues.trans rest.issues
  ordered quiet ordered := by
    have same : middle.issues = before.issues :=
      (quiet ▸ rest.issues).eq_of_length_le first.issues.length_le
    have afterFirst := first.ordered same ordered
    have afterRest := rest.ordered (quiet.trans same.symm) afterFirst.1
    refine ⟨afterRest.1, List.forall_mem_cons.mpr ⟨?_, afterRest.2⟩⟩
    have isDone := afterFirst.2 node (by simp)
    exact ⟨isDone.1, rest.visited isDone.2⟩

theorem leads_report (issue : ι) :
    Leads next search [node] { search with issues := search.issues ++ [issue] } where
  visiting := rfl
  visited := List.Subset.refl _
  issues := List.prefix_append _ _
  ordered quiet := by simp at quiet

theorem acc_of_ordered {visited : List α} (ordered : Ordered next visited) :
    ∀ node ∈ visited, Acc (fun other node => Edge next node other) node := by
  induction visited with
  | nil => simp
  | cons first rest ih =>
    have below := ih ordered.2
    refine List.forall_mem_cons.mpr ⟨⟨_, fun other edge => ?_⟩, below⟩
    exact below other (ordered.1 other edge).2

theorem not_self_of_acc {relation : α → α → Prop} (acc : Acc relation node) :
    ¬ relation node node := by
  induction acc with
  | intro node _ ih => exact fun self => ih node self self

theorem edges_of_ordered {visited : List α} (ordered : Ordered next visited) :
    ∀ node ∈ visited, ∀ other, Edge next node other → (next other).isSome = true := by
  induction visited with
  | nil => simp
  | cons first rest ih =>
    exact List.forall_mem_cons.mpr ⟨fun other edge => (ordered.1 other edge).1, ih ordered.2⟩

variable [DecidableEq α] (next) (onCycle : α → ι) (onMissing : α → α → ι)

def visit : Nat → α → DepthFirst α ι → DepthFirst α ι
  | 0, _, search => search
  | turns + 1, node, search =>
    if node ∈ search.visiting then { search with issues := search.issues ++ [onCycle node] }
    else if node ∈ search.visited then search
    else
      let left := ((next node).getD []).foldl (fun search other =>
          if (next other).isSome then visit turns other search
          else { search with issues := search.issues ++ [onMissing node other] })
        { search with visiting := node :: search.visiting }
      { left with visiting := left.visiting.erase node, visited := node :: left.visited }

def follow (turns : Nat) (node : α) (search : DepthFirst α ι) (other : α) : DepthFirst α ι :=
  if (next other).isSome then visit next onCycle onMissing turns other search
  else { search with issues := search.issues ++ [onMissing node other] }

def visitAll (nodes : List α) : DepthFirst α ι :=
  nodes.foldl (fun search node => visit next onCycle onMissing (nodes.length + 1) node search)
    ⟨[], [], []⟩

variable {next} {onCycle} {onMissing} {turns : Nat}

structure OnPath (nodes : List α) (turns : Nat) (search : DepthFirst α ι) : Prop where
  distinct : search.visiting.Nodup
  known : search.visiting ⊆ nodes
  enough : nodes.length < turns + search.visiting.length

theorem leads_foldl (follows : ∀ (search : DepthFirst α ι) (other : α),
      search.visiting = before.visiting →
      Leads next search [other] (follow next onCycle onMissing turns node search other)) :
    Leads next before others (others.foldl (follow next onCycle onMissing turns node) before) := by
  induction others generalizing before with
  | nil => exact Leads.refl before
  | cons other others ih =>
    have first := follows before other rfl
    exact first.trans (ih fun search other same =>
      follows search other (same.trans first.visiting))

theorem leads_visit (isKnown : ∀ node, (next node).isSome = true → node ∈ nodes)
    (onPath : OnPath nodes turns search) (known : (next node).isSome = true) :
    Leads next search [node] (visit next onCycle onMissing turns node search) := by
  induction turns generalizing search node with
  | zero =>
    have most := (List.subperm_of_subset onPath.distinct onPath.known).length_le
    have enough := onPath.enough
    omega
  | succ turns ih =>
    rw [visit]
    split
    · exact leads_report _
    · next isNew =>
      split
      · next isDone =>
        exact ⟨rfl, List.Subset.refl _, List.prefix_rfl, fun _ ordered => ⟨ordered, by
          simp [known, isDone]⟩⟩
      · have deeper (middle : DepthFirst α ι) (same : middle.visiting = node :: search.visiting) :
            OnPath nodes turns middle := by
          constructor
          · rw [same]
            exact List.nodup_cons.mpr ⟨isNew, onPath.distinct⟩
          · rw [same]
            exact List.cons_subset.mpr ⟨isKnown node known, onPath.known⟩
          · have enough := onPath.enough
            rw [same, List.length_cons]
            omega
        have leads : Leads next { search with visiting := node :: search.visiting }
            ((next node).getD []) (((next node).getD []).foldl
              (follow next onCycle onMissing turns node)
              { search with visiting := node :: search.visiting }) := by
          apply leads_foldl
          intro middle other same
          unfold follow
          split
          · next known => exact ih (deeper middle same) known
          · exact leads_report _
        constructor
        · change List.erase _ node = _
          exact (congrArg (List.erase · node) leads.visiting).trans (List.erase_cons_head _ _)
        · exact List.Subset.trans leads.visited (List.subset_cons_self _ _)
        · exact leads.issues
        · intro quiet ordered
          have done := leads.ordered quiet ordered
          exact ⟨⟨done.2, done.1⟩, by simp [known]⟩

theorem issues_visit (closed : ∀ node other, Edge next node other → (next other).isSome = true)
    (acyclic : ∀ node, ¬ Relation.TransGen (Edge next) node node)
    (path : ∀ earlier ∈ search.visiting, Relation.TransGen (Edge next) earlier node) :
    (visit next onCycle onMissing turns node search).issues = search.issues ∧
      (visit next onCycle onMissing turns node search).visiting = search.visiting := by
  induction turns generalizing search node with
  | zero => exact ⟨rfl, rfl⟩
  | succ turns ih =>
    rw [visit]
    split
    · next onPath => exact absurd (path node onPath) (acyclic node)
    · split
      · exact ⟨rfl, rfl⟩
      · have follows (others : List α) (edges : ∀ other ∈ others, Edge next node other)
            (middle : DepthFirst α ι) (same : middle.visiting = node :: search.visiting) :
            (others.foldl (follow next onCycle onMissing turns node) middle).issues =
              middle.issues ∧
            (others.foldl (follow next onCycle onMissing turns node) middle).visiting =
              node :: search.visiting := by
          induction others generalizing middle with
          | nil => exact ⟨rfl, same⟩
          | cons other others rest =>
            have edge := edges other (by simp)
            have longer : ∀ earlier ∈ middle.visiting,
                Relation.TransGen (Edge next) earlier other := by
              rw [same]
              refine List.forall_mem_cons.mpr ⟨.single edge, fun earlier mem => ?_⟩
              exact (path earlier mem).tail edge
            have one := ih longer
            have isFollow : follow next onCycle onMissing turns node middle other =
                visit next onCycle onMissing turns other middle :=
              if_pos (closed node other edge)
            rw [List.foldl_cons, isFollow]
            have more := rest (fun other mem => edges other (by simp [mem])) _
              (one.2.trans same)
            exact ⟨more.1.trans one.1, more.2⟩
        have all := follows ((next node).getD []) (fun _ mem => mem)
          { search with visiting := node :: search.visiting } rfl
        constructor
        · exact all.1
        · change List.erase _ node = _
          exact (congrArg (List.erase · node) all.2).trans (List.erase_cons_head _ _)

/-- A search from every known node reports nothing just on a closed graph without cycles. -/
theorem issues_visitAll_eq_nil_iff (isKnown : ∀ node, (next node).isSome = true ↔ node ∈ nodes) :
    (visitAll next onCycle onMissing nodes).issues = [] ↔
      (∀ node other, Edge next node other → (next other).isSome = true) ∧
        ∀ node, ¬ Relation.TransGen (Edge next) node node := by
  constructor
  · intro quiet
    have leads (others : List α) (members : others ⊆ nodes) (before : DepthFirst α ι)
        (start : before.visiting = []) : Leads next before others (others.foldl
          (fun search node => visit next onCycle onMissing (nodes.length + 1) node search)
          before) := by
      induction others generalizing before with
      | nil => exact Leads.refl before
      | cons other others ih =>
        have onPath : OnPath nodes (nodes.length + 1) before :=
          ⟨by simp [start], by simp [start], by simp [start]⟩
        have known := (isKnown other).mpr (members (by simp))
        have first : Leads next before [other]
            (visit next onCycle onMissing (nodes.length + 1) other before) :=
          leads_visit (fun node => (isKnown node).mp) onPath known
        exact first.trans (ih (fun _ mem => members (by simp [mem])) _
          (first.visiting.trans start))
    have done := (leads nodes (List.Subset.refl _) ⟨[], [], []⟩ rfl).ordered quiet trivial
    have isVisited (node other : α) (edge : Edge next node other) :
        node ∈ (visitAll next onCycle onMissing nodes).visited := by
      apply (done.2 node _).2
      apply (isKnown node).mp
      unfold Edge at edge
      cases found : next node with
      | none => simp [found] at edge
      | some others => rfl
    constructor
    · intro node other edge
      exact edges_of_ordered done.1 node (isVisited node other edge) other edge
    · intro node cycle
      obtain ⟨other, edge, -⟩ := Relation.TransGen.head'_iff.mp cycle
      have isAcc := (acc_of_ordered done.1 node (isVisited node other edge)).transGen
      have reversed := Relation.transGen_swap.mpr cycle
      exact not_self_of_acc isAcc reversed
  · rintro ⟨closed, acyclic⟩
    have quiet (others : List α) (before : DepthFirst α ι) (start : before.visiting = []) :
        (others.foldl (fun search node =>
          visit next onCycle onMissing (nodes.length + 1) node search) before).issues =
          before.issues := by
      induction others generalizing before with
      | nil => rfl
      | cons other others ih =>
        have path : ∀ earlier ∈ before.visiting, Relation.TransGen (Edge next) earlier other := by
          simp [start]
        obtain ⟨same, returned⟩ := issues_visit closed acyclic path
        exact (ih _ (returned.trans start)).trans same
    exact quiet nodes ⟨[], [], []⟩ rfl

end DepthFirst
