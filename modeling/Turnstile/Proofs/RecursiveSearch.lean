/-
# The search is the recursive one

A proof tree is most simply defined by recursion: a finished sequent is a leaf,
and any other one a node with the first rule that applies to it, above the trees
of its premises (`recursiveTree`). The recursion fails at the first sequent that
is not finished and to which no rule applies. The search has a table and a stack
in its place; what its record makes of a stack is what the recursion makes of the
sequents one after another (`Search.trees_record`). Each entry of the table becomes
the tree that the recursion gives for its sequent (`grown_treeAt`,
`recursiveTree_of_grown`).

The applications that the search makes are told by the outline, the tree in which
sequents that no rule applies to stand as leaves (`outline`): they are its nodes
with children, in pre-order, up to the first such leaf
(`Search.inferences_record`). If there is none, the outline is the tree that the
search gives (`Search.assemble_record`).

Key definitions: `Rule.first?`, `recursiveTree`, `outline`, `Tree.isStuck`,
`Tree.inference`.
Key theorems: `expand?_eq_first?`, `Search.trees_record`,
`Search.inferences_record`, `Search.assemble_record`, `grown_treeAt`,
`search_eq_recursiveTree`.
-/
import Mathlib.Data.List.TakeWhile
import Turnstile.Log
import Turnstile.Proofs.Growth

namespace Turnstile

/-! ### The recursive definition -/

/-- The first rule of a list that applies to a sequent. -/
def Rule.first? (rules : List Rule) (s : Sequent) : Option Rule :=
  rules.find? fun rule => !(rule.premises s).isEmpty

/-- The proof tree of a sequent by recursion on its premises. -/
def recursiveTree (rules : List Rule) (s : Sequent) : Except Stuck Tree :=
  if s.isFinished then .ok (.node s none [])
  else
    match Rule.first? rules s with
    | none => .error ⟨s⟩
    | some rule => do
      let ts ← (rule.premises s).attach.mapM fun p => recursiveTree rules p.1
      return .node s (some rule.name) ts
termination_by s.size
decreasing_by exact Rule.size_lt_of_mem_premises p.2

/-- The proof tree in which sequents that no rule applies to stand as leaves. -/
def outline (rules : List Rule) (s : Sequent) : Tree :=
  if s.isFinished then .node s none []
  else
    match Rule.first? rules s with
    | none => .node s none []
    | some rule =>
      .node s (some rule.name) ((rule.premises s).attach.map fun p => outline rules p.1)
termination_by s.size
decreasing_by exact Rule.size_lt_of_mem_premises p.2

/-- The search applies the first rule that applies. -/
theorem expand?_eq_first? (s : Sequent) : ∀ rules : List Rule,
    expand? rules s = (Rule.first? rules s).map fun rule => ⟨rule, s, rule.premises s⟩
  | [] => rfl
  | rule :: rules => by
    have ih : rules.findSome? (fun r => r.application? s) = _ := expand?_eq_first? s rules
    rw [expand?, Rule.first?, List.findSome?_cons, List.find?_cons]
    by_cases hnil : rule.premises s = []
    · rw [Rule.application?_eq_none_iff.2 hnil, hnil]
      exact ih
    · have hempty : (rule.premises s).isEmpty = false := by simpa using hnil
      rw [Rule.application?_eq_some_iff.2 ⟨hnil, rfl⟩, hempty]
      rfl

section Equations

variable {rules : List Rule} {s : Sequent}

theorem first?_of_expand?_none (hexp : expand? rules s = none) : Rule.first? rules s = none := by
  rwa [expand?_eq_first?, Option.map_eq_none_iff] at hexp

theorem recursiveTree_finished (hfin : s.isFinished = true) :
    recursiveTree rules s = .ok (.node s none []) := by
  rw [recursiveTree, if_pos hfin]

theorem recursiveTree_stuck (hfin : s.isFinished = false) (hexp : expand? rules s = none) :
    recursiveTree rules s = .error ⟨s⟩ := by
  rw [recursiveTree, if_neg (by simp [hfin]), first?_of_expand?_none hexp]

theorem recursiveTree_split {a : Application} (hfin : s.isFinished = false)
    (hexp : expand? rules s = some a) :
    recursiveTree rules s =
      (a.premises.mapM (recursiveTree rules)).map (.node a.sequent (some a.rule.name)) := by
  rw [expand?_eq_first?, Option.map_eq_some_iff] at hexp
  obtain ⟨rule, hfirst, rfl⟩ := hexp
  rw [recursiveTree, if_neg (by simp [hfin]), hfirst]
  simp only
  rw [List.mapM_subtype fun _ _ => rfl, List.unattach_attach]
  cases (rule.premises s).mapM (recursiveTree rules) <;> rfl

theorem outline_finished (hfin : s.isFinished = true) : outline rules s = .node s none [] := by
  rw [outline, if_pos hfin]

theorem outline_stuck (hfin : s.isFinished = false) (hexp : expand? rules s = none) :
    outline rules s = .node s none [] := by
  rw [outline, if_neg (by simp [hfin]), first?_of_expand?_none hexp]

theorem outline_split {a : Application} (hfin : s.isFinished = false)
    (hexp : expand? rules s = some a) :
    outline rules s = .node a.sequent (some a.rule.name) (a.premises.map (outline rules)) := by
  rw [expand?_eq_first?, Option.map_eq_some_iff] at hexp
  obtain ⟨rule, hfirst, rfl⟩ := hexp
  rw [outline, if_neg (by simp [hfin]), hfirst]
  simp only
  rw [List.attach_map_val]

end Equations

/-! ### What the search makes of a stack -/

namespace Search

theorem length_of_mapM {α β ε : Type} {f : α → Except ε β} : ∀ {xs : List α} {ys : List β},
    xs.mapM f = .ok ys → ys.length = xs.length
  | [], ys, h => by
    cases h
    rfl
  | x :: xs, ys, h => by
    rw [List.mapM_cons] at h
    cases hx : f x with
    | error e => rw [hx] at h; cases h
    | ok y =>
      cases hxs : xs.mapM f with
      | error e => rw [hx, hxs] at h; cases h
      | ok zs =>
        rw [hx, hxs] at h
        cases h
        rw [List.length_cons, List.length_cons, length_of_mapM hxs]

/-- **The stack is a recursion.** What the search makes of a stack is what the
recursion makes of its sequents, one after another. -/
theorem trees_record (rules : List Rule) (stack : List Sequent) :
    (record rules stack).trees = stack.mapM (recursiveTree rules) := by
  induction stack using record_induction rules with
  | nil =>
    rw [record_nil]
    rfl
  | finished s rest hfin ih =>
    rw [record_finished rules hfin, Record.trees_leaf, ih, List.mapM_cons,
      recursiveTree_finished hfin]
    cases rest.mapM (recursiveTree rules) <;> rfl
  | split s rest a hfin hexp ih =>
    rw [record_split hfin hexp, Record.trees_split, ih, List.mapM_append, List.mapM_cons,
      recursiveTree_split hfin hexp]
    cases hps : a.premises.mapM (recursiveTree rules) with
    | error e => rfl
    | ok ts =>
      -- the trees of the premises are as many as the premises
      have hlen : ts.length = a.premises.length := length_of_mapM hps
      cases rest.mapM (recursiveTree rules) with
      | error e => rfl
      | ok us =>
        simp only [bind, Except.bind, pure, Except.pure, Except.map, ← hlen, List.take_left,
          List.drop_left]
  | stuck s rest hfin hexp =>
    rw [record_stuck hfin hexp, List.mapM_cons, recursiveTree_stuck hfin hexp]
    rfl

end Search

/-! ### What the search applies -/

namespace Tree

/-- Whether a node is a leaf that the search would give up at. -/
def isStuck (t : Tree) : Bool := t.isLeaf && !t.sequent.isFinished

/-- The nodes with children. -/
def innerNodes (ts : List Tree) : List Tree := ts.filter fun t => !t.isLeaf

/-- What a node says of the rule applied there: the sequent, the name of the rule
and the sequents of the children. -/
def inference (t : Tree) : Sequent × Option String × List Sequent :=
  (t.sequent, t.rule, t.children.map sequent)

end Tree

/-- What an application says: the sequent, the name of the rule and the
premises. -/
def Application.inference (a : Application) : Sequent × Option String × List Sequent :=
  (a.sequent, some a.rule.name, a.premises)

theorem sequent_outline (rules : List Rule) (s : Sequent) : (outline rules s).sequent = s := by
  rw [outline]
  split
  · rfl
  · split <;> rfl

namespace Search

/-- The nodes of the outlines of sequents in pre-order. -/
def nodes (rules : List Rule) (stack : List Sequent) : List Tree :=
  Tree.walkAll (stack.map (outline rules))

section

variable {rules : List Rule} {s : Sequent}

theorem nodes_append (stack rest : List Sequent) :
    nodes rules (stack ++ rest) = nodes rules stack ++ nodes rules rest := by
  simp only [nodes, List.map_append, Tree.walkAll_eq_flatMap, List.flatMap_append]

theorem nodes_cons_leaf (h : outline rules s = .node s none []) (rest : List Sequent) :
    nodes rules (s :: rest) = .node s none [] :: nodes rules rest := by
  rw [nodes, List.map_cons, Tree.walkAll, h, Tree.walk, Tree.walkAll]
  rfl

theorem nodes_cons_split {a : Application} (hfin : s.isFinished = false)
    (hexp : expand? rules s = some a) (rest : List Sequent) :
    nodes rules (s :: rest) =
      .node a.sequent (some a.rule.name) (a.premises.map (outline rules)) ::
        nodes rules (a.premises ++ rest) := by
  rw [nodes_append, nodes, List.map_cons, Tree.walkAll, outline_split hfin hexp, Tree.walk]
  rfl

theorem isStuck_leaf (s : Sequent) : (Tree.node s none []).isStuck = !s.isFinished := rfl

theorem isLeaf_split {a : Application} (hexp : expand? rules s = some a) :
    (Tree.node a.sequent (some a.rule.name) (a.premises.map (outline rules))).isLeaf = false := by
  have hne := (expand?_some hexp).2.2.2
  simpa [Tree.isLeaf, Tree.children] using hne

end

/-- The search gives up at the first node of the outlines that is stuck. -/
theorem stuck_record (rules : List Rule) (stack : List Sequent) :
    (record rules stack).stuck =
      ((nodes rules stack).find? Tree.isStuck).map fun t => ⟨t.sequent⟩ := by
  induction stack using record_induction rules with
  | nil =>
    rw [record_nil]
    rfl
  | finished s rest hfin ih =>
    rw [record_finished rules hfin, nodes_cons_leaf (outline_finished hfin), List.find?_cons,
      isStuck_leaf, hfin]
    exact ih
  | split s rest a hfin hexp ih =>
    rw [record_split hfin hexp, nodes_cons_split hfin hexp, List.find?_cons, Tree.isStuck,
      isLeaf_split hexp]
    exact ih
  | stuck s rest hfin hexp =>
    rw [record_stuck hfin hexp, nodes_cons_leaf (outline_stuck hfin hexp), List.find?_cons,
      isStuck_leaf, hfin]
    rfl

/-- **Applications are inner nodes in pre-order**, up to the first node that is
stuck. -/
theorem inferences_record (rules : List Rule) (stack : List Sequent) :
    ((record rules stack).steps.filterMap Step.application?).map Application.inference =
      (Tree.innerNodes ((nodes rules stack).takeWhile fun t => !t.isStuck)).map
        Tree.inference := by
  unfold Tree.innerNodes
  induction stack using record_induction rules with
  | nil =>
    rw [record_nil]
    rfl
  | finished s rest hfin ih =>
    rw [record_finished rules hfin, nodes_cons_leaf (outline_finished hfin), List.takeWhile_cons,
      isStuck_leaf, hfin]
    exact ih
  | split s rest a hfin hexp ih =>
    have hchildren : (a.premises.map (outline rules)).map Tree.sequent = a.premises := by
      rw [List.map_map]
      exact (List.map_congr_left fun p _ => sequent_outline rules p).trans (List.map_id _)
    rw [record_split hfin hexp, nodes_cons_split hfin hexp, List.takeWhile_cons, Tree.isStuck,
      isLeaf_split hexp, Bool.false_and, Bool.not_false, if_pos rfl, List.filter_cons,
      isLeaf_split hexp, Bool.not_false, if_pos rfl, List.map_cons, ← ih, Tree.inference,
      Tree.children, hchildren]
    rfl
  | stuck s rest hfin hexp =>
    rw [record_stuck hfin hexp, nodes_cons_leaf (outline_stuck hfin hexp), List.takeWhile_cons,
      isStuck_leaf, hfin]
    rfl

/-- If the search does not give up, its record folds into the outlines. -/
theorem assemble_record (rules : List Rule) (stack : List Sequent)
    (h : (record rules stack).stuck = none) :
    assemble (record rules stack).steps = stack.map (outline rules) := by
  induction stack using record_induction rules with
  | nil =>
    rw [record_nil]
    rfl
  | finished s rest hfin ih =>
    rw [record_finished rules hfin] at h ⊢
    rw [assemble_cons, place, ih h, List.map_cons, outline_finished hfin]
  | split s rest a hfin hexp ih =>
    rw [record_split hfin hexp] at h ⊢
    have hlen : (a.premises.map (outline rules)).length = a.premises.length := List.length_map _
    rw [assemble_cons, place, ih h, List.map_append, List.map_cons, outline_split hfin hexp, ← hlen,
      List.take_left, List.drop_left]
  | stuck s rest hfin hexp =>
    rw [record_stuck hfin hexp] at h
    simp at h

end Search

/-! ### What the entries of the table become -/

theorem mapM_eq_ok_map {rules : List Rule} {ts : List Tree}
    (h : ∀ t ∈ ts, recursiveTree rules t.sequent = .ok t) :
    (ts.map Tree.sequent).mapM (recursiveTree rules) = .ok ts := by
  induction ts with
  | nil => rfl
  | cons t ts ih =>
    rw [List.map_cons, List.mapM_cons, h t List.mem_cons_self,
      ih fun u hu => h u (List.mem_cons_of_mem t hu)]
    rfl

/-- A grown tree is the recursive tree of its sequent. -/
theorem recursiveTree_of_grown {rules : List Rule} {t : Tree} (h : Grown rules t) :
    recursiveTree rules t.sequent = .ok t := by
  induction h with
  | leaf hfin => exact recursiveTree_finished hfin
  | split hfin hexp hts _ ih =>
    rw [Tree.sequent, recursiveTree_split hfin hexp, ← hts, mapM_eq_ok_map ih,
      (expand?_some hexp).2.1]
    rfl

/-- **Each entry becomes a grown tree.** The first entry becomes the tree of the search,
and each other one is the child of an entry before it. -/
theorem grown_treeAt {rules : List Rule} {s : Sequent} {table : Search.Table}
    (h : (Search.fill rules (.start s)).result = .ok table) {i : Nat} (hi : i < table.size) :
    Grown rules (table.treeAt i) := by
  induction i using Nat.strongRecOn with
  | ind i ih =>
    rcases Nat.eq_zero_or_pos i with rfl | hpos
    · have hsearch : (search rules s).result = .ok (table.treeAt 0) := by
        rw [search, h, ← table.root_eq]
        rfl
      exact (search_ok hsearch).2
    · obtain ⟨j, hchild⟩ := Search.Table.exists_parent hpos hi
      have hlt := table.lt_of_child j i hchild
      refine (ih j hlt (by omega)).of_child ?_
      rw [Search.Table.treeAt_eq, Tree.children]
      exact List.mem_map_of_mem hchild

/-! ### The search and its log -/

theorem search_result (rules : List Rule) (s : Sequent) :
    (search rules s).result = recursiveTree rules s := by
  have htrees := Search.trees_record rules [s]
  rw [trees_record_singleton, List.mapM_cons, List.mapM_nil] at htrees
  cases hres : (search rules s).result <;> cases hrec : recursiveTree rules s <;>
    simp_all [Except.map, bind, Except.bind, pure, Except.pure]

theorem nodes_singleton (rules : List Rule) (s : Sequent) :
    Search.nodes rules [s] = (outline rules s).walk := by
  rw [Search.nodes, List.map_singleton, Tree.walkAll, Tree.walkAll, List.append_nil]

/-- Where the search gives a tree, the tree is the outline and no node is stuck. -/
theorem outline_of_search_ok {rules : List Rule} {s : Sequent} {t : Tree}
    (h : (search rules s).result = .ok t) :
    outline rules s = t ∧ ∀ n ∈ t.walk, n.isStuck = false := by
  obtain ⟨hstuck, htrees⟩ := search_eq_ok_iff.1 h
  rw [Search.assemble_record rules [s] hstuck, List.map_singleton, List.singleton_inj] at htrees
  rw [Search.stuck_record, nodes_singleton, Option.map_eq_none_iff, List.find?_eq_none,
    htrees] at hstuck
  exact ⟨htrees, fun n hn => by simpa using hstuck n hn⟩

/-- Where the search gives up, it does so at the first node of the outline that is
stuck. -/
theorem stuck_of_search_error {rules : List Rule} {s : Sequent} {e : Stuck}
    (h : (search rules s).result = .error e) :
    ∃ before stuck after, (outline rules s).walk = before ++ stuck :: after ∧
      (∀ n ∈ before, n.isStuck = false) ∧ stuck.isStuck = true ∧ stuck.sequent = e.sequent := by
  have hstuck := search_eq_error_iff.1 h
  rw [Search.stuck_record, nodes_singleton, Option.map_eq_some_iff] at hstuck
  obtain ⟨n, hfind, rfl⟩ := hstuck
  obtain ⟨hn, before, after, hwalk, hbefore⟩ := List.find?_eq_some_iff_append.1 hfind
  exact ⟨before, n, after, hwalk, fun m hm => by simpa using hbefore m hm, hn, rfl⟩

theorem inferences_search (rules : List Rule) (s : Sequent) :
    (search rules s).applications.map Application.inference =
      (Tree.innerNodes ((outline rules s).walk.takeWhile fun t => !t.isStuck)).map
        Tree.inference := by
  rw [← nodes_singleton, applications_search]
  exact Search.inferences_record rules [s]

/-- The debugging records of a verdict are the applications that were made. -/
theorem debug_records (rules : List Rule) (goal : Goal) :
    ((LogRecord.ofVerdict (prove rules goal)).filter fun r => r.level = .debug) =
      (search rules goal.toSequent).applications.map .applied := by
  have happlied : ∀ as : List Application,
      ((as.map LogRecord.applied).filter fun r => r.level = .debug) = as.map .applied := by
    intro as
    rw [List.filter_eq_self]
    intro r hr
    obtain ⟨a, -, rfl⟩ := List.mem_map.1 hr
    rfl
  rw [LogRecord.ofVerdict, List.filter_append, happlied]
  cases (prove rules goal).result with
  | error e => exact List.append_nil _
  | ok p => exact List.append_nil _

/-- **The search is the recursive definition of the proof tree.** It gives the tree
that the recursion gives, or gives up at the sequent that the recursion fails at.
In the table that it fills, children stand after their parent, each entry but the
first is the child of one entry, and that once, and the node put together for an
entry is the recursive tree of its sequent. The applications that the search makes,
and records, are the nodes of the tree with children in pre-order; where it gives
up, those of the outline that come before the stuck sequent. -/
theorem search_eq_recursiveTree (rules : List Rule) (s : Sequent) :
    (search rules s).result = recursiveTree rules s ∧
    (∀ table, (Search.fill rules (.start s)).result = .ok table →
      recursiveTree rules s = .ok table.root ∧
      (∀ i, ∀ c ∈ table.childIds.getD i [], i < c) ∧
      (0 :: table.childIds.toList.flatten).Perm (List.range table.sequents.size) ∧
      ∀ i, i < table.sequents.size → ∃ n, table.nodes.getD i none = some n ∧
        recursiveTree rules (table.sequents.getD i s) = .ok n) ∧
    (∀ t, recursiveTree rules s = .ok t →
      (search rules s).applications.map Application.inference =
        (Tree.innerNodes t.walk).map Tree.inference) ∧
    (∀ e, recursiveTree rules s = .error e →
      ∃ before stuck after, (outline rules s).walk = before ++ stuck :: after ∧
        (∀ n ∈ before, n.isStuck = false) ∧ stuck.isStuck = true ∧ stuck.sequent = e.sequent ∧
        (search rules s).applications.map Application.inference =
          (Tree.innerNodes before).map Tree.inference) ∧
    ∀ goal : Goal, goal.toSequent = s →
      ((LogRecord.ofVerdict (prove rules goal)).filter fun r => r.level = .debug) =
        (search rules s).applications.map .applied := by
  refine ⟨search_result rules s, fun table htable => ?_, fun t ht => ?_, fun e he => ?_, ?_⟩
  · refine ⟨?_, table.lt_of_child, table.perm_range, fun i hi => ?_⟩
    · rw [← search_result, search, htable]
      rfl
    · have hsequent : table.sequents.getD i s = (table.treeAt i).sequent := by
        rw [Search.Table.treeAt_eq, Tree.sequent, Search.Table.sequentAt]
        simp only [Array.getD_eq_getD_getElem?, Array.getElem?_eq_getElem hi, Option.getD_some]
      refine ⟨table.treeAt i, Search.Table.getD_nodes hi, ?_⟩
      rw [hsequent]
      exact recursiveTree_of_grown (grown_treeAt htable hi)
  · rw [← search_result] at ht
    obtain ⟨houtline, hnone⟩ := outline_of_search_ok ht
    have hall : (t.walk.takeWhile fun n => !n.isStuck) = t.walk :=
      List.takeWhile_eq_self_iff.2 fun n hn => by simp [hnone n hn]
    rw [inferences_search, houtline, hall]
  · rw [← search_result] at he
    obtain ⟨before, stuck, after, hwalk, hbefore, hstuck, hsequent⟩ := stuck_of_search_error he
    have htake : ((before ++ stuck :: after).takeWhile fun n => !n.isStuck) = before := by
      rw [List.takeWhile_append_of_pos fun n hn => by simp [hbefore n hn],
        List.takeWhile_cons_of_neg (by simp [hstuck]), List.append_nil]
    refine ⟨before, stuck, after, hwalk, hbefore, hstuck, hsequent, ?_⟩
    rw [inferences_search, hwalk, htake]
  · rintro goal rfl
    exact debug_records rules goal

/-- With the rule for a negation on the right alone, `!(p && q)` is taken apart once, and
the search gives up at `p && q` on the left. -/
theorem search_eq_recursiveTree_stuck :
    let f : Formula := .bin .conj (.atom ⟨"p", by decide⟩) (.atom ⟨"q", by decide⟩)
    let s : Sequent := ⟨[], [.neg f]⟩
    recursiveTree [.rightNot] s = .error ⟨⟨[f], []⟩⟩ ∧
      (search [.rightNot] s).result = .error ⟨⟨[f], []⟩⟩ ∧
      (search [.rightNot] s).applications.map Application.inference =
        [(s, some "right-not", [⟨[f], []⟩])] := by
  intro f s
  have hexp : expand? [.rightNot] s = some ⟨.rightNot, s, [⟨[f], []⟩]⟩ := rfl
  have hstuck : recursiveTree [.rightNot] s = .error ⟨⟨[f], []⟩⟩ := by
    rw [recursiveTree_split rfl hexp, List.mapM_cons, recursiveTree_stuck rfl rfl]
    rfl
  obtain ⟨hresult, -, -, herror, -⟩ := search_eq_recursiveTree [.rightNot] s
  obtain ⟨before, stuck, after, hwalk, hbefore, hgiven, -, happlied⟩ := herror _ hstuck
  have hnodes : (outline [.rightNot] s).walk =
      [.node s (some "right-not") [.node ⟨[f], []⟩ none []], .node ⟨[f], []⟩ none []] := by
    rw [outline_split rfl hexp, List.map_singleton, outline_stuck rfl rfl]
    rfl
  -- of the two nodes only the second is stuck
  have hroot : before = [.node s (some "right-not") [.node ⟨[f], []⟩ none []]] := by
    rw [hnodes] at hwalk
    match before, hwalk, hbefore with
    | [], hwalk, _ =>
      cases hwalk
      cases hgiven
    | [_], hwalk, _ =>
      cases hwalk
      rfl
    | [_, _], hwalk, _ => cases hwalk
    | _ :: _ :: _ :: _, hwalk, _ => cases hwalk
  exact ⟨hstuck, hresult.trans hstuck, by rw [happlied, hroot]; rfl⟩

end Turnstile
