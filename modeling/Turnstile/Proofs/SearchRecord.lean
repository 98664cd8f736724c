/-
# The search without its table

What the search does can be told without the entries of its table: it has a
stack of sequents, takes the first one off in each step, and puts the premises
of the first rule that applies in its place (`Search.record`). The steps are
then folded from the last to the first into trees (`Search.assemble`).

The search on the table does the same. The sequents of the entries on its stack
are the stack of sequents; an entry that has left the stack is never written
again (`Search.frame_of_fill`), so the tree of an entry is known when it leaves
the stack but for the trees of its children, which take its place. So the
entries of a stack get the trees that the record folds into
(`Search.fill_eq_record`), and the search gives the tree of the one entry that it
starts with (`trees_record_singleton`).

Key definitions: `Search.Step`, `Search.record`, `Search.assemble`,
`Search.Record.trees`.
Key theorems: `Search.record_induction`, `Search.frame_of_fill`,
`Search.fill_eq_record`, `Search.size_of_fill`, `trees_record_singleton`,
`search_eq_ok_iff`, `search_eq_error_iff`.
-/
import Turnstile.Search

namespace Turnstile

namespace Search

/-- What the search did with a sequent. -/
inductive Step where
  /-- The sequent was finished. -/
  | leaf (s : Sequent)
  /-- A rule was applied to it. -/
  | split (a : Application)

/-- The application made by a step. -/
def Step.application? : Step → Option Application
  | .leaf _ => none
  | .split a => some a

/-- The steps of a search in order, and the sequent it gave up at, if any. -/
structure Record where
  steps : List Step
  stuck : Option Stuck

/-- The record of a search for all sequents of a stack. -/
def record (rules : List Rule) (stack : List Sequent) : Record :=
  match stack with
  | [] => ⟨[], none⟩
  | s :: rest =>
    if s.isFinished then
      let r := record rules rest
      ⟨.leaf s :: r.steps, r.stuck⟩
    else
      match _h : expand? rules s with
      | some a =>
        let r := record rules (a.premises ++ rest)
        ⟨.split a :: r.steps, r.stuck⟩
      | none => ⟨[], some ⟨s⟩⟩
termination_by weightOfAll stack
decreasing_by
  · exact weightOfAll_lt_cons s rest
  · exact weightOfAll_premises_lt (by assumption) rest

/-- Puts the node of a step in front of the trees of all later steps, the
first of which are its children. -/
def place (step : Step) (trees : List Tree) : List Tree :=
  match step with
  | .leaf s => .node s none [] :: trees
  | .split a =>
    .node a.sequent (some a.rule.name) (trees.take a.premises.length) ::
      trees.drop a.premises.length

/-- The trees that a record of steps describes. -/
def assemble (steps : List Step) : List Tree := steps.foldr place []

/-- The trees that a record describes, or the sequent that the search gave up at. -/
def Record.trees (r : Record) : Except Stuck (List Tree) :=
  match r.stuck with
  | some e => .error e
  | none => .ok (assemble r.steps)

@[simp] theorem assemble_cons (step : Step) (steps : List Step) :
    assemble (step :: steps) = place step (assemble steps) := rfl

theorem Record.trees_leaf (s : Sequent) (r : Record) :
    Record.trees ⟨.leaf s :: r.steps, r.stuck⟩ = r.trees.map (.node s none [] :: ·) := by
  unfold Record.trees
  cases r.stuck <;> rfl

theorem Record.trees_split (a : Application) (r : Record) :
    Record.trees ⟨.split a :: r.steps, r.stuck⟩ = r.trees.map fun ts =>
      .node a.sequent (some a.rule.name) (ts.take a.premises.length) ::
        ts.drop a.premises.length := by
  unfold Record.trees
  cases r.stuck <;> rfl

section Equations

variable {rules : List Rule} {s : Sequent} {a : Application}

theorem record_nil (rules : List Rule) : record rules [] = ⟨[], none⟩ := by rw [record]

theorem record_finished (rules : List Rule) {s : Sequent} (hfin : s.isFinished = true)
    (rest : List Sequent) :
    record rules (s :: rest) =
      ⟨.leaf s :: (record rules rest).steps, (record rules rest).stuck⟩ := by
  rw [record, if_pos hfin]

theorem record_split (hfin : s.isFinished = false) (hexp : expand? rules s = some a)
    (rest : List Sequent) :
    record rules (s :: rest) = ⟨.split a :: (record rules (a.premises ++ rest)).steps,
      (record rules (a.premises ++ rest)).stuck⟩ := by
  rw [record, if_neg (by simp [hfin])]
  split
  next b hb =>
    obtain rfl : a = b := Option.some.inj (hexp.symm.trans hb)
    rfl
  next hnone => simp [hexp] at hnone

theorem record_stuck (hfin : s.isFinished = false) (hexp : expand? rules s = none)
    (rest : List Sequent) : record rules (s :: rest) = ⟨[], some ⟨s⟩⟩ := by
  rw [record, if_neg (by simp [hfin])]
  split
  next b hb => simp [hexp] at hb
  next => rfl

variable {g : Agenda} {i : Nat} {rest : List Nat}

theorem fill_nil (h : g.stack = []) : fill rules g = ⟨.ok g.table, []⟩ := by
  rw [fill]
  split
  next => rfl
  next hcons => simp [h] at hcons

theorem fill_finished (h : g.stack = i :: rest) (hfin : (g.table.sequentAt i).isFinished = true) :
    fill rules g = fill rules (g.skip h) := by
  rw [fill]
  split
  next hnil => simp [h] at hnil
  next j rest' hcons =>
    obtain ⟨rfl, rfl⟩ := List.cons.inj (h.symm.trans hcons)
    rw [if_pos hfin]

theorem fill_split (h : g.stack = i :: rest) (hfin : (g.table.sequentAt i).isFinished = false)
    (hexp : expand? rules (g.table.sequentAt i) = some a) :
    fill rules g =
      ⟨(fill rules (g.split h a)).result, a :: (fill rules (g.split h a)).applications⟩ := by
  rw [fill]
  split
  next hnil => simp [h] at hnil
  next j rest' hcons =>
    obtain ⟨rfl, rfl⟩ := List.cons.inj (h.symm.trans hcons)
    rw [if_neg (by simp [hfin])]
    split
    next b hb =>
      obtain rfl : a = b := Option.some.inj (hexp.symm.trans hb)
      rfl
    next hnone => simp [hexp] at hnone

theorem fill_stuck (h : g.stack = i :: rest) (hfin : (g.table.sequentAt i).isFinished = false)
    (hexp : expand? rules (g.table.sequentAt i) = none) :
    fill rules g = ⟨.error ⟨g.table.sequentAt i⟩, []⟩ := by
  rw [fill]
  split
  next hnil => simp [h] at hnil
  next j rest' hcons =>
    obtain ⟨rfl, rfl⟩ := List.cons.inj (h.symm.trans hcons)
    rw [if_neg (by simp [hfin])]
    split
    next b hb => simp [hexp] at hb
    next => rfl

end Equations

/-- Induction along the steps of a record. -/
theorem record_induction (rules : List Rule) {motive : List Sequent → Prop} (nil : motive [])
    (finished : ∀ s rest, s.isFinished = true → motive rest → motive (s :: rest))
    (split : ∀ s rest a, s.isFinished = false → expand? rules s = some a →
      motive (a.premises ++ rest) → motive (s :: rest))
    (stuck : ∀ s rest, s.isFinished = false → expand? rules s = none → motive (s :: rest))
    (stack : List Sequent) : motive stack := by
  induction stack using record.induct rules with
  | case1 => exact nil
  | case2 s rest hfin ih => exact finished s rest hfin ih
  | case3 s rest hfin a hexp ih => exact split s rest a (Bool.eq_false_iff.2 hfin) hexp ih
  | case4 s rest hfin hexp => exact stuck s rest (Bool.eq_false_iff.2 hfin) hexp

/-- Induction along the turns in which a table is filled. -/
theorem fill_induction (rules : List Rule) {motive : Agenda → Prop}
    (nil : ∀ g, g.stack = [] → motive g)
    (finished : ∀ g i rest (h : g.stack = i :: rest), (g.table.sequentAt i).isFinished = true →
      motive (g.skip h) → motive g)
    (split : ∀ g i rest (h : g.stack = i :: rest) (a : Application),
      (g.table.sequentAt i).isFinished = false → expand? rules (g.table.sequentAt i) = some a →
        motive (g.split h a) → motive g)
    (stuck : ∀ g i rest, g.stack = i :: rest → (g.table.sequentAt i).isFinished = false →
      expand? rules (g.table.sequentAt i) = none → motive g) (g : Agenda) : motive g := by
  induction g using fill.induct rules with
  | case1 g h => exact nil g h
  | case2 g i rest h hfin ih => exact finished g i rest h hfin ih
  | case3 g i rest h hfin a hexp ih =>
    exact split g i rest h a (Bool.eq_false_iff.2 hfin) hexp ih
  | case4 g i rest h hfin hexp => exact stuck g i rest h (Bool.eq_false_iff.2 hfin) hexp

/-- **Entries off the stack are left alone.** Filling the table changes no
sequent, and neither the rule nor the children of an entry that is not on the
stack. -/
theorem frame_of_fill {rules : List Rule} {g : Agenda} {t : Table}
    (h : (fill rules g).result = .ok t) {j : Nat} (hj : j < g.table.size) :
    t.sequentAt j = g.table.sequentAt j ∧
      (j ∉ g.stack → t.ruleAt j = g.table.ruleAt j ∧ t.childrenAt j = g.table.childrenAt j) := by
  induction g using fill_induction rules with
  | nil g hstack =>
    rw [fill_nil hstack] at h
    cases h
    exact ⟨rfl, fun _ => ⟨rfl, rfl⟩⟩
  | finished g i rest hstack hfin ih =>
    rw [fill_finished hstack hfin] at h
    obtain ⟨hseq, hrow⟩ := ih h hj
    exact ⟨hseq, fun hmem => hrow fun hrest => hmem (hstack ▸ List.mem_cons_of_mem i hrest)⟩
  | split g i rest hstack a hfin hexp ih =>
    rw [fill_split hstack hfin hexp] at h
    have hi := g.lt_size hstack
    have hj' : j < (g.split hstack a).table.size := by
      rw [g.table_split, Table.size_split]
      omega
    obtain ⟨hseq, hrow⟩ := ih h hj'
    refine ⟨hseq.trans (g.table.sequentAt_split i hi a hj), fun hmem => ?_⟩
    rw [hstack, List.mem_cons, not_or] at hmem
    obtain ⟨hrule, hchildren⟩ := hrow (g.not_mem_stack_split hstack a hj hmem.2)
    rw [hrule, hchildren, g.table_split, Table.ruleAt_split, Table.childrenAt_split,
      if_neg hmem.1, if_neg hmem.1]
    exact ⟨rfl, rfl⟩
  | stuck g i rest hstack hfin hexp =>
    rw [fill_stuck hstack hfin hexp] at h
    cases h

/-- A finished entry becomes a leaf. -/
theorem treeAt_of_skip {rules : List Rule} {g : Agenda} {i : Nat} {rest : List Nat}
    (h : g.stack = i :: rest) {t : Table} (ht : (fill rules (g.skip h)).result = .ok t) :
    t.treeAt i = .node (g.table.sequentAt i) none [] := by
  obtain ⟨-, hrule, hchildren⟩ := g.untouched i (h ▸ List.mem_cons_self)
  obtain ⟨hseq, hrow⟩ := frame_of_fill ht (j := i) (g.lt_size h)
  obtain ⟨hrule', hchildren'⟩ := hrow (g.nodup_cons h).1
  rw [Table.treeAt_eq, hseq, hrule', hchildren']
  simp only [Agenda.skip, hrule, hchildren, List.map_nil]

/-- An entry that a rule was applied to becomes a node over the entries of the
premises. -/
theorem treeAt_of_split {rules : List Rule} {g : Agenda} {i : Nat} {rest : List Nat}
    (h : g.stack = i :: rest) {a : Application} {t : Table}
    (ht : (fill rules (g.split h a)).result = .ok t) :
    t.treeAt i = .node (g.table.sequentAt i) (some a.rule.name)
      ((List.range' g.table.size a.premises.length).map t.treeAt) := by
  have hi := g.lt_size h
  have hi' : i < (g.split h a).table.size := by
    rw [g.table_split, Table.size_split]
    omega
  obtain ⟨hseq, hrow⟩ := frame_of_fill ht hi'
  obtain ⟨hrule, hchildren⟩ := hrow (g.not_mem_stack_split h a hi (g.nodup_cons h).1)
  rw [Table.treeAt_eq, hseq, hrule, hchildren, g.table_split, g.childrenAt_first h,
    Table.ruleAt_split, if_pos rfl, Table.sequentAt_split _ _ _ _ hi]

/-- **The table is a record.** The entries on the stack get the trees that the
record of their sequents folds into, or the search gives up where the record
says. The applications are those of the record. -/
theorem fill_eq_record (rules : List Rule) (g : Agenda) :
    ((fill rules g).result.map fun t => g.stack.map t.treeAt) = (record rules g.pending).trees ∧
      (fill rules g).applications =
        (record rules g.pending).steps.filterMap Step.application? := by
  induction g using fill_induction rules with
  | nil g hstack =>
    rw [fill_nil hstack, Agenda.pending, hstack, List.map_nil, record_nil]
    exact ⟨rfl, rfl⟩
  | finished g i rest hstack hfin ih =>
    rw [g.pending_eq hstack, record_finished rules hfin, fill_finished hstack hfin,
      Record.trees_leaf, ← ih.1]
    refine ⟨?_, ih.2⟩
    cases ht : (fill rules (g.skip hstack)).result with
    | error e => rfl
    | ok t =>
      simp only [Except.map, hstack, List.map_cons, treeAt_of_skip hstack ht]
      rfl
  | split g i rest hstack a hfin hexp ih =>
    rw [g.pending_eq hstack, record_split hfin hexp, fill_split hstack hfin hexp,
      Record.trees_split, ← g.pending_split, ← ih.1]
    refine ⟨?_, by rw [ih.2]; rfl⟩
    cases ht : (fill rules (g.split hstack a)).result with
    | error e => rfl
    | ok t =>
      have hlen : ((List.range' g.table.size a.premises.length).map t.treeAt).length =
          a.premises.length := by rw [List.length_map, List.length_range']
      simp only [Except.map, hstack, List.map_cons, treeAt_of_split hstack ht, g.stack_split,
        List.map_append, List.take_left' hlen, List.drop_left' hlen, (expand?_some hexp).2.1]
  | stuck g i rest hstack hfin hexp =>
    rw [g.pending_eq hstack, record_stuck hfin hexp, fill_stuck hstack hfin hexp]
    exact ⟨rfl, rfl⟩

/-- **One entry for each step.** Each step takes one entry off the stack, and
each entry that is made is put on it. -/
theorem size_of_fill {rules : List Rule} {g : Agenda} {t : Table}
    (h : (fill rules g).result = .ok t) :
    t.size + g.stack.length = g.table.size + (record rules g.pending).steps.length := by
  induction g using fill_induction rules with
  | nil g hstack =>
    rw [fill_nil hstack] at h
    cases h
    rw [Agenda.pending, hstack, List.map_nil, record_nil]
    rfl
  | finished g i rest hstack hfin ih =>
    rw [fill_finished hstack hfin] at h
    have hrest : t.size + rest.length = g.table.size + _ := ih h
    rw [g.pending_eq hstack, record_finished rules hfin, hstack, List.length_cons, List.length_cons]
    omega
  | split g i rest hstack a hfin hexp ih =>
    rw [fill_split hstack hfin hexp] at h
    have hsplit := ih h
    rw [g.stack_split, g.pending_split, g.table_split, Table.size_split, List.length_append,
      List.length_range'] at hsplit
    rw [g.pending_eq hstack, record_split hfin hexp, hstack, List.length_cons, List.length_cons]
    omega
  | stuck g i rest hstack hfin hexp =>
    rw [fill_stuck hstack hfin hexp] at h
    cases h

end Search

section

variable {rules : List Rule} {s : Sequent}

/-- **The search is its record.** The record of its sequent folds into the tree
that the search gives and no other, or stops where the search gives up. -/
theorem trees_record_singleton (rules : List Rule) (s : Sequent) :
    (Search.record rules [s]).trees = (search rules s).result.map fun t => [t] := by
  have htrees := (Search.fill_eq_record rules (.start s)).1
  have hstart : (Search.Agenda.start s).pending = [s] := rfl
  rw [hstart] at htrees
  rw [search, ← htrees]
  cases (Search.fill rules (.start s)).result with
  | error e => rfl
  | ok t =>
    simp only [Except.map, Search.Table.root_eq]
    rfl

theorem applications_search (rules : List Rule) (s : Sequent) :
    (search rules s).applications =
      (Search.record rules [s]).steps.filterMap Search.Step.application? :=
  (Search.fill_eq_record rules (.start s)).2

theorem search_eq_ok_iff {t : Tree} :
    (search rules s).result = .ok t ↔
      (Search.record rules [s]).stuck = none ∧
        Search.assemble (Search.record rules [s]).steps = [t] := by
  have htrees := trees_record_singleton rules s
  rw [Search.Record.trees] at htrees
  cases hstuck : (Search.record rules [s]).stuck <;> cases hres : (search rules s).result <;>
    simp_all [Except.map]

theorem search_eq_error_iff {e : Stuck} :
    (search rules s).result = .error e ↔ (Search.record rules [s]).stuck = some e := by
  have htrees := trees_record_singleton rules s
  rw [Search.Record.trees] at htrees
  cases hstuck : (Search.record rules [s]).stuck <;> cases hres : (search rules s).result <;>
    simp_all [Except.map]

end

end Turnstile
