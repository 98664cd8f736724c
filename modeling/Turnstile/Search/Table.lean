/-
# The table of a search

A search enters the sequents that it meets in a table, the first one first.
Beside each sequent stand the name of the rule that was applied to it, if one
was, and the entries of its premises, its children. A premise is entered at the
end, so children stand after their parent, and each entry but the first is the
child of one entry. The table carries both facts.

The tree is put together by going through the table from its end. The nodes of
the children are then there when the parent needs them (`Table.getD_sweep`), so
what comes out for an entry is the tree that the recursion on the children
gives (`Table.treeAt`).

Key definitions: `Search.Table`, `Search.Table.split`, `Search.Table.sweep`,
`Search.Table.treeAt`, `Search.Table.root`.
Key theorems: `Search.Table.getD_sweep`, `Search.Table.root_eq`.
-/
import Turnstile.Rule
import Turnstile.Tree

namespace Turnstile.Search

/-- The sequents that a search has met, the first one first. Beside each stand
the name of the rule that was applied to it, if one was, and the entries of its
premises. -/
structure Table where
  sequents : Array Sequent
  ruleNames : Array (Option String)
  childIds : Array (List Nat)
  size_ruleNames : ruleNames.size = sequents.size
  size_childIds : childIds.size = sequents.size
  /-- Children stand after their parent. -/
  lt_of_child : ∀ i, ∀ c ∈ childIds.getD i [], i < c
  /-- Each entry but the first is the child of one entry, and that once. -/
  perm_range : (0 :: childIds.toList.flatten).Perm (List.range sequents.size)

namespace Table

/-- The number of entries. -/
def size (t : Table) : Nat := t.sequents.size

/-- The sequent of an entry. -/
def sequentAt (t : Table) (i : Nat) : Sequent := t.sequents.getD i ⟨[], []⟩

/-- The name of the rule applied to an entry. -/
def ruleAt (t : Table) (i : Nat) : Option String := t.ruleNames.getD i none

/-- The children of an entry. -/
def childrenAt (t : Table) (i : Nat) : List Nat := t.childIds.getD i []

/-- The table with one entry. -/
def start (s : Sequent) : Table where
  sequents := #[s]
  ruleNames := #[none]
  childIds := #[[]]
  size_ruleNames := rfl
  size_childIds := rfl
  lt_of_child := by
    intro i c hc
    cases i <;> simp at hc
  perm_range := .refl _

theorem getD_childIds_enter (ids : Array (List Nat)) (i n j : Nat) :
    ((ids.modify i (· ++ [n])).push []).getD j [] =
      if j = i ∧ i < ids.size then ids.getD i [] ++ [n] else ids.getD j [] := by
  simp only [Array.getD_eq_getD_getElem?, Array.getElem?_push, Array.size_modify,
    Array.getElem?_modify]
  by_cases hj : j = ids.size
  · subst hj
    have : ¬ (ids.size = i ∧ i < ids.size) := by omega
    simp [this]
  · by_cases hi : i = j
    · subst hi
      by_cases hlt : i < ids.size
      · simp [hj, hlt]
      · simp [hj, hlt]
    · have : ¬ (j = i ∧ i < ids.size) := by omega
      simp [hj, hi, this]

theorem flatten_modify_perm (ids : List (List Nat)) (i n : Nat) (hi : i < ids.length) :
    (ids.modify i (· ++ [n])).flatten.Perm (ids.flatten ++ [n]) := by
  induction ids generalizing i with
  | nil => simp at hi
  | cons cs ids ih =>
    cases i with
    | zero =>
      simp only [List.modify_zero_cons, List.flatten_cons, List.append_assoc]
      exact List.Perm.append_left cs List.perm_append_comm
    | succ i =>
      simp only [List.modify_succ_cons, List.flatten_cons, List.append_assoc]
      exact (ih i (by simpa using hi)).append_left cs

/-- Enters a sequent as a child of entry `i`. -/
def enter (t : Table) (i : Nat) (hi : i < t.size) (p : Sequent) : Table where
  sequents := t.sequents.push p
  ruleNames := t.ruleNames.push none
  childIds := (t.childIds.modify i (· ++ [t.sequents.size])).push []
  size_ruleNames := by simp [t.size_ruleNames]
  size_childIds := by simp [t.size_childIds]
  lt_of_child := by
    intro j c hc
    rw [getD_childIds_enter] at hc
    split at hc
    next h =>
      rcases List.mem_append.1 hc with hc | hc
      · exact h.1 ▸ t.lt_of_child i c hc
      · exact h.1 ▸ List.mem_singleton.1 hc ▸ hi
    next => exact t.lt_of_child j c hc
  perm_range := by
    have hlen : i < t.childIds.toList.length := by simpa [size, t.size_childIds] using hi
    have hids := (flatten_modify_perm t.childIds.toList i t.sequents.size hlen).cons 0
    simpa [List.range_succ] using hids.trans (t.perm_range.append_right [t.sequents.size])

theorem size_enter (t : Table) (i : Nat) (hi : i < t.size) (p : Sequent) :
    (t.enter i hi p).size = t.size + 1 := Array.size_push p

/-- Enters sequents one after another as children of entry `i`. -/
def enterAll (t : Table) (i : Nat) (hi : i < t.size) : List Sequent → Table
  | [] => t
  | p :: ps => (t.enter i hi p).enterAll i (by rw [size_enter]; omega) ps

/-- Notes the name of the rule applied to entry `i`. -/
def label (t : Table) (i : Nat) (name : String) : Table :=
  { t with
    ruleNames := t.ruleNames.setIfInBounds i (some name)
    size_ruleNames := by simp [t.size_ruleNames] }

theorem size_label (t : Table) (i : Nat) (name : String) : (t.label i name).size = t.size := rfl

/-- Notes the application of a rule to entry `i` and enters the premises. -/
def split (t : Table) (i : Nat) (hi : i < t.size) (a : Application) : Table :=
  (t.label i a.rule.name).enterAll i (by rwa [size_label]) a.premises

section Entries

variable {t : Table} {i : Nat} {hi : i < t.size}

theorem size_enterAll (ps : List Sequent) : (t.enterAll i hi ps).size = t.size + ps.length := by
  induction ps generalizing t with
  | nil => rfl
  | cons p ps ih =>
    rw [enterAll, ih, size_enter, List.length_cons]
    omega

theorem sequentAt_enterAll {ps : List Sequent} {j : Nat} (hj : j < t.size) :
    (t.enterAll i hi ps).sequentAt j = t.sequentAt j := by
  induction ps generalizing t with
  | nil => rfl
  | cons p ps ih =>
    have hj' : j < (t.enter i hi p).size := by rw [size_enter]; omega
    rw [enterAll, ih hj', sequentAt, sequentAt, enter, Array.getD_eq_getD_getElem?,
      Array.getD_eq_getD_getElem?, Array.getElem?_push_lt hj, Array.getElem?_eq_getElem hj]

/-- The new entries hold the sequents that were entered, in order. -/
theorem map_sequentAt_enterAll (ps : List Sequent) :
    (List.range' t.size ps.length).map (t.enterAll i hi ps).sequentAt = ps := by
  induction ps generalizing t with
  | nil => rfl
  | cons p ps ih =>
    have hi' : i < (t.enter i hi p).size := by rw [size_enter]; omega
    have hfirst : ((t.enter i hi p).enterAll i hi' ps).sequentAt t.size = p := by
      rw [sequentAt_enterAll (by rw [size_enter]; omega)]
      simp [sequentAt, enter, size, Array.getD_eq_getD_getElem?]
    have hrest := @ih _ hi'
    rw [size_enter] at hrest
    rw [List.length_cons, List.range'_succ, List.map_cons, enterAll, hfirst, hrest]

theorem ruleAt_enterAll (ps : List Sequent) (j : Nat) :
    (t.enterAll i hi ps).ruleAt j = t.ruleAt j := by
  induction ps generalizing t with
  | nil => rfl
  | cons p ps ih =>
    rw [enterAll, ih, ruleAt, ruleAt, enter, Array.getD_eq_getD_getElem?,
      Array.getD_eq_getD_getElem?, Array.getElem?_push]
    split <;> simp_all

theorem childrenAt_enter (p : Sequent) (j : Nat) :
    (t.enter i hi p).childrenAt j =
      if j = i then t.childrenAt i ++ [t.size] else t.childrenAt j := by
  have hids : i < t.childIds.size := by rw [t.size_childIds]; exact hi
  rw [childrenAt, enter, getD_childIds_enter]
  simp [hids, childrenAt, size]

theorem childrenAt_enterAll (ps : List Sequent) (j : Nat) :
    (t.enterAll i hi ps).childrenAt j =
      if j = i then t.childrenAt i ++ List.range' t.size ps.length else t.childrenAt j := by
  induction ps generalizing t with
  | nil => by_cases hj : j = i <;> simp [enterAll, hj]
  | cons p ps ih =>
    rw [enterAll, ih, childrenAt_enter, childrenAt_enter, size_enter, List.length_cons,
      List.range'_succ]
    by_cases hj : j = i <;> simp [hj]

end Entries

section Split

variable (t : Table) (i : Nat) (hi : i < t.size) (a : Application)

theorem size_split : (t.split i hi a).size = t.size + a.premises.length := size_enterAll _

theorem sequentAt_split {j : Nat} (hj : j < t.size) :
    (t.split i hi a).sequentAt j = t.sequentAt j := sequentAt_enterAll hj

theorem map_sequentAt_split :
    (List.range' t.size a.premises.length).map (t.split i hi a).sequentAt = a.premises :=
  map_sequentAt_enterAll _

theorem ruleAt_split (j : Nat) :
    (t.split i hi a).ruleAt j = if j = i then some a.rule.name else t.ruleAt j := by
  have hnames : i < t.ruleNames.size := by rw [t.size_ruleNames]; exact hi
  rw [split, ruleAt_enterAll, ruleAt, label, Array.getD_eq_getD_getElem?,
    Array.getElem?_setIfInBounds]
  by_cases hj : i = j
  · subst hj
    simp [hnames]
  · simp [hj, Ne.symm hj, ruleAt, Array.getD_eq_getD_getElem?]

theorem childrenAt_split (j : Nat) :
    (t.split i hi a).childrenAt j =
      if j = i then t.childrenAt i ++ List.range' t.size a.premises.length else t.childrenAt j :=
  childrenAt_enterAll _ _

end Split

/-- No entry lies beyond the end of the table. -/
theorem childrenAt_of_size_le {t : Table} {i : Nat} (hi : t.size ≤ i) : t.childrenAt i = [] := by
  have hids : t.childIds.size ≤ i := by rw [t.size_childIds]; exact hi
  simp [childrenAt, Array.getD_eq_getD_getElem?, hids]

theorem ruleAt_of_size_le {t : Table} {i : Nat} (hi : t.size ≤ i) : t.ruleAt i = none := by
  have hnames : t.ruleNames.size ≤ i := by rw [t.size_ruleNames]; exact hi
  simp [ruleAt, Array.getD_eq_getD_getElem?, hnames]

/-- Children lie between their parent and the end of the table. -/
theorem mem_childrenAt {t : Table} {i c : Nat} (hc : c ∈ t.childrenAt i) : i < c ∧ c < t.size := by
  refine ⟨t.lt_of_child i c hc, ?_⟩
  have hids : t.childrenAt i ∈ t.childIds.toList := by
    by_cases hi : i < t.childIds.size
    · simp [childrenAt, Array.getD_eq_getD_getElem?, hi]
    · simp [childrenAt, Array.getD_eq_getD_getElem?, hi] at hc
  have hflat : c ∈ 0 :: t.childIds.toList.flatten :=
    List.mem_cons_of_mem _ (List.mem_flatten.2 ⟨_, hids, hc⟩)
  exact List.mem_range.1 (t.perm_range.mem_iff.1 hflat)

/-- Each entry but the first is a child. -/
theorem exists_parent {t : Table} {i : Nat} (hpos : 0 < i) (hi : i < t.size) :
    ∃ j, i ∈ t.childrenAt j := by
  have hflat : i ∈ 0 :: t.childIds.toList.flatten := t.perm_range.mem_iff.2 (List.mem_range.2 hi)
  obtain ⟨ids, hids, hmem⟩ := List.mem_flatten.1 ((List.mem_cons.1 hflat).resolve_left (by omega))
  obtain ⟨j, hj, rfl⟩ := List.getElem_of_mem hids
  rw [Array.length_toList] at hj
  exact ⟨j, by simpa [childrenAt, Array.getD_eq_getD_getElem?, hj] using hmem⟩

theorem size_pos (t : Table) : 0 < t.size :=
  List.mem_range.1 (t.perm_range.mem_iff.1 List.mem_cons_self)

/-! ### Putting the tree together -/

/-- The node of an entry over the nodes of its children, if those are there. -/
def nodeAt (t : Table) (nodes : Array (Option Tree)) (i : Nat) : Option Tree :=
  ((t.childrenAt i).mapM fun c => nodes.getD c none).map (.node (t.sequentAt i) (t.ruleAt i))

/-- Puts in the nodes of the first `n` entries, from the last of them to the
first. -/
def sweep (t : Table) : (n : Nat) → (nodes : Array (Option Tree)) → Array (Option Tree)
  | 0, nodes => nodes
  | i + 1, nodes => t.sweep i (nodes.setIfInBounds i (t.nodeAt nodes i))

/-- The tree of an entry, by recursion on the children. -/
def treeAt (t : Table) (i : Nat) : Tree :=
  .node (t.sequentAt i) (t.ruleAt i) ((t.childrenAt i).attach.map fun c => t.treeAt c.1)
termination_by t.size - i
decreasing_by
  have := mem_childrenAt c.2
  omega

theorem treeAt_eq (t : Table) (i : Nat) :
    t.treeAt i = .node (t.sequentAt i) (t.ruleAt i) ((t.childrenAt i).map t.treeAt) := by
  rw [treeAt, List.attach_map_val]

theorem nodeAt_eq {t : Table} {nodes : Array (Option Tree)} {i : Nat}
    (h : ∀ c ∈ t.childrenAt i, nodes.getD c none = some (t.treeAt c)) :
    t.nodeAt nodes i = some (t.treeAt i) := by
  have hmap : ∀ cs : List Nat, (∀ c ∈ cs, nodes.getD c none = some (t.treeAt c)) →
      (cs.mapM fun c => nodes.getD c none) = some (cs.map t.treeAt) := by
    intro cs hcs
    induction cs with
    | nil => rfl
    | cons c cs ih =>
      rw [List.mapM_cons, hcs c List.mem_cons_self,
        ih fun d hd => hcs d (List.mem_cons_of_mem c hd)]
      rfl
  rw [nodeAt, hmap _ h, treeAt_eq]
  rfl

/-- **The sweep misses no node.** Children stand after their parent, so going
through the entries from the last to the first puts in the tree of each. -/
theorem getD_sweep {t : Table} {n : Nat} {nodes : Array (Option Tree)}
    (hsize : nodes.size = t.size)
    (hdone : ∀ j, n ≤ j → j < t.size → nodes.getD j none = some (t.treeAt j)) {j : Nat}
    (hj : j < t.size) : (t.sweep n nodes).getD j none = some (t.treeAt j) := by
  induction n generalizing nodes with
  | zero => exact hdone j (Nat.zero_le j) hj
  | succ i ih =>
    have hnode : t.nodeAt nodes i = some (t.treeAt i) :=
      nodeAt_eq fun c hc => hdone c (mem_childrenAt hc).1 (mem_childrenAt hc).2
    refine ih (by rw [Array.size_setIfInBounds, hsize]) fun k hk hlt => ?_
    rw [hnode, Array.getD_eq_getD_getElem?, Array.getElem?_setIfInBounds]
    by_cases hki : i = k
    · subst hki
      simp [hsize, hlt]
    · rw [if_neg hki, ← Array.getD_eq_getD_getElem?]
      exact hdone k (by omega) hlt

/-- The nodes of all entries. -/
def nodes (t : Table) : Array (Option Tree) := t.sweep t.size (Array.replicate t.size none)

theorem getD_nodes {t : Table} {i : Nat} (hi : i < t.size) :
    t.nodes.getD i none = some (t.treeAt i) :=
  getD_sweep Array.size_replicate (fun _ hle hlt => absurd hle (Nat.not_le.2 hlt)) hi

/-- The node of the first entry. -/
def root (t : Table) : Tree :=
  (t.nodes.getD 0 none).get (by rw [getD_nodes t.size_pos, Option.isSome_some])

theorem root_eq (t : Table) : t.root = t.treeAt 0 := by
  simp only [root, getD_nodes t.size_pos, Option.get_some]

end Table

end Turnstile.Search
