/-
# The search for a proof

Starting from one sequent, each sequent that is not finished is reduced by the
first rule of a list that applies to it, depth first and from left to right.
The search enters the sequents in a table as it meets them and keeps a stack of
the entries that it has yet to look at; when the stack is empty, it puts the
tree together from the table. It gives up at the first sequent that is not
finished and to which no rule of the list applies; with all eight rules there is
none.

Key definitions: `expand?`, `Search.Agenda`, `Search.fill`, `search`.
Key theorems: `Search.weightOfAll_premises_lt`.
-/
import Turnstile.Reduct
import Turnstile.Search.Table

namespace Turnstile

/-- A sequent that is not finished and to which no rule applies. -/
structure Stuck where
  sequent : Sequent
deriving DecidableEq

/-- The complaint about a sequent, as it is written, that no rule applies to. -/
def Stuck.complaint (written : String) : String :=
  "No inference rule applies to unfinished sequent " ++ written

/-- The complaint about a sequent that no rule applies to. -/
def Stuck.message (e : Stuck) : String := complaint e.sequent.render

/-- The first application among a list of rules. -/
def expand? (rules : List Rule) (s : Sequent) : Option Application :=
  rules.findSome? fun r => r.application? s

/-- What an application found by `expand?` is: one of a rule of the list to the
sequent, with premises. -/
theorem expand?_some {rules : List Rule} {s : Sequent} {a : Application}
    (h : expand? rules s = some a) :
    a.rule ∈ rules ∧ a.sequent = s ∧ a.premises = a.rule.premises s ∧ a.premises ≠ [] := by
  obtain ⟨rule, hmem, hrule⟩ := List.exists_of_findSome?_eq_some h
  obtain ⟨hne, rfl⟩ := Rule.application?_eq_some_iff.1 hrule
  exact ⟨hmem, rfl, rfl, hne⟩

/-- What a search came to: its result, or the sequent it gave up at, and the
applications it made in order. -/
structure Outcome (α : Type) where
  result : Except Stuck α
  applications : List Application

namespace Search

/-! ### Filling the table -/

/-- A table and the entries to look at, the next one first. -/
structure Agenda where
  table : Table
  stack : List Nat
  nodup : stack.Nodup
  /-- Nothing was done with the entries on the stack. -/
  untouched : ∀ i ∈ stack, i < table.size ∧ table.ruleAt i = none ∧ table.childrenAt i = []

namespace Agenda

variable {i : Nat} {rest : List Nat}

/-- The agenda with one sequent. -/
def start (s : Sequent) : Agenda where
  table := .start s
  stack := [0]
  nodup := by simp
  untouched := by
    intro i hi
    rw [List.mem_singleton] at hi
    subst hi
    exact ⟨Nat.one_pos, rfl, rfl⟩

/-- The sequents to look at. -/
def pending (g : Agenda) : List Sequent := g.stack.map g.table.sequentAt

theorem lt_size (g : Agenda) (h : g.stack = i :: rest) : i < g.table.size :=
  (g.untouched i (h ▸ List.mem_cons_self)).1

theorem nodup_cons (g : Agenda) (h : g.stack = i :: rest) : i ∉ rest ∧ rest.Nodup :=
  List.nodup_cons.1 (h ▸ g.nodup)

/-- The agenda without its first entry. -/
def skip (g : Agenda) (h : g.stack = i :: rest) : Agenda where
  table := g.table
  stack := rest
  nodup := (g.nodup_cons h).2
  untouched := fun j hj => g.untouched j (h ▸ List.mem_cons_of_mem i hj)

/-- The first entry gets the premises that are entered as its children. -/
theorem childrenAt_first (g : Agenda) (h : g.stack = i :: rest) (a : Application) :
    (g.table.split i (g.lt_size h) a).childrenAt i =
      List.range' g.table.size a.premises.length := by
  rw [Table.childrenAt_split, if_pos rfl, (g.untouched i (h ▸ List.mem_cons_self)).2.2,
    List.nil_append]

/-- The agenda after an application to its first entry: the children of that
entry take its place. -/
def split (g : Agenda) (h : g.stack = i :: rest) (a : Application) : Agenda where
  table := g.table.split i (g.lt_size h) a
  stack := (g.table.split i (g.lt_size h) a).childrenAt i ++ rest
  nodup := by
    rw [g.childrenAt_first h]
    refine List.nodup_append.2 ⟨List.nodup_range', (g.nodup_cons h).2, fun c hc j hj => ?_⟩
    have hold := (g.untouched j (h ▸ List.mem_cons_of_mem i hj)).1
    have hnew := (List.mem_range'_1.1 hc).1
    omega
  untouched := by
    intro j hj
    have hi := g.lt_size h
    rw [g.childrenAt_first h, List.mem_append, List.mem_range'_1] at hj
    rw [Table.size_split, Table.ruleAt_split, Table.childrenAt_split]
    rcases hj with hnew | hold
    · have hne : j ≠ i := by omega
      rw [if_neg hne, if_neg hne]
      exact ⟨hnew.2, Table.ruleAt_of_size_le hnew.1, Table.childrenAt_of_size_le hnew.1⟩
    · have hne : j ≠ i := fun he => (g.nodup_cons h).1 (he ▸ hold)
      obtain ⟨hlt, hrule, hchildren⟩ := g.untouched j (h ▸ List.mem_cons_of_mem i hold)
      rw [if_neg hne, if_neg hne]
      exact ⟨by omega, hrule, hchildren⟩

theorem table_split (g : Agenda) (h : g.stack = i :: rest) (a : Application) :
    (g.split h a).table = g.table.split i (g.lt_size h) a := rfl

theorem stack_split (g : Agenda) (h : g.stack = i :: rest) (a : Application) :
    (g.split h a).stack = List.range' g.table.size a.premises.length ++ rest :=
  congrArg (· ++ rest) (g.childrenAt_first h a)

/-- An entry that leaves the stack does not come back. -/
theorem not_mem_stack_split (g : Agenda) (h : g.stack = i :: rest) (a : Application) {j : Nat}
    (hj : j < g.table.size) (hrest : j ∉ rest) : j ∉ (g.split h a).stack := by
  rw [stack_split, List.mem_append, List.mem_range'_1]
  rintro (hnew | hold)
  · omega
  · exact hrest hold

theorem pending_eq (g : Agenda) (h : g.stack = i :: rest) :
    g.pending = g.table.sequentAt i :: (g.skip h).pending := by
  rw [pending, h]
  rfl

/-- The premises take the place of the first sequent. -/
theorem pending_split (g : Agenda) (h : g.stack = i :: rest) (a : Application) :
    (g.split h a).pending = a.premises ++ (g.skip h).pending := by
  have hrest : rest.map (g.split h a).table.sequentAt = (g.skip h).pending :=
    List.map_congr_left fun j hj =>
      g.table.sequentAt_split i (g.lt_size h) a (g.untouched j (h ▸ List.mem_cons_of_mem i hj)).1
  rw [pending, stack_split, List.map_append, hrest]
  exact congrArg (· ++ (g.skip h).pending) (g.table.map_sequentAt_split i (g.lt_size h) a)

end Agenda

/-- The number of nodes of a full binary tree of the given depth. -/
def fullTree : Nat → Nat
  | 0 => 1
  | n + 1 => 2 * fullTree n + 1

/-- A bound on the number of steps that a sequent needs. -/
def weight (s : Sequent) : Nat := fullTree s.size

/-- The weight of all sequents on a stack. -/
def weightOfAll : List Sequent → Nat
  | [] => 0
  | s :: stack => weight s + weightOfAll stack

theorem fullTree_pos (n : Nat) : 0 < fullTree n := by
  cases n <;> simp [fullTree]

theorem fullTree_le {m n : Nat} (h : m ≤ n) : fullTree m ≤ fullTree n := by
  induction h with
  | refl => exact Nat.le_refl _
  | step _ ih => rw [fullTree]; omega

theorem weight_lt_of_size_lt {p s : Sequent} (h : p.size < s.size) :
    2 * weight p + 1 ≤ weight s := fullTree_le h

theorem weightOfAll_lt_cons (s : Sequent) (stack : List Sequent) :
    weightOfAll stack < weightOfAll (s :: stack) := by
  have := fullTree_pos s.size
  simp only [weightOfAll, weight]
  omega

/-- Putting the premises of a sequent in its place lowers the weight of a
stack. -/
theorem weightOfAll_premises_lt {rules : List Rule} {s : Sequent} {a : Application}
    (h : expand? rules s = some a) (stack : List Sequent) :
    weightOfAll (a.premises ++ stack) < weightOfAll (s :: stack) := by
  obtain ⟨-, -, hp, -⟩ := expand?_some h
  have hlen := Rule.length_premises_le a.rule s
  have hw : ∀ p ∈ a.premises, 2 * weight p + 1 ≤ weight s := fun p hp' =>
    weight_lt_of_size_lt (Rule.size_lt_of_mem_premises (hp ▸ hp'))
  have hpos : 0 < weight s := fullTree_pos s.size
  rw [← hp] at hlen
  match hps : a.premises, hw, hlen with
  | [], _, _ => simp only [List.nil_append, weightOfAll]; omega
  | [p], hw, _ =>
    have := hw p (by simp)
    simp only [List.cons_append, List.nil_append, weightOfAll]; omega
  | [p, q], hw, _ =>
    have := hw p (by simp)
    have := hw q (by simp)
    simp only [List.cons_append, List.nil_append, weightOfAll]; omega
  | _ :: _ :: _ :: _, _, hlen => simp at hlen

/-- Looks at the entries of an agenda until there are none left. -/
def fill (rules : List Rule) (g : Agenda) : Outcome Table :=
  match h : g.stack with
  | [] => ⟨.ok g.table, []⟩
  | i :: rest =>
    if (g.table.sequentAt i).isFinished then fill rules (g.skip h)
    else
      match _hexp : expand? rules (g.table.sequentAt i) with
      | some a =>
        let o := fill rules (g.split h a)
        ⟨o.result, a :: o.applications⟩
      | none => ⟨.error ⟨g.table.sequentAt i⟩, []⟩
termination_by weightOfAll g.pending
decreasing_by
  · rw [g.pending_eq h]
    exact weightOfAll_lt_cons _ _
  · rw [g.pending_eq h, g.pending_split h]
    exact weightOfAll_premises_lt (by assumption) _

end Search

/-- The search for a proof of a sequent with rules in order of priority. -/
def search (rules : List Rule) (s : Sequent) : Outcome Tree :=
  let o := Search.fill rules (.start s)
  ⟨o.result.map Search.Table.root, o.applications⟩

end Turnstile
