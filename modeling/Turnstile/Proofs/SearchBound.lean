/-
# How long the search takes

The search goes in turns. In each it takes a sequent off its stack and, unless that
is finished, puts the premises of the first rule that applies in its place
(`Search.Turn`). Premises are smaller, and there are at most two of them. So a sequent
of size `n` pays for all turns that come of it with the number of nodes of a full
binary tree of depth `n`, which is `2 ^ (n + 1) - 1`: each turn lowers what the stack
can pay for (`Search.Turn.weightOfAll_lt`), and no row of turns is longer than that
(`Search.Turns.length_add_weightOfAll_le`). What the search records is a row of turns
to the end, where the stack is empty or no rule applies (`Search.exists_turns_record`).

The table has one entry for each turn (`Search.size_of_fill`) and the tree one node
(`Search.countNodes_assemble`), so the bound on the turns is one on its nodes. Sizes fall
from each node to its children (`Grown.size_child_lt`), so no path is longer than the
size of the root (`Grown.depth_le`).

Key definitions: `Search.Turn`, `Search.Turns`.
Key theorems: `Search.fullTree_eq`, `Search.Turns.length_add_weightOfAll_le`,
`Search.exists_turns_record`, `Search.countNodes_assemble`, `Grown.of_mem_walk`,
`Grown.size_child_lt`, `Grown.depth_le`, `search_within_bound`.
-/
import Mathlib.Algebra.Ring.Nat
import Turnstile.Proofs.Decision

namespace Turnstile

/-! ### Turns -/

namespace Search

/-- One turn of the search: what it does with the sequent on top of the stack, and the
stack that it leaves. -/
inductive Turn (rules : List Rule) : List Sequent → Step → List Sequent → Prop
  | leaf {s : Sequent} {rest : List Sequent} (hfin : s.isFinished = true) :
      Turn rules (s :: rest) (.leaf s) rest
  | split {s : Sequent} {a : Application} {rest : List Sequent} (hfin : s.isFinished = false)
      (hexp : expand? rules s = some a) : Turn rules (s :: rest) (.split a) (a.premises ++ rest)

/-- Turns of the search one after another. -/
inductive Turns (rules : List Rule) : List Sequent → List Step → List Sequent → Prop
  | none {stack : List Sequent} : Turns rules stack [] stack
  | next {stack middle rest : List Sequent} {step : Step} {steps : List Step}
      (hturn : Turn rules stack step middle) (hturns : Turns rules middle steps rest) :
      Turns rules stack (step :: steps) rest

theorem fullTree_eq (n : Nat) : fullTree n = 2 ^ (n + 1) - 1 := by
  induction n with
  | zero => rfl
  | succ n ih =>
    have hpow : 2 ^ (n + 1 + 1) = 2 * 2 ^ (n + 1) := Nat.pow_succ'
    have hpos : 0 < 2 ^ (n + 1) := Nat.two_pow_pos (n + 1)
    rw [fullTree, ih, hpow]
    omega

theorem weightOfAll_singleton (s : Sequent) : weightOfAll [s] = 2 ^ (s.size + 1) - 1 := by
  rw [weightOfAll, weightOfAll, weight, fullTree_eq, Nat.add_zero]

variable {rules : List Rule} {stack rest : List Sequent} {steps : List Step}

/-- A turn is paid for. -/
theorem Turn.weightOfAll_lt {step : Step} (h : Turn rules stack step rest) :
    weightOfAll rest < weightOfAll stack := by
  cases h with
  | @leaf s _ hfin =>
    have hpos : 0 < weight s := fullTree_pos s.size
    rw [weightOfAll]
    omega
  | split hfin hexp => exact weightOfAll_premises_lt hexp _

/-- **The turns are bounded.** The turns taken and those that the stack can still pay
for are no more than those that it could pay for at the start. -/
theorem Turns.length_add_weightOfAll_le (h : Turns rules stack steps rest) :
    steps.length + weightOfAll rest ≤ weightOfAll stack := by
  induction h with
  | none => simp
  | next hturn _ ih =>
    have hlt := hturn.weightOfAll_lt
    rw [List.length_cons]
    omega

theorem not_turn_nil {step : Step} : ¬ Turn rules [] step rest := nofun

/-- No turn is taken at a sequent that the search gives up at. -/
theorem not_turn_stuck {s : Sequent} (hfin : s.isFinished = false) (hexp : expand? rules s = none)
    {step : Step} : ¬ Turn rules (s :: stack) step rest := by
  intro h
  cases h with
  | leaf hleaf => simp [hfin] at hleaf
  | split _ hsplit => simp [hexp] at hsplit

/-- **The record is a row of turns to the end.** After the steps of a record no turn is
left: the stack is empty, or the sequent on top of it is the one given up at. -/
theorem exists_turns_record (rules : List Rule) (stack : List Sequent) :
    ∃ rest, Turns rules stack (record rules stack).steps rest ∧
      (∀ step stack', ¬ Turn rules rest step stack') ∧
      (record rules stack).stuck.map Stuck.sequent = rest.head? := by
  induction stack using record_induction rules with
  | nil =>
    rw [record_nil]
    exact ⟨[], .none, fun _ _ => not_turn_nil, rfl⟩
  | finished s rest hfin ih =>
    obtain ⟨last, hturns, hend, hstuck⟩ := ih
    rw [record_finished rules hfin]
    exact ⟨last, .next (.leaf hfin) hturns, hend, hstuck⟩
  | split s rest a hfin hexp ih =>
    obtain ⟨last, hturns, hend, hstuck⟩ := ih
    rw [record_split hfin hexp]
    exact ⟨last, .next (.split hfin hexp) hturns, hend, hstuck⟩
  | stuck s rest hfin hexp =>
    rw [record_stuck hfin hexp]
    exact ⟨s :: rest, .none, fun _ _ => not_turn_stuck hfin hexp, rfl⟩

end Search

/-! ### Nodes and depth -/

namespace Tree

theorem countNodes_append : ∀ ts us : List Tree,
    countNodes (ts ++ us) = countNodes ts + countNodes us
  | [], us => by simp [countNodes]
  | t :: ts, us => by
    rw [List.cons_append, countNodes, countNodes, countNodes_append ts us, Nat.add_assoc]

theorem depthOfAll_le {n : Nat} : ∀ {ts : List Tree}, (∀ t ∈ ts, t.depth ≤ n) → depthOfAll ts ≤ n
  | [], _ => by simp [depthOfAll]
  | t :: ts, h => by
    obtain ⟨ht, hts⟩ := List.forall_mem_cons.1 h
    have ih := depthOfAll_le hts
    rw [depthOfAll]
    omega

/-- A node is one level deeper than its children. -/
theorem depth_node_le {s : Sequent} {r : Option String} {n : Nat} {ts : List Tree}
    (h : ∀ t ∈ ts, t.depth < n) : (node s r ts).depth ≤ n := by
  cases ts with
  | nil => simp [depth]
  | cons t ts =>
    obtain ⟨ht, hts⟩ := List.forall_mem_cons.1 h
    have hrest : depthOfAll ts ≤ n - 1 := depthOfAll_le fun u hu => Nat.le_sub_one_of_lt (hts u hu)
    rw [depth]
    omega

end Tree

namespace Search

theorem countNodes_place (step : Step) (trees : List Tree) :
    Tree.countNodes (place step trees) = 1 + Tree.countNodes trees := by
  cases step with
  | leaf s => rw [place, Tree.countNodes, Tree.size, Tree.countNodes]
  | split a =>
    rw [place, Tree.countNodes, Tree.size, Nat.add_assoc, ← Tree.countNodes_append,
      List.take_append_drop]

/-- **One node for each turn.** -/
theorem countNodes_assemble (steps : List Step) :
    Tree.countNodes (assemble steps) = steps.length := by
  induction steps with
  | nil => rfl
  | cons step steps ih =>
    rw [assemble_cons, countNodes_place, ih, List.length_cons]
    omega

end Search

/-- The tree of a search has as many nodes as the search took turns. -/
theorem size_of_search_ok {rules : List Rule} {s : Sequent} {t : Tree}
    (h : (search rules s).result = .ok t) : t.size = (Search.record rules [s]).steps.length := by
  obtain ⟨-, htrees⟩ := search_eq_ok_iff.1 h
  have hcount := Search.countNodes_assemble (Search.record rules [s]).steps
  rwa [htrees, Tree.countNodes, Tree.countNodes] at hcount

namespace Grown

variable {rules : List Rule} {t : Tree}

/-- The nodes of a grown tree are grown trees. -/
theorem of_mem_walk (h : Grown rules t) : ∀ {n : Tree}, n ∈ t.walk → Grown rules n := by
  induction h with
  | leaf hfin =>
    intro n hn
    rw [Tree.walk, Tree.walkAll, List.mem_singleton] at hn
    exact hn ▸ .leaf hfin
  | split hfin hexp hts hgrown ih =>
    intro n hn
    rw [Tree.walk, Tree.walkAll_eq_flatMap, List.mem_cons, List.mem_flatMap] at hn
    rcases hn with rfl | ⟨t, ht, hn⟩
    · exact .split hfin hexp hts hgrown
    · exact ih t ht hn

/-- The sequent of a child is smaller. -/
theorem size_child_lt (h : Grown rules t) {c : Tree} (hc : c ∈ t.children) :
    c.sequent.size < t.sequent.size := by
  cases h with
  | leaf hfin => simp [Tree.children] at hc
  | @split s a ts _ hexp hts _ =>
    have hmem : c.sequent ∈ a.rule.premises s := by
      rw [← (expand?_some hexp).2.2.1, ← hts]
      exact List.mem_map_of_mem hc
    exact Rule.size_lt_of_mem_premises hmem

/-- **No path is longer than the root is large.** -/
theorem depth_le (h : Grown rules t) : t.depth ≤ t.sequent.size := by
  induction h with
  | leaf hfin => simp [Tree.depth]
  | @split s a ts hfin hexp hts hgrown ih =>
    refine Tree.depth_node_le fun c hc => ?_
    have hsmaller : c.sequent.size < s.size :=
      (Grown.split hfin hexp hts hgrown).size_child_lt hc
    exact Nat.lt_of_le_of_lt (ih c hc) hsmaller

end Grown

theorem Sequent.size_ofFormula (f : Formula) : (Sequent.ofFormula f).size = f.size :=
  Nat.add_zero f.size

/-- **The search ends in time.** However many turns are taken from a sequent, they are
at most `2 ^ (s.size + 1) - 1`, and the search takes turns until none is left: then its
stack is empty, or a sequent that no rule applies to is on top. The table has one entry
for each turn. In the tree that the search gives, each child has a smaller sequent than
its parent, no path is longer than the size of the sequent, and the nodes are no more
than the turns can be. In particular the proof of a formula is no deeper than the
formula has connectives. -/
theorem search_within_bound (rules : List Rule) (s : Sequent) :
    (∀ steps rest, Search.Turns rules [s] steps rest → steps.length ≤ 2 ^ (s.size + 1) - 1) ∧
    (∃ rest, Search.Turns rules [s] (Search.record rules [s]).steps rest ∧
      (∀ step stack, ¬ Search.Turn rules rest step stack) ∧
      (Search.record rules [s]).stuck.map Stuck.sequent = rest.head?) ∧
    (∀ table, (Search.fill rules (.start s)).result = .ok table →
      table.size = (Search.record rules [s]).steps.length) ∧
    (∀ t, (search rules s).result = .ok t →
      (∀ n ∈ t.walk, ∀ c ∈ n.children, c.sequent.size < n.sequent.size) ∧
      t.depth ≤ s.size ∧ t.size ≤ 2 ^ (s.size + 1) - 1) ∧
    ∀ f : Formula, (∀ p, (prove rules (.formula f)).result = .ok p → p.root.depth ≤ f.size) ∧
      ∃ p, (prove Rule.all (.formula f)).result = .ok p := by
  have hbound : ∀ steps rest, Search.Turns rules [s] steps rest →
      steps.length ≤ 2 ^ (s.size + 1) - 1 := by
    intro steps rest hturns
    have hpaid := hturns.length_add_weightOfAll_le
    rw [Search.weightOfAll_singleton] at hpaid
    omega
  have hrecord := Search.exists_turns_record rules [s]
  refine ⟨hbound, hrecord, fun table htable => ?_, fun t ht => ?_, fun f => ⟨fun p hp => ?_, ?_⟩⟩
  · -- the table starts with one entry, which is on the stack
    have hsize : table.size + 1 = 1 + (Search.record rules [s]).steps.length :=
      Search.size_of_fill htable
    omega
  · obtain ⟨hroot, hgrown⟩ := search_ok ht
    obtain ⟨rest, hturns, -⟩ := hrecord
    refine ⟨fun n hn c hc => (hgrown.of_mem_walk hn).size_child_lt hc, hroot ▸ hgrown.depth_le, ?_⟩
    rw [size_of_search_ok ht]
    exact hbound _ _ hturns
  · obtain ⟨hroot, hgrown, -⟩ := prove_ok hp
    calc p.root.depth ≤ p.root.sequent.size := hgrown.depth_le
      _ = (Sequent.ofFormula f).size := by rw [hroot]; rfl
      _ = f.size := Sequent.size_ofFormula f
  · exact prove_total Rule.mem_all _

/-- The swap of a conjunction takes four turns, where seven are allowed, and the deepest
path that is allowed. -/
theorem search_within_bound_swap :
    let p : Formula := .atom ⟨"p", by decide⟩
    let q : Formula := .atom ⟨"q", by decide⟩
    let s : Sequent := ⟨[.bin .conj p q], [.bin .conj q p]⟩
    let t : Tree := .node s (some "left-and") [.node ⟨[p, q], [.bin .conj q p]⟩ (some "right-and")
      [.node ⟨[p, q], [q]⟩ none [], .node ⟨[p, q], [p]⟩ none []]]
    (search Rule.all s).result = .ok t ∧ (t.depth = 2 ∧ s.size = 2 ∧ t.depth ≤ s.size) ∧
      t.size = 4 ∧ t.size ≤ 2 ^ (s.size + 1) - 1 := by
  intro p q s t
  let a : Application := ⟨.leftAnd, s, [⟨[p, q], [.bin .conj q p]⟩]⟩
  let b : Application :=
    ⟨.rightAnd, ⟨[p, q], [.bin .conj q p]⟩, [⟨[p, q], [q]⟩, ⟨[p, q], [p]⟩]⟩
  have hrecord : Search.record Rule.all [s] =
      ⟨[.split a, .split b, .leaf ⟨[p, q], [q]⟩, .leaf ⟨[p, q], [p]⟩], none⟩ := by
    rw [Search.record_split (a := a) rfl rfl, List.append_nil,
      Search.record_split (a := b) rfl rfl, List.append_nil, Search.record_finished _ rfl,
      Search.record_finished _ rfl, Search.record_nil]
  have hsearch : (search Rule.all s).result = .ok t := by
    rw [search_eq_ok_iff, hrecord]
    exact ⟨rfl, rfl⟩
  obtain ⟨-, -, -, htree, -⟩ := search_within_bound Rule.all s
  obtain ⟨-, hdepth, hsize⟩ := htree t hsearch
  exact ⟨hsearch, ⟨rfl, rfl, hdepth⟩, rfl, hsize⟩

end Turnstile
