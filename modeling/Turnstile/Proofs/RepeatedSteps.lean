/-
# Rules with one premise repeat a textbook step

In a textbook a rule takes one formula of a sequent apart, and sequents are pairs of
multisets (`Textbook`). The rules with one premise take all formulas of their connective on
their side apart in one pass. Their premise is what textbook steps lead to, if they are
taken at just those formulas, in whatever order (`premise_eq_repeated_steps`).

A step may expose a formula that is equal to one of the sequent. To tell them apart, each
formula is kept with its place in the sequent, and what a step exposes has none
(`Occurrence`). A step at an occurrence has one outcome (`Textbook.unique`), and steps at
different occurrences do not get in each other's way, since each leaves the rest of the bag
as it is (`TextbookRun.of_sum`). The pass of a rule is traced in the same way (`Rule.trace`),
which shows that what it exposes stays whole (`Rule.filter_new_trace`) and that all formulas
which do not match stay on their side in their order (`Rule.filter_isOld_trace`).

Key definitions: `Occurrence`, `Bag`, `Textbook`, `TextbookRun`, `Rule.matched`, `Rule.trace`.
Key theorems: `Textbook.exists_rest`, `Textbook.of_takes`, `TextbookRun.unique`,
`TextbookRun.of_sum`, `Rule.bag_eq_sum`, `Rule.trace_eq_sum`, `premise_eq_repeated_steps`.
-/
import Mathlib.Algebra.BigOperators.Group.List.Basic
import Mathlib.Algebra.Group.Prod
import Mathlib.Algebra.Order.Group.Multiset
import Turnstile.Proofs.Subformula

namespace Turnstile

/-! ### Textbook steps -/

/-- A formula in a derivation from a sequent, with its place if it stood on its side of that
sequent. -/
structure Occurrence where
  place : Option Nat
  formula : Formula
deriving DecidableEq

/-- Whether a formula stood in the sequent at the start. -/
def Occurrence.isOld (o : Occurrence) : Bool := o.place.isSome

/-- Assumptions and conclusions in no order. -/
abbrev Bag := Multiset Occurrence × Multiset Occurrence

/-- A bag without the places. -/
def Bag.formulas (S : Bag) : Multiset Formula × Multiset Formula :=
  (S.1.map Occurrence.formula, S.2.map Occurrence.formula)

/-- One step of a rule with one premise at one occurrence of a formula, read backwards. -/
inductive Textbook : Rule → Occurrence → Bag → Bag → Prop
  | leftAnd (n : Option Nat) (a b : Formula) (Γ Δ : Multiset Occurrence) :
      Textbook .leftAnd ⟨n, .bin .conj a b⟩
        (⟨n, .bin .conj a b⟩ ::ₘ Γ, Δ) (⟨none, a⟩ ::ₘ ⟨none, b⟩ ::ₘ Γ, Δ)
  | rightOr (n : Option Nat) (a b : Formula) (Γ Δ : Multiset Occurrence) :
      Textbook .rightOr ⟨n, .bin .disj a b⟩
        (Γ, ⟨n, .bin .disj a b⟩ ::ₘ Δ) (Γ, ⟨none, a⟩ ::ₘ ⟨none, b⟩ ::ₘ Δ)
  | rightImp (n : Option Nat) (a b : Formula) (Γ Δ : Multiset Occurrence) :
      Textbook .rightImp ⟨n, .bin .imp a b⟩
        (Γ, ⟨n, .bin .imp a b⟩ ::ₘ Δ) (⟨none, a⟩ ::ₘ Γ, ⟨none, b⟩ ::ₘ Δ)
  | leftNot (n : Option Nat) (a : Formula) (Γ Δ : Multiset Occurrence) :
      Textbook .leftNot ⟨n, .neg a⟩ (⟨n, .neg a⟩ ::ₘ Γ, Δ) (Γ, ⟨none, a⟩ ::ₘ Δ)
  | rightNot (n : Option Nat) (a : Formula) (Γ Δ : Multiset Occurrence) :
      Textbook .rightNot ⟨n, .neg a⟩ (Γ, ⟨n, .neg a⟩ ::ₘ Δ) (⟨none, a⟩ ::ₘ Γ, Δ)

/-- Steps of one rule at the given occurrences, one after another. -/
inductive TextbookRun (rule : Rule) : List Occurrence → Bag → Bag → Prop
  | done {S : Bag} : TextbookRun rule [] S S
  | step {o : Occurrence} {os : List Occurrence} {S U T : Bag} (hstep : Textbook rule o S U)
      (hrun : TextbookRun rule os U T) : TextbookRun rule (o :: os) S T

/-! ### Steps leave the rest as it is -/

namespace Rule

/-- What stands on the side of a rule, and what on the other side, as a bag. -/
def bag (rule : Rule) (own other : Multiset Occurrence) : Bag :=
  match rule.side with
  | .left => (own, other)
  | .right => (other, own)

/-- The operands of an occurrence that go to a side. -/
def exposed (rule : Rule) (target : Side) (o : Occurrence) : List Occurrence :=
  (o.formula.partsTo rule.side target).map fun f => ⟨none, f⟩

/-- What a step at an occurrence puts in its place. -/
def exposure (rule : Rule) (o : Occurrence) : Bag :=
  (rule.exposed .left o, rule.exposed .right o)

section Equations

variable (n : Option Nat) (a b : Formula) (Γ Δ : Multiset Occurrence)

theorem bag_left {rule : Rule} (hside : rule.side = .left) (o : Occurrence) :
    rule.bag {o} 0 + (Γ, Δ) = (o ::ₘ Γ, Δ) := by
  simp [bag, hside]

theorem bag_right {rule : Rule} (hside : rule.side = .right) (o : Occurrence) :
    rule.bag {o} 0 + (Γ, Δ) = (Γ, o ::ₘ Δ) := by
  simp [bag, hside]

theorem exposure_leftAnd :
    leftAnd.exposure ⟨n, .bin .conj a b⟩ + (Γ, Δ) = (⟨none, a⟩ ::ₘ ⟨none, b⟩ ::ₘ Γ, Δ) := by
  simp [exposure, exposed, side, Formula.partsTo, Formula.partsOn, ← Multiset.cons_coe]

theorem exposure_rightOr :
    rightOr.exposure ⟨n, .bin .disj a b⟩ + (Γ, Δ) = (Γ, ⟨none, a⟩ ::ₘ ⟨none, b⟩ ::ₘ Δ) := by
  simp [exposure, exposed, side, Formula.partsTo, Formula.partsOn, ← Multiset.cons_coe]

theorem exposure_rightImp :
    rightImp.exposure ⟨n, .bin .imp a b⟩ + (Γ, Δ) = (⟨none, a⟩ ::ₘ Γ, ⟨none, b⟩ ::ₘ Δ) := by
  simp [exposure, exposed, side, Formula.partsTo, Formula.partsOn, Side.other]

theorem exposure_leftNot :
    leftNot.exposure ⟨n, .neg a⟩ + (Γ, Δ) = (Γ, ⟨none, a⟩ ::ₘ Δ) := by
  simp [exposure, exposed, side, Formula.partsTo, Formula.partsOn, Side.other]

theorem exposure_rightNot :
    rightNot.exposure ⟨n, .neg a⟩ + (Γ, Δ) = (⟨none, a⟩ ::ₘ Γ, Δ) := by
  simp [exposure, exposed, side, Formula.partsTo, Formula.partsOn, Side.other]

end Equations

end Rule

namespace Textbook

variable {rule : Rule} {o : Occurrence} {S T U : Bag}

/-- A step takes an occurrence out of the bag and puts its operands in; the rest stays. -/
theorem exists_rest (h : Textbook rule o S T) :
    ∃ R, S = rule.bag {o} 0 + R ∧ T = rule.exposure o + R := by
  cases h with
  | leftAnd n a b Γ Δ =>
    exact ⟨(Γ, Δ), (Rule.bag_left Γ Δ rfl _).symm, (Rule.exposure_leftAnd n a b Γ Δ).symm⟩
  | rightOr n a b Γ Δ =>
    exact ⟨(Γ, Δ), (Rule.bag_right Γ Δ rfl _).symm, (Rule.exposure_rightOr n a b Γ Δ).symm⟩
  | rightImp n a b Γ Δ =>
    exact ⟨(Γ, Δ), (Rule.bag_right Γ Δ rfl _).symm, (Rule.exposure_rightImp n a b Γ Δ).symm⟩
  | leftNot n a Γ Δ =>
    exact ⟨(Γ, Δ), (Rule.bag_left Γ Δ rfl _).symm, (Rule.exposure_leftNot n a Γ Δ).symm⟩
  | rightNot n a Γ Δ =>
    exact ⟨(Γ, Δ), (Rule.bag_right Γ Δ rfl _).symm, (Rule.exposure_rightNot n a Γ Δ).symm⟩

/-- A rule with one premise takes a step at each formula of its connective, whatever stands
beside it. -/
theorem of_takes (hone : rule.branches = false) (ho : rule.takes o.formula = true) (R : Bag) :
    Textbook rule o (rule.bag {o} 0 + R) (rule.exposure o + R) := by
  obtain ⟨n, f⟩ := o
  obtain ⟨Γ, Δ⟩ := R
  cases rule with
  | leftAnd =>
    obtain ⟨a, b, rfl⟩ := Formula.hasConnective_binary_iff.1 ho
    rw [Rule.bag_left Γ Δ rfl, Rule.exposure_leftAnd]
    exact .leftAnd n a b Γ Δ
  | rightOr =>
    obtain ⟨a, b, rfl⟩ := Formula.hasConnective_binary_iff.1 ho
    rw [Rule.bag_right Γ Δ rfl, Rule.exposure_rightOr]
    exact .rightOr n a b Γ Δ
  | rightImp =>
    obtain ⟨a, b, rfl⟩ := Formula.hasConnective_binary_iff.1 ho
    rw [Rule.bag_right Γ Δ rfl, Rule.exposure_rightImp]
    exact .rightImp n a b Γ Δ
  | leftNot =>
    obtain ⟨a, rfl⟩ := Formula.hasConnective_neg_iff.1 ho
    rw [Rule.bag_left Γ Δ rfl, Rule.exposure_leftNot]
    exact .leftNot n a Γ Δ
  | rightNot =>
    obtain ⟨a, rfl⟩ := Formula.hasConnective_neg_iff.1 ho
    rw [Rule.bag_right Γ Δ rfl, Rule.exposure_rightNot]
    exact .rightNot n a Γ Δ
  | leftImp => simp [Rule.branches] at hone
  | leftOr => simp [Rule.branches] at hone
  | rightAnd => simp [Rule.branches] at hone

/-- A step at an occurrence has one outcome. -/
theorem unique (hT : Textbook rule o S T) (hU : Textbook rule o S U) : T = U := by
  obtain ⟨R, hR, rfl⟩ := hT.exists_rest
  obtain ⟨R', hR', rfl⟩ := hU.exists_rest
  rw [add_left_cancel (hR.symm.trans hR')]

end Textbook

namespace TextbookRun

variable {rule : Rule} {os : List Occurrence} {S T U : Bag}

theorem unique (hT : TextbookRun rule os S T) (hU : TextbookRun rule os S U) : T = U := by
  induction hT with
  | done =>
    cases hU
    rfl
  | step hstep _ ih =>
    cases hU with
    | step hstep' hrun' =>
      obtain rfl := hstep.unique hstep'
      exact ih hrun'

/-- **Steps do not get in each other's way.** If the occurrences are there, steps can be taken
at all of them one after another, and each adds what it exposes to what stood beside them. -/
theorem of_sum (hone : rule.branches = false) (hos : ∀ o ∈ os, rule.takes o.formula = true)
    (R : Bag) : TextbookRun rule os ((os.map fun o => rule.bag {o} 0).sum + R)
      ((os.map rule.exposure).sum + R) := by
  induction os generalizing R with
  | nil => exact .done
  | cons o os ih =>
    obtain ⟨ho, hos⟩ := List.forall_mem_cons.1 hos
    have hstep := Textbook.of_takes hone ho ((os.map fun o => rule.bag {o} 0).sum + R)
    have hrun := ih hos (rule.exposure o + R)
    rw [add_left_comm, add_left_comm (os.map rule.exposure).sum] at hrun
    simp only [List.map_cons, List.sum_cons, add_assoc]
    exact .step hstep hrun

end TextbookRun

/-! ### The premise traced -/

/-- The formulas of a side with their places. -/
def Sequent.occurrences (s : Sequent) (side : Side) : List Occurrence :=
  (s.on side).zipIdx.map fun p => ⟨some p.2, p.1⟩

/-- The formulas of a sequent with their places, in no order. -/
def Sequent.bag (s : Sequent) : Bag := (s.occurrences .left, s.occurrences .right)

namespace Rule

/-- Whether a rule takes an occurrence on its side apart. -/
def takesAt (rule : Rule) (o : Occurrence) : Bool := rule.takes o.formula

/-- The occurrences of a sequent that a rule takes apart, in order. -/
def matched (rule : Rule) (s : Sequent) : List Occurrence :=
  (s.occurrences rule.side).filter rule.takesAt

/-- The occurrences on the side of a rule that it passes by, in order. -/
def passed (rule : Rule) (s : Sequent) : List Occurrence :=
  (s.occurrences rule.side).filter fun o => !rule.takesAt o

/-- What a rule makes on the side `target` of an occurrence on its own side. -/
def traces (rule : Rule) (target : Side) (o : Occurrence) : List Occurrence :=
  if rule.takesAt o then rule.exposed target o
  else if target = rule.side then [o] else []

/-- A side of the sequent that a rule makes of another in one pass, where formulas that were
there before have their places. -/
def trace (rule : Rule) (s : Sequent) (target : Side) : List Occurrence :=
  (if target = rule.side then [] else s.occurrences target) ++
    (s.occurrences rule.side).flatMap (rule.traces target)

/-- What a rule leaves alone. -/
def rest (rule : Rule) (s : Sequent) : Bag :=
  rule.bag (rule.passed s) (s.occurrences rule.side.other)

variable (rule : Rule) (os : List Occurrence) (s : Sequent)

theorem bag_add (Γ Δ Γ' Δ' : Multiset Occurrence) :
    rule.bag (Γ + Γ') (Δ + Δ') = rule.bag Γ Δ + rule.bag Γ' Δ' := by
  unfold bag
  cases rule.side <;> rfl

/-- Both sides as a bag, seen from the side of a rule. -/
theorem bag_sides (g : Side → List Occurrence) :
    ((g .left, g .right) : Bag) = rule.bag (g rule.side) (g rule.side.other) := by
  unfold bag
  cases rule.side <;> rfl

theorem sum_bag : (os.map fun o => rule.bag {o} 0).sum = rule.bag os 0 := by
  induction os with
  | nil =>
    unfold bag
    cases rule.side <;> rfl
  | cons o os ih =>
    rw [List.map_cons, List.sum_cons, ih, ← bag_add, Multiset.singleton_add, Multiset.cons_coe,
      add_zero]

theorem sum_exposure : (os.map rule.exposure).sum =
    rule.bag (os.flatMap (rule.exposed rule.side)) (os.flatMap (rule.exposed rule.side.other)) := by
  induction os with
  | nil =>
    unfold bag
    cases rule.side <;> rfl
  | cons o os ih =>
    rw [List.map_cons, List.sum_cons, ih, exposure, rule.bag_sides fun side => rule.exposed side o,
      ← bag_add, Multiset.coe_add, Multiset.coe_add, List.flatMap_cons, List.flatMap_cons]

/-- On the other side a rule adds only what it exposes. -/
theorem flatMap_traces_other : os.flatMap (rule.traces rule.side.other) =
    (os.filter rule.takesAt).flatMap (rule.exposed rule.side.other) := by
  rw [flatMap_filter]
  refine List.flatMap_congr fun o _ => ?_
  rw [traces, if_neg rule.side.other_ne]

/-- On its own side a rule leaves what it exposes and the occurrences that it passes by. -/
theorem flatMap_traces_perm : (os.flatMap (rule.traces rule.side)).Perm
    ((os.filter rule.takesAt).flatMap (rule.exposed rule.side) ++
      os.filter fun o => !rule.takesAt o) := by
  induction os with
  | nil => exact .nil
  | cons o os ih =>
    rw [List.flatMap_cons]
    by_cases ho : rule.takesAt o = true
    · simp only [traces, ho, if_true, List.filter_cons, List.flatMap_cons, Bool.not_true,
        Bool.false_eq_true, if_false, List.append_assoc]
      exact ih.append_left _
    · simp only [traces, ho, if_true, List.filter_cons, Bool.not_false,
        Bool.false_eq_true, if_false]
      exact (ih.cons o).trans List.perm_middle.symm

/-- A sequent is made of the occurrences that a rule takes apart and of what it leaves alone. -/
theorem bag_eq_sum :
    s.bag = ((rule.matched s).map fun o => rule.bag {o} 0).sum + rule.rest s := by
  have hsplit : (rule.matched s ++ rule.passed s).Perm (s.occurrences rule.side) :=
    List.filter_append_perm _ _
  rw [Sequent.bag, rule.bag_sides s.occurrences, sum_bag, rest, ← bag_add, zero_add,
    Multiset.coe_add, Multiset.coe_eq_coe.2 hsplit]

/-- The premise is made of what these expose and of what the rule leaves alone. -/
theorem trace_eq_sum : ((rule.trace s .left, rule.trace s .right) : Bag) =
    ((rule.matched s).map rule.exposure).sum + rule.rest s := by
  have hown : (rule.trace s rule.side).Perm
      ((rule.matched s).flatMap (rule.exposed rule.side) ++ rule.passed s) := by
    rw [trace, if_pos rfl, List.nil_append]
    exact rule.flatMap_traces_perm _
  have hother : (rule.trace s rule.side.other).Perm
      ((rule.matched s).flatMap (rule.exposed rule.side.other) ++
        s.occurrences rule.side.other) := by
    rw [trace, if_neg rule.side.other_ne, flatMap_traces_other]
    exact List.perm_append_comm
  rw [rule.bag_sides (rule.trace s), Multiset.coe_eq_coe.2 hown, Multiset.coe_eq_coe.2 hother,
    sum_exposure, rest, ← bag_add, Multiset.coe_add, Multiset.coe_add]

/-- **Steps in any order lead to the trace.** -/
theorem run_matched (hone : rule.branches = false) {order : List Occurrence}
    (horder : order.Perm (rule.matched s)) :
    TextbookRun rule order s.bag (rule.trace s .left, rule.trace s .right) := by
  have htakes : ∀ o ∈ order, rule.takes o.formula = true := fun o ho =>
    (List.mem_filter.1 (horder.subset ho)).2
  have hrun := TextbookRun.of_sum hone htakes (rule.rest s)
  rwa [(horder.map _).sum_eq, (horder.map _).sum_eq, ← rule.bag_eq_sum, ← rule.trace_eq_sum]
    at hrun

/-! ### What the trace shows -/

theorem map_formula_occurrences (side : Side) :
    (s.occurrences side).map Occurrence.formula = s.on side := by
  rw [Sequent.occurrences, List.map_map]
  exact List.zipIdx_map_fst 0 (s.on side)

theorem filter_isOld_occurrences (side : Side) :
    (s.occurrences side).filter Occurrence.isOld = s.occurrences side ∧
      ((s.occurrences side).filter fun o => !o.isOld) = [] := by
  have hold : ∀ o ∈ s.occurrences side, o.isOld = true := by
    intro o ho
    obtain ⟨p, -, rfl⟩ := List.mem_map.1 ho
    rfl
  exact ⟨List.filter_eq_self.2 hold, List.filter_eq_nil_iff.2 fun o ho => by simp [hold o ho]⟩

theorem filter_isOld_exposed (side : Side) (o : Occurrence) :
    (rule.exposed side o).filter Occurrence.isOld = [] ∧
      ((rule.exposed side o).filter fun e => !e.isOld) = rule.exposed side o := by
  have hnew : ∀ e ∈ rule.exposed side o, e.isOld = false := by
    intro e he
    obtain ⟨f, -, rfl⟩ := List.mem_map.1 he
    rfl
  exact ⟨List.filter_eq_nil_iff.2 fun e he => by simp [hnew e he],
    List.filter_eq_self.2 fun e he => by simp [hnew e he]⟩

/-- Without the places the trace is the premise. -/
theorem map_formula_trace (side : Side) :
    (rule.trace s side).map Occurrence.formula = (rule.reduct s).on side := by
  have htraces : ∀ o, (rule.traces side o).map Occurrence.formula = rule.makes side o.formula := by
    intro o
    unfold traces makes takesAt
    split_ifs
    · rw [exposed, List.map_map]
      exact List.map_id _
    · rfl
    · rfl
  rw [on_reduct, trace, reductOn, List.map_append, List.map_flatMap, apply_ite (List.map _),
    map_formula_occurrences, ← map_formula_occurrences s rule.side, List.flatMap_map]
  simp only [htraces, List.map_nil]

/-- **What is exposed stays whole.** The formulas of the premise that are new are the operands
of those taken apart. -/
theorem filter_new_trace (side : Side) :
    ((rule.trace s side).filter fun o => !o.isOld) =
      (rule.matched s).flatMap (rule.exposed side) := by
  have hothers : ((if side = rule.side then [] else s.occurrences side).filter fun o =>
      !o.isOld) = [] := by
    split_ifs
    · rfl
    · exact (filter_isOld_occurrences s side).2
  rw [trace, List.filter_append, hothers, List.nil_append, List.filter_flatMap, matched,
    flatMap_filter]
  refine List.flatMap_congr fun o ho => ?_
  have hold : o.isOld = true := by
    rw [← (filter_isOld_occurrences s rule.side).1] at ho
    exact (List.mem_filter.1 ho).2
  unfold traces
  split_ifs
  · exact (rule.filter_isOld_exposed side o).2
  · simp [hold]
  · rfl

/-- **What does not match stays** on its side, in order. -/
theorem filter_isOld_trace : (rule.trace s rule.side).filter Occurrence.isOld = rule.passed s := by
  rw [trace, if_pos rfl, List.nil_append, List.filter_flatMap, passed,
    ← List.flatMap_singleton' (List.filter _ _), flatMap_filter]
  refine List.flatMap_congr fun o ho => ?_
  have hold : o.isOld = true := by
    rw [← (filter_isOld_occurrences s rule.side).1] at ho
    exact (List.mem_filter.1 ho).2
  by_cases htakes : rule.takesAt o = true
  · simp [traces, htakes, (rule.filter_isOld_exposed rule.side o).1]
  · simp [traces, htakes, hold]

/-- The formulas of the other side stay there, in order. -/
theorem filter_isOld_trace_other :
    (rule.trace s rule.side.other).filter Occurrence.isOld = s.occurrences rule.side.other := by
  rw [trace, if_neg rule.side.other_ne, List.filter_append, (filter_isOld_occurrences s _).1,
    flatMap_traces_other, List.filter_flatMap]
  have hnone : ((s.occurrences rule.side).filter rule.takesAt).flatMap (fun o =>
      (rule.exposed rule.side.other o).filter Occurrence.isOld) = [] :=
    List.flatMap_eq_nil_iff.2 fun o _ => (rule.filter_isOld_exposed _ o).1
  rw [hnone, List.append_nil]

theorem length_matched : (rule.matched s).length = (s.on rule.side).countP rule.takes := by
  rw [← map_formula_occurrences s rule.side, List.countP_map, matched,
    ← List.countP_eq_length_filter]
  rfl

end Rule

/-- **Rules with one premise repeat a textbook step.** Let `k` formulas on the side of such a
rule have its connective. If there are none, the rule does not apply. Otherwise it leads to
one premise, with `k` connectives less. Textbook steps at the `k` occurrences can be taken in
any order and lead to this premise as a pair of multisets. In detail, the premise can be
written with the places that its formulas had (`q`): the steps lead to just this, whatever
their order; what is new in it are the operands of the `k` formulas, whatever connectives
these have; and the others are those that did not match, on their side and in their order. -/
theorem premise_eq_repeated_steps {rule : Rule} (hone : rule.branches = false) (s : Sequent) :
    let k := (s.on rule.side).countP fun f => f.hasConnective rule.connective
    (k = 0 → rule.application? s = none) ∧
    (1 ≤ k → ∃ p, rule.premises s = [p] ∧ p.size + k = s.size ∧ (rule.matched s).length = k ∧
      (∀ order, order.Perm (rule.matched s) → ∃ T, TextbookRun rule order s.bag T ∧
        T.formulas = (↑p.assumptions, ↑p.conclusions)) ∧
      ∃ q : Side → List Occurrence,
        (∀ side, (q side).map Occurrence.formula = p.on side) ∧
        (∀ order, order.Perm (rule.matched s) →
          ∀ T, TextbookRun rule order s.bag T ↔ T = (↑(q .left), ↑(q .right))) ∧
        (∀ side, ((q side).filter fun o => !o.isOld) =
          (rule.matched s).flatMap (rule.exposed side)) ∧
        (q rule.side).filter Occurrence.isOld = rule.passed s ∧
        (q rule.side.other).filter Occurrence.isOld = s.occurrences rule.side.other) := by
  intro k
  have hlength : (rule.matched s).length = k := rule.length_matched s
  refine ⟨fun hk => ?_, fun hk => ?_⟩
  · rw [Rule.application?_eq_none_iff, Rule.premises_eq_nil_iff]
    intro f hf
    simpa using List.countP_eq_zero.1 hk f hf
  · refine ⟨rule.reduct s, Rule.premises_eq_reduct hone (List.countP_pos_iff.1 hk), ?_, hlength,
      fun order horder => ⟨_, rule.run_matched s hone horder, ?_⟩,
      rule.trace s, rule.map_formula_trace s, fun order horder T => ?_, rule.filter_new_trace s,
      rule.filter_isOld_trace s, rule.filter_isOld_trace_other s⟩
    · rw [← rule.size_reduct s, Rule.taken, ← List.countP_eq_length_filter]
      rfl
    · rw [Bag.formulas, Multiset.map_coe, Multiset.map_coe, rule.map_formula_trace s .left,
        rule.map_formula_trace s .right]
      rfl
    · have hrun := rule.run_matched s hone horder
      exact ⟨fun hT => hT.unique hrun, fun hT => hT ▸ hrun⟩

/-- Of two conjunctions one exposes a formula equal to the other, which stays whole; the step
at the second comes first. -/
theorem premise_eq_repeated_steps_nested :
    let p : Formula := .atom ⟨"p", by decide⟩
    let q : Formula := .atom ⟨"q", by decide⟩
    let f : Formula := .bin .conj p q
    let s : Sequent := ⟨[.bin .conj f p, q, f], [f]⟩
    Rule.leftAnd.branches = false ∧ 1 ≤ (s.on .left).countP (·.hasConnective (.binary .conj)) ∧
      Rule.leftAnd.premises s = [⟨[f, p, q, p, q], [f]⟩] ∧
      ∃ T, TextbookRun .leftAnd [⟨some 2, f⟩, ⟨some 0, .bin .conj f p⟩] s.bag T ∧
        T.formulas = (↑[f, p, q, p, q], ↑[f]) := by
  intro p q f s
  have hcount : 1 ≤ (s.on .left).countP (·.hasConnective (.binary .conj)) := by decide
  obtain ⟨-, happlies⟩ := premise_eq_repeated_steps (show Rule.leftAnd.branches = false from rfl) s
  obtain ⟨premise, hpremise, -, -, hrun, -⟩ := happlies hcount
  obtain rfl : ⟨[f, p, q, p, q], [f]⟩ = premise := List.singleton_inj.1 hpremise
  exact ⟨rfl, hcount, hpremise, hrun _ (List.Perm.swap _ _ [])⟩

end Turnstile
