/-
# Derivations by hand end at one verdict

A derivation by hand starts from one sequent and, step after step, puts the
premises of any rule that applies to any goal in the goal's place. Whatever is
chosen, three things hold of every run. An assignment satisfies the sequent
exactly if it satisfies all goals (`Run.satisfies_iff`), since each rule is
invertible. A goal of size `n` pays for itself and for all that comes of it with
`2 ^ n - 1` steps, so a run is no longer than that (`Run.add_budget_le`). And a run
that cannot go on has only variables left, among which an axiom shows on sight. So
the choices decide neither whether a run ends nor what it finds
(`derivation_verdict`).

Key definitions: `Derivation.Advances`, `Derivation.Run`, `Derivation.IsMaximal`,
`Derivation.budget`.
Key theorems: `Derivation.advances_iff`, `Derivation.Run.refutedBy_iff`,
`Derivation.Run.satisfies_iff`, `Derivation.Run.add_budget_le`,
`Derivation.exists_maximal`, `Derivation.derivation_verdict`.
-/
import Mathlib.Algebra.Ring.Nat
import Turnstile.Proofs.Subformula

namespace Turnstile.Derivation

/-! ### Steps -/

/-- Some rule applies to some goal and leads to the other goals. -/
def Advances (goals goals' : List Sequent) : Prop :=
  ∃ (rule : Rule) (n : Nat), step rule n goals = some (true, goals')

/-- **What a step does.** It puts the premises of a rule that applies in the place
of a goal, and leaves the goals before and after it. -/
theorem advances_iff {goals goals' : List Sequent} :
    Advances goals goals' ↔ ∃ (before after : List Sequent) (g : Sequent) (rule : Rule),
      goals = before ++ g :: after ∧ rule.premises g ≠ [] ∧
        goals' = before ++ rule.premises g ++ after := by
  constructor
  · rintro ⟨rule, n, hstep⟩
    obtain ⟨g, hg, hpair⟩ := Option.map_eq_some_iff.1 hstep
    obtain ⟨hn, hget⟩ := List.getElem?_eq_some_iff.1 hg
    cases happ : rule.application? g with
    | none => simp [happ] at hpair
    | some a =>
      obtain ⟨hne, rfl⟩ := Rule.application?_eq_some_iff.1 happ
      rw [happ] at hpair
      obtain ⟨-, hgoals⟩ := Prod.mk.inj hpair
      refine ⟨goals.take n, goals.drop (n + 1), g, rule, ?_, hne, hgoals.symm⟩
      rw [← hget, List.getElem_cons_drop, List.take_append_drop]
  · rintro ⟨before, after, g, rule, rfl, hne, rfl⟩
    have happ : rule.application? g = some ⟨rule, g, rule.premises g⟩ :=
      Rule.application?_eq_some_iff.2 ⟨hne, rfl⟩
    refine ⟨rule, before.length, ?_⟩
    simp [step, happ, replaceAt]

/-- A run of a derivation with the given number of steps. -/
inductive Run (start : List Sequent) : Nat → List Sequent → Prop
  | start : Run start 0 start
  | next {n : Nat} {goals goals' : List Sequent} (h : Run start n goals)
      (hstep : Advances goals goals') : Run start (n + 1) goals'

/-- No rule applies to any goal. -/
def IsMaximal (goals : List Sequent) : Prop := ∀ goals', ¬ Advances goals goals'

theorem isMaximal_iff {goals : List Sequent} :
    IsMaximal goals ↔ ∀ g ∈ goals, ∀ rule : Rule, rule.premises g = [] := by
  constructor
  · intro hmax g hg rule
    obtain ⟨before, after, rfl⟩ := List.append_of_mem hg
    by_contra hne
    exact hmax _ (advances_iff.2 ⟨before, after, g, rule, rfl, hne, rfl⟩)
  · rintro hnone goals' hstep
    obtain ⟨before, after, g, rule, rfl, hne, -⟩ := advances_iff.1 hstep
    exact hne (hnone g (by simp) rule)

/-! ### What a step keeps -/

/-- A valuation refutes a goal before a step exactly if it refutes one after it. -/
theorem Advances.refutedBy_iff {goals goals' : List Sequent} (h : Advances goals goals')
    (v : Valuation) : (∃ g ∈ goals, g.RefutedBy v) ↔ ∃ g ∈ goals', g.RefutedBy v := by
  obtain ⟨before, after, g, rule, rfl, hne, rfl⟩ := advances_iff.1 h
  have hrule := Rule.refutedBy_iff v hne
  simp only [List.mem_append, List.mem_cons, or_and_right, exists_or, exists_eq_left, hrule,
    or_assoc]

/-- A step brings in no variable. -/
theorem Advances.names_subset {goals goals' : List Sequent} (h : Advances goals goals')
    {ns : List String} (hns : ∀ g ∈ goals, g.names ⊆ ns) : ∀ g ∈ goals', g.names ⊆ ns := by
  obtain ⟨before, after, s, rule, rfl, -, rfl⟩ := advances_iff.1 h
  intro g hg
  rcases List.mem_append.1 hg with hg | hafter
  · rcases List.mem_append.1 hg with hbefore | hpremise
    · exact hns g (by simp [hbefore])
    · exact List.Subset.trans (Rule.names_subset_of_mem_premises hpremise) (hns s (by simp))
  · exact hns g (by simp [hafter])

/-- The steps that goals can pay for: one for each connective, and for whatever a
branching rule makes of it. -/
def budget : List Sequent → Nat
  | [] => 0
  | g :: goals => (2 ^ g.size - 1) + budget goals

theorem budget_append : ∀ gs hs : List Sequent, budget (gs ++ hs) = budget gs + budget hs
  | [], hs => by simp [budget]
  | g :: gs, hs => by rw [List.cons_append, budget, budget, budget_append gs hs, Nat.add_assoc]

/-- The premises of a rule that applies cost less than the goal. -/
theorem budget_premises_lt {rule : Rule} {g : Sequent} (hne : rule.premises g ≠ []) :
    budget (rule.premises g) < 2 ^ g.size - 1 := by
  have hlen := Rule.length_premises_le rule g
  have hpow : ∀ p ∈ rule.premises g, 2 * 2 ^ p.size ≤ 2 ^ g.size := fun p hp => by
    rw [← Nat.pow_succ']
    exact Nat.pow_le_pow_right Nat.two_pos (Rule.size_lt_of_mem_premises hp)
  have hpos : ∀ p : Sequent, 0 < 2 ^ p.size := fun p => Nat.two_pow_pos p.size
  match hps : rule.premises g, hne, hlen, hpow with
  | [p], _, _, hpow =>
    have := hpow p (by simp)
    have := hpos p
    simp only [budget]
    omega
  | [p, q], _, _, hpow =>
    have := hpow p (by simp)
    have := hpow q (by simp)
    have := hpos p
    have := hpos q
    simp only [budget]
    omega

/-- A step is paid for. -/
theorem Advances.budget_lt {goals goals' : List Sequent} (h : Advances goals goals') :
    budget goals' < budget goals := by
  obtain ⟨before, after, g, rule, rfl, hne, rfl⟩ := advances_iff.1 h
  have hless := budget_premises_lt hne
  simp only [budget_append, budget]
  omega

/-! ### What a run keeps -/

namespace Run

variable {start goals : List Sequent} {n : Nat}

/-- The steps of a run and those that its goals can still pay for are no more than
those that the start could pay for. -/
theorem add_budget_le (h : Run start n goals) : n + budget goals ≤ budget start := by
  induction h with
  | start => omega
  | next _ hstep ih =>
    have := hstep.budget_lt
    omega

theorem refutedBy_iff (h : Run start n goals) (v : Valuation) :
    (∃ g ∈ start, g.RefutedBy v) ↔ ∃ g ∈ goals, g.RefutedBy v := by
  induction h with
  | start => exact Iff.rfl
  | next _ hstep ih => exact ih.trans (hstep.refutedBy_iff v)

theorem names_subset (h : Run start n goals) {ns : List String}
    (hns : ∀ g ∈ start, g.names ⊆ ns) : ∀ g ∈ goals, g.names ⊆ ns := by
  induction h with
  | start => exact hns
  | next _ hstep ih => exact hstep.names_subset ih

theorem trans {k : Nat} {final : List Sequent} (h : Run start n goals) (h' : Run goals k final) :
    Run start (n + k) final := by
  induction h' with
  | start => exact h
  | next _ hstep ih => exact ih.next hstep

variable {s : Sequent}

/-- **Goals stand for their sequent.** An assignment of the names of a sequent
satisfies it exactly if it satisfies all goals that a run has come to. -/
theorem satisfies_iff (h : Run [s] n goals) {m : Assignment} (hm : m.Covers s.names) :
    m.Satisfies s ↔ ∀ g ∈ goals, m.Satisfies g := by
  have hsub : ∀ g ∈ goals, g.names ⊆ s.names := h.names_subset (by simp)
  have hrefuted := h.refutedBy_iff m.valuation
  simp only [List.mem_singleton, exists_eq_left] at hrefuted
  rw [Assignment.satisfies_iff_not_refutedBy hm, hrefuted]
  push Not
  exact forall₂_congr fun g hg =>
    (Assignment.satisfies_iff_not_refutedBy (hm.mono (hsub g hg))).symm

/-- A sequent is valid exactly if the goals of a maximal run are axioms. -/
theorem valid_iff_of_isMaximal (h : Run [s] n goals) (hmax : IsMaximal goals) :
    s.Valid ↔ ∀ g ∈ goals, g.isAxiom = true := by
  have hatoms : ∀ g ∈ goals, g.formulas.all Formula.isAtomic = true := fun g hg =>
    g.premises_nil_iff.1 (isMaximal_iff.1 hmax g hg)
  have hrefuted : ∀ v, s.RefutedBy v ↔ ∃ g ∈ goals, g.RefutedBy v := fun v => by
    simpa using h.refutedBy_iff v
  rw [Sequent.valid_iff_not_refuted]
  constructor
  · intro hvalid g hg
    by_contra hopen
    have hfals : g.isFalsifiable = true := by
      rw [Sequent.isFalsifiable, Sequent.isFinished, hatoms g hg]
      simpa using hopen
    exact hvalid g.openValuation
      ((hrefuted _).2 ⟨g, hg, Sequent.refutedBy_openValuation hfals⟩)
  · intro haxioms v hv
    obtain ⟨g, hg, hgv⟩ := (hrefuted v).1 hv
    exact Sequent.not_refutedBy_of_isAxiom (haxioms g hg) v hgv

end Run

/-- Every run can be carried on until no rule applies. -/
theorem exists_maximal (goals : List Sequent) :
    ∃ n final, Run goals n final ∧ IsMaximal final := by
  by_cases hmax : IsMaximal goals
  · exact ⟨0, goals, .start, hmax⟩
  · obtain ⟨goals', hstep⟩ : ∃ goals', Advances goals goals' := by
      simpa [IsMaximal] using hmax
    have := hstep.budget_lt
    obtain ⟨n, final, hrun, hfinal⟩ := exists_maximal goals'
    exact ⟨1 + n, final, (Run.start.next hstep).trans hrun, hfinal⟩
termination_by budget goals

/-- **The verdict of a derivation does not depend on the choices made.** After
any run from a sequent, an assignment of its names satisfies it exactly if it
satisfies all goals; to a goal no rule applies exactly if all its formulas are
variables; and the run has at most `2 ^ s.size - 1` steps. Each run can be carried
on to a maximal one, and a maximal run has only variables left, with an axiom in
each goal exactly if the sequent is valid. -/
theorem derivation_verdict {s : Sequent} {n : Nat} {goals : List Sequent} (h : Run [s] n goals) :
    (∀ m : Assignment, m.Covers s.names → (m.Satisfies s ↔ ∀ g ∈ goals, m.Satisfies g)) ∧
    (∀ g ∈ goals, (∀ rule : Rule, rule.application? g = none) ↔
      ∀ f ∈ g.formulas, f.isAtomic = true) ∧
    n ≤ 2 ^ s.size - 1 ∧
    (∃ k final, Run goals k final ∧ IsMaximal final) ∧
    (IsMaximal goals → (∀ g ∈ goals, ∀ f ∈ g.formulas, f.isAtomic = true) ∧
      (s.Valid ↔ ∀ g ∈ goals, g.isAxiom = true)) := by
  have hnone : ∀ g : Sequent, (∀ rule : Rule, rule.premises g = []) ↔
      ∀ f ∈ g.formulas, f.isAtomic = true := fun g => by
    rw [Sequent.premises_nil_iff, List.all_eq_true]
  refine ⟨fun m hm => h.satisfies_iff hm, fun g _ => ?_, ?_, exists_maximal goals, fun hmax => ?_⟩
  · rw [← hnone]
    exact forall_congr' fun rule => Rule.application?_eq_none_iff
  · have := h.add_budget_le
    simp only [budget] at this
    omega
  · exact ⟨fun g hg => (hnone g).1 (isMaximal_iff.1 hmax g hg), h.valid_iff_of_isMaximal hmax⟩

/-- The swap of a conjunction, derived in two steps. -/
theorem derivation_verdict_swap :
    let p : Formula := .atom ⟨"p", by decide⟩
    let q : Formula := .atom ⟨"q", by decide⟩
    let s : Sequent := ⟨[.bin .conj p q], [.bin .conj q p]⟩
    Run [s] 2 [⟨[p, q], [q]⟩, ⟨[p, q], [p]⟩] ∧ 2 ≤ 2 ^ s.size - 1 ∧ s.Valid := by
  intro p q s
  have hrun : Run [s] 2 [⟨[p, q], [q]⟩, ⟨[p, q], [p]⟩] :=
    (Run.start.next ⟨.leftAnd, 0, rfl⟩).next ⟨.rightAnd, 0, rfl⟩
  obtain ⟨-, -, hbound, -, hverdict⟩ := derivation_verdict hrun
  have hmax : IsMaximal [⟨[p, q], [q]⟩, ⟨[p, q], [p]⟩] :=
    isMaximal_iff.2 fun g hg => g.premises_nil_iff.2 (by revert g; decide)
  exact ⟨hrun, hbound, (hverdict hmax).2.2 (by decide)⟩

end Turnstile.Derivation
