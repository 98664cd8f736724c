/-
# What premises are made of

A rule takes formulas apart and moves some of the parts to the other side of
the sequent: the formula under a negation and the left operand of an
implication. Each formula of a premise stands where it stood before, or is a
part of a formula that was there, on the side where parts of its kind go
(`Rule.mem_on_of_mem_premises`). What a rule hands on from a sequent to its
premises holds at every node of a grown tree (`Grown.forall_walk`). In
particular no new variable comes up (`Grown.names_subset`).

Key theorems: `Rule.mem_on_of_mem_premises`, `Grown.forall_walk`,
`Grown.names_subset`.
-/
import Turnstile.Proofs.Growth

namespace Turnstile

namespace Formula

theorem leafNames_subset_of_mem_partsOn {side target : Side} {f g : Formula}
    (h : (target, f) ∈ g.partsOn side) : f.leafNames ⊆ g.leafNames := by
  cases g with
  | atom v => simp [partsOn] at h
  | neg g =>
    simp only [partsOn, List.mem_singleton, Prod.mk.injEq] at h
    obtain ⟨-, rfl⟩ := h
    exact List.Subset.refl _
  | bin b l r =>
    have hf : f = l ∨ f = r := by
      cases b <;> simp only [partsOn, List.mem_cons, Prod.mk.injEq, List.not_mem_nil, or_false] at h
        <;> tauto
    rcases hf with rfl | rfl
    · exact List.subset_append_left _ _
    · exact List.subset_append_right _ _

end Formula

namespace Rule

/-- **Premises are made of parts.** A formula of a premise stood on its side
before, or is a part of a formula that was there and goes to that side. -/
theorem mem_on_of_mem_premises {rule : Rule} {s p : Sequent} (h : p ∈ rule.premises s)
    {side : Side} {f : Formula} (hf : f ∈ p.on side) :
    f ∈ s.on side ∨ ∃ start, ∃ g ∈ s.on start, (side, f) ∈ g.partsOn start := by
  let Made (side : Side) (f : Formula) : Prop :=
    f ∈ s.on side ∨ ∃ start, ∃ g ∈ s.on start, (side, f) ∈ g.partsOn start
  suffices hall : p.All Made from hall side f hf
  have hne : rule.premises s ≠ [] := List.ne_nil_of_mem h
  cases hbranches : rule.branches with
  | false =>
    rw [premises_eq_reduct hbranches (exists_takes_of_premises_ne_nil hne), List.mem_singleton] at h
    rw [h, all_reduct_iff]
    refine ⟨fun g hg => ?_, fun g hg => .inl hg⟩
    split_ifs
    · exact fun part hpart => .inr ⟨rule.side, g, hg, hpart⟩
    · exact .inl hg
  | true =>
    obtain ⟨before, g, after, others, -, hs, hpremises⟩ := exists_mem_premises_iff hbranches hne
    obtain ⟨part, hpart, rfl⟩ := (hpremises p).1 h
    have hmem : (Sequent.keep rule.side before after others (rule.side, g)).All
        fun side f => f ∈ s.on side := by
      rw [← hs]
      exact fun _ _ hf => hf
    obtain ⟨hg, haround, hothers⟩ := Sequent.all_keep_iff.1 hmem
    exact Sequent.all_keep_iff.2 ⟨.inr ⟨rule.side, g, hg, hpart⟩, fun f hf => .inl (haround f hf),
      fun f hf => .inl (hothers f hf)⟩

/-- No premise has a variable that the sequent does not have. -/
theorem names_subset_of_mem_premises {rule : Rule} {s p : Sequent} (h : p ∈ rule.premises s) :
    p.names ⊆ s.names := by
  intro n hn
  obtain ⟨f, hf, hn⟩ := (Sequent.mem_names p).1 hn
  obtain ⟨side, hf⟩ := Sequent.mem_formulas_iff.1 hf
  rw [Sequent.mem_names]
  rcases mem_on_of_mem_premises h hf with hf | ⟨start, g, hg, hpart⟩
  · exact ⟨f, Sequent.mem_formulas_iff.2 ⟨side, hf⟩, hn⟩
  · exact ⟨g, Sequent.mem_formulas_iff.2 ⟨start, hg⟩,
      Formula.leafNames_subset_of_mem_partsOn hpart hn⟩

end Rule

namespace Grown

variable {rules : List Rule} {t : Tree}

/-- What rules hand on from a sequent to its premises holds at every node of a
grown tree if it holds at the root. -/
theorem forall_walk (h : Grown rules t) {P : Sequent → Prop}
    (hstep : ∀ (rule : Rule) (s p : Sequent), P s → p ∈ rule.premises s → P p)
    (hroot : P t.sequent) : ∀ u ∈ t.walk, P u.sequent := by
  induction h with
  | leaf hfin =>
    intro u hu
    rw [Tree.walk, Tree.walkAll, List.mem_singleton] at hu
    exact hu ▸ hroot
  | @split s a ts _ hexp hts _ ih =>
    intro u hu
    rw [Tree.walk, Tree.walkAll_eq_flatMap, List.mem_cons, List.mem_flatMap] at hu
    rcases hu with rfl | ⟨t, ht, hu⟩
    · exact hroot
    · have hmem : t.sequent ∈ a.rule.premises s := by
        rw [← (expand?_some hexp).2.2.1, ← hts]
        exact List.mem_map_of_mem ht
      exact ih t ht (hstep a.rule s t.sequent hroot hmem) u hu

/-- The nodes of a grown tree have no variable that the root does not have. -/
theorem names_subset (h : Grown rules t) : ∀ u ∈ t.walk, u.sequent.names ⊆ t.sequent.names :=
  h.forall_walk (P := fun s => s.names ⊆ t.sequent.names)
    (fun _ _ _ hs hp => List.Subset.trans (Rule.names_subset_of_mem_premises hp) hs)
    (List.Subset.refl _)

end Grown

end Turnstile
