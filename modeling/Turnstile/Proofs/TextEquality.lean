/-
# What comparing texts decides

Formulas are compared by their texts, sequents by those of their formulas, and a
sequent is an axiom if a text stands on both sides. As a text is that of one formula
only, such comparisons are comparisons of trees: equal documents are equal formulas
or sequents (`Document.same_formula`, `Document.same_ofSequent`), and an axiom has a
formula on both sides. Whether a sequent is an axiom, finished or falsifiable then
depends on which formulas stand on a side, but neither on their order nor on how
often they do (`Sequent.Rearranges`).

Key definitions: `Sequent.Rearranges`.
Key theorems: `Document.same_formula`, `Document.same_ofSequent`,
`Sequent.Rearranges.isAxiom_eq`, `Sequent.Rearranges.isFinished_eq`,
`texts_identify`.
-/
import Turnstile.Document.Equality
import Turnstile.Proofs.Inversion

namespace Turnstile

/-! ### Equal documents -/

namespace Document

theorem same_formula (f g : Formula) : same (formula f) (formula g) = true ↔ f = g := by
  rw [same, beq_iff_eq, Formula.render_inj]

theorem sameAll_map_formula : ∀ fs gs : List Formula,
    sameAll (fs.map formula) (gs.map formula) = true ↔ fs = gs
  | [], [] => by simp [sameAll]
  | [], g :: gs => by simp [sameAll]
  | f :: fs, [] => by simp [sameAll]
  | f :: fs, g :: gs => by
    rw [List.map_cons, List.map_cons, sameAll, Bool.and_eq_true, same_formula,
      sameAll_map_formula fs gs, List.cons.injEq]

/-- Sequents are equal if the formulas on both sides are, one by one. -/
theorem same_ofSequent (s t : Sequent) : same (ofSequent s) (ofSequent t) = true ↔
    s.assumptions = t.assumptions ∧ s.conclusions = t.conclusions := by
  rw [ofSequent, ofSequent, same, Bool.and_eq_true, sameAll_map_formula, sameAll_map_formula]

end Document

/-! ### Order and repetition -/

namespace Sequent

/-- Both sequents have the same formulas on each side, in whatever order and however
often. -/
structure Rearranges (s t : Sequent) : Prop where
  assumptions : ∀ f, f ∈ s.assumptions ↔ f ∈ t.assumptions
  conclusions : ∀ f, f ∈ s.conclusions ↔ f ∈ t.conclusions

namespace Rearranges

variable {s t : Sequent}

theorem isAxiom_eq (h : s.Rearranges t) : s.isAxiom = t.isAxiom := by
  rw [Bool.eq_iff_iff, isAxiom_iff, isAxiom_iff]
  simp only [h.assumptions, h.conclusions]

theorem isFinished_eq (h : s.Rearranges t) : s.isFinished = t.isFinished := by
  have hatoms : s.formulas.all Formula.isAtomic = t.formulas.all Formula.isAtomic := by
    rw [Bool.eq_iff_iff, List.all_eq_true, List.all_eq_true]
    simp only [formulas, List.mem_append, h.assumptions, h.conclusions]
  rw [isFinished, isFinished, h.isAxiom_eq, hatoms]

theorem isFalsifiable_eq (h : s.Rearranges t) : s.isFalsifiable = t.isFalsifiable := by
  rw [isFalsifiable, isFalsifiable, h.isFinished_eq, h.isAxiom_eq]

end Rearranges

end Sequent

/-- **Texts identify formulas and sequents.** Formulas have one text, and are equal,
only if they are the same tree. Sequents have one text, and are equal, only if they
have the same trees on both sides in the same order. A sequent is an axiom if a tree
occurs on both sides, and neither that nor whether it is finished or falsifiable
changes when formulas are rearranged or repeated on their side. -/
theorem texts_identify :
    (∀ f g : Formula, (f.render = g.render ↔ f = g) ∧
      (Document.same (.formula f) (.formula g) = true ↔ f = g)) ∧
    (∀ s t : Sequent,
      (s.render = t.render ↔ Document.same (.ofSequent s) (.ofSequent t) = true) ∧
      (Document.same (.ofSequent s) (.ofSequent t) = true ↔
        s.assumptions = t.assumptions ∧ s.conclusions = t.conclusions)) ∧
    (∀ s : Sequent, s.isAxiom = true ↔ ∃ f, f ∈ s.assumptions ∧ f ∈ s.conclusions) ∧
    ∀ s t : Sequent, s.Rearranges t →
      s.isAxiom = t.isAxiom ∧ s.isFinished = t.isFinished ∧ s.isFalsifiable = t.isFalsifiable := by
  refine ⟨fun f g => ⟨Formula.render_inj, Document.same_formula f g⟩, fun s t => ?_,
    Sequent.isAxiom_iff, fun s t h => ⟨h.isAxiom_eq, h.isFinished_eq, h.isFalsifiable_eq⟩⟩
  have hsame := Document.same_ofSequent s t
  refine ⟨?_, hsame⟩
  rw [hsame, Sequent.render_inj]
  constructor
  · rintro rfl
    exact ⟨rfl, rfl⟩
  · rintro ⟨hleft, hright⟩
    cases s
    cases t
    cases hleft
    cases hright
    rfl

/-- The same formulas in another order and number close a sequent all the same. -/
theorem texts_identify_repeated :
    let p : Formula := .atom ⟨"p", by decide⟩
    let q : Formula := .atom ⟨"q", by decide⟩
    let s : Sequent := ⟨[.neg q, p, p], [q, .bin .imp p q, p]⟩
    let t : Sequent := ⟨[p, .neg q], [.bin .imp p q, p, q, p]⟩
    s.Rearranges t ∧ s.render ≠ t.render ∧ s.isAxiom = true ∧ t.isAxiom = true ∧
      s.isFinished = t.isFinished ∧ s.isFalsifiable = t.isFalsifiable := by
  intro p q s t
  have hrearranges : s.Rearranges t := by
    constructor
    · intro f
      simp only [s, t, List.mem_cons, List.not_mem_nil, or_false]
      tauto
    · intro f
      simp only [s, t, List.mem_cons, List.not_mem_nil, or_false]
      tauto
  obtain ⟨-, htexts, haxioms, hpredicates⟩ := texts_identify
  obtain ⟨hclosed, hfinished, hfalsifiable⟩ := hpredicates s t hrearranges
  have hs : s.isAxiom = true := (haxioms s).2 ⟨p, by simp [s], by simp [s]⟩
  have hne : s.render ≠ t.render := by
    intro h
    obtain ⟨hrender, hsame⟩ := htexts s t
    obtain ⟨hleft, -⟩ := hsame.1 (hrender.1 h)
    exact absurd (congrArg List.length hleft) (by decide)
  exact ⟨hrearranges, hne, hs, hclosed ▸ hs, hfinished, hfalsifiable⟩

end Turnstile
