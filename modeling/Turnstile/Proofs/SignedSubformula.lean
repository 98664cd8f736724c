/-
# Formulas keep their signs in proof trees

Each subformula of a sequent has a sign. Conclusions are positive and assumptions negative,
the formula under a negation and the left operand of an implication have the opposite sign of
the whole, and other operands have the same one (`Formula.signed`, `Sequent.signed`). A rule
puts an operand on the side of its sign, so all that a premise has, signs included, the
sequent had already, and no occurrence is used twice (`Rule.signed_le_of_mem_premises`). By
induction along the branches this holds of every node of a proof tree
(`signed_subformula_property`).

Key definitions: `Sign`, `Side.sign`, `Formula.signed`, `Sequent.signed`, `Formula.IsPart`.
Key theorems: `Formula.signed_eq_parts`, `Formula.exists_mem_signed_iff`,
`Sequent.count_signed`, `Rule.signed_le_of_mem_premises`,
`signed_subformula_property`.
-/
import Mathlib.Data.Multiset.OrderedMonoid
import Turnstile.Proofs.Subformula

namespace Turnstile

/-! ### Signs -/

/-- The sign of a subformula. -/
inductive Sign where
  | positive
  | negative
deriving DecidableEq, Repr

/-- The opposite sign. -/
def Sign.flip : Sign → Sign
  | positive => negative
  | negative => positive

/-- The sign of the formulas on a side. -/
def Side.sign : Side → Sign
  | left => .negative
  | right => .positive

/-- The sign of the left operand of a binary formula. -/
def Binary.leftSign (b : Binary) (sign : Sign) : Sign := if b = .imp then sign.flip else sign

namespace Formula

/-- The occurrences of subformulas in a formula that has a sign, each with its own. -/
def signed (sign : Sign) : Formula → Multiset (Sign × Formula)
  | atom v => {(sign, atom v)}
  | neg f => (sign, neg f) ::ₘ f.signed sign.flip
  | bin b l r => (sign, bin b l r) ::ₘ (l.signed (b.leftSign sign) + r.signed sign)

/-- A formula is the other one or stands in it. -/
inductive IsPart (f : Formula) : Formula → Prop
  | self : IsPart f f
  | neg {g : Formula} (h : IsPart f g) : IsPart f (.neg g)
  | left {b : Binary} {l r : Formula} (h : IsPart f l) : IsPart f (.bin b l r)
  | right {b : Binary} {l r : Formula} (h : IsPart f r) : IsPart f (.bin b l r)

end Formula

/-- The occurrences of subformulas in a sequent with their signs. -/
def Sequent.signed (s : Sequent) : Multiset (Sign × Formula) :=
  (s.assumptions.map (Formula.signed .negative)).sum +
    (s.conclusions.map (Formula.signed .positive)).sum

namespace Formula

theorem self_mem_signed (sign : Sign) (f : Formula) : (sign, f) ∈ f.signed sign := by
  cases f <;> simp [signed]

theorem isPart_atom_iff {f : Formula} {v : Var} : f.IsPart (atom v) ↔ f = atom v := by
  constructor
  · intro h
    cases h
    rfl
  · rintro rfl
    exact .self

theorem isPart_neg_iff {f g : Formula} : f.IsPart (neg g) ↔ f = neg g ∨ f.IsPart g := by
  constructor
  · intro h
    cases h with
    | self => exact .inl rfl
    | neg h => exact .inr h
  · rintro (rfl | h)
    · exact .self
    · exact .neg h

theorem isPart_bin_iff {f l r : Formula} {b : Binary} :
    f.IsPart (bin b l r) ↔ f = bin b l r ∨ f.IsPart l ∨ f.IsPart r := by
  constructor
  · intro h
    cases h with
    | self => exact .inl rfl
    | left h => exact .inr (.inl h)
    | right h => exact .inr (.inr h)
  · rintro (rfl | h | h)
    · exact .self
    · exact .left h
    · exact .right h

/-- The occurrences with a sign are those of the subformulas. -/
theorem exists_mem_signed_iff {f g : Formula} {sign : Sign} :
    (∃ sign', (sign', f) ∈ g.signed sign) ↔ f.IsPart g := by
  induction g generalizing sign with
  | atom v => simp [signed, isPart_atom_iff]
  | neg g ih => simp [signed, isPart_neg_iff, exists_or, ih]
  | bin b l r ihl ihr => simp [signed, isPart_bin_iff, exists_or, ihl, ihr]

/-- The occurrences in a formula on a side are itself and those in its operands, on the sides
where rules put them. -/
theorem signed_eq_parts {c : Connective} {f : Formula} (hf : f.hasConnective c = true)
    (side : Side) : f.signed side.sign = {(side.sign, f)} +
      ((f.partsOn side).map fun p => p.2.signed p.1.sign).sum := by
  cases f with
  | atom v => simp at hf
  | neg f => cases side <;> simp [signed, partsOn, Side.other, Side.sign, Sign.flip]
  | bin b l r =>
    cases side <;> cases b <;>
      simp [signed, partsOn, Side.other, Side.sign, Sign.flip, Binary.leftSign]

end Formula

/-! ### Premises -/

section Count

variable (x : Sign × Formula)

theorem count_sum_map {α : Type} (g : α → Multiset (Sign × Formula)) (as : List α) :
    (as.map g).sum.count x = sumOver (fun a => (g a).count x) as := by
  induction as with
  | nil => rfl
  | cons a as ih => rw [List.map_cons, List.sum_cons, Multiset.count_add, ih, sumOver_cons]

/-- How often a formula occurs with a sign is counted formula by formula. -/
theorem Sequent.count_signed (s : Sequent) :
    s.signed.count x = s.total fun side f => (f.signed side.sign).count x := by
  rw [signed, Multiset.count_add, count_sum_map, count_sum_map]
  rfl

theorem Formula.totalOfParts_le_count {c : Connective} {f : Formula}
    (hf : f.hasConnective c = true) (side : Side) :
    f.totalOfParts (fun side f => (f.signed side.sign).count x) side ≤
      (f.signed side.sign).count x := by
  rw [signed_eq_parts hf, Multiset.count_add, count_sum_map]
  exact Nat.le_add_left _ _

end Count

/-- **Premises keep signs.** All occurrences of subformulas in a premise, with their signs,
are occurrences in the sequent. -/
theorem Rule.signed_le_of_mem_premises {rule : Rule} {s p : Sequent} (h : p ∈ rule.premises s) :
    p.signed ≤ s.signed := by
  rw [Multiset.le_iff_count]
  intro x
  rw [Sequent.count_signed, Sequent.count_signed]
  have hle := total_add_le_of_mem_premises _ 0 (fun f hf => by
    rw [Nat.zero_add]
    exact Formula.totalOfParts_le_count x hf rule.side) h
  rwa [Nat.zero_add] at hle

/-! ### Proof trees -/

namespace Sequent

theorem mem_sum_signed {sign : Sign} {x : Sign × Formula} {fs : List Formula} :
    x ∈ (fs.map (Formula.signed sign)).sum ↔ ∃ f ∈ fs, x ∈ f.signed sign := by
  induction fs with
  | nil => simp
  | cons f fs ih => simp [ih]

theorem mem_signed_iff {s : Sequent} {x : Sign × Formula} :
    x ∈ s.signed ↔ ∃ side, ∃ f ∈ s.on side, x ∈ f.signed side.sign := by
  rw [signed, Multiset.mem_add, mem_sum_signed, mem_sum_signed]
  constructor
  · rintro (h | h)
    · exact ⟨.left, h⟩
    · exact ⟨.right, h⟩
  · rintro ⟨_ | _, h⟩
    · exact .inl h
    · exact .inr h

/-- What has a sign in a sequent are the subformulas of its formulas. -/
theorem exists_mem_signed_iff {s : Sequent} {f : Formula} :
    (∃ sign, (sign, f) ∈ s.signed) ↔ ∃ g ∈ s.formulas, f.IsPart g := by
  constructor
  · rintro ⟨sign, hf⟩
    obtain ⟨side, g, hg, hf⟩ := mem_signed_iff.1 hf
    exact ⟨g, mem_formulas_iff.2 ⟨side, hg⟩, Formula.exists_mem_signed_iff.1 ⟨sign, hf⟩⟩
  · rintro ⟨g, hg, hpart⟩
    obtain ⟨side, hg⟩ := mem_formulas_iff.1 hg
    obtain ⟨sign, hf⟩ := Formula.exists_mem_signed_iff.2 hpart
    exact ⟨sign, mem_signed_iff.2 ⟨side, g, hg, hf⟩⟩

end Sequent

/-- **Formulas keep their signs in proof trees.** Each assumption of a node is a negative
subformula of the root and each conclusion a positive one. More than that, the occurrences of
subformulas in a node, with their signs, are occurrences in the root, and none is used twice.
In particular a node has no subformula and no variable that the root does not have. -/
theorem signed_subformula_property {rules : List Rule} {s : Sequent} {t : Tree}
    (h : (search rules s).result = .ok t) {n : Tree} (hn : n ∈ t.walk) :
    (∀ f ∈ n.sequent.assumptions, (Sign.negative, f) ∈ s.signed) ∧
    (∀ f ∈ n.sequent.conclusions, (Sign.positive, f) ∈ s.signed) ∧
    n.sequent.signed ≤ s.signed ∧
    (∀ f : Formula, ∀ g ∈ n.sequent.formulas, f.IsPart g → ∃ g' ∈ s.formulas, f.IsPart g') ∧
    n.sequent.names ⊆ s.names := by
  obtain ⟨rfl, hgrown⟩ := search_ok h
  have hsigned : n.sequent.signed ≤ t.sequent.signed :=
    hgrown.forall_walk (P := fun u => u.signed ≤ t.sequent.signed)
      (fun _ _ _ hs hp => (Rule.signed_le_of_mem_premises hp).trans hs) le_rfl n hn
  have hmem : ∀ side, ∀ f ∈ n.sequent.on side, (side.sign, f) ∈ t.sequent.signed :=
    fun side f hf => Multiset.mem_of_le hsigned
      (Sequent.mem_signed_iff.2 ⟨side, f, hf, Formula.self_mem_signed _ f⟩)
  refine ⟨hmem .left, hmem .right, hsigned, fun f g hg hpart => ?_, hgrown.names_subset n hn⟩
  obtain ⟨sign, hf⟩ := Sequent.exists_mem_signed_iff.2 ⟨g, hg, hpart⟩
  exact Sequent.exists_mem_signed_iff.1 ⟨sign, Multiset.mem_of_le hsigned hf⟩

/-- Under a negation an implication is an assumption, so its left operand comes to be a
conclusion again. -/
theorem signed_subformula_property_implication :
    let p : Formula := .atom ⟨"p", by decide⟩
    let q : Formula := .atom ⟨"q", by decide⟩
    let s : Sequent := ⟨[], [.neg (.bin .imp p q)]⟩
    let n : Tree := .node ⟨[], [p]⟩ none []
    let t : Tree := .node s (some "right-not") [.node ⟨[.bin .imp p q], []⟩ (some "left-imp")
      [.node ⟨[q], []⟩ none [], n]]
    (search Rule.all s).result = .ok t ∧ n ∈ t.walk ∧ (Sign.positive, p) ∈ s.signed := by
  intro p q s n t
  let a : Application := ⟨.rightNot, s, [⟨[.bin .imp p q], []⟩]⟩
  let b : Application := ⟨.leftImp, ⟨[.bin .imp p q], []⟩, [⟨[q], []⟩, ⟨[], [p]⟩]⟩
  have hrecord : Search.record Rule.all [s] =
      ⟨[.split a, .split b, .leaf ⟨[q], []⟩, .leaf ⟨[], [p]⟩], none⟩ := by
    rw [Search.record_split (a := a) rfl rfl, List.append_nil,
      Search.record_split (a := b) rfl rfl, List.append_nil, Search.record_finished _ rfl,
      Search.record_finished _ rfl, Search.record_nil]
  have hsearch : (search Rule.all s).result = .ok t := by
    rw [search_eq_ok_iff, hrecord]
    exact ⟨rfl, rfl⟩
  have hn : n ∈ t.walk := by simp [t, n, Tree.walk, Tree.walkAll]
  exact ⟨hsearch, hn, (signed_subformula_property hsearch hn).2.1 p (by simp [n, Tree.sequent])⟩

end Turnstile
