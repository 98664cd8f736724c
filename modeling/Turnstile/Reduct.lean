/-
# What rules make of sequents

A rule applies exactly if a formula of its connective stands on its side
(`Rule.premises_eq_nil_iff`). The operands of a formula go to its own side, except for
the formula under a negation and the left operand of an implication, which go to the
other one (`Formula.partsOn`).

A rule that leads to one premise goes through its side once. A formula of its
connective gives way to those of its operands that stay on the side, in its place; the
others are put at the end of the other side, in order. That is one definition for the
five rules (`Rule.reduct`), and it is what their premises are
(`Rule.premises_eq_reduct`). A rule that branches takes the first formula of its
connective apart and has a premise for each operand, which comes in the place of the
formula or at the end of the other side (`Rule.exists_mem_premises_iff`).

What else is said of premises follows from these two. What is counted over a sequent
formula by formula falls by what the formulas taken apart have of their own
(`Rule.total_reduct`, `Rule.total_add_le_of_mem_premises`). The number of connectives is
counted in this way, and so each premise has fewer of them, which is why the search for
a proof ends.

Key definitions: `Sequent.on`, `Rule.connective`, `Formula.partsOn`, `Rule.takes`,
`Rule.reduct`, `Sequent.keep`, `Sequent.All`, `Sequent.total`.
Key theorems: `Rule.premises_eq_nil_iff`, `Rule.premises_eq_reduct`,
`Rule.exists_mem_premises_iff`, `Rule.total_reduct`, `Rule.size_lt_of_mem_premises`,
`Rule.length_premises_le`.
-/
import Turnstile.Rule

namespace Turnstile

/-! ### Sides -/

/-- The opposite side. -/
def Side.other : Side → Side
  | left => right
  | right => left

theorem Side.other_ne (side : Side) : side.other ≠ side := by
  cases side <;> decide

theorem Side.eq_other {side target : Side} (h : target ≠ side) : target = side.other := by
  cases side <;> cases target <;> first | rfl | exact absurd rfl h

namespace Sequent

/-- The formulas on a side. -/
def on (s : Sequent) : Side → List Formula
  | .left => s.assumptions
  | .right => s.conclusions

/-- The sequent with given formulas on a side and on the other one. -/
def ofSides (side : Side) (own others : List Formula) : Sequent :=
  match side with
  | .left => ⟨own, others⟩
  | .right => ⟨others, own⟩

section

variable (side : Side) (own others : List Formula)

@[simp] theorem on_ofSides : (ofSides side own others).on side = own := by
  cases side <;> rfl

@[simp] theorem on_other_ofSides : (ofSides side own others).on side.other = others := by
  cases side <;> rfl

end

/-- The sequent with a part of the formula that stood between others on a side: in its
place, or last on the other side. -/
def keep (side : Side) (before after others : List Formula) (part : Side × Formula) : Sequent :=
  if part.1 = side then ofSides side (before ++ part.2 :: after) others
  else ofSides side (before ++ after) (others ++ [part.2])

/-- All formulas of a sequent are as they should be on their side. -/
def All (P : Side → Formula → Prop) (s : Sequent) : Prop := ∀ side, ∀ f ∈ s.on side, P side f

theorem all_iff {P : Side → Formula → Prop} (side : Side) {s : Sequent} :
    s.All P ↔ (∀ f ∈ s.on side, P side f) ∧ ∀ f ∈ s.on side.other, P side.other f := by
  constructor
  · intro h
    exact ⟨h side, h side.other⟩
  · rintro ⟨hown, hothers⟩ target
    by_cases htarget : target = side
    · exact htarget ▸ hown
    · exact Side.eq_other htarget ▸ hothers

end Sequent

/-! ### Operands -/

namespace Formula

/-- The operands of a formula that stands on a side, each with the side where
a rule puts it. -/
def partsOn (side : Side) : Formula → List (Side × Formula)
  | atom _ => []
  | neg f => [(side.other, f)]
  | bin .imp l r => [(side.other, l), (side, r)]
  | bin _ l r => [(side, l), (side, r)]

/-- The operands of a formula on a side which a rule puts on the side `target`. -/
def partsTo (side target : Side) (f : Formula) : List Formula :=
  ((f.partsOn side).filter fun p => p.1 = target).map Prod.snd

theorem mem_partsTo_iff {side target : Side} {f g : Formula} :
    g ∈ f.partsTo side target ↔ (target, g) ∈ f.partsOn side := by
  simp [partsTo]

end Formula

namespace Rule

/-- The connective that a rule takes apart. -/
def connective : Rule → Connective
  | leftAnd => .binary .conj
  | rightOr => .binary .disj
  | rightImp => .binary .imp
  | leftNot => .neg
  | rightNot => .neg
  | leftImp => .binary .imp
  | leftOr => .binary .disj
  | rightAnd => .binary .conj

/-- Whether a rule takes a formula on its side apart. -/
def takes (rule : Rule) (f : Formula) : Bool := f.hasConnective rule.connective

/-- What a rule takes apart on its side, in order. -/
def taken (rule : Rule) (s : Sequent) : List Formula := (s.on rule.side).filter rule.takes

/-! ### When a rule applies -/

theorem splitFirst?_eq_none_iff (b : Binary) : ∀ fs : List Formula,
    splitFirst? b fs = none ↔ ∀ f ∈ fs, f.hasConnective (.binary b) = false
  | [] => by simp [splitFirst?]
  | f :: fs => by
    have ih := splitFirst?_eq_none_iff b fs
    cases f with
    | atom v => simp [splitFirst?, ih]
    | neg g => simp [splitFirst?, ih]
    | bin c l r =>
      by_cases hc : c = b
      · simp [splitFirst?, hc]
      · simp [splitFirst?, hc, ih, Ne.symm hc]

/-- The parts of a list around its first formula of connective `b`. -/
theorem eq_of_splitFirst? (b : Binary) : ∀ {fs before after : List Formula} {l r : Formula},
    splitFirst? b fs = some (before, l, r, after) → fs = before ++ .bin b l r :: after
  | [], _, _, _, _, h => by simp [splitFirst?] at h
  | f :: fs, before, after, l, r, h => by
    have step (g : Formula) (hg : (splitFirst? b fs).map (fun p => (g :: p.1, p.2)) =
        some (before, l, r, after)) : g :: fs = before ++ .bin b l r :: after := by
      obtain ⟨⟨bef, l', r', aft⟩, hs, he⟩ := Option.map_eq_some_iff.1 hg
      simp only [Prod.mk.injEq] at he
      obtain ⟨rfl, rfl, rfl, rfl⟩ := he
      simp [eq_of_splitFirst? b hs]
    cases f with
    | atom v => exact step _ h
    | neg g => exact step _ h
    | bin c l' r' =>
      by_cases hc : c = b
      · subst hc
        simp only [splitFirst?, if_true, Option.some.injEq, Prod.mk.injEq] at h
        obtain ⟨rfl, rfl, rfl, rfl⟩ := h
        rfl
      · simp only [splitFirst?, hc, if_false] at h
        exact step _ h

/-- A list with a formula of connective `b` is split at one. -/
theorem exists_splitFirst? (b : Binary) (fs : List Formula)
    (h : ∃ f ∈ fs, f.hasConnective (.binary b) = true) :
    ∃ before l r after, splitFirst? b fs = some (before, l, r, after) ∧
      fs = before ++ .bin b l r :: after := by
  obtain ⟨f, hf, hb⟩ := h
  cases hsplit : splitFirst? b fs with
  | none =>
    have hnone := (splitFirst?_eq_none_iff b fs).1 hsplit f hf
    rw [hb] at hnone
    cases hnone
  | some x =>
    obtain ⟨before, l, r, after⟩ := x
    exact ⟨before, l, r, after, rfl, eq_of_splitFirst? b hsplit⟩

/-- A rule does not apply exactly if its side holds no formula of its
connective. -/
theorem premises_eq_nil_iff (rule : Rule) (s : Sequent) :
    rule.premises s = [] ↔ ∀ f ∈ s.on rule.side, f.hasConnective rule.connective = false := by
  cases rule with
  | leftImp =>
    rw [side, connective, Sequent.on, ← splitFirst?_eq_none_iff]
    cases hs : splitFirst? .imp s.assumptions <;> simp [premises, hs]
  | leftOr =>
    rw [side, connective, Sequent.on, ← splitFirst?_eq_none_iff]
    cases hs : splitFirst? .disj s.assumptions <;> simp [premises, hs]
  | rightAnd =>
    rw [side, connective, Sequent.on, ← splitFirst?_eq_none_iff]
    cases hs : splitFirst? .conj s.conclusions <;> simp [premises, hs]
  | _ => simp [premises, Sequent.on, side, connective]

/-- A rule that applies takes some formula of its side apart. -/
theorem exists_takes_of_premises_ne_nil {rule : Rule} {s : Sequent} (h : rule.premises s ≠ []) :
    ∃ f ∈ s.on rule.side, rule.takes f = true := by
  refine Classical.byContradiction fun hnone => h ((rule.premises_eq_nil_iff s).2 fun f hf => ?_)
  exact Bool.eq_false_iff.2 fun htakes => hnone ⟨f, hf, htakes⟩

/-! ### Rules with one premise -/

/-- What a rule makes on the side `target` of a formula that stands on its own side. -/
def makes (rule : Rule) (target : Side) (f : Formula) : List Formula :=
  if rule.takes f then f.partsTo rule.side target
  else if target = rule.side then [f] else []

/-- A side of the sequent that a rule makes of another: what was there, if the rule does
not go through that side, and what it makes of the formulas that it goes through. -/
def reductOn (rule : Rule) (s : Sequent) (target : Side) : List Formula :=
  (if target = rule.side then [] else s.on target) ++
    (s.on rule.side).flatMap (rule.makes target)

/-- The sequent that a rule makes of another in one pass. -/
def reduct (rule : Rule) (s : Sequent) : Sequent := ⟨rule.reductOn s .left, rule.reductOn s .right⟩

theorem on_reduct (rule : Rule) (s : Sequent) (side : Side) :
    (rule.reduct s).on side = rule.reductOn s side := by
  cases side <;> rfl

theorem makes_leftAnd :
    leftAnd.makes .left = unfold .conj ∧ leftAnd.makes .right = fun _ => [] := by
  constructor <;> funext f <;> rcases f with _ | _ | ⟨_ | _ | _, _, _⟩ <;> rfl

theorem makes_rightOr :
    rightOr.makes .left = (fun _ => []) ∧ rightOr.makes .right = unfold .disj := by
  constructor <;> funext f <;> rcases f with _ | _ | ⟨_ | _ | _, _, _⟩ <;> rfl

theorem makes_rightImp : rightImp.makes .left = (fun f => (antecedent? f).toList) ∧
    rightImp.makes .right = fun f => [consequent f] := by
  constructor <;> funext f <;> rcases f with _ | _ | ⟨_ | _ | _, _, _⟩ <;> rfl

theorem makes_leftNot : leftNot.makes .left = (fun f => if !f.hasConnective .neg then [f] else []) ∧
    leftNot.makes .right = fun f => (negated? f).toList := by
  constructor <;> funext f <;> rcases f with _ | _ | ⟨_ | _ | _, _, _⟩ <;> rfl

theorem makes_rightNot : rightNot.makes .left = (fun f => (negated? f).toList) ∧
    rightNot.makes .right = fun f => if !f.hasConnective .neg then [f] else [] := by
  constructor <;> funext f <;> rcases f with _ | _ | ⟨_ | _ | _, _, _⟩ <;> rfl

end Rule

theorem flatMap_filter {α β : Type} (p : α → Bool) (g : α → List β) (xs : List α) :
    (xs.filter p).flatMap g = xs.flatMap fun x => if p x then g x else [] := by
  induction xs with
  | nil => rfl
  | cons x xs ih =>
    by_cases hp : p x = true
    · rw [List.filter_cons_of_pos hp, List.flatMap_cons, List.flatMap_cons, ih, if_pos hp]
    · rw [List.filter_cons_of_neg hp, List.flatMap_cons, ih, if_neg hp, List.nil_append]

theorem flatMap_toList {α β : Type} (g : α → Option β) (xs : List α) :
    (xs.flatMap fun x => (g x).toList) = xs.filterMap g := by
  induction xs with
  | nil => rfl
  | cons x xs ih => cases hx : g x <;> simp [hx, ih]

namespace Rule

/-- **The premise of a pass.** A rule with one premise leads to its reduct, if it takes some
formula apart. -/
theorem premises_eq_reduct {rule : Rule} (hone : rule.branches = false) {s : Sequent}
    (hsome : ∃ f ∈ s.on rule.side, rule.takes f = true) : rule.premises s = [rule.reduct s] := by
  have hany : (s.on rule.side).any rule.takes = true := List.any_eq_true.2 hsome
  obtain ⟨as, cs⟩ := s
  cases rule with
  | leftAnd =>
    refine (if_pos hany).trans ?_
    simp [reduct, reductOn, side, Sequent.on, makes_leftAnd]
  | rightOr =>
    refine (if_pos hany).trans ?_
    simp [reduct, reductOn, side, Sequent.on, makes_rightOr]
  | rightImp =>
    refine (if_pos hany).trans ?_
    simp [reduct, reductOn, side, Sequent.on, makes_rightImp, List.map_eq_flatMap, flatMap_toList]
  | leftNot =>
    refine (if_pos hany).trans ?_
    rw [reduct, reductOn, reductOn, makes_leftNot.1, makes_leftNot.2, ← flatMap_filter,
      List.flatMap_singleton', flatMap_toList]
    rfl
  | rightNot =>
    refine (if_pos hany).trans ?_
    rw [reduct, reductOn, reductOn, makes_rightNot.1, makes_rightNot.2, ← flatMap_filter,
      List.flatMap_singleton', flatMap_toList]
    rfl
  | leftImp => simp [branches] at hone
  | leftOr => simp [branches] at hone
  | rightAnd => simp [branches] at hone

theorem mem_makes_iff {rule : Rule} {target : Side} {f g : Formula} :
    g ∈ rule.makes target f ↔ rule.takes f = true ∧ (target, g) ∈ f.partsOn rule.side ∨
      rule.takes f = false ∧ target = rule.side ∧ g = f := by
  unfold makes
  cases htakes : rule.takes f with
  | true => simp [Formula.mem_partsTo_iff]
  | false => by_cases htarget : target = rule.side <;> simp [htarget]

theorem mem_on_reduct_iff {rule : Rule} {s : Sequent} {target : Side} {g : Formula} :
    g ∈ (rule.reduct s).on target ↔ target ≠ rule.side ∧ g ∈ s.on target ∨
      ∃ f ∈ s.on rule.side, g ∈ rule.makes target f := by
  rw [on_reduct, reductOn, List.mem_append, List.mem_flatMap]
  by_cases htarget : target = rule.side <;> simp [htarget]

/-- What holds all over a reduct holds of what the rule leaves alone and of the operands of
what it takes apart. -/
theorem all_reduct_iff (rule : Rule) {P : Side → Formula → Prop} {s : Sequent} :
    (rule.reduct s).All P ↔
      (∀ f ∈ s.on rule.side, if rule.takes f then ∀ part ∈ f.partsOn rule.side, P part.1 part.2
        else P rule.side f) ∧ ∀ f ∈ s.on rule.side.other, P rule.side.other f := by
  constructor
  · intro h
    refine ⟨fun f hf => ?_, fun f hf => h _ f (mem_on_reduct_iff.2 (.inl ⟨Side.other_ne _, hf⟩))⟩
    split
    next htakes =>
      intro part hpart
      exact h _ _ (mem_on_reduct_iff.2 (.inr ⟨f, hf, mem_makes_iff.2 (.inl ⟨htakes, hpart⟩)⟩))
    next htakes =>
      have hmade : f ∈ rule.makes rule.side f :=
        mem_makes_iff.2 (.inr ⟨Bool.eq_false_iff.2 htakes, rfl, rfl⟩)
      exact h _ _ (mem_on_reduct_iff.2 (.inr ⟨f, hf, hmade⟩))
  · rintro ⟨hown, hothers⟩ target g hg
    rcases mem_on_reduct_iff.1 hg with ⟨htarget, hg⟩ | ⟨f, hf, hg⟩
    · obtain rfl := Side.eq_other htarget
      exact hothers g hg
    · have hf := hown f hf
      rcases mem_makes_iff.1 hg with ⟨htakes, hpart⟩ | ⟨htakes, rfl, rfl⟩
      · rw [if_pos htakes] at hf
        exact hf _ hpart
      · rwa [htakes] at hf

/-! ### Rules that branch -/

/-- **The premises of a branching rule.** There is one for each operand of a formula on the
side of the rule, which it takes apart. -/
theorem exists_mem_premises_iff {rule : Rule} (hbranches : rule.branches = true) {s : Sequent}
    (hne : rule.premises s ≠ []) :
    ∃ before f after others, rule.takes f = true ∧
      s = .keep rule.side before after others (rule.side, f) ∧
      ∀ p, p ∈ rule.premises s ↔
        ∃ part ∈ f.partsOn rule.side, p = .keep rule.side before after others part := by
  have hsome := exists_takes_of_premises_ne_nil hne
  obtain ⟨as, cs⟩ := s
  cases rule with
  | leftImp =>
    obtain ⟨before, l, r, after, hsplit, rfl⟩ := exists_splitFirst? .imp as hsome
    refine ⟨before, .bin .imp l r, after, cs, by simp [takes, connective], rfl, fun p => ?_⟩
    simp [premises, hsplit, Formula.partsOn, Sequent.keep, Sequent.ofSides, side, Side.other,
      or_comm]
  | leftOr =>
    obtain ⟨before, l, r, after, hsplit, rfl⟩ := exists_splitFirst? .disj as hsome
    refine ⟨before, .bin .disj l r, after, cs, by simp [takes, connective], rfl, fun p => ?_⟩
    simp [premises, hsplit, Formula.partsOn, Sequent.keep, Sequent.ofSides, side]
  | rightAnd =>
    obtain ⟨before, l, r, after, hsplit, rfl⟩ := exists_splitFirst? .conj cs hsome
    refine ⟨before, .bin .conj l r, after, as, by simp [takes, connective], rfl, fun p => ?_⟩
    simp [premises, hsplit, Formula.partsOn, Sequent.keep, Sequent.ofSides, side]
  | leftAnd | rightOr | rightImp | leftNot | rightNot => simp [branches] at hbranches

end Rule

/-- What holds all over a sequent with a part of a formula holds of the part and of the
formulas around it. -/
theorem Sequent.all_keep_iff {P : Side → Formula → Prop} {side : Side}
    {before after others : List Formula} {part : Side × Formula} :
    (keep side before after others part).All P ↔
      P part.1 part.2 ∧ (∀ f ∈ before ++ after, P side f) ∧ ∀ f ∈ others, P side.other f := by
  obtain ⟨target, g⟩ := part
  rw [all_iff side, keep]
  by_cases htarget : target = side
  · simp [htarget, or_imp, forall_and, and_assoc, and_left_comm]
  · obtain rfl := Side.eq_other htarget
    have hlast : (∀ f ∈ others ++ [g], P side.other f) ↔
        (∀ f ∈ others, P side.other f) ∧ P side.other g := by simp [or_imp, forall_and]
    rw [if_neg htarget, on_ofSides, on_other_ofSides, hlast, ← and_assoc, and_comm]

/-! ### What is counted formula by formula -/

/-- The sum of a measure over a list. -/
def sumOver {α : Type} (μ : α → Nat) : List α → Nat
  | [] => 0
  | a :: as => μ a + sumOver μ as

section SumOver

variable {α : Type} (μ : α → Nat)

@[simp] theorem sumOver_nil : sumOver μ [] = 0 := rfl

@[simp] theorem sumOver_cons (a : α) (as : List α) : sumOver μ (a :: as) = μ a + sumOver μ as := rfl

@[simp] theorem sumOver_append (as bs : List α) :
    sumOver μ (as ++ bs) = sumOver μ as + sumOver μ bs := by
  induction as with
  | nil => simp
  | cons a as ih => simp [ih, Nat.add_assoc]

theorem le_sumOver_of_mem {a : α} {as : List α} (h : a ∈ as) : μ a ≤ sumOver μ as := by
  obtain ⟨before, after, rfl⟩ := List.append_of_mem h
  rw [sumOver_append, sumOver_cons]
  omega

theorem sumOver_one (as : List α) : sumOver (fun _ => 1) as = as.length := by
  induction as with
  | nil => rfl
  | cons a as ih => rw [sumOver_cons, ih, List.length_cons, Nat.add_comm]

end SumOver

section Total

variable (μ : Side → Formula → Nat)

/-- The sum of what each formula of a sequent has on its side. -/
def Sequent.total (s : Sequent) : Nat :=
  sumOver (μ .left) (s.on .left) + sumOver (μ .right) (s.on .right)

/-- The sum of what the operands of a formula have on the sides where rules put them. -/
def Formula.totalOfParts (side : Side) (f : Formula) : Nat :=
  sumOver (fun p => μ p.1 p.2) (f.partsOn side)

/-- A sum over two sides may start with either. -/
theorem Sequent.total_eq (side : Side) (s : Sequent) :
    s.total μ = sumOver (μ side) (s.on side) + sumOver (μ side.other) (s.on side.other) := by
  cases side with
  | left => rfl
  | right => exact Nat.add_comm _ _

theorem Sequent.total_keep (side : Side) (before after others : List Formula)
    (part : Side × Formula) :
    (keep side before after others part).total μ = μ part.1 part.2 +
      (sumOver (μ side) (before ++ after) + sumOver (μ side.other) others) := by
  obtain ⟨target, g⟩ := part
  rw [total_eq μ side, keep]
  by_cases htarget : target = side
  · rw [if_pos htarget, on_ofSides, on_other_ofSides, htarget]
    simp only [sumOver_append, sumOver_cons]
    omega
  · rw [if_neg htarget, on_ofSides, on_other_ofSides, Side.eq_other htarget]
    simp only [sumOver_append, sumOver_cons, sumOver_nil]
    omega

theorem Formula.totalOfParts_eq (side : Side) (f : Formula) :
    f.totalOfParts μ side = sumOver (μ side) (f.partsTo side side) +
      sumOver (μ side.other) (f.partsTo side side.other) := by
  rcases f with _ | _ | ⟨_ | _ | _, _, _⟩ <;> cases side <;>
    simp [totalOfParts, partsTo, partsOn, Side.other, Nat.add_comm]

namespace Rule

variable (rule : Rule) (ε : Formula → Nat)
  (hμ : ∀ f, rule.takes f = true → μ rule.side f = ε f + f.totalOfParts μ rule.side)

include hμ

/-- What a rule makes of the formulas that it goes through has all that they have, less what
those that it takes apart have of their own. -/
theorem total_makes (fs : List Formula) :
    sumOver (μ rule.side) (fs.flatMap (rule.makes rule.side)) +
      sumOver (μ rule.side.other) (fs.flatMap (rule.makes rule.side.other)) +
        sumOver ε (fs.filter rule.takes) = sumOver (μ rule.side) fs := by
  induction fs with
  | nil => rfl
  | cons f fs ih =>
    by_cases hf : rule.takes f = true
    · rw [List.filter_cons_of_pos hf, sumOver_cons, sumOver_cons, ← ih, hμ f hf,
        Formula.totalOfParts_eq]
      simp only [List.flatMap_cons, makes, hf, if_true, sumOver_append]
      omega
    · rw [List.filter_cons_of_neg hf, sumOver_cons, ← ih]
      simp only [List.flatMap_cons, makes, hf, Side.other_ne, Bool.false_eq_true, if_true, if_false,
        sumOver_append, sumOver_cons, sumOver_nil]
      omega

/-- **What a pass takes away.** The sum over a sequent is that over its reduct and what the
formulas taken apart have of their own. -/
theorem total_reduct (s : Sequent) :
    (rule.reduct s).total μ + sumOver ε (rule.taken s) = s.total μ := by
  have hmakes := rule.total_makes μ ε hμ (s.on rule.side)
  rw [Sequent.total_eq μ rule.side, Sequent.total_eq μ rule.side s, ← hmakes, on_reduct, on_reduct,
    reductOn, reductOn, if_pos rfl, if_neg rule.side.other_ne, List.nil_append, sumOver_append,
    taken]
  omega

end Rule

/-- **What premises have less.** If a formula that the rule takes apart has `k` more than its
operands, each premise has at least `k` less than the sequent. -/
theorem Rule.total_add_le_of_mem_premises {rule : Rule} (k : Nat)
    (hμ : ∀ f, rule.takes f = true → k + f.totalOfParts μ rule.side ≤ μ rule.side f)
    {s p : Sequent} (h : p ∈ rule.premises s) : k + p.total μ ≤ s.total μ := by
  have hne : rule.premises s ≠ [] := List.ne_nil_of_mem h
  cases hbranches : rule.branches with
  | false =>
    obtain ⟨f, hf, htakes⟩ := exists_takes_of_premises_ne_nil hne
    rw [premises_eq_reduct hbranches ⟨f, hf, htakes⟩, List.mem_singleton] at h
    -- what a formula has of its own is what its operands leave
    let own (f : Formula) := μ rule.side f - f.totalOfParts μ rule.side
    have hown : ∀ f, rule.takes f = true → k ≤ own f := fun f htakes =>
      Nat.le_sub_of_add_le (hμ f htakes)
    have htotal := rule.total_reduct μ own (fun f htakes =>
      (Nat.sub_add_cancel (Nat.le_trans (Nat.le_add_left _ _) (hμ f htakes))).symm) s
    have hsum : own f ≤ sumOver own (rule.taken s) :=
      le_sumOver_of_mem own (List.mem_filter.2 ⟨hf, htakes⟩)
    have := hown f htakes
    rw [h]
    omega
  | true =>
    obtain ⟨before, f, after, others, htakes, rfl, hpremises⟩ :=
      exists_mem_premises_iff hbranches hne
    obtain ⟨part, hpart, rfl⟩ := (hpremises p).1 h
    have hle := le_sumOver_of_mem (fun p => μ p.1 p.2) hpart
    have hmore := hμ f htakes
    rw [Formula.totalOfParts] at hmore
    simp only [Sequent.total_keep]
    omega

end Total

/-! ### Connectives -/

theorem sizeOfAll_eq_sumOver (fs : List Formula) : sizeOfAll fs = sumOver Formula.size fs := by
  induction fs with
  | nil => rfl
  | cons f fs ih => rw [sizeOfAll, ih, sumOver_cons]

theorem Sequent.size_eq_total (s : Sequent) : s.size = s.total fun _ f => f.size := by
  rw [size, sizeOfAll_eq_sumOver, formulas, sumOver_append]
  rfl

/-- A formula with a connective has one more than its operands. -/
theorem Formula.size_eq_totalOfParts {c : Connective} {f : Formula} (hf : f.hasConnective c = true)
    (side : Side) : f.size = 1 + f.totalOfParts (fun _ f => f.size) side := by
  cases f with
  | atom v => simp at hf
  | neg f => simp [size, totalOfParts, partsOn]
  | bin b l r => cases b <;> simp [size, totalOfParts, partsOn]

namespace Rule

/-- A pass removes one connective for each formula that it takes apart. -/
theorem size_reduct (rule : Rule) (s : Sequent) :
    (rule.reduct s).size + (rule.taken s).length = s.size := by
  have htotal := rule.total_reduct (fun _ f => f.size) (fun _ => 1)
    (fun f hf => Formula.size_eq_totalOfParts hf rule.side) s
  rw [sumOver_one] at htotal
  rw [Sequent.size_eq_total, Sequent.size_eq_total s, htotal]

/-- **Premises are smaller.** Each premise has fewer connectives than the
sequent that the rule was applied to. -/
theorem size_lt_of_mem_premises {rule : Rule} {s p : Sequent} (h : p ∈ rule.premises s) :
    p.size < s.size := by
  have hle := total_add_le_of_mem_premises (fun _ f => f.size) 1
    (fun f hf => Nat.le_of_eq (Formula.size_eq_totalOfParts hf rule.side).symm) h
  rw [Sequent.size_eq_total, Sequent.size_eq_total s]
  omega

/-- No rule leads to more than two premises. -/
theorem length_premises_le (rule : Rule) (s : Sequent) : (rule.premises s).length ≤ 2 := by
  cases rule <;> simp only [premises] <;> split <;> simp

end Rule

end Turnstile
