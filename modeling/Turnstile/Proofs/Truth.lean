/-
# Truth and validity

`Formula.evaluate` reads a finite assignment and may miss a name. Here it is
compared with truth under a valuation, which has a value for every name: an
assignment that gives each name of a formula the value that the valuation
gives it evaluates the formula to its truth value (`evaluate_eq_truth`). So a
sequent is valid, in terms of evaluation under the assignments of its names,
exactly if no valuation refutes it (`valid_iff_not_refuted`), and an assignment
of its names falsifies it exactly if the valuation of the assignment refutes it
(`falsifies_iff_refutedBy`).

Key definitions: `Valuation`, `Formula.leafNames`, `Formula.truth`,
`Assignment.Covers`, `Formula.Valid`, `Sequent.Valid`, `Sequent.RefutedBy`,
`Assignment.Falsifies`, `Assignment.Satisfies`.
Key theorems: `Formula.mem_names`, `Sequent.mem_names`,
`Formula.evaluate_eq_truth`, `Sequent.valid_iff_not_refuted`,
`Assignment.falsifies_iff_refutedBy`, `Assignment.satisfies_iff_not_refutedBy`.
-/
import Mathlib.Tactic.Common
import Turnstile.Sequent

namespace Turnstile

/-- A truth value for every name. -/
abbrev Valuation := String → Bool

/-! ### Names -/

theorem Names.mem_insert {n m : String} : ∀ {ms : List String},
    m ∈ Names.insert n ms ↔ m = n ∨ m ∈ ms
  | [] => by simp [Names.insert]
  | k :: ms => by
    rw [Names.insert]
    split_ifs with hlt heq
    · simp
    · simp [heq]
    · rw [List.mem_cons, Names.mem_insert, List.mem_cons]
      tauto

namespace Formula

/-- The names of the variables from left to right, with repetitions. -/
def leafNames : Formula → List String
  | atom v => [v.name]
  | neg f => f.leafNames
  | bin _ l r => l.leafNames ++ r.leafNames

/-- A worklist gathers the names that its formulas are made of. -/
theorem mem_gather {n : String} (fs : List Formula) (names : List String) :
    n ∈ gather fs names ↔ (∃ f ∈ fs, n ∈ f.leafNames) ∨ n ∈ names := by
  induction fs, names using gather.induct with
  | case1 names => simp [gather]
  | case2 v fs names ih =>
    rw [gather, ih, Names.mem_insert]
    simp [leafNames, or_assoc, or_left_comm]
  | case3 f fs names ih =>
    rw [gather, ih]
    simp [leafNames]
  | case4 b l r fs names ih =>
    rw [gather, ih]
    simp [leafNames, or_assoc, or_left_comm]

theorem mem_names {n : String} (f : Formula) : n ∈ f.names ↔ n ∈ f.leafNames := by
  simp [names, mem_gather]

/-- The truth value under a valuation. -/
def truth (v : Valuation) : Formula → Bool
  | atom x => v x.name
  | neg f => !f.truth v
  | bin b l r => b.apply (l.truth v) (r.truth v)

/-- An assignment that agrees with a valuation on the names of a formula
evaluates it to its truth value. -/
theorem evaluate_eq_truth {m : Assignment} {v : Valuation} : ∀ {f : Formula},
    (∀ n ∈ f.leafNames, m.lookup n = some (v n)) → f.evaluate m = .ok (f.truth v)
  | atom x, h => by
    have hx : m.lookup x.name = some (v x.name) := h x.name (by simp [leafNames])
    simp [evaluate, truth, hx]
  | neg f, h => by
    have hf : f.evaluate m = .ok (f.truth v) := evaluate_eq_truth h
    rw [evaluate, hf]
    rfl
  | bin b l r, h => by
    have hl : l.evaluate m = .ok (l.truth v) :=
      evaluate_eq_truth fun n hn => h n (List.mem_append_left _ hn)
    have hr : r.evaluate m = .ok (r.truth v) :=
      evaluate_eq_truth fun n hn => h n (List.mem_append_right _ hn)
    rw [evaluate, hl, hr]
    rfl

end Formula

namespace Sequent

theorem mem_names {n : String} (s : Sequent) :
    n ∈ s.names ↔ ∃ f ∈ s.formulas, n ∈ f.leafNames := by
  simp [names, Formula.mem_gather]

theorem mem_names_of_assumption {s : Sequent} {f : Formula} {n : String}
    (hf : f ∈ s.assumptions) (hn : n ∈ f.leafNames) : n ∈ s.names :=
  (mem_names s).2 ⟨f, List.mem_append_left _ hf, hn⟩

theorem mem_names_of_conclusion {s : Sequent} {f : Formula} {n : String}
    (hf : f ∈ s.conclusions) (hn : n ∈ f.leafNames) : n ∈ s.names :=
  (mem_names s).2 ⟨f, List.mem_append_right _ hf, hn⟩

theorem names_ofFormula (f : Formula) : (ofFormula f).names = f.names := rfl

end Sequent

/-! ### Assignments and valuations -/

namespace Assignment

/-- Whether every name of a list has a value. -/
def Covers (m : Assignment) (names : List String) : Prop := ∀ n ∈ names, (m.lookup n).isSome

/-- The valuation of an assignment: a name without a value is false. -/
def valuation (m : Assignment) : Valuation := fun n => (m.lookup n).getD false

/-- The assignment of the values that a valuation gives to names. -/
def ofValuation (v : Valuation) (names : List String) : Assignment := names.map fun n => (n, v n)

theorem lookup_cons (k n : String) (x : Bool) (m : Assignment) :
    List.lookup k ((n, x) :: m) = if k = n then some x else m.lookup k := by
  rw [List.lookup_cons]
  by_cases hk : k = n
  · simp [hk]
  · rw [beq_false_of_ne hk, if_neg hk]

theorem Covers.mono {m : Assignment} {names others : List String} (h : m.Covers names)
    (hsub : others ⊆ names) : m.Covers others := fun n hn => h n (hsub hn)

theorem Covers.lookup_eq {m : Assignment} {names : List String} {n : String}
    (h : m.Covers names) (hn : n ∈ names) : m.lookup n = some (m.valuation n) := by
  obtain ⟨x, hx⟩ := Option.isSome_iff_exists.1 (h n hn)
  simp [valuation, hx]

theorem lookup_ofValuation {v : Valuation} {n : String} : ∀ {names : List String},
    n ∈ names → (ofValuation v names).lookup n = some (v n)
  | k :: names, hn => by
    rw [ofValuation, List.map_cons, lookup_cons]
    split_ifs with hk
    · rw [hk]
    · exact lookup_ofValuation ((List.mem_cons.1 hn).resolve_left hk)

theorem covers_ofValuation (v : Valuation) (names : List String) :
    (ofValuation v names).Covers names := fun n hn => by simp [lookup_ofValuation hn]

end Assignment

/-! ### Validity -/

/-- A formula is valid if it evaluates to true under every assignment of its
variables. -/
def Formula.Valid (f : Formula) : Prop :=
  ∀ m : Assignment, m.Covers f.names → f.evaluate m = .ok true

namespace Sequent

/-- A sequent is valid if under every assignment of its variables that
evaluates all assumptions to true some conclusion evaluates to true. -/
def Valid (s : Sequent) : Prop :=
  ∀ m : Assignment, m.Covers s.names → (∀ f ∈ s.assumptions, f.evaluate m = .ok true) →
    ∃ g ∈ s.conclusions, g.evaluate m = .ok true

/-- A valuation refutes a sequent if it makes all assumptions true and all
conclusions false. -/
def RefutedBy (s : Sequent) (v : Valuation) : Prop :=
  (∀ f ∈ s.assumptions, f.truth v = true) ∧ ∀ g ∈ s.conclusions, g.truth v = false

instance (s : Sequent) (v : Valuation) : Decidable (s.RefutedBy v) :=
  inferInstanceAs (Decidable (_ ∧ _))

/-- What an assignment evaluates the formulas of a sequent to, if it agrees
with a valuation on the names of the sequent. -/
theorem evaluate_eq_truth {s : Sequent} {m : Assignment} {v : Valuation}
    (h : ∀ n ∈ s.names, m.lookup n = some (v n)) :
    (∀ f ∈ s.assumptions, f.evaluate m = .ok (f.truth v)) ∧
      ∀ g ∈ s.conclusions, g.evaluate m = .ok (g.truth v) :=
  ⟨fun _ hf => Formula.evaluate_eq_truth fun n hn => h n (mem_names_of_assumption hf hn),
    fun _ hg => Formula.evaluate_eq_truth fun n hn => h n (mem_names_of_conclusion hg hn)⟩

/-- **Validity is irrefutability.** Finite assignments of the names of a
sequent say as much as valuations of all names. -/
theorem valid_iff_not_refuted (s : Sequent) : s.Valid ↔ ∀ v, ¬ s.RefutedBy v := by
  constructor
  · rintro hvalid v ⟨has, hcs⟩
    obtain ⟨hea, hec⟩ := evaluate_eq_truth (s := s) (m := .ofValuation v s.names)
      fun n hn => Assignment.lookup_ofValuation hn
    obtain ⟨g, hg, he⟩ := hvalid _ (Assignment.covers_ofValuation v s.names)
      fun f hf => by rw [hea f hf, has f hf]
    rw [hec g hg, hcs g hg] at he
    simp at he
  · intro hnone m hm has
    obtain ⟨hea, hec⟩ := evaluate_eq_truth (s := s) (m := m) (v := m.valuation)
      fun n hn => hm.lookup_eq hn
    by_contra hno
    refine hnone m.valuation ⟨fun f hf => ?_, fun g hg => ?_⟩
    · have := has f hf
      rw [hea f hf] at this
      simpa using this
    · by_contra htrue
      rw [Bool.not_eq_false] at htrue
      exact hno ⟨g, hg, by rw [hec g hg, htrue]⟩

/-- A formula is valid if the sequent that asserts it is. -/
theorem valid_ofFormula (f : Formula) : (ofFormula f).Valid ↔ f.Valid := by
  rw [Valid, Formula.Valid, names_ofFormula]
  simp [ofFormula]

end Sequent

/-! ### Falsifying and satisfying assignments -/

namespace Assignment

/-- An assignment falsifies a sequent if it evaluates all assumptions to true
and all conclusions to false. -/
def Falsifies (m : Assignment) (s : Sequent) : Prop :=
  (∀ f ∈ s.assumptions, f.evaluate m = .ok true) ∧ ∀ g ∈ s.conclusions, g.evaluate m = .ok false

/-- An assignment satisfies a sequent if it evaluates some assumption to false
or some conclusion to true. -/
def Satisfies (m : Assignment) (s : Sequent) : Prop :=
  (∃ f ∈ s.assumptions, f.evaluate m = .ok false) ∨ ∃ g ∈ s.conclusions, g.evaluate m = .ok true

variable {m : Assignment} {s : Sequent}

/-- An assignment of all names of a sequent falsifies it exactly if its
valuation refutes it. -/
theorem falsifies_iff_refutedBy (h : m.Covers s.names) :
    m.Falsifies s ↔ s.RefutedBy m.valuation := by
  obtain ⟨hea, hec⟩ := Sequent.evaluate_eq_truth (v := m.valuation) fun n hn => h.lookup_eq hn
  have has : ∀ f ∈ s.assumptions, f.evaluate m = .ok true ↔ f.truth m.valuation = true :=
    fun f hf => by rw [hea f hf, Except.ok.injEq]
  have hcs : ∀ g ∈ s.conclusions, g.evaluate m = .ok false ↔ g.truth m.valuation = false :=
    fun g hg => by rw [hec g hg, Except.ok.injEq]
  exact and_congr (forall₂_congr has) (forall₂_congr hcs)

/-- An assignment of all names of a sequent satisfies it exactly if its
valuation does not refute it. -/
theorem satisfies_iff_not_refutedBy (h : m.Covers s.names) :
    m.Satisfies s ↔ ¬ s.RefutedBy m.valuation := by
  obtain ⟨hea, hec⟩ := Sequent.evaluate_eq_truth (v := m.valuation) fun n hn => h.lookup_eq hn
  have has : ∀ f ∈ s.assumptions, f.evaluate m = .ok false ↔ ¬ f.truth m.valuation = true :=
    fun f hf => by rw [hea f hf, Except.ok.injEq, Bool.not_eq_true]
  have hcs : ∀ g ∈ s.conclusions, g.evaluate m = .ok true ↔ ¬ g.truth m.valuation = false :=
    fun g hg => by rw [hec g hg, Except.ok.injEq, Bool.not_eq_false]
  simp only [Sequent.RefutedBy, not_and_or, not_forall, exists_prop]
  exact or_congr (exists_congr fun f => and_congr_right (has f))
    (exists_congr fun g => and_congr_right (hcs g))

end Assignment

end Turnstile
