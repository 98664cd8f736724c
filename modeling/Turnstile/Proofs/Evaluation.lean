/-
# What a formula is evaluated to

A formula is evaluated under a dictionary from names to values of any kind, which are
taken for what they count as (`Assignment.lookup_ofEntries`). Both operands of a
connective are evaluated, the left one first. So the evaluation fails if and only if
some leaf has a name without a value, and reports the leftmost such name
(`Formula.evaluate_of_missing`); otherwise the result says whether the formula holds in
classical logic (`Formula.evaluate_of_covers`).

The names of a formula are found by another walk, with a worklist on which the operands
of a formula take its place. It comes to its end after as many turns as the formula has
connectives and leaves (`Formula.turns?_gather`), with the names of all leaves. That the
two walks meet the same names is `evaluation_agrees`.

Key definitions: `Formula.Holds`, `Formula.turn?`, `Formula.turns?`.
Key theorems: `Assignment.lookup_ofEntries`, `Formula.truth_iff_holds`,
`Formula.evaluate_of_missing`, `Formula.evaluate_of_covers`,
`Formula.turns?_gather`, `evaluation_agrees`.
-/
import Turnstile.Proofs.OpenLeaf

namespace Turnstile

/-! ### Values of any kind -/

theorem Assignment.ofEntries_text_cons (name : String) (d : Data) (rest : List (Key × Data)) :
    ofEntries ((.text name, d) :: rest) = (name, d.isTruthy) :: ofEntries rest := rfl

/-- An assignment taken from a dictionary has a value for a name if the dictionary has,
and it is what the dictionary's value counts as. -/
theorem Assignment.lookup_ofEntries (name : String) (entries : List (Key × Data)) :
    (ofEntries entries).lookup name =
      (Entries.get? (.text name) entries).map Data.isTruthy := by
  induction entries with
  | nil => rfl
  | cons p rest ih =>
    obtain ⟨key, d⟩ := p
    by_cases hkey : key = .text name
    · subst hkey
      have hsame : (Key.text name == Key.text name) = true := Key.beq_text_iff.2 rfl
      rw [ofEntries_text_cons, lookup_cons, if_pos rfl, Entries.get?, if_pos hsame,
        Option.map_some]
    · have hother : ¬(key == Key.text name) = true := fun h => hkey (Key.beq_text_iff.1 h)
      rw [Entries.get?, if_neg hother, ← ih]
      cases key with
      | text other =>
        have hne : ¬name = other := fun h => hkey (by rw [h])
        rw [ofEntries_text_cons, lookup_cons, if_neg hne]
      | _ => rfl

namespace Formula

/-! ### Truth -/

/-- The formula holds in classical logic where the given names do. -/
def Holds (v : String → Prop) : Formula → Prop
  | atom x => v x.name
  | neg f => ¬f.Holds v
  | bin .conj l r => l.Holds v ∧ r.Holds v
  | bin .disj l r => l.Holds v ∨ r.Holds v
  | bin .imp l r => l.Holds v → r.Holds v

theorem truth_iff_holds (v : Valuation) : ∀ f : Formula,
    f.truth v = true ↔ f.Holds fun n => v n = true
  | atom x => Iff.rfl
  | neg f => by
    have hf := truth_iff_holds v f
    rw [truth, Holds, ← hf]
    simp
  | bin b l r => by
    have hl := truth_iff_holds v l
    have hr := truth_iff_holds v r
    cases b with
    | conj =>
      rw [truth, Holds, ← hl, ← hr]
      simp [Binary.apply]
    | disj =>
      rw [truth, Holds, ← hl, ← hr]
      simp [Binary.apply]
    | imp =>
      rw [truth, Holds, ← hl, ← hr]
      cases l.truth v <;> simp [Binary.apply]

/-! ### Evaluation -/

variable {m : Assignment}

theorem evaluate_of_covers {f : Formula} (h : m.Covers f.leafNames) :
    f.evaluate m = .ok (f.truth m.valuation) := evaluate_eq_truth fun _ hn => h.lookup_eq hn

theorem covers_of_find?_eq_none {names : List String}
    (h : names.find? (fun n => (m.lookup n).isNone) = none) : m.Covers names := by
  intro n hn
  have hvalue := List.find?_eq_none.1 h n hn
  rwa [Option.isNone_iff_eq_none, ← Ne, Option.ne_none_iff_isSome] at hvalue

/-- **The leftmost name without a value is reported.** The left operand comes first, and
the right one is evaluated whatever the left one is. -/
theorem evaluate_of_missing : ∀ {f : Formula} {n : String},
    f.leafNames.find? (fun k => (m.lookup k).isNone) = some n → f.evaluate m = .error ⟨n⟩
  | atom x, n, h => by
    obtain ⟨hnone, hname⟩ : m.lookup x.name = none ∧ x.name = n := by
      simpa [leafNames, List.find?_cons_eq_some] using h
    rw [evaluate, hnone, hname]
  | neg f, n, h => by
    have hf : f.evaluate m = .error ⟨n⟩ := evaluate_of_missing h
    rw [evaluate, hf]
    rfl
  | bin b l r, n, h => by
    rw [leafNames, List.find?_append] at h
    cases hl : l.leafNames.find? (fun k => (m.lookup k).isNone) with
    | some k =>
      rw [hl, Option.some_or, Option.some.injEq] at h
      subst h
      rw [evaluate, evaluate_of_missing hl]
      rfl
    | none =>
      rw [hl, Option.none_or] at h
      rw [evaluate, evaluate_of_covers (covers_of_find?_eq_none hl), evaluate_of_missing h]
      rfl

/-- An evaluation fails for the leftmost name without a value, and only if there is
one. -/
theorem evaluate_eq_error_iff {f : Formula} {n : String} :
    f.evaluate m = .error ⟨n⟩ ↔ f.leafNames.find? (fun k => (m.lookup k).isNone) = some n := by
  refine ⟨fun h => ?_, evaluate_of_missing⟩
  cases hfind : f.leafNames.find? (fun k => (m.lookup k).isNone) with
  | none =>
    rw [evaluate_of_covers (covers_of_find?_eq_none hfind)] at h
    cases h
  | some k =>
    rw [evaluate_of_missing hfind] at h
    cases h
    rfl

theorem exists_error_iff {f : Formula} :
    (∃ e, f.evaluate m = .error e) ↔ ∃ n ∈ f.leafNames, m.lookup n = none := by
  constructor
  · rintro ⟨⟨n⟩, herror⟩
    have hfind := evaluate_eq_error_iff.1 herror
    exact ⟨n, List.mem_of_find?_eq_some hfind, by simpa using List.find?_some hfind⟩
  · rintro ⟨n, hn, hnone⟩
    cases hfind : f.leafNames.find? (fun k => (m.lookup k).isNone) with
    | some k => exact ⟨⟨k⟩, evaluate_of_missing hfind⟩
    | none =>
      have hvalue := covers_of_find?_eq_none hfind n hn
      rw [hnone] at hvalue
      cases hvalue

/-- Only the values of the leaves matter. -/
theorem evaluate_congr {m' : Assignment} : ∀ {f : Formula},
    (∀ n ∈ f.leafNames, m.lookup n = m'.lookup n) → f.evaluate m = f.evaluate m'
  | atom x, h => by
    have hx : m.lookup x.name = m'.lookup x.name := h x.name (by simp [leafNames])
    rw [evaluate, evaluate, hx]
  | neg f, h => by
    have hf : f.evaluate m = f.evaluate m' := evaluate_congr h
    rw [evaluate, evaluate, hf]
  | bin b l r, h => by
    have hl : l.evaluate m = l.evaluate m' :=
      evaluate_congr fun n hn => h n (List.mem_append_left _ hn)
    have hr : r.evaluate m = r.evaluate m' :=
      evaluate_congr fun n hn => h n (List.mem_append_right _ hn)
    rw [evaluate, evaluate, hl, hr]

/-! ### The worklist -/

/-- One turn with a worklist and a set of names: the formula on top is taken off, a
variable gives its name to the set, and a compound formula its operands to the worklist,
the last one on top. An empty worklist has no turn. -/
def turn? : List Formula × List String → Option (List Formula × List String)
  | ([], _) => none
  | (atom v :: fs, names) => some (fs, Names.insert v.name names)
  | (f :: fs, names) => some (f.operands.reverse ++ fs, names)

/-- So many turns, one after the other. -/
def turns? : Nat → List Formula × List String → Option (List Formula × List String)
  | 0, s => some s
  | k + 1, s => (turn? s).bind (turns? k)

/-- The number of connectives and leaves on a worklist. -/
def nodeCount : List Formula → Nat
  | [] => 0
  | f :: fs => f.size + f.leafNames.length + nodeCount fs

/-- The worklist is empty after one turn for each connective and each leaf. -/
theorem turns?_gather (fs : List Formula) (names : List String) :
    turns? (nodeCount fs) (fs, names) = some ([], gather fs names) := by
  induction fs, names using gather.induct with
  | case1 names => rw [gather, nodeCount, turns?]
  | case2 v fs names ih =>
    have hcount : nodeCount (atom v :: fs) = nodeCount fs + 1 := by
      simp only [nodeCount, size, leafNames, List.length_singleton]
      omega
    rw [hcount, turns?, gather]
    exact ih
  | case3 f fs names ih =>
    have hcount : nodeCount (neg f :: fs) = nodeCount (f :: fs) + 1 := by
      simp only [nodeCount, size, leafNames]
      omega
    rw [hcount, turns?, gather]
    exact ih
  | case4 b l r fs names ih =>
    have hcount : nodeCount (bin b l r :: fs) = nodeCount (r :: l :: fs) + 1 := by
      simp only [nodeCount, size, leafNames, List.length_append]
      omega
    rw [hcount, turns?, gather]
    exact ih

end Formula

/-! ### Agreement -/

/-- **Evaluation, names and missing values agree.** The worklist of a formula comes to its
end with a set that has the names of the leaves and no others. The evaluation under a
dictionary fails if and only if one of these names has no value, and reports the leftmost
leaf without one. Otherwise it gives the classical truth value of the formula where each
value is taken for what it counts as, and values that count as the same give the same
result. -/
theorem evaluation_agrees (f : Formula) (m : List (Key × Data)) :
    let value (n : String) : Option Data := Entries.get? (.text n) m
    let result := f.evaluate (.ofEntries m)
    Formula.turns? (f.size + f.leafNames.length) ([f], []) = some ([], f.names) ∧
    Names.Increasing f.names ∧ (∀ n, n ∈ f.names ↔ n ∈ f.leafNames) ∧
    ((∃ e, result = .error e) ↔ ∃ n ∈ f.names, value n = none) ∧
    (∀ n, result = .error ⟨n⟩ ↔ f.leafNames.find? (fun k => (value k).isNone) = some n) ∧
    ((∀ n ∈ f.names, value n ≠ none) → ∃ b, result = .ok b ∧
      (b = true ↔ f.Holds fun n => ∃ d, value n = some d ∧ d.isTruthy = true)) ∧
    ∀ m' : List (Key × Data),
      (∀ n ∈ f.names,
        (value n).map Data.isTruthy = (Entries.get? (.text n) m').map Data.isTruthy) →
      f.evaluate (.ofEntries m') = result := by
  intro value result
  have hlookup : ∀ n, (Assignment.ofEntries m).lookup n = (value n).map Data.isTruthy :=
    fun n => Assignment.lookup_ofEntries n m
  refine ⟨?_, Formula.increasing_gather [f] [] List.Pairwise.nil, fun n => f.mem_names, ?_,
    fun n => ?_, fun hall => ?_, fun m' hsame => ?_⟩
  · exact Formula.turns?_gather [f] []
  · have hfails := Formula.exists_error_iff (m := .ofEntries m) (f := f)
    simpa only [hlookup, Option.map_eq_none_iff, ← f.mem_names] using hfails
  · have hreported := Formula.evaluate_eq_error_iff (m := .ofEntries m) (f := f) (n := n)
    simpa only [hlookup, Option.isNone_map] using hreported
  · have hcovers : (Assignment.ofEntries m).Covers f.leafNames := by
      intro n hn
      rw [hlookup, Option.isSome_map]
      exact Option.ne_none_iff_isSome.1 (hall n (f.mem_names.2 hn))
    have hcounts : (fun n => (Assignment.ofEntries m).valuation n = true) =
        fun n => ∃ d, value n = some d ∧ d.isTruthy = true := by
      funext n
      rw [Assignment.valuation, hlookup]
      cases value n <;> simp
    refine ⟨_, Formula.evaluate_of_covers hcovers, ?_⟩
    rw [Formula.truth_iff_holds, hcounts]
  · refine Formula.evaluate_congr fun n hn => ?_
    rw [hlookup, Assignment.lookup_ofEntries]
    exact (hsame n (f.mem_names.2 hn)).symm

/-- In `(p&&(q->r))` a false `p` does not keep `q` from being looked up. With a value for
`q` the formula is false, whatever kinds of values say so. -/
theorem evaluation_agrees_both_operands :
    let f : Formula := .bin .conj (.atom ⟨"p", by decide⟩)
      (.bin .imp (.atom ⟨"q", by decide⟩) (.atom ⟨"r", by decide⟩))
    let lacking : List (Key × Data) := [(.int 1, .null), (.text "p", .int 0)]
    let mixed : List (Key × Data) :=
      [(.text "r", .list []), (.text "q", .text "x"), (.text "p", .int 0)]
    let plain : List (Key × Data) :=
      [(.text "p", .bool false), (.text "q", .bool true), (.text "r", .bool false)]
    f.evaluate (.ofEntries lacking) = .error ⟨"q"⟩ ∧
    f.evaluate (.ofEntries mixed) = .ok false ∧
    f.evaluate (.ofEntries plain) = f.evaluate (.ofEntries mixed) := by
  intro f lacking mixed plain
  obtain ⟨-, -, -, -, hreported, -, -⟩ := evaluation_agrees f lacking
  obtain ⟨-, -, hnames, -, -, htotal, hsame⟩ := evaluation_agrees f mixed
  have hleaves : ∀ n, n ∈ f.names ↔ n ∈ ["p", "q", "r"] := hnames
  simp only [hleaves] at htotal hsame
  refine ⟨(hreported "q").2 rfl, ?_, hsame plain (by decide)⟩
  have hvalues : ∀ n ∈ ["p", "q", "r"], Entries.get? (.text n) mixed ≠ none := by
    intro n hn
    rw [Option.ne_none_iff_isSome]
    revert n
    decide
  obtain ⟨b, hb, hholds⟩ := htotal hvalues
  have hfalse : ¬b = true := by
    rw [hholds]
    rintro ⟨⟨d, hd, htruthy⟩, -⟩
    cases hd
    cases htruthy
  rw [hb, Bool.eq_false_iff.2 hfalse]

end Turnstile
