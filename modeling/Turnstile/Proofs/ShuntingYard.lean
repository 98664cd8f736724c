/-
# What a token does to the stacks

What the parser does is said once here. An operator that takes its operands is a
connective and puts the formula made of them in their place (`apply_ok`), so a loop
over the operators settles the longest run of them that it may take and leaves the
rest (`applyWhile_ok`); without a limit it succeeds if they settle
(`applyWhile_of_settle?`). A token is taken in one of five ways
(`takes_of_step`, `step_of_takes`). What every token keeps is kept by a run
(`run_keeps`), and at the end all operators are settled (`finish_ok`).

Key definitions: `Stacks.combine?`, `Stacks.settle?`, `Stacks.Takes`,
`Stacks.IsSentenceFault`, `Token.IsProper`.
Key theorems: `Stacks.apply_ok`, `Stacks.applyWhile_ok`,
`Stacks.applyWhile_of_settle?`, `Stacks.takes_of_step`, `Stacks.step_of_takes`,
`Stacks.run_keeps`, `Stacks.finish_ok`.
-/
import Mathlib.Data.List.TakeWhile
import Turnstile.Proofs.Grammar

namespace Turnstile

namespace Halt

variable {α β : Type} {x : Except Halt α} {k : α → Except Halt β}

theorem bind_eq_ok {b : β} : (x >>= k) = .ok b ↔ ∃ a, x = .ok a ∧ k a = .ok b := by
  cases x with
  | error e =>
    constructor
    · intro h
      cases h
    · rintro ⟨a, ha, -⟩
      cases ha
  | ok a =>
    constructor
    · intro h
      exact ⟨a, rfl, h⟩
    · rintro ⟨a', ha, h⟩
      cases ha
      exact h

theorem bind_eq_error {e : Halt} :
    (x >>= k) = .error e ↔ x = .error e ∨ ∃ a, x = .ok a ∧ k a = .error e := by
  cases x with
  | error e' =>
    constructor
    · intro h
      cases h
      exact .inl rfl
    · rintro (h | ⟨a, ha, -⟩)
      · cases h
        rfl
      · cases ha
  | ok a =>
    constructor
    · intro h
      exact .inr ⟨a, rfl, h⟩
    · rintro (h | ⟨a', ha, h⟩)
      · cases h
      · cases ha
        exact h

end Halt

namespace Stacks

variable {limit : Option Limit} {s s' : Stacks} {t : Token}

/-! ### Settling operators -/

/-- The pile after a connective has taken its operands off it and put the
compound formula on it. -/
def combine? : Connective → List Formula → Option (List Formula)
  | .neg, f :: fs => some (.neg f :: fs)
  | .binary b, r :: l :: fs => some (.bin b l r :: fs)
  | _, _ => none

/-- The pile after operators, the top of their stack first, have taken their
operands. Only connectives have operands. -/
def settle? : List Token → List Formula → Option (List Formula)
  | [], fs => some fs
  | t :: ts, fs =>
    match t.kind with
    | .connective c => (combine? c fs).bind (settle? ts)
    | _ => none

theorem combine?_neg_eq_some {w w' : List Formula} (h : combine? .neg w = some w') :
    ∃ f v, w = f :: v ∧ w' = .neg f :: v := by
  match w with
  | f :: v => exact ⟨f, v, rfl, (Option.some.inj h).symm⟩

theorem combine?_binary_eq_some {b : Binary} {w w' : List Formula}
    (h : combine? (.binary b) w = some w') : ∃ l r v, w = r :: l :: v ∧ w' = .bin b l r :: v := by
  match w with
  | r :: l :: v => exact ⟨l, r, v, rfl, (Option.some.inj h).symm⟩

theorem settle?_cons {c : Connective} (hkind : t.kind = .connective c) (ts : List Token)
    (fs : List Formula) : settle? (t :: ts) fs = (combine? c fs).bind (settle? ts) := by
  rw [settle?, hkind]

theorem settle?_cons_eq_some {ts : List Token} {fs gs : List Formula}
    (h : settle? (t :: ts) fs = some gs) :
    ∃ c v, t.kind = .connective c ∧ combine? c fs = some v ∧ settle? ts v = some gs := by
  rw [settle?] at h
  split at h
  next c hkind =>
    obtain ⟨v, hcombine, hset⟩ := Option.bind_eq_some_iff.1 h
    exact ⟨c, v, hkind, hcombine, hset⟩
  next => cases h

theorem settle?_append : ∀ (ts us : List Token) (fs : List Formula),
    settle? (ts ++ us) fs = (settle? ts fs).bind (settle? us)
  | [], us, fs => rfl
  | t :: ts, us, fs => by
    rw [List.cons_append, settle?, settle?]
    split
    next c _ =>
      rw [Option.bind_assoc]
      exact congrArg _ (funext fun gs => settle?_append ts us gs)
    next => rfl

/-! ### Operators that take their operands -/

theorem push_ok {f : Formula} (h : push limit f s = .ok s') :
    s' = { s with operands := f :: s.operands, built := f :: s.built } := by
  unfold push at h
  split at h
  · cases h
    rfl
  · split at h <;> cases h
    rfl

/-- An operator that takes its operands is a connective, and puts the formula made
of them in their place. -/
theorem apply_ok (h : apply limit t s = .ok s') :
    ∃ c g rest, t.kind = .connective c ∧ combine? c s.operands = some (g :: rest) ∧
      s' = ⟨s.operators, g :: rest, s.afterOperand, g :: s.built⟩ := by
  unfold apply at h
  split at h
  next hkind =>
    split at h
    next f rest hops => exact ⟨.neg, .neg f, rest, hkind, by rw [hops, combine?], push_ok h⟩
    next => cases h
  next b hkind =>
    split at h
    next r l rest hops =>
      exact ⟨.binary b, .bin b l r, rest, hkind, by rw [hops, combine?], push_ok h⟩
    next => cases h
  next => cases h

theorem operators_apply (h : apply limit t s = .ok s') : s'.operators = s.operators := by
  obtain ⟨c, g, rest, -, -, rfl⟩ := apply_ok h
  rfl

/-- Without a limit an operator takes the operands that are there. -/
theorem apply_of_combine? {c : Connective} {v : List Formula} (hkind : t.kind = .connective c)
    (h : combine? c s.operands = some v) :
    ∃ built, apply none t s = .ok ⟨s.operators, v, s.afterOperand, built⟩ := by
  cases c with
  | neg =>
    obtain ⟨f, v, hops, rfl⟩ := combine?_neg_eq_some h
    exact ⟨.neg f :: s.built, by rw [apply, hkind]; simp only [hops, push]⟩
  | binary b =>
    obtain ⟨l, r, v, hops, rfl⟩ := combine?_binary_eq_some h
    exact ⟨.bin b l r :: s.built, by rw [apply, hkind]; simp only [hops, push]⟩

/-- **A loop settles the longest run of operators that it may take**, and leaves
the rest on the stack. -/
theorem applyWhile_ok {p : TokenKind → Bool} : ∀ {ts : List Token} {s s' : Stacks},
    applyWhile limit p ts s = .ok s' →
      settle? (ts.takeWhile fun t => p t.kind) s.operands = some s'.operands ∧
      s'.operators = (ts.dropWhile fun t => p t.kind) ∧ s'.afterOperand = s.afterOperand
  | [], s, s', h => by
    cases h
    exact ⟨rfl, rfl, rfl⟩
  | t :: ts, s, s', h => by
    rw [applyWhile] at h
    by_cases hp : p t.kind = true
    · rw [if_pos hp] at h
      obtain ⟨s₁, happ, hloop⟩ := Halt.bind_eq_ok.1 h
      obtain ⟨c, g, rest, hkind, hcombine, rfl⟩ := apply_ok happ
      obtain ⟨hset, hops, hafter⟩ := applyWhile_ok hloop
      rw [List.takeWhile_cons_of_pos (by exact hp), List.dropWhile_cons_of_pos (by exact hp),
        settle?_cons hkind, hcombine]
      exact ⟨hset, hops, hafter⟩
    · rw [if_neg hp] at h
      cases h
      rw [List.takeWhile_cons_of_neg (by exact hp), List.dropWhile_cons_of_neg (by exact hp)]
      exact ⟨rfl, rfl, rfl⟩

/-- A loop leaves what it may not take. -/
theorem operators_applyWhile {p : TokenKind → Bool} {ts : List Token}
    (h : applyWhile limit p ts s = .ok s') : s'.operators = ts.dropWhile fun t => p t.kind :=
  (applyWhile_ok h).2.1

/-- Without a limit a loop succeeds if what it may take settles. -/
theorem applyWhile_of_settle? (p : TokenKind → Bool) {v : List Formula} :
    ∀ (ts : List Token) (s : Stacks),
      settle? (ts.takeWhile fun t => p t.kind) s.operands = some v →
        ∃ built, applyWhile none p ts s =
          .ok ⟨ts.dropWhile fun t => p t.kind, v, s.afterOperand, built⟩
  | [], s, h => by
    cases h
    exact ⟨s.built, rfl⟩
  | t :: ts, s, h => by
    rw [applyWhile]
    by_cases hp : p t.kind = true
    · rw [List.takeWhile_cons_of_pos (by exact hp)] at h
      obtain ⟨c, u, hkind, hcombine, hset⟩ := settle?_cons_eq_some h
      obtain ⟨built, happ⟩ := apply_of_combine? (s := { s with operators := ts }) hkind hcombine
      rw [if_pos hp, happ, List.dropWhile_cons_of_pos (by exact hp)]
      exact applyWhile_of_settle? p ts ⟨ts, u, s.afterOperand, built⟩ hset
    · rw [List.takeWhile_cons_of_neg (by exact hp)] at h
      cases h
      rw [if_neg hp, List.dropWhile_cons_of_neg (by exact hp)]
      exact ⟨s.built, rfl⟩

/-! ### What one token does -/

/-- How a token is taken under a limit. -/
inductive Takes (limit : Option Limit) (s : Stacks) (t : Token) : Stacks → Prop
  | opening (hkind : t.kind = .openParen) :
      Takes limit s t { s with operators := t :: s.operators, afterOperand := false }
  | closing {s₁ : Stacks} {o : Token} {rest : List Token} (hkind : t.kind = .closeParen)
      (hloop : applyWhile limit (fun k => k != .openParen) s.operators s = .ok s₁)
      (hrest : s₁.operators = o :: rest) :
      Takes limit s t { s₁ with operators := rest, afterOperand := true }
  | naming {x : Var} (hkind : t.kind = .name) (hname : t.value = x.name) :
      Takes limit s t { s with operands := .atom x :: s.operands, afterOperand := true }
  | negating (hkind : t.kind = .connective .neg) (hafter : s.afterOperand = false) :
      Takes limit s t { s with operators := t :: s.operators, afterOperand := false }
  | yielding {c : Connective} {s₁ : Stacks} (hkind : t.kind = .connective c)
      (hc : c = .neg → s.afterOperand = true)
      (hloop : applyWhile limit (yieldsTo c) s.operators s = .ok s₁) :
      Takes limit s t { s₁ with operators := t :: s₁.operators, afterOperand := false }

theorem takes_of_step (h : step limit s t = .ok s') : Takes limit s t s' := by
  unfold step at h
  split at h
  next hkind =>
    cases h
    exact .opening hkind
  next hkind =>
    obtain ⟨s₁, hloop, h⟩ := Halt.bind_eq_ok.1 h
    split at h
    next => cases h
    next o rest hrest =>
      cases h
      exact .closing hkind hloop hrest
  next hkind =>
    split at h
    next x hx =>
      cases h
      have hname : t.value = x.name := by
        unfold Var.ofName? at hx
        split at hx
        · cases hx
          rfl
        · cases hx
      exact .naming hkind hname
    next => cases h
  next c hkind =>
    by_cases hc : c = .neg ∧ s.afterOperand = false
    · rw [if_pos hc] at h
      cases h
      obtain ⟨rfl, hafter⟩ := hc
      exact .negating hkind hafter
    · rw [if_neg hc] at h
      obtain ⟨s₁, hloop, h⟩ := Halt.bind_eq_ok.1 h
      cases h
      exact .yielding hkind (fun hneg => by simpa [hneg] using hc) hloop
  next => cases h
  next => cases h

/-- How a token can be taken, it is taken. -/
theorem step_of_takes (h : Takes limit s t s') : step limit s t = .ok s' := by
  cases h with
  | opening hkind => rw [step, hkind]
  | closing hkind hloop hrest =>
    rw [step, hkind]
    simp only [hloop, hrest, bind, Except.bind]
    rfl
  | @naming x hkind hname =>
    have hvalid : Var.isName t.value.toList = true := hname ▸ x.valid
    have hx : Var.ofName? t.value = some x := by
      rw [Var.ofName?, dif_pos hvalid]
      exact congrArg some (by cases x; cases hname; rfl)
    rw [step, hkind]
    simp only [hx]
  | negating hkind hafter =>
    simp only [step, hkind, hafter]
    rfl
  | @yielding c s₁ hkind hc hloop =>
    have hif : ¬(c = .neg ∧ s.afterOperand = false) := by
      rintro ⟨hneg, hafter⟩
      rw [hc hneg] at hafter
      cases hafter
    rw [step, hkind]
    simp only [if_neg hif, hloop]
    rfl

theorem Takes.afterOperand (h : Takes limit s t s') : s'.afterOperand = t.kind.endsOperand := by
  cases h with
  | opening hkind => rw [hkind]; rfl
  | closing hkind => rw [hkind]; rfl
  | naming hkind => rw [hkind]; rfl
  | negating hkind => rw [hkind]; rfl
  | yielding hkind => rw [hkind]; rfl

/-- The faults that a sequence of scanned tokens can meet: a parenthesis without a
partner, an operator without operands, or not one formula at the end. -/
def IsSentenceFault : ParseError → Prop
  | .unbalanced _ => True
  | .malformed (.missingOperand _ _) => True
  | .malformed (.notSingle _) => True
  | _ => False

end Stacks

/-- Whether a token is of a kind that texts have, and names a variable if it is a
name. -/
def Token.IsProper (t : Token) : Prop :=
  match t.kind with
  | .name => Var.isName t.value.toList = true
  | .other _ => False
  | .refused _ => False
  | _ => True

namespace Stacks

variable {limit : Option Limit} {s s' : Stacks}

/-! ### Runs -/

theorem run_cons (s : Stacks) (t : Token) (ts : List Token) :
    run limit s (t :: ts) = step limit s t >>= fun s' => run limit s' ts := List.foldlM_cons

theorem run_append (s : Stacks) (ts us : List Token) :
    run limit s (ts ++ us) = run limit s ts >>= fun s' => run limit s' us := List.foldlM_append

/-- **What every token keeps, a run keeps.** -/
theorem run_keeps {P : List Token → Stacks → Prop}
    (hkeeps : ∀ {pre s t s'}, P pre s → step limit s t = .ok s' → P (pre ++ [t]) s') :
    ∀ (pre : List Token) {ts : List Token} {s : Stacks},
      P pre s → run limit s ts = .ok s' → P (pre ++ ts) s'
  | pre, [], s, h, hrun => by
    cases hrun
    rwa [List.append_nil]
  | pre, t :: ts, s, h, hrun => by
    rw [run_cons] at hrun
    obtain ⟨s₁, hstep, hrest⟩ := Halt.bind_eq_ok.1 hrun
    rw [← List.singleton_append, ← List.append_assoc]
    exact run_keeps hkeeps (pre ++ [t]) (hkeeps h hstep) hrest

/-- At the end all operators are settled, and one formula is left. -/
theorem finish_ok {f : Formula} (h : finish limit s = .ok (f, s')) :
    ∃ s₁, applyWhile limit (fun _ => true) s.operators s = .ok s₁ ∧ s₁.operators = [] ∧
      s₁.operands = [f] ∧ s' = { s₁ with operands := [] } := by
  unfold finish at h
  obtain ⟨s₁, hloop, hone⟩ := Halt.bind_eq_ok.1 h
  have hnil : s₁.operators = [] := by
    rw [operators_applyWhile hloop, List.dropWhile_eq_nil_iff]
    exact fun _ _ => rfl
  split at hone
  next g hoperands =>
    cases hone
    exact ⟨s₁, hloop, hnil, hoperands, rfl⟩
  next => cases hone

end Stacks

end Turnstile
