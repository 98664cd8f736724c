/-
# The parser on stacks that can break

The parser takes its stacks apart by cases, so it cannot take anything off an empty one.
Here it uses them through operations that break down where they do not apply
(`Breakdown`): to pop a stack, to look up the connective of a token, to build a compound
formula of operands. It counts operands before it takes them and looks at the top of
the operators before it takes that off, as the parser does, and nothing more. Only
parentheses and connectives wait on the stack of operators (`Stacks.Pending`), so that is
enough: this is the parser (`Unchecked.parse_eq`), and no operation breaks down, whatever
the tokens and the limit are.

Key definitions: `Breakdown`, `Stop`, `Unchecked.reduce`, `Unchecked.reduceWhile`,
`Unchecked.parse`.
Key theorems: `Unchecked.reduce_eq`, `Unchecked.reduceWhile_eq`, `Unchecked.step_eq`,
`Unchecked.parse_eq`.
-/
import Turnstile.Proofs.PendingOperators

namespace Turnstile

/-- What breaks down when an operation does not apply. -/
inductive Breakdown where
  /-- An empty stack has no top. -/
  | emptyStack
  /-- A token of this kind stands for no connective. -/
  | noConnective (kind : TokenKind)
  /-- A connective does not take so many operands. -/
  | wrongOperands (c : Connective) (got : Nat)

/-- How a parse ends without a formula. -/
inductive Stop where
  /-- It refuses its tokens. -/
  | refusal (h : Halt)
  | breakdown (b : Breakdown)

namespace Unchecked

/-! ### Operations that can break down -/

/-- The top of a stack and the rest of it. -/
def pop {α : Type} : List α → Except Stop (α × List α)
  | [] => .error (.breakdown .emptyStack)
  | a :: rest => .ok (a, rest)

/-- The connective that tokens of a kind stand for. -/
def connective : TokenKind → Except Stop Connective
  | .connective c => .ok c
  | kind => .error (.breakdown (.noConnective kind))

/-- The compound formula of a connective and its operands. -/
def compound : Connective → List Formula → Except Stop Formula
  | .neg, [f] => .ok (.neg f)
  | .binary b, [l, r] => .ok (.bin b l r)
  | c, fs => .error (.breakdown (.wrongOperands c fs.length))

/-- What a parse that refuses, and does not break down, does here. -/
def refusing {α : Type} (x : Except Halt α) : Except Stop α := x.mapError .refusal

/-! ### The parser -/

/-- The compound formula of a connective and the operands on top, and the rest of the
operands. -/
def combine (c : Connective) (operands : List Formula) : Except Stop (Formula × List Formula) :=
  if c.arity = 2 then do
    let (r, operands) ← pop operands
    let (l, operands) ← pop operands
    let f ← compound c [l, r]
    return (f, operands)
  else do
    let (g, operands) ← pop operands
    let f ← compound c [g]
    return (f, operands)

/-- Takes the operator off the top, and gives it its operands. -/
def reduce (limit : Option Limit) (s : Stacks) : Except Stop Stacks := do
  let (t, operators) ← pop s.operators
  if t.kind = .openParen ∨ t.kind = .closeParen then
    .error (.refusal ⟨.unbalanced t.value, { s with operators := operators }⟩)
  else do
    let c ← connective t.kind
    if s.operands.length < c.arity then
      .error (.refusal ⟨.malformed (.missingOperand c t.position),
        { s with operators := operators }⟩)
    else do
      let (f, operands) ← combine c s.operands
      refusing (Stacks.push limit f { s with operators := operators, operands := operands })

variable {limit : Option Limit} {s s' : Stacks} {t : Token}

theorem operators_refusing_push {f : Formula} (h : refusing (Stacks.push limit f s) = .ok s') :
    s'.operators = s.operators := by
  cases hpush : Stacks.push limit f s with
  | error e =>
    rw [hpush] at h
    cases h
  | ok s₁ =>
    rw [hpush] at h
    cases h
    rw [Stacks.push_ok hpush]

/-- One operator less waits. -/
theorem operators_reduce (h : reduce limit s = .ok s') : ∃ t, s.operators = t :: s'.operators := by
  unfold reduce at h
  cases hops : s.operators with
  | nil =>
    rw [hops] at h
    cases h
  | cons t rest =>
    rw [hops] at h
    simp only [pop, bind, Except.bind] at h
    refine ⟨t, congrArg _ ?_⟩
    split at h
    next => cases h
    next =>
      split at h
      next => cases h
      next c hc =>
        split at h
        next => cases h
        next =>
          split at h
          next => cases h
          next => exact (operators_refusing_push h).symm

/-- Reduces while there is an operator on top for which `p` holds. -/
def reduceWhile (limit : Option Limit) (p : TokenKind → Bool) (s : Stacks) : Except Stop Stacks :=
  match s.operators with
  | [] => .ok s
  | t :: _ =>
    if p t.kind then
      match _ : reduce limit s with
      | .ok s' => reduceWhile limit p s'
      | .error e => .error e
    else .ok s
termination_by s.operators.length
decreasing_by
  obtain ⟨t, ht⟩ := operators_reduce ‹reduce limit s = .ok s'›
  rw [ht]
  exact Nat.lt_succ_self _

/-- Takes one token. -/
def step (limit : Option Limit) (s : Stacks) (t : Token) : Except Stop Stacks :=
  match t.kind with
  | .closeParen => do
    let s ← reduceWhile limit (fun k => k != .openParen) s
    if s.operators.isEmpty then .error (.refusal ⟨.unbalanced t.value, s⟩)
    else do
      let (_, operators) ← pop s.operators
      return { s with operators := operators, afterOperand := true }
  | .connective c => do
    let s ←
      if c = .neg ∧ s.afterOperand = false then .ok s
      else reduceWhile limit (Stacks.yieldsTo c) s
    return { s with operators := t :: s.operators, afterOperand := false }
  | _ => refusing (Stacks.step limit s t)

/-- Reduces all that is left and takes the one formula off its stack. -/
def finish (limit : Option Limit) (s : Stacks) : Except Stop (Formula × Stacks) := do
  let s ← reduceWhile limit (fun _ => true) s
  if s.operands.length ≠ 1 then
    .error (.refusal ⟨.malformed (.notSingle s.operands.length), s⟩)
  else do
    let (f, operands) ← pop s.operands
    return (f, { s with operands := operands })

/-- The formula spelt by a sequence of tokens, and the stacks at the end. -/
def parse (limit : Option Limit) (tokens : List Token) : Except Stop (Formula × Stacks) := do
  let s ← tokens.foldlM (step limit) .empty
  finish limit s

/-! ### Nothing breaks down -/

theorem refusing_bind {α β : Type} (x : Except Halt α) (f : α → Except Halt β) :
    refusing (x >>= f) = refusing x >>= fun a => refusing (f a) := by
  cases x <;> rfl

/-- **An operator finds what it asks for.** It is a connective or an opening
parenthesis, and its operands are counted before they are taken. -/
theorem reduce_eq {ts : List Token} (hops : s.operators = t :: ts) (hwaits : t.Waits) :
    reduce limit s = refusing (Stacks.apply limit t { s with operators := ts }) := by
  unfold reduce
  rw [hops]
  simp only [pop, bind, Except.bind]
  rcases hwaits with hopen | ⟨c, hkind⟩
  · rw [if_pos (.inl hopen), Stacks.apply, hopen]
    rfl
  · have hnot : ¬(t.kind = .openParen ∨ t.kind = .closeParen) := by simp [hkind]
    rw [if_neg hnot, Stacks.apply, hkind]
    cases c with
    | neg =>
      rcases hoperands : s.operands with _ | ⟨f, rest⟩
      · rfl
      · rfl
    | binary b =>
      rcases hoperands : s.operands with _ | ⟨r, _ | ⟨l, rest⟩⟩
      · rfl
      · rfl
      · rfl

theorem reduceWhile_eq {p : TokenKind → Bool} : ∀ {ts : List Token} {s : Stacks},
    s.operators = ts → (∀ o ∈ ts, o.Waits) →
      reduceWhile limit p s = refusing (Stacks.applyWhile limit p ts s)
  | [], s, hops, _ => by
    have hs : { s with operators := [] } = s := by rw [← hops]
    rw [reduceWhile, hops, Stacks.applyWhile, hs]
    rfl
  | t :: ts, s, hops, hwaits => by
    obtain ⟨ht, hts⟩ := List.forall_mem_cons.1 hwaits
    rw [reduceWhile, hops, Stacks.applyWhile]
    simp only
    by_cases hp : p t.kind = true
    · rw [if_pos hp, if_pos hp, refusing_bind, reduce_eq hops ht]
      cases happ : Stacks.apply limit t { s with operators := ts } with
      | error e => rfl
      | ok s₁ => exact reduceWhile_eq (Stacks.operators_apply happ) hts
    · rw [if_neg hp, if_neg hp, ← hops]
      rfl

theorem step_eq (hwaits : ∀ o ∈ s.operators, o.Waits) (t : Token) :
    step limit s t = refusing (Stacks.step limit s t) := by
  unfold step
  split
  next hkind =>
    rw [reduceWhile_eq rfl hwaits, Stacks.step, hkind]
    simp only [refusing_bind]
    refine congrArg _ (funext fun s₁ => ?_)
    rcases hops : s₁.operators with _ | ⟨o, rest⟩
    · rfl
    · rfl
  next c hkind =>
    rw [reduceWhile_eq rfl hwaits, Stacks.step, hkind]
    by_cases hc : c = .neg ∧ s.afterOperand = false
    · simp only [if_pos hc]
      rfl
    · simp only [if_neg hc, refusing_bind]
      rfl
  next => rfl

theorem run_eq : ∀ {ts pre : List Token} {s : Stacks}, s.Pending pre →
    ts.foldlM (step limit) s = refusing (Stacks.run limit s ts)
  | [], pre, s, _ => rfl
  | t :: ts, pre, s, h => by
    rw [List.foldlM_cons, Stacks.run_cons, step_eq h.waits, refusing_bind]
    cases hstep : Stacks.step limit s t with
    | error e => rfl
    | ok s₁ => exact run_eq (h.step hstep)

theorem finish_eq (hwaits : ∀ o ∈ s.operators, o.Waits) :
    finish limit s = refusing (Stacks.finish limit s) := by
  unfold finish Stacks.finish
  rw [reduceWhile_eq rfl hwaits, refusing_bind]
  refine congrArg _ (funext fun s₁ => ?_)
  rcases hops : s₁.operands with _ | ⟨f, _ | ⟨g, rest⟩⟩
  · rfl
  · rfl
  · simp [refusing, Except.mapError]

/-- **No operation of a parse breaks down**, whatever the tokens are. -/
theorem parse_eq (limit : Option Limit) (ts : List Token) :
    parse limit ts = refusing (parseTokens limit ts) := by
  rw [parse, parseTokens, refusing_bind, run_eq Stacks.pending_empty]
  cases hrun : Stacks.run limit .empty ts with
  | error e => rfl
  | ok s => exact finish_eq (Stacks.pending_empty.run hrun).waits

end Unchecked

end Turnstile
