/-
# No token is lost in a parse

Whatever tokens a parse takes, and in whatever order, each is accounted for at any
time (`Accounts`): the names taken are the leaves of the operands from the bottom
of their stack up, each connective taken waits on the stack of operators or occurs
in an operand, each opening parenthesis waits there or was closed, and the compound
formulas made so far are those in the operands in post-order. An operator that
takes its operands keeps the account (`Accounts.apply`), since operands are next to
each other on their stack, and so does every token (`Accounts.step`). At the end
one operand is left, so a formula has the names, the connectives and the compound
formulas of its tokens (`parse_conserves_tokens`).

Nothing here depends on the limit, nor on what the parser was used for before.

Key definitions: `Token.name?`, `Token.connective?`, `Token.Balanced`,
`Formula.connectives`, `Formula.compounds`, `Stacks.Accounts`.
Key theorems: `Stacks.Accounts.apply`, `Stacks.Accounts.step`, `Stacks.Accounts.run`,
`parse_conserves_tokens`.
-/
import Turnstile.Log
import Turnstile.Proofs.ShuntingYard
import Turnstile.Proofs.Truth

namespace Turnstile

namespace Token

/-- The name that a token spells. -/
def name? (t : Token) : Option String := if t.kind = .name then some t.value else none

/-- The connective that a token stands for. -/
def connective? (t : Token) : Option Connective :=
  match t.kind with
  | .connective c => some c
  | _ => none

/-- The number of opening parentheses. -/
def openCount (ts : List Token) : Nat := ts.countP fun t => t.kind = .openParen

/-- The number of closing parentheses. -/
def closeCount (ts : List Token) : Nat := ts.countP fun t => t.kind = .closeParen

/-- No parenthesis is closed before it was opened, and all are closed in the end. -/
def Balanced (ts : List Token) : Prop :=
  (∀ pre, pre <+: ts → closeCount pre ≤ openCount pre) ∧ closeCount ts = openCount ts

end Token

namespace Formula

/-- The connectives from left to right, each as often as it occurs. -/
def connectives : Formula → List Connective
  | atom _ => []
  | neg f => .neg :: f.connectives
  | bin b l r => l.connectives ++ .binary b :: r.connectives

/-- The compound formulas in post-order, each as often as it occurs. -/
def compounds : Formula → List Formula
  | atom _ => []
  | neg f => f.compounds ++ [neg f]
  | bin b l r => l.compounds ++ r.compounds ++ [bin b l r]

theorem length_connectives : ∀ f : Formula, f.connectives.length = f.size
  | atom _ => rfl
  | neg f => by
    rw [connectives, List.length_cons, length_connectives f, size, Nat.add_comm]
  | bin b l r => by
    simp only [connectives, List.length_append, List.length_cons, length_connectives l,
      length_connectives r, size]
    omega

end Formula

namespace Stacks

variable {limit : Option Limit} {pre : List Token} {s s' : Stacks} {t : Token}

/-- Every token taken so far is accounted for by the stacks. -/
structure Accounts (pre : List Token) (s : Stacks) : Prop where
  names : pre.filterMap Token.name? = s.operands.reverse.flatMap Formula.leafNames
  connectives : ∀ c, (pre.filterMap Token.connective?).count c =
    (s.operators.filterMap Token.connective?).count c +
      (s.operands.flatMap Formula.connectives).count c
  opened : Token.openCount pre = Token.closeCount pre + Token.openCount s.operators
  closedInTime : ∀ p, p <+: pre → Token.closeCount p ≤ Token.openCount p
  built : s.built.reverse = s.operands.reverse.flatMap Formula.compounds

theorem accounts_empty : Accounts [] .empty where
  names := rfl
  connectives _ := rfl
  opened := rfl
  closedInTime p hp := by
    obtain rfl := List.prefix_nil.1 hp
    exact Nat.le_refl _
  built := rfl

/-! ### Operators -/

/-- The operands of a connective are next to each other, so leaves and compound
formulas keep their order when it takes them. -/
theorem combine?_conserves {c : Connective} {fs rest : List Formula} {g : Formula}
    (h : combine? c fs = some (g :: rest)) :
    (g :: rest).reverse.flatMap Formula.leafNames = fs.reverse.flatMap Formula.leafNames ∧
    (∀ d, ((g :: rest).flatMap Formula.connectives).count d =
      [c].count d + (fs.flatMap Formula.connectives).count d) ∧
    (g :: rest).reverse.flatMap Formula.compounds =
      fs.reverse.flatMap Formula.compounds ++ [g] := by
  unfold combine? at h
  split at h
  next f fs =>
    cases h
    refine ⟨?_, fun d => ?_, ?_⟩
    · simp [Formula.leafNames]
    · simp only [List.flatMap_cons, Formula.connectives, List.cons_append, List.count_cons,
        List.count_nil]
      omega
    · simp [Formula.compounds]
  next b r l fs =>
    cases h
    refine ⟨?_, fun d => ?_, ?_⟩
    · simp [Formula.leafNames]
    · simp only [List.flatMap_cons, Formula.connectives, List.count_append, List.count_cons,
        List.count_nil]
      omega
    · simp [Formula.compounds]
  next => cases h

theorem connective?_eq {c : Connective} (hkind : t.kind = .connective c) :
    t.connective? = some c := by
  rw [Token.connective?, hkind]

/-- **An operator keeps the account** when it is taken off its stack and takes its
operands. -/
theorem Accounts.apply {ts : List Token} (h : Accounts pre { s with operators := t :: ts })
    (happ : apply limit t { s with operators := ts } = .ok s') : Accounts pre s' := by
  obtain ⟨c, g, rest, hkind, hcombine, rfl⟩ := apply_ok happ
  obtain ⟨hnames, hconnectives, hcompounds⟩ := combine?_conserves hcombine
  refine ⟨?_, fun d => ?_, ?_, h.closedInTime, ?_⟩
  · rw [h.names, hnames]
  · have hcount := h.connectives d
    simp only [List.filterMap_cons, connective?_eq hkind, List.count_cons] at hcount
    rw [hconnectives d, hcount]
    simp only [List.count_cons, List.count_nil]
    omega
  · have hopened := h.opened
    simp only [Token.openCount, List.countP_cons, hkind] at hopened ⊢
    simpa using hopened
  · rw [hcompounds, List.reverse_cons, h.built]

theorem Accounts.applyWhile {p : TokenKind → Bool} : ∀ {ts : List Token} {s : Stacks},
    Accounts pre { s with operators := ts } → applyWhile limit p ts s = .ok s' → Accounts pre s'
  | [], s, h, happ => by
    cases happ
    exact h
  | t :: ts, s, h, happ => by
    rw [Stacks.applyWhile] at happ
    by_cases hp : p t.kind = true
    · rw [if_pos hp] at happ
      obtain ⟨s₁, hstep, hloop⟩ := Halt.bind_eq_ok.1 happ
      have hops : s₁.operators = ts := operators_apply hstep
      have h₁ : Accounts pre { s₁ with operators := ts } := by
        rw [← hops]
        exact h.apply hstep
      exact h₁.applyWhile hloop
    · rw [if_neg hp] at happ
      cases happ
      exact h

/-! ### Tokens -/

theorem closedInTime_concat (h : ∀ p, p <+: pre → Token.closeCount p ≤ Token.openCount p)
    (hlast : Token.closeCount (pre ++ [t]) ≤ Token.openCount (pre ++ [t])) :
    ∀ p, p <+: pre ++ [t] → Token.closeCount p ≤ Token.openCount p := by
  intro p hp
  rcases List.prefix_concat_iff.1 hp with rfl | hp
  · exact hlast
  · exact h p hp

/-- A connective or opening parenthesis waits on the stack of operators. -/
theorem Accounts.wait (h : Accounts pre s)
    (hkind : t.kind = .openParen ∨ ∃ c, t.kind = .connective c) (after : Bool) :
    Accounts (pre ++ [t]) ⟨t :: s.operators, s.operands, after, s.built⟩ := by
  have hname : t.name? = none := by
    rcases hkind with hkind | ⟨c, hkind⟩ <;> simp [Token.name?, hkind]
  have hclose : Token.closeCount (pre ++ [t]) = Token.closeCount pre := by
    rcases hkind with hkind | ⟨c, hkind⟩ <;> simp [Token.closeCount, hkind]
  have hopen : Token.openCount (pre ++ [t]) = Token.openCount pre + Token.openCount [t] := by
    simp only [Token.openCount, List.countP_append]
  have htop : Token.openCount (t :: s.operators) =
      Token.openCount [t] + Token.openCount s.operators := by
    rw [← List.singleton_append]
    simp only [Token.openCount, List.countP_append]
  have hopened := h.opened
  have hall := h.closedInTime pre (List.prefix_refl pre)
  refine ⟨?_, fun c => ?_, ?_, closedInTime_concat h.closedInTime (by omega), h.built⟩
  · simp [h.names, hname]
  · have hsplit : (t :: s.operators).filterMap Token.connective? =
        [t].filterMap Token.connective? ++ s.operators.filterMap Token.connective? := by
      rw [← List.filterMap_append]
      rfl
    have hcount := h.connectives c
    show _ = ((t :: s.operators).filterMap Token.connective?).count c +
      (s.operands.flatMap Formula.connectives).count c
    rw [List.filterMap_append, List.count_append, hcount, hsplit, List.count_append]
    omega
  · show Token.openCount (pre ++ [t]) =
      Token.closeCount (pre ++ [t]) + Token.openCount (t :: s.operators)
    omega

/-- A closing parenthesis takes the opening one off the stack. -/
theorem Accounts.close {o : Token} {rest : List Token} (h : Accounts pre s)
    (hops : s.operators = o :: rest) (hopen : o.kind = .openParen) (hkind : t.kind = .closeParen) :
    Accounts (pre ++ [t]) ⟨rest, s.operands, true, s.built⟩ := by
  have hclosed : Token.closeCount (pre ++ [t]) = Token.closeCount pre + 1 := by
    simp [Token.closeCount, hkind]
  have hsame : Token.openCount (pre ++ [t]) = Token.openCount pre := by
    simp [Token.openCount, hkind]
  have hopened : Token.openCount pre = Token.closeCount pre + (Token.openCount rest + 1) := by
    have htop : Token.openCount (o :: rest) = Token.openCount rest + 1 := by
      simp [Token.openCount, hopen]
    rw [h.opened, hops, htop]
  refine ⟨?_, fun c => ?_, ?_, closedInTime_concat h.closedInTime (by omega), h.built⟩
  · simp [h.names, Token.name?, hkind]
  · have hcount := h.connectives c
    rw [hops] at hcount
    simpa [Token.connective?, hkind, hopen] using hcount
  · show Token.openCount (pre ++ [t]) = Token.closeCount (pre ++ [t]) + Token.openCount rest
    omega

/-- A name puts a leaf on the stack of operands. -/
theorem Accounts.leaf {x : Var} (h : Accounts pre s) (hkind : t.kind = .name)
    (hname : t.value = x.name) :
    Accounts (pre ++ [t]) ⟨s.operators, .atom x :: s.operands, true, s.built⟩ := by
  have hclose : Token.closeCount (pre ++ [t]) = Token.closeCount pre := by
    simp [Token.closeCount, hkind]
  have hopen : Token.openCount (pre ++ [t]) = Token.openCount pre := by
    simp [Token.openCount, hkind]
  have hall := h.closedInTime pre (List.prefix_refl pre)
  refine ⟨?_, fun c => ?_, ?_, closedInTime_concat h.closedInTime (by omega), ?_⟩
  · simp [h.names, Token.name?, hkind, hname, Formula.leafNames]
  · simpa [Token.connective?, hkind, Formula.connectives] using h.connectives c
  · rw [hopen, hclose]
    exact h.opened
  · simpa [Formula.compounds] using h.built

/-- **Every token is accounted for** when it is taken. -/
theorem Accounts.step (h : Accounts pre s) (hstep : step limit s t = .ok s') :
    Accounts (pre ++ [t]) s' := by
  cases takes_of_step hstep with
  | opening hkind => exact h.wait (.inl hkind) false
  | @closing s₁ o rest hkind hloop hrest =>
    -- the loop stops at an opening parenthesis only
    have hnot := List.head?_dropWhile_not (fun t : Token => t.kind != .openParen) s.operators
    rw [← operators_applyWhile hloop, hrest] at hnot
    exact (h.applyWhile hloop).close hrest (by simpa using hnot) hkind
  | naming hkind hname => exact h.leaf hkind hname
  | negating hkind => exact h.wait (.inr ⟨.neg, hkind⟩) false
  | yielding hkind _ hloop => exact (h.applyWhile hloop).wait (.inr ⟨_, hkind⟩) false

theorem Accounts.run {ts : List Token} (h : Accounts pre s) (hrun : run limit s ts = .ok s') :
    Accounts (pre ++ ts) s' := run_keeps Accounts.step pre h hrun

/-- At the end one operand accounts for all tokens. -/
theorem Accounts.finish {f : Formula} (h : Accounts pre s)
    (hfinish : finish limit s = .ok (f, s')) :
    Accounts pre ⟨[], [f], s'.afterOperand, s'.built⟩ ∧ s'.operators = [] ∧ s'.operands = [] := by
  obtain ⟨s₁, hloop, hnil, hone, rfl⟩ := finish_ok hfinish
  have h₁ := h.applyWhile hloop
  have hs : s₁ = ⟨[], [f], s₁.afterOperand, s₁.built⟩ := by rw [← hnil, ← hone]
  exact ⟨hs ▸ h₁, hnil, rfl⟩

end Stacks

/-- The account of a parse that succeeded. -/
theorem parseTokens_accounts {limit : Option Limit} {ts : List Token} {f : Formula} {s : Stacks}
    (h : parseTokens limit ts = .ok (f, s)) :
    Stacks.Accounts ts ⟨[], [f], s.afterOperand, s.built⟩ ∧ s.operators = [] ∧ s.operands = [] := by
  unfold parseTokens at h
  obtain ⟨s₁, hrun, hfinish⟩ := Halt.bind_eq_ok.1 h
  exact (Stacks.accounts_empty.run hrun).finish hfinish

/-- **A parse neither loses, doubles nor reorders a token**, whatever the parser was
used for before and whether or not its tokens are a sentence. The names are the
leaves of the formula from left to right, each connective occurs in it as often as
among the tokens, the parentheses are balanced, the compound formulas recorded are
those of the formula in post-order, and both stacks are left empty. -/
theorem parse_conserves_tokens {p q : Parser} {ts : List Token} {f : Formula}
    {built : List Formula} (h : p.parse ts = (⟨.ok f, built⟩, q)) :
    ts.filterMap Token.name? = f.leafNames ∧
    (∀ c, (ts.filterMap Token.connective?).count c = f.connectives.count c) ∧
    f.size = (ts.filterMap Token.connective?).length ∧
    Token.Balanced ts ∧
    built = f.compounds ∧
    (LogRecord.ofAttempt (p.parse ts).1).map LogRecord.message =
      f.compounds.map (fun g => "Pushed new proposition: " ++ g.render) ∧
    q.state.operators = [] ∧ q.state.operands = [] := by
  have hmessages : (LogRecord.ofAttempt (p.parse ts).1).map LogRecord.message =
      built.map fun g => "Pushed new proposition: " ++ g.render := by
    rw [h, LogRecord.ofAttempt, List.map_map]
    rfl
  unfold Parser.parse at h
  cases hparse : parseTokens p.limit ts with
  | error e => rw [hparse] at h; cases h
  | ok result =>
    obtain ⟨g, s⟩ := result
    rw [hparse] at h
    cases h
    obtain ⟨haccounts, hoperators, hoperands⟩ := parseTokens_accounts hparse
    have hcount : ∀ c, (ts.filterMap Token.connective?).count c = f.connectives.count c := by
      intro c
      simpa using haccounts.connectives c
    have hbuilt : s.built.reverse = f.compounds := by simpa using haccounts.built
    refine ⟨by simpa using haccounts.names, hcount, ?_, ⟨haccounts.closedInTime, ?_⟩, hbuilt,
      by rw [hmessages, hbuilt], hoperators, hoperands⟩
    · rw [← f.length_connectives]
      exact (List.perm_iff_count.2 hcount).length_eq.symm
    · exact haccounts.opened.symm

/-- `p q ! &&` is taken for `p && !q`, by a parser that an open parenthesis has left
with an operand. -/
theorem parse_conserves_tokens_postfix :
    let used : Parser :=
      ((Parser.new none).parse [⟨.openParen, "(", .offset 0⟩, ⟨.name, "r", .offset 1⟩]).2
    let ts : List Token :=
      [⟨.name, "p", .offset 0⟩, ⟨.name, "q", .offset 2⟩, ⟨.connective .neg, "!", .offset 4⟩,
        ⟨.connective (.binary .conj), "&&", .offset 6⟩]
    let f : Formula := .bin .conj (.atom ⟨"p", by decide⟩) (.neg (.atom ⟨"q", by decide⟩))
    used.state.operands ≠ [] ∧ (used.parse ts).1.result = .ok f ∧
      ts.filterMap Token.name? = f.leafNames ∧ f.size = 2 ∧ Token.Balanced ts ∧
      (used.parse ts).1.built = f.compounds ∧ (used.parse ts).2.state.operands = [] := by
  intro used ts f
  have hparse : used.parse ts = (⟨.ok f, (used.parse ts).1.built⟩, (used.parse ts).2) := rfl
  obtain ⟨hnames, -, hsize, hbalanced, hbuilt, -, -, hoperands⟩ := parse_conserves_tokens hparse
  exact ⟨by decide, rfl, hnames, hsize, hbalanced, hbuilt, hoperands⟩

end Turnstile
