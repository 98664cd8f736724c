/-
# What waits on the stack of operators, and what tokens meet

Only opening parentheses and connectives wait on the stack of operators, and each of
them is a token that was taken before (`Stacks.Pending`). Every token keeps that
(`Stacks.Pending.step`), and so does a run (`Stacks.Pending.run`), under any limit. So
an operator that is to take its operands has some to ask for, or is a parenthesis that
nothing closes, and there are few ways in which it fails (`OperatorFault`). The loops
that settle operators before a connective or a closing parenthesis stop at an opening
one, so they never meet it (`Stacks.step_error`); the loop at the end does
(`Stacks.finish_error`).

So tokens meet one of few faults, and those of parentheses are true of them
(`TokenFault`). A closing parenthesis is blamed where no opening one waits, and by the
account of the parse as many were closed before it as were opened. An opening one is
blamed at the end, so it was never closed, and until then nothing was closed that had not
been opened (`parseTokens_fault`). Where an operator lacks an operand as well, the fault
that is met first is reported, so only one direction holds.

Key definitions: `Token.Waits`, `Stacks.Pending`, `OperatorFault`, `TokenFault`.
Key theorems: `Stacks.Pending.step`, `Stacks.Pending.run`, `Stacks.applyWhile_error`,
`Stacks.step_error`, `Stacks.finish_error`, `Stacks.run_error`, `parseTokens_fault`.
-/
import Turnstile.Proofs.TokenConservation

namespace Turnstile

/-- A token of a kind that waits on the stack of operators. -/
def Token.Waits (t : Token) : Prop := t.kind = .openParen ∨ ∃ c, t.kind = .connective c

namespace Stacks

variable {limit : Option Limit} {pre : List Token} {s s' : Stacks} {t : Token}

/-! ### What waits -/

/-- What waits was taken before, and is an opening parenthesis or a connective. -/
def Pending (pre : List Token) (s : Stacks) : Prop := ∀ o ∈ s.operators, o ∈ pre ∧ o.Waits

theorem pending_empty : Pending [] .empty := by
  intro o ho
  cases ho

theorem Pending.waits (h : Pending pre s) : ∀ o ∈ s.operators, o.Waits := fun o ho => (h o ho).2

theorem mem_operators_of_applyWhile {p : TokenKind → Bool} {ts : List Token} {o : Token}
    (h : applyWhile limit p ts s = .ok s') (ho : o ∈ s'.operators) : o ∈ ts := by
  rw [operators_applyWhile h] at ho
  exact (List.dropWhile_suffix _).subset ho

/-- After a token there waits what waited before, and perhaps the token itself. -/
theorem mem_operators_of_step (h : step limit s t = .ok s') {o : Token} (ho : o ∈ s'.operators) :
    o ∈ s.operators ∨ o = t ∧ t.Waits := by
  cases takes_of_step h with
  | opening hkind =>
    rcases List.mem_cons.1 ho with rfl | ho
    · exact .inr ⟨rfl, .inl hkind⟩
    · exact .inl ho
  | closing _ hloop hrest =>
    refine .inl (mem_operators_of_applyWhile hloop ?_)
    rw [hrest]
    exact List.mem_cons_of_mem _ ho
  | naming => exact .inl ho
  | negating hkind =>
    rcases List.mem_cons.1 ho with rfl | ho
    · exact .inr ⟨rfl, .inr ⟨.neg, hkind⟩⟩
    · exact .inl ho
  | yielding hkind _ hloop =>
    rcases List.mem_cons.1 ho with rfl | ho
    · exact .inr ⟨rfl, .inr ⟨_, hkind⟩⟩
    · exact .inl (mem_operators_of_applyWhile hloop ho)

/-- **Every token leaves only parentheses and connectives waiting.** -/
theorem Pending.step (h : Pending pre s) (hstep : step limit s t = .ok s') :
    Pending (pre ++ [t]) s' := by
  intro o ho
  rcases mem_operators_of_step hstep ho with hold | ⟨rfl, hwaits⟩
  · obtain ⟨hpre, hwaits⟩ := h o hold
    exact ⟨List.mem_append_left _ hpre, hwaits⟩
  · exact ⟨by simp, hwaits⟩

theorem Pending.run {ts : List Token} (h : Pending pre s) (hrun : run limit s ts = .ok s') :
    Pending (pre ++ ts) s' := run_keeps Pending.step pre h hrun

end Stacks

/-! ### How operators fail -/

/-- How one of the operators `ops` fails to take its operands under a limit. -/
inductive OperatorFault (limit : Option Limit) (ops : List Token) : ParseError → Prop
  | missing {o : Token} {c : Connective} (ho : o ∈ ops) (hkind : o.kind = .connective c) :
      OperatorFault limit ops (.malformed (.missingOperand c o.position))
  | tooDeep {m : Limit} {n : Nat} (hm : limit = some m) (hn : m.exceededBy? n = some true) :
      OperatorFault limit ops (.tooLarge .depth m n)
  | incomparable {m : Limit} {n : Nat} (hm : limit = some m) (hn : m.exceededBy? n = none) :
      OperatorFault limit ops .incomparable
  | unclosed {o : Token} (ho : o ∈ ops) (hkind : o.kind = .openParen) :
      OperatorFault limit ops (.unbalanced o.value)

theorem OperatorFault.mono {limit : Option Limit} {ops ops' : List Token} {e : ParseError}
    (h : OperatorFault limit ops e) (hsub : ops ⊆ ops') : OperatorFault limit ops' e := by
  cases h with
  | missing ho hkind => exact .missing (hsub ho) hkind
  | tooDeep hm hn => exact .tooDeep hm hn
  | incomparable hm hn => exact .incomparable hm hn
  | unclosed ho hkind => exact .unclosed (hsub ho) hkind

namespace Stacks

variable {limit : Option Limit} {s : Stacks} {t : Token} {e : Halt}

theorem push_error {f : Formula} (h : push limit f s = .error e) (ops : List Token) :
    OperatorFault limit ops e.error := by
  unfold push at h
  split at h
  next => cases h
  next m =>
    split at h
    next => cases h
    next hexceeded =>
      cases h
      exact .tooDeep rfl hexceeded
    next hincomparable =>
      cases h
      exact .incomparable rfl hincomparable

theorem apply_error (hwaits : t.Waits) (h : apply limit t s = .error e) :
    OperatorFault limit [t] e.error := by
  unfold apply at h
  split at h
  next hkind =>
    split at h
    next => exact push_error h [t]
    next =>
      cases h
      exact .missing (List.mem_singleton_self t) hkind
  next b hkind =>
    split at h
    next => exact push_error h [t]
    next =>
      cases h
      exact .missing (List.mem_singleton_self t) hkind
  next hneg hbinary =>
    -- what waits and is no connective is an opening parenthesis
    cases h
    rcases hwaits with hopen | ⟨c, hkind⟩
    · exact .unclosed (List.mem_singleton_self t) hopen
    · cases c with
      | neg => exact absurd hkind hneg
      | binary b => exact absurd hkind (hbinary b)

/-- A loop fails at one of the operators that it may take. -/
theorem applyWhile_error {p : TokenKind → Bool} : ∀ {ts : List Token} {s : Stacks},
    (∀ o ∈ ts, o.Waits) → applyWhile limit p ts s = .error e →
      OperatorFault limit (ts.takeWhile fun o => p o.kind) e.error
  | [], s, _, h => by cases h
  | t :: ts, s, hwaits, h => by
    obtain ⟨ht, hts⟩ := List.forall_mem_cons.1 hwaits
    rw [applyWhile] at h
    by_cases hp : p t.kind = true
    · rw [if_pos hp] at h
      rw [List.takeWhile_cons_of_pos (by exact hp)]
      rcases Halt.bind_eq_error.1 h with happ | ⟨s₁, -, hloop⟩
      · exact (apply_error ht happ).mono (by simp)
      · exact (applyWhile_error hts hloop).mono (List.subset_cons_self t _)
    · rw [if_neg hp] at h
      cases h

/-- A loop that stops at an opening parenthesis does not meet one. -/
theorem not_openParen_of_mem_takeWhile {p : TokenKind → Bool} (hp : p .openParen = false)
    {ts : List Token} {o : Token} (ho : o ∈ ts.takeWhile fun o => p o.kind) :
    o.kind ≠ .openParen := by
  intro hkind
  have htaken := List.mem_takeWhile_imp (p := fun o : Token => p o.kind) ho
  rw [hkind, hp] at htaken
  cases htaken

/-- **A token fails because of an operator that is no parenthesis**, or is a closing
parenthesis where no opening one waits. -/
theorem step_error (hproper : t.IsProper) (hwaits : ∀ o ∈ s.operators, o.Waits)
    (h : step limit s t = .error e) :
    (∃ ops, ops ⊆ s.operators ∧ (∀ o ∈ ops, o.kind ≠ .openParen) ∧
      OperatorFault limit ops e.error) ∨
    (t.kind = .closeParen ∧ e.error = .unbalanced t.value ∧
      ∀ o ∈ s.operators, o.kind ≠ .openParen) := by
  unfold step at h
  split at h
  next => cases h
  next hkind =>
    rcases Halt.bind_eq_error.1 h with hloop | ⟨s₁, hloop, h⟩
    · exact .inl ⟨_, (List.takeWhile_prefix _).subset,
        fun o ho => not_openParen_of_mem_takeWhile (by decide) ho, applyWhile_error hwaits hloop⟩
    · split at h
      next hnone =>
        cases h
        have hops := operators_applyWhile hloop
        rw [hnone] at hops
        refine .inr ⟨hkind, rfl, fun o ho => ?_⟩
        simpa using List.dropWhile_eq_nil_iff.1 hops.symm o ho
      next => cases h
  next hkind =>
    split at h
    next => cases h
    next hnone =>
      -- a proper name names a variable
      rw [Token.IsProper, hkind] at hproper
      rw [Var.ofName?, dif_pos hproper] at hnone
      cases hnone
  next c hkind =>
    by_cases hc : c = .neg ∧ s.afterOperand = false
    · rw [if_pos hc] at h
      cases h
    · rw [if_neg hc] at h
      rcases Halt.bind_eq_error.1 h with hloop | ⟨s₁, -, h⟩
      · exact .inl ⟨_, (List.takeWhile_prefix _).subset,
          fun o ho => not_openParen_of_mem_takeWhile rfl ho, applyWhile_error hwaits hloop⟩
      · cases h
  next label hkind => simp [Token.IsProper, hkind] at hproper
  next fault hkind => simp [Token.IsProper, hkind] at hproper

/-- At the end an operator fails that still waits, or there is not one formula. -/
theorem finish_error (hwaits : ∀ o ∈ s.operators, o.Waits) (h : finish limit s = .error e) :
    OperatorFault limit s.operators e.error ∨ ∃ n, n ≠ 1 ∧ e.error = .malformed (.notSingle n) := by
  unfold finish at h
  rcases Halt.bind_eq_error.1 h with hloop | ⟨s₁, -, h⟩
  · exact .inl ((applyWhile_error hwaits hloop).mono (List.takeWhile_prefix _).subset)
  · split at h
    next => cases h
    next hnot =>
      cases h
      refine .inr ⟨s₁.operands.length, fun hone => ?_, rfl⟩
      obtain ⟨f, hf⟩ := List.length_eq_one_iff.1 hone
      exact hnot f hf

/-- A run that fails does so at one token, with those before it taken. -/
theorem run_error : ∀ {ts : List Token} {s : Stacks}, run limit s ts = .error e →
    ∃ pre t rest s₁, ts = pre ++ t :: rest ∧ run limit s pre = .ok s₁ ∧ step limit s₁ t = .error e
  | [], s, h => by cases h
  | t :: ts, s, h => by
    rw [run_cons] at h
    rcases Halt.bind_eq_error.1 h with hstep | ⟨s₁, hstep, hrest⟩
    · exact ⟨[], t, ts, s, rfl, rfl, hstep⟩
    · obtain ⟨pre, u, rest, s₂, rfl, hrun, hfail⟩ := run_error hrest
      refine ⟨t :: pre, u, rest, s₂, rfl, ?_, hfail⟩
      rw [run_cons]
      exact Halt.bind_eq_ok.2 ⟨s₁, hstep, hrun⟩

end Stacks

/-! ### Faults of tokens -/

/-- What the tokens `ts` can meet under a limit on the depth. -/
inductive TokenFault (limit : Option Limit) (ts : List Token) : ParseError → Prop
  | missing {t : Token} {c : Connective} (ht : t ∈ ts) (hkind : t.kind = .connective c) :
      TokenFault limit ts (.malformed (.missingOperand c t.position))
  | notSingle {n : Nat} (hn : n ≠ 1) : TokenFault limit ts (.malformed (.notSingle n))
  | tooDeep {m : Limit} {n : Nat} (hm : limit = some m) (hn : m.exceededBy? n = some true) :
      TokenFault limit ts (.tooLarge .depth m n)
  | incomparable {m : Limit} {n : Nat} (hm : limit = some m) (hn : m.exceededBy? n = none) :
      TokenFault limit ts .incomparable
  /-- All that was opened has been closed, and one more is closed. -/
  | unopened {pre rest : List Token} {t : Token} (hts : ts = pre ++ t :: rest)
      (hkind : t.kind = .closeParen) (heven : Token.openCount pre = Token.closeCount pre) :
      TokenFault limit ts (.unbalanced t.value)
  /-- Nothing is closed too early, and not all that is opened is closed. -/
  | unclosed {t : Token} (ht : t ∈ ts) (hkind : t.kind = .openParen)
      (hintime : ∀ pre, pre <+: ts → Token.closeCount pre ≤ Token.openCount pre)
      (hmore : Token.closeCount ts < Token.openCount ts) :
      TokenFault limit ts (.unbalanced t.value)

section

variable {limit : Option Limit} {ts : List Token} {e : ParseError}

/-- A fault of operators among the tokens is one of the tokens, if parentheses that wait
are left open by them. -/
theorem OperatorFault.tokenFault {ops : List Token} (h : OperatorFault limit ops e)
    (hmem : ∀ o ∈ ops, o ∈ ts)
    (hopen : ∀ o ∈ ops, o.kind = .openParen →
      (∀ pre, pre <+: ts → Token.closeCount pre ≤ Token.openCount pre) ∧
        Token.closeCount ts < Token.openCount ts) : TokenFault limit ts e := by
  cases h with
  | missing ho hkind => exact .missing (hmem _ ho) hkind
  | tooDeep hm hn => exact .tooDeep hm hn
  | incomparable hm hn => exact .incomparable hm hn
  | unclosed ho hkind =>
    obtain ⟨hintime, hmore⟩ := hopen _ ho hkind
    exact .unclosed (hmem _ ho) hkind hintime hmore

theorem openCount_eq_zero {ops : List Token} (h : ∀ o ∈ ops, o.kind ≠ .openParen) :
    Token.openCount ops = 0 := by
  rw [Token.openCount, List.countP_eq_zero]
  intro o ho
  simpa using h o ho

theorem openCount_pos {ops : List Token} {o : Token} (ho : o ∈ ops) (hkind : o.kind = .openParen) :
    0 < Token.openCount ops :=
  List.countP_pos_iff.2 ⟨o, ho, by simpa using hkind⟩

/-- What a token meets in the middle of a parse. -/
theorem step_tokenFault {pre rest : List Token} {t : Token} {s : Stacks} {h : Halt}
    (hrun : Stacks.run limit .empty pre = .ok s) (hproper : t.IsProper)
    (hstep : Stacks.step limit s t = .error h) : TokenFault limit (pre ++ t :: rest) h.error := by
  have hpending : s.Pending pre := Stacks.pending_empty.run hrun
  have haccounts : s.Accounts pre := Stacks.accounts_empty.run hrun
  rcases Stacks.step_error hproper hpending.waits hstep with
    ⟨ops, hsub, hnone, hfault⟩ | ⟨hkind, herror, hnone⟩
  · have hmem : ∀ o ∈ ops, o ∈ pre ++ t :: rest := by
      intro o ho
      exact List.mem_append_left _ (hpending o (hsub ho)).1
    exact hfault.tokenFault hmem fun o ho hkind => absurd hkind (hnone o ho)
  · have heven : Token.openCount pre = Token.closeCount pre := by
      rw [haccounts.opened, openCount_eq_zero hnone, Nat.add_zero]
    rw [herror]
    exact .unopened rfl hkind heven

/-- What is met at the end of a parse. -/
theorem finish_tokenFault {s : Stacks} {h : Halt} (hrun : Stacks.run limit .empty ts = .ok s)
    (hfinish : Stacks.finish limit s = .error h) : TokenFault limit ts h.error := by
  have hpending : s.Pending ts := Stacks.pending_empty.run hrun
  have haccounts : s.Accounts ts := Stacks.accounts_empty.run hrun
  rcases Stacks.finish_error hpending.waits hfinish with hfault | ⟨n, hn, herror⟩
  · refine hfault.tokenFault (fun o ho => (hpending o ho).1) fun o ho hkind => ?_
    have hopened := haccounts.opened
    have hpos := openCount_pos ho hkind
    exact ⟨haccounts.closedInTime, by omega⟩
  · rw [herror]
    exact .notSingle hn

/-- **What tokens meet is true of them.** -/
theorem parseTokens_fault {h : Halt} (hproper : ∀ t ∈ ts, t.IsProper)
    (hparse : parseTokens limit ts = .error h) : TokenFault limit ts h.error := by
  unfold parseTokens at hparse
  rcases Halt.bind_eq_error.1 hparse with hrun | ⟨s, hrun, hfinish⟩
  · obtain ⟨pre, t, rest, s, rfl, hpre, hstep⟩ := Stacks.run_error hrun
    exact step_tokenFault hpre (hproper t (by simp)) hstep
  · exact finish_tokenFault hrun hfinish

/-- Without a limit tokens meet faults of sentences only. -/
theorem TokenFault.isSentenceFault (h : TokenFault none ts e) : Stacks.IsSentenceFault e := by
  cases h with
  | missing | notSingle | unopened | unclosed => trivial
  | tooDeep hm => cases hm
  | incomparable hm => cases hm

end

end Turnstile
