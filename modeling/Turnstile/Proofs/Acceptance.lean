/-
# The parser accepts the loose grammar

The parser without a limit accepts exactly the sentences of the loose grammar
(`parseTokens_ok_iff`).

In one direction, tokens that are read as a layer leave operators pending, and
these settle to the pile that the layer makes (`Piles.run`). In the other, each
operator on the stack holds what was read before it (`Context`), and settling
operators joins these readings into one (`Context.collapse`).

Key definitions: `AtLeast`, `Below`, `Layer.floor`, `Layer.Starts`, `Leaves`,
`Context`, `Reading`.
Key theorems: `Piles.run`, `Context.collapse`, `Reading.step`, `Reading.run`,
`parseTokens_ok_iff`.
-/
import Turnstile.Proofs.ShuntingYard

namespace Turnstile

open Stacks

/-! ### How tight operators bind -/

/-- All are connectives that bind at least as tight as `k`. -/
def AtLeast (k : Nat) (ts : List Token) : Prop :=
  ∀ t ∈ ts, ∃ c, t.kind = .connective c ∧ k ≤ c.strength

/-- The top, if it is a connective, binds less tight than `k`. -/
def Below (k : Nat) (ts : List Token) : Prop :=
  ∀ t ∈ ts.head?, ∀ c, t.kind = .connective c → c.strength < k

theorem AtLeast.mono {k l : Nat} {ts : List Token} (h : AtLeast l ts) (hle : k ≤ l) :
    AtLeast k ts := by
  intro t ht
  obtain ⟨c, hkind, hl⟩ := h t ht
  exact ⟨c, hkind, Nat.le_trans hle hl⟩

theorem Below.mono {k l : Nat} {ts : List Token} (h : Below k ts) (hle : k ≤ l) : Below l ts :=
  fun t ht c hkind => Nat.lt_of_lt_of_le (h t ht c hkind) hle

theorem below_cons {k : Nat} {t : Token} {c : Connective} (hkind : t.kind = .connective c)
    (hlt : c.strength < k) (ts : List Token) : Below k (t :: ts) := by
  rintro t' ⟨⟩ d hd
  cases hkind.symm.trans hd
  exact hlt

/-- Below an opening parenthesis nothing is seen. -/
theorem below_openParen {t : Token} (hkind : t.kind = .openParen) (k : Nat) (ts : List Token) :
    Below k (t :: ts) := by
  rintro t' ⟨⟩ c hc
  cases hkind.symm.trans hc

theorem Connective.strength_lt (c : Connective) : c.strength < 4 := by
  cases c with
  | neg => decide
  | binary b => cases b <;> decide

theorem AtLeast.eq_nil {ts : List Token} (h : AtLeast 4 ts) : ts = [] := by
  refine List.eq_nil_iff_forall_not_mem.2 fun t ht => ?_
  obtain ⟨c, -, hc⟩ := h t ht
  exact absurd c.strength_lt (Nat.not_lt.2 hc)

/-- A loop that may take all pending operators, and not what is under them, takes
just these. -/
theorem span_pending (p : TokenKind → Bool) {pending ops : List Token}
    (hp : ∀ t ∈ pending, p t.kind = true) (hops : ∀ t ∈ ops.head?, p t.kind = false) :
    ((pending ++ ops).takeWhile fun t => p t.kind) = pending ∧
      ((pending ++ ops).dropWhile fun t => p t.kind) = ops := by
  rw [List.takeWhile_append_of_pos hp, List.dropWhile_append_of_pos hp]
  cases ops with
  | nil => simp
  | cons t ops =>
    have ht : p t.kind = false := hops t rfl
    simp [ht]

theorem span_yieldsTo {c : Connective} {pending ops : List Token}
    (hp : AtLeast c.strength pending) (hops : Below c.strength ops) :
    ((pending ++ ops).takeWhile fun t => yieldsTo c t.kind) = pending ∧
      ((pending ++ ops).dropWhile fun t => yieldsTo c t.kind) = ops := by
  refine span_pending (yieldsTo c) (fun t ht => ?_) fun t ht => ?_
  · obtain ⟨d, hkind, hle⟩ := hp t ht
    rw [hkind]
    exact decide_eq_true hle
  · have hbelow := hops t ht
    cases hkind : t.kind with
    | connective d => exact decide_eq_false (Nat.not_le.2 (hbelow d hkind))
    | _ => rfl

theorem span_openParen {o : Token} {pending : List Token} (ops : List Token)
    (hp : AtLeast 0 pending) (hopen : o.kind = .openParen) :
    ((pending ++ o :: ops).takeWhile fun t => t.kind != .openParen) = pending ∧
      ((pending ++ o :: ops).dropWhile fun t => t.kind != .openParen) = o :: ops := by
  refine span_pending (fun k => k != .openParen) (fun t ht => ?_) fun t ht => ?_
  · obtain ⟨c, hkind, -⟩ := hp t ht
    rw [hkind]
    rfl
  · cases ht
    rw [hopen]
    rfl

theorem span_all (ops : List Token) :
    (ops.takeWhile fun _ => true) = ops ∧ (ops.dropWhile fun _ => true) = [] := by
  have h := span_pending (fun _ => true) (fun t (_ : t ∈ ops) => rfl)
    fun t (ht : t ∈ ([] : List Token).head?) => by cases ht
  rwa [List.append_nil] at h

/-! ### From readings to runs -/

namespace Layer

/-- How tight the operators bind that a layer leaves pending. -/
def floor : Layer → Nat
  | bare => 4
  | negated => Connective.neg.strength
  | whole c => c.level

/-- What a layer asks of the stacks it is read on: it starts an operand, and the
operators under it do not take operands from it. -/
def Starts (s : Stacks) : Layer → Prop
  | bare => True
  | negated => s.afterOperand = false
  | whole c => s.afterOperand = false ∧ Below c.level s.operators

end Layer

/-- Taking the tokens leaves operators pending that bind at least as tight as `k`
and settle to the pile. -/
def Leaves (s : Stacks) (ts : List Token) (k : Nat) (v : List Formula) : Prop :=
  ∃ s' pending, run none s ts = .ok s' ∧ s'.operators = pending ++ s.operators ∧
    AtLeast k pending ∧ settle? pending s'.operands = some v

/-- Taking tokens up to one of which it is known how it is taken. -/
theorem run_through {s s₁ s₂ : Stacks} {ls : List Token} {t : Token}
    (hrun : run none s ls = .ok s₁) (htakes : Takes none s₁ t s₂) (rs : List Token) :
    run none s (ls ++ t :: rs) = run none s₂ rs := by
  rw [run_append, hrun]
  show run none s₁ (t :: rs) = _
  rw [run_cons, step_of_takes htakes]
  rfl

theorem afterOperand_run : ∀ {ts : List Token} {s s' : Stacks}, run none s ts = .ok s' →
    s'.afterOperand = endsOperand s.afterOperand ts
  | [], s, s', h => by
    cases h
    rfl
  | t :: ts, s, s', h => by
    rw [run_cons] at h
    cases hstep : step none s t with
    | error e => rw [hstep] at h; cases h
    | ok s₁ =>
      rw [hstep] at h
      rw [endsOperand, ← (takes_of_step hstep).afterOperand]
      exact afterOperand_run h

/-- Operators as tight as none leave nothing pending. -/
theorem Leaves.bare {s : Stacks} {ts : List Token} {v : List Formula} (h : Leaves s ts 4 v) :
    ∃ s', run none s ts = .ok s' ∧ s'.operators = s.operators ∧ s'.operands = v := by
  obtain ⟨s', pending, hrun, hops, hatLeast, hset⟩ := h
  obtain rfl := hatLeast.eq_nil
  exact ⟨s', hrun, hops, Option.some.inj hset⟩

/-- A connective makes what is pending settle, and stays under what comes next. -/
theorem Leaves.yield {s : Stacks} {ls : List Token} {t : Token} {c : Connective}
    {v : List Formula} (h : Leaves s ls c.strength v) (hbelow : Below c.strength s.operators)
    (hkind : t.kind = .connective c) (hc : c = .neg → endsOperand s.afterOperand ls = true) :
    ∃ built, ∀ rs,
      run none s (ls ++ t :: rs) = run none ⟨t :: s.operators, v, false, built⟩ rs := by
  obtain ⟨s', pending, hrun, hops, hatLeast, hset⟩ := h
  obtain ⟨htake, hdrop⟩ := span_yieldsTo hatLeast hbelow
  have hafter : c = .neg → s'.afterOperand = true := by
    rw [afterOperand_run hrun]
    exact hc
  obtain ⟨built, hloop⟩ := applyWhile_of_settle? (yieldsTo c) s'.operators s'
    (by rw [hops, htake]; exact hset)
  rw [hops, hdrop, ← hops] at hloop
  exact ⟨built, run_through hrun (.yielding hkind hafter hloop)⟩

/-- An operator under pending ones takes its operands last. -/
theorem Leaves.operator {s s₂ : Stacks} {ts rs : List Token} {t : Token} {c : Connective}
    {k l : Nat} {v w : List Formula} (h : Leaves s₂ rs k v)
    (hrun : run none s ts = run none s₂ rs) (hops : s₂.operators = t :: s.operators)
    (hkind : t.kind = .connective c) (hc : l ≤ c.strength) (hl : l ≤ k)
    (hcombine : combine? c v = some w) : Leaves s ts l w := by
  obtain ⟨s', pending, hok, hpend, hatLeast, hset⟩ := h
  refine ⟨s', pending ++ [t], hrun.trans hok, by rw [hpend, hops, List.append_assoc]; rfl, ?_, ?_⟩
  · intro t' ht'
    rcases List.mem_append.1 ht' with ht' | ht'
    · exact hatLeast.mono hl t' ht'
    · rw [List.mem_singleton.1 ht']
      exact ⟨c, hkind, hc⟩
  · rw [settle?_append, hset, Option.bind_some, settle?_cons hkind, hcombine]
    rfl

/-- **Tokens that are read as a layer are taken as one**: what they leave pending
settles to the pile of the layer. -/
theorem Piles.run {y : Layer} {ts : List Token} {u v : List Formula} (h : Piles y ts u v) :
    ∀ s : Stacks, s.operands = u → y.Starts s → Leaves s ts y.floor v := by
  induction h with
  | nil =>
    rintro s rfl -
    exact ⟨s, [], rfl, rfl, List.forall_mem_nil _, rfl⟩
  | @name t x as u v _ hkind hname ih =>
    intro s hu _
    obtain ⟨s₁, hrun, hops, hv⟩ := (ih s hu trivial).bare
    refine ⟨_, [], run_through hrun (.naming hkind hname) [], hops, List.forall_mem_nil _, ?_⟩
    show some (.atom x :: s₁.operands) = _
    rw [hv]
  | @paren o c as ts u v w _ hopen _ hclose ih ihin =>
    intro s hu _
    obtain ⟨s₁, hrun, hops, hv⟩ := (ih s hu trivial).bare
    -- inside, the opening parenthesis hides the operators that wait outside
    obtain ⟨s₂, inner, hrunin, hopsin, hfloorin, hsetin⟩ :=
      ihin { s₁ with operators := o :: s₁.operators, afterOperand := false } hv
        ⟨rfl, below_openParen hopen _ _⟩
    obtain ⟨htake, hdrop⟩ := span_openParen s₁.operators hfloorin hopen
    obtain ⟨built, hloop⟩ := applyWhile_of_settle? (fun k => k != .openParen) s₂.operators s₂
      (by rw [hopsin]; exact htake ▸ hsetin)
    rw [hopsin, hdrop, ← hopsin] at hloop
    have hthrough := run_through hrunin (.closing hclose hloop rfl) []
    exact ⟨_, [], (run_through hrun (.opening hopen) _).trans hthrough, hops,
      List.forall_mem_nil _, rfl⟩
  | bare _ ih =>
    intro s hu _
    obtain ⟨s₁, pending, hrun, hops, hfloor, hset⟩ := ih s hu trivial
    exact ⟨s₁, pending, hrun, hops, hfloor.mono (by decide), hset⟩
  | @neg t ts u v f hkind _ ih =>
    intro s hu hafter
    have hthrough := run_through (show Stacks.run none s [] = .ok s from rfl)
      (.negating hkind hafter) ts
    exact (ih { s with operators := t :: s.operators, afterOperand := false } hu rfl).operator
      hthrough rfl hkind (Nat.le_refl _) (Nat.le_refl _) rfl
  | negated _ ih => exact fun s hu hstarts => ih s hu hstarts.1
  | @next t ls rs u v w f _ hends hkind _ ihl ihr =>
    intro s hu hstarts
    obtain ⟨built, hthrough⟩ := (ihl s hu hstarts).yield (c := .neg) hstarts.2 hkind fun _ => by
      rw [hstarts.1]
      exact hends
    exact (ihr ⟨t :: s.operators, v, false, built⟩ rfl rfl).operator (hthrough rs) rfl hkind
      (Nat.le_refl _) (Nat.le_refl _) rfl
  | @operand b ts u v _ ih =>
    intro s hu hstarts
    have hlevel : (Category.chain b).level ≤ (Category.operandOf b).level := by
      rw [Category.level_operandOf]
      exact Nat.le_succ _
    obtain ⟨s₁, pending, hrun, hops, hfloor, hset⟩ :=
      ih s hu ⟨hstarts.1, hstarts.2.mono hlevel⟩
    exact ⟨s₁, pending, hrun, hops, hfloor.mono hlevel, hset⟩
  | @join b t ls rs u v w l r _ hkind _ ihl ihr =>
    intro s hu hstarts
    obtain ⟨built, hthrough⟩ :=
      (ihl s hu hstarts).yield (c := .binary b) hstarts.2 hkind fun hneg => by cases hneg
    -- the right operand binds tighter than the connective before it
    have hlevel : (Connective.binary b).strength < (Category.operandOf b).level := by
      rw [Category.level_operandOf]
      exact Nat.lt_succ_self _
    exact (ihr ⟨t :: s.operators, v, false, built⟩ rfl ⟨rfl, below_cons hkind hlevel _⟩).operator
      (hthrough rs) rfl hkind (Nat.le_refl _) (Nat.le_of_lt hlevel) rfl

/-! ### From runs to readings -/

theorem Category.level_injective : ∀ {c d : Category}, c.level = d.level → c = d := by
  rintro (_ | _ | _) (_ | _ | _) h <;> first | rfl | cases h

theorem Category.level_le (c : Category) : c.level ≤ Category.unary.level := by
  cases c with
  | unary => exact Nat.le_refl _
  | chain b => cases b <;> decide

/-- What is read as a category is read as each looser one. -/
theorem Piles.widen {c d : Category} {ts : List Token} {u v : List Formula}
    (h : Piles (.whole d) ts u v) (hle : c.level ≤ d.level) : Piles (.whole c) ts u v := by
  by_cases heq : c = d
  · exact heq ▸ h
  · have hlt : c.level < d.level :=
      Nat.lt_of_le_of_ne hle fun hlevel => heq (Category.level_injective hlevel)
    match c with
    | .unary => exact absurd hlt (Nat.not_lt.2 d.level_le)
    | .chain b =>
      have hnext : (Category.operandOf b).level ≤ d.level := by
        rw [Category.level_operandOf]
        exact hlt
      exact .operand (h.widen hnext)
termination_by d.level - c.level
decreasing_by
  rw [Category.level_operandOf]
  exact Nat.sub_lt_sub_left hlt (Nat.lt_succ_self _)

/-- The tokens up to the top of the stack of operators, the stack, and the pile at
the time that the top was put on it. Each operator has found what was read since
the one under it. -/
inductive Context : List Token → List Token → List Formula → Prop
  | start : Context [] [] []
  | paren {ts ops as : List Token} {o : Token} {u v : List Formula} (h : Context ts ops u)
      (has : Piles .bare as u v) (hopen : o.kind = .openParen) :
      Context (ts ++ as ++ [o]) (o :: ops) v
  | neg {ts ops : List Token} {t : Token} {u : List Formula} (h : Context ts ops u)
      (hkind : t.kind = .connective .neg) : Context (ts ++ [t]) (t :: ops) u
  | next {ts ops ls : List Token} {t : Token} {u v : List Formula} (h : Context ts ops u)
      (hbelow : Below Category.unary.level ops) (hl : Piles (.whole .unary) ls u v)
      (hends : endsOperand false ls = true) (hkind : t.kind = .connective .neg) :
      Context (ts ++ ls ++ [t]) (t :: ops) v
  | join {ts ops ls : List Token} {b : Binary} {t : Token} {u v : List Formula}
      (h : Context ts ops u) (hbelow : Below (Category.chain b).level ops)
      (hl : Piles (.whole (.chain b)) ls u v) (hkind : t.kind = .connective (.binary b)) :
      Context (ts ++ ls ++ [t]) (t :: ops) v

/-- What was read since the top of the stack, tighter than that top and no looser
than `c`. -/
def ReadSince (c : Category) (ops rs : List Token) (u w : List Formula) : Prop :=
  Piles .negated rs u w ∨
    ∃ d, Piles (.whole d) rs u w ∧ c.level ≤ d.level ∧ Below d.level ops

namespace ReadSince

variable {c : Category} {ops rs : List Token} {u w : List Formula}

theorem whole (h : ReadSince c ops rs u w) : Piles (.whole c) rs u w := by
  rcases h with h | ⟨d, h, hle, -⟩
  · exact (Piles.negated h).widen c.level_le
  · exact h.widen hle

/-- Only negations are tighter than a negation. -/
theorem negated {t : Token} (h : ReadSince c (t :: ops) rs u w)
    (hkind : t.kind = .connective .neg) : Piles .negated rs u w := by
  rcases h with h | ⟨d, -, -, hbelow⟩
  · exact h
  · exact absurd (hbelow t rfl _ hkind) (Nat.not_lt.2 d.level_le)

theorem operandOf {b : Binary} {t : Token} (h : ReadSince c (t :: ops) rs u w)
    (hkind : t.kind = .connective (.binary b)) : Piles (.whole (.operandOf b)) rs u w := by
  rcases h with h | ⟨d, h, -, hbelow⟩
  · exact (Piles.negated h).widen (Category.level_le _)
  · refine h.widen ?_
    rw [Category.level_operandOf]
    exact hbelow t rfl _ hkind

end ReadSince

/-- A loop that takes the top settles it first. -/
theorem settle?_takeWhile_of_pos {p : TokenKind → Bool} {t : Token} {c : Connective}
    {ops : List Token} {w w' : List Formula} (hkind : t.kind = .connective c)
    (hp : p t.kind = true)
    (h : settle? ((t :: ops).takeWhile fun t => p t.kind) w = some w') :
    (∃ v, combine? c w = some v ∧ settle? (ops.takeWhile fun t => p t.kind) v = some w') ∧
      ((t :: ops).dropWhile fun t => p t.kind) = ops.dropWhile fun t => p t.kind := by
  rw [List.takeWhile_cons_of_pos (by exact hp), settle?_cons hkind] at h
  exact ⟨Option.bind_eq_some_iff.1 h, List.dropWhile_cons_of_pos (by exact hp)⟩

/-- A loop that does not take the top leaves all as it is. -/
theorem settle?_takeWhile_of_neg {p : TokenKind → Bool} {t : Token} {ops : List Token}
    {w w' : List Formula} (hp : ¬p t.kind = true)
    (h : settle? ((t :: ops).takeWhile fun t => p t.kind) w = some w') :
    w' = w ∧ ((t :: ops).dropWhile fun t => p t.kind) = t :: ops := by
  rw [List.takeWhile_cons_of_neg (by exact hp)] at h
  exact ⟨(Option.some.inj h).symm, List.dropWhile_cons_of_neg (by exact hp)⟩

/-- **Settling operators joins what was read before them.** A loop that takes the
connectives no looser than a category makes one reading as that category of all
that was read since the operator at which it stops. -/
theorem Context.collapse {p : TokenKind → Bool} {c : Category}
    (hp : ∀ d, p (.connective d) = true ↔ c.level ≤ d.strength)
    {ts ops : List Token} {u : List Formula} (h : Context ts ops u) :
    ∀ {rs : List Token} {w w' : List Formula}, ReadSince c ops rs u w →
      settle? (ops.takeWhile fun t => p t.kind) w = some w' →
      ∃ ts' ms u', ts = ts' ++ ms ∧ Context ts' (ops.dropWhile fun t => p t.kind) u' ∧
        Piles (.whole c) (ms ++ rs) u' w' := by
  induction h with
  | start =>
    intro rs w w' hr hset
    cases hset
    exact ⟨[], [], [], rfl, .start, hr.whole⟩
  | @paren ts ops as o u v h has hopen _ =>
    intro rs w w' hr hset
    -- no loop that settles takes a parenthesis
    by_cases hpo : p o.kind = true
    · rw [List.takeWhile_cons_of_pos (by exact hpo), settle?, hopen] at hset
      cases hset
    · obtain ⟨rfl, hdrop⟩ := settle?_takeWhile_of_neg hpo hset
      rw [hdrop]
      exact ⟨_, [], v, (List.append_nil _).symm, .paren h has hopen, hr.whole⟩
  | @neg ts ops t u h hkind ih =>
    intro rs w w' hr hset
    have hpt : p t.kind = true := by
      rw [hkind, hp]
      exact c.level_le
    obtain ⟨⟨v, hcombine, hset⟩, hdrop⟩ := settle?_takeWhile_of_pos hkind hpt hset
    rw [hdrop]
    obtain ⟨f, v, rfl, rfl⟩ := combine?_neg_eq_some hcombine
    obtain ⟨ts', ms, u', rfl, hctx, hread⟩ :=
      ih (.inl (.neg hkind (hr.negated hkind))) hset
    exact ⟨ts', ms ++ [t], u', by simp, hctx, by simpa using hread⟩
  | @next ts ops ls t u v h hbelow hl hends hkind ih =>
    intro rs w w' hr hset
    have hpt : p t.kind = true := by
      rw [hkind, hp]
      exact c.level_le
    obtain ⟨⟨v', hcombine, hset⟩, hdrop⟩ := settle?_takeWhile_of_pos hkind hpt hset
    rw [hdrop]
    obtain ⟨f, v', rfl, rfl⟩ := combine?_neg_eq_some hcombine
    obtain ⟨ts', ms, u', rfl, hctx, hread⟩ :=
      ih (.inr ⟨.unary, .next hl hends hkind (hr.negated hkind), c.level_le, hbelow⟩) hset
    exact ⟨ts', ms ++ ls ++ [t], u', by simp, hctx, by simpa using hread⟩
  | @join ts ops ls b t u v h hbelow hl hkind ih =>
    intro rs w w' hr hset
    by_cases hle : c.level ≤ (Connective.binary b).strength
    · have hpt : p t.kind = true := by rwa [hkind, hp]
      obtain ⟨⟨v', hcombine, hset⟩, hdrop⟩ := settle?_takeWhile_of_pos hkind hpt hset
      rw [hdrop]
      obtain ⟨l, r, v', rfl, rfl⟩ := combine?_binary_eq_some hcombine
      obtain ⟨ts', ms, u', rfl, hctx, hread⟩ :=
        ih (.inr ⟨.chain b, .join hl hkind (hr.operandOf hkind), hle, hbelow⟩) hset
      exact ⟨ts', ms ++ ls ++ [t], u', by simp, hctx, by simpa using hread⟩
    · have hpt : ¬p t.kind = true := by rwa [hkind, hp]
      obtain ⟨rfl, hdrop⟩ := settle?_takeWhile_of_neg hpt hset
      rw [hdrop]
      exact ⟨_, [], v, (List.append_nil _).symm, .join h hbelow hl hkind, hr.whole⟩

/-- The stacks after tokens: operators in a context, and operands next to each
other since the top one. -/
def Reading (pre : List Token) (s : Stacks) : Prop :=
  ∃ ts as u, pre = ts ++ as ∧ Context ts s.operators u ∧ Piles .bare as u s.operands ∧
    s.afterOperand = endsOperand false as

/-- The category whose operands a connective takes first. -/
def Connective.category : Connective → Category
  | neg => .unary
  | binary b => .chain b

theorem Connective.level_category (c : Connective) : c.category.level = c.strength := by
  cases c <;> rfl

theorem yieldsTo_iff (c d : Connective) :
    yieldsTo c (.connective d) = true ↔ c.category.level ≤ d.strength := by
  rw [c.level_category]
  exact decide_eq_true_iff

/-- What a connective leaves on the stack binds less tight than it. -/
theorem below_dropWhile (c : Connective) (ops : List Token) :
    Below c.category.level (ops.dropWhile fun t => yieldsTo c t.kind) := by
  intro t ht d hd
  have hnot := List.head?_dropWhile_not (fun t : Token => yieldsTo c t.kind) ops
  rw [Option.mem_def.1 ht] at hnot
  have hyield : ¬yieldsTo c (.connective d) = true := by simpa [hd] using hnot
  exact Nat.not_le.1 fun hle => hyield ((yieldsTo_iff c d).2 hle)

theorem endsOperand_of_endsOperand_false {after : Bool} {ts : List Token}
    (h : endsOperand false ts = true) : endsOperand after ts = true := by
  cases ts with
  | nil => cases h
  | cons t ts => exact h

/-- **Every token extends the reading.** -/
theorem Reading.step {limit : Option Limit} {pre : List Token} {s s' : Stacks} {t : Token}
    (h : Reading pre s) (hstep : step limit s t = .ok s') : Reading (pre ++ [t]) s' := by
  obtain ⟨ts, as, u, rfl, hctx, has, hafter⟩ := h
  cases takes_of_step hstep with
  | opening hkind =>
    exact ⟨ts ++ as ++ [t], [], s.operands, (List.append_nil _).symm, .paren hctx has hkind, .nil,
      rfl⟩
  | naming hkind hname =>
    refine ⟨ts, as ++ [t], u, List.append_assoc _ _ _, hctx, .name has hkind hname, ?_⟩
    rw [endsOperand_concat, hkind]
    rfl
  | negating hkind hstart =>
    -- an operand is to start, so none was read since the top
    obtain ⟨rfl, hu⟩ := has.nil_of_endsOperand_eq_false (hafter.symm.trans hstart)
    refine ⟨ts ++ [t], [], u, by simp, .neg hctx hkind, ?_, rfl⟩
    rw [hu]
    exact .nil
  | @yielding c s₁ hkind hc hloop =>
    obtain ⟨hset, hops, -⟩ := applyWhile_ok hloop
    obtain ⟨ts', ms, u', rfl, hctx', hread⟩ :=
      hctx.collapse (yieldsTo_iff c) (.inl (.bare has)) hset
    have hbelow := below_dropWhile c s.operators
    rw [← hops] at hctx' hbelow
    refine ⟨ts' ++ (ms ++ as) ++ [t], [], s₁.operands, by simp, ?_, .nil, rfl⟩
    cases c with
    | neg =>
      have hends : endsOperand false (ms ++ as) = true := by
        rw [endsOperand_append]
        exact endsOperand_of_endsOperand_false (hafter.symm.trans (hc rfl))
      exact .next hctx' hbelow hread hends hkind
    | binary b => exact .join hctx' hbelow hread hkind
  | @closing s₁ o rest hkind hloop hrest =>
    obtain ⟨hset, hops, -⟩ := applyWhile_ok hloop
    rw [hrest] at hops
    obtain ⟨ts', ms, u', rfl, hctx', hread⟩ :=
      hctx.collapse (c := .chain .imp) (p := fun k => k != .openParen)
        (fun d => iff_of_true rfl (Nat.zero_le _)) (.inl (.bare has)) hset
    rw [← hops] at hctx'
    have ho : o.kind = .openParen := by
      have hnot := List.head?_dropWhile_not (fun t : Token => t.kind != .openParen) s.operators
      rw [← hops] at hnot
      simpa using hnot
    cases hctx' with
    | @paren ts ops as' o u v hctx₀ has' hopen =>
      refine ⟨ts, as' ++ o :: (ms ++ as ++ [t]), u, by simp, hctx₀,
        .paren has' hopen hread hkind, ?_⟩
      rw [show as' ++ o :: (ms ++ as ++ [t]) = as' ++ o :: (ms ++ as) ++ [t] by simp,
        endsOperand_concat, hkind]
      rfl
    | neg _ hneg => cases ho.symm.trans hneg
    | next _ _ _ _ hneg => cases ho.symm.trans hneg
    | join _ _ _ hbin => cases ho.symm.trans hbin

/-- A run reads its tokens. -/
theorem Reading.run {limit : Option Limit} {ts pre : List Token} {s s' : Stacks}
    (h : Reading pre s) (hrun : run limit s ts = .ok s') : Reading (pre ++ ts) s' :=
  run_keeps Reading.step pre h hrun

/-! ### What is accepted -/

theorem reading_empty : Reading [] .empty := ⟨[], [], [], rfl, .start, .nil, rfl⟩

/-- **The parser accepts the loose grammar**, and nothing else. -/
theorem parseTokens_ok_iff {ts : List Token} {f : Formula} :
    (∃ s, parseTokens none ts = .ok (f, s)) ↔ Piles (.whole (.chain .imp)) ts [] [f] := by
  unfold parseTokens
  constructor
  · rintro ⟨s', h⟩
    obtain ⟨s, hrun, hfinish⟩ := Halt.bind_eq_ok.1 h
    obtain ⟨s₁, hloop, hnil, hone, -⟩ := finish_ok hfinish
    obtain ⟨hset, hops, -⟩ := applyWhile_ok hloop
    obtain ⟨ts', as, u, hts, hctx, has, -⟩ := reading_empty.run hrun
    obtain ⟨ts₀, ms, u', rfl, hctx', hread⟩ :=
      hctx.collapse (c := .chain .imp) (p := fun _ => true)
        (fun d => iff_of_true rfl (Nat.zero_le _)) (.inl (.bare has)) hset
    rw [← hops, hnil] at hctx'
    rw [hone] at hread
    cases hctx' with
    | start => rwa [← List.nil_append ts, hts]
  · intro h
    obtain ⟨s, pending, hrun, hops, -, hset⟩ :=
      h.run .empty rfl ⟨rfl, fun t ht => by cases ht⟩
    obtain ⟨htake, hdrop⟩ := span_all s.operators
    have hops : s.operators = pending := hops.trans (List.append_nil _)
    obtain ⟨built, hloop⟩ := applyWhile_of_settle? (fun _ => true) s.operators s
      (by rw [htake, hops]; exact hset)
    refine ⟨⟨[], [], s.afterOperand, built⟩, Halt.bind_eq_ok.2 ⟨s, hrun, ?_⟩⟩
    rw [finish, hloop, hdrop]
    rfl

end Turnstile
