/-
# The order of waiting operators

A binary connective is put on the stack of operators only after those on top that bind as
tightly have taken their operands, so it never waits right above one that yields to it
(`Token.RestsOn`). A negation and an opening parenthesis wait above anything. Every token
keeps that (`Stacks.Ordered.step`), also one that no formula has in its place: a loop and a
closing parenthesis only take operators off the top, and what they bring to light was in
order before. So it holds after any tokens that are taken (`Stacks.Ordered.run`).

Between two parentheses there are then, from the bottom up, binary connectives of
increasing strength, and above them negations (`Token.exists_ascent`). There are three
strengths, so at most three binary connectives wait for each parenthesis
(`operators_in_order`).

Key definitions: `Token.RestsOn`, `Stacks.Ordered`, `Token.segments`.
Key theorems: `Stacks.Ordered.step`, `Stacks.Ordered.run`, `Token.segments_induction`,
`Token.exists_ascent`, `operators_in_order`.
-/
import Mathlib.Data.List.Chain
import Turnstile.Proofs.PendingOperators

namespace Turnstile

/-! ### What waits above what -/

/-- An operator may wait right above another one: a binary connective does so only if the
other does not yield to it. -/
def Token.RestsOn (upper lower : Token) : Prop :=
  ∀ b, upper.kind = .connective (.binary b) → Stacks.yieldsTo (.binary b) lower.kind = false

namespace Stacks

variable {limit : Option Limit} {s s' : Stacks} {t : Token}

/-- Every operator may wait above the next one. -/
def Ordered (s : Stacks) : Prop := s.operators.IsChain Token.RestsOn

theorem ordered_empty : Ordered .empty := .nil

/-- Operators are taken off the top only. -/
theorem suffix_of_applyWhile {p : TokenKind → Bool}
    (h : applyWhile limit p s.operators s = .ok s') : s'.operators <:+ s.operators := by
  rw [operators_applyWhile h]
  exact List.dropWhile_suffix _

/-- **Every token keeps the operators in order.** -/
theorem Ordered.step (h : Ordered s) (hstep : step limit s t = .ok s') : Ordered s' := by
  cases takes_of_step hstep with
  | opening hkind =>
    refine List.IsChain.cons h fun o _ b hb => ?_
    rw [hkind] at hb
    cases hb
  | @closing s₁ o rest _ hloop hrest =>
    have hrest : rest <:+ s₁.operators := hrest ▸ List.suffix_cons o rest
    exact List.IsChain.suffix h (hrest.trans (suffix_of_applyWhile hloop))
  | naming => exact h
  | negating hkind =>
    refine List.IsChain.cons h fun o _ b hb => ?_
    rw [hkind] at hb
    cases hb
  | @yielding c s₁ hkind _ hloop =>
    have hbelow : Ordered s₁ := List.IsChain.suffix h (suffix_of_applyWhile hloop)
    refine List.IsChain.cons hbelow fun o ho b hb => ?_
    -- the loop stopped at what does not yield
    have hstop := List.head?_dropWhile_not (fun o : Token => yieldsTo c o.kind) s.operators
    rw [← operators_applyWhile hloop, ho] at hstop
    rw [hkind] at hb
    cases hb
    exact hstop

theorem Ordered.run {ts : List Token} (h : Ordered s) (hrun : run limit s ts = .ok s') :
    Ordered s' := run_keeps (P := fun _ s => Ordered s) Ordered.step [] h hrun

end Stacks

/-! ### Segments -/

namespace Token

/-- The parts of a list of tokens between opening parentheses. -/
def segments (ts : List Token) : List (List Token) := ts.splitOnP fun t => t.kind = .openParen

/-- A list of tokens without an opening parenthesis is one segment. In any other, the first
segment comes before the first parenthesis and the others after it. -/
theorem segments_cases (ts : List Token) :
    ((∀ t ∈ ts, t.kind ≠ .openParen) ∧ segments ts = [ts]) ∨
      ∃ seg o rest, ts = seg ++ o :: rest ∧ o.kind = .openParen ∧
        (∀ t ∈ seg, t.kind ≠ .openParen) ∧ segments ts = seg :: segments rest := by
  have hsplit :=
    List.takeWhile_append_dropWhile (p := fun t : Token => t.kind ≠ .openParen) (l := ts)
  cases hdrop : ts.dropWhile fun t => t.kind ≠ .openParen with
  | nil =>
    have hnone : ∀ t ∈ ts, t.kind ≠ .openParen := by simpa using List.dropWhile_eq_nil_iff.1 hdrop
    exact .inl ⟨hnone, List.splitOnP_eq_singleton fun t ht => by simpa using hnone t ht⟩
  | cons o rest =>
    have hopen : o.kind = .openParen := by
      have hstop := List.head?_dropWhile_not (fun t : Token => t.kind ≠ .openParen) ts
      rw [hdrop] at hstop
      simpa using hstop
    have hfirst : ∀ t ∈ ts.takeWhile fun t => t.kind ≠ .openParen, t.kind ≠ .openParen := by
      intro t ht
      simpa using List.mem_takeWhile_imp ht
    rw [hdrop] at hsplit
    refine .inr ⟨_, o, rest, hsplit.symm, hopen, hfirst, ?_⟩
    have hmore := List.splitOnP_append_cons_of_forall_mem
      (p := fun t : Token => t.kind = .openParen) (fun t ht => by simpa using hfirst t ht) o
      (by simpa using hopen) rest
    rwa [hsplit] at hmore

/-- Induction on the number of opening parentheses, from the first one on. -/
theorem segments_induction {motive : List Token → Prop}
    (one : ∀ ts, (∀ t ∈ ts, t.kind ≠ .openParen) → segments ts = [ts] → motive ts)
    (more : ∀ seg o rest, o.kind = .openParen → (∀ t ∈ seg, t.kind ≠ .openParen) →
      segments (seg ++ o :: rest) = seg :: segments rest → motive rest →
        motive (seg ++ o :: rest)) (ts : List Token) : motive ts := by
  rcases segments_cases ts with ⟨hnone, hone⟩ | ⟨seg, o, rest, hts, ho, hseg, hmore⟩
  · exact one ts hnone hone
  · have hrest : motive rest := segments_induction one more rest
    rw [hts] at hmore ⊢
    exact more seg o rest ho hseg hmore hrest
termination_by ts.length
decreasing_by
  rw [hts, List.length_append, List.length_cons]
  omega

/-- A segment is a stretch of the tokens without an opening parenthesis. -/
theorem infix_of_mem_segments {ts seg : List Token} (h : seg ∈ segments ts) :
    seg <:+: ts ∧ ∀ t ∈ seg, t.kind ≠ .openParen := by
  induction ts using segments_induction with
  | one ts hnone hone =>
    rw [hone, List.mem_singleton] at h
    subst h
    exact ⟨List.infix_refl seg, hnone⟩
  | more first o rest ho hfirst hmore ih =>
    rw [hmore, List.mem_cons] at h
    rcases h with rfl | h
    · exact ⟨(List.prefix_append seg (o :: rest)).isInfix, hfirst⟩
    · obtain ⟨hseg, hopen⟩ := ih h
      have hsuffix : rest <:+ first ++ o :: rest :=
        (List.suffix_cons o rest).trans (List.suffix_append first (o :: rest))
      exact ⟨hseg.trans hsuffix.isInfix, hopen⟩

/-- The number of binary connectives. -/
def binaryCount (ts : List Token) : Nat :=
  ts.countP fun t => match t.kind with
    | .connective (.binary _) => true
    | _ => false

/-- What bounds the binary connectives of each segment bounds them in all. -/
theorem binaryCount_le {ts : List Token} {k : Nat} (h : ∀ seg ∈ segments ts, binaryCount seg ≤ k) :
    binaryCount ts ≤ k * (openCount ts + 1) := by
  induction ts using segments_induction with
  | one ts _ hone =>
    have hall : binaryCount ts ≤ k := h ts (by rw [hone]; exact List.mem_singleton_self ts)
    exact hall.trans (Nat.le_mul_of_pos_right k (Nat.succ_pos _))
  | more first o rest ho _ hmore ih =>
    rw [hmore, List.forall_mem_cons] at h
    obtain ⟨hfirst, hothers⟩ := h
    have hrest : binaryCount rest ≤ k * (openCount rest + 1) := ih hothers
    have hcount : binaryCount (first ++ o :: rest) = binaryCount first + binaryCount rest := by
      simp [binaryCount, ho]
    have hopen : openCount rest + 1 ≤ openCount (first ++ o :: rest) := by
      simp [openCount, ho]
    calc binaryCount (first ++ o :: rest)
        ≤ k * (openCount rest + 1) + k := by omega
      _ = k * (openCount rest + 1 + 1) := (Nat.mul_succ k _).symm
      _ ≤ k * (openCount (first ++ o :: rest) + 1) :=
        Nat.mul_le_mul_left k (Nat.succ_le_succ hopen)

theorem binaryCount_eq {seg : List Token} {bs : List Binary} {n : Nat}
    (h : seg.map Token.kind =
      bs.map (fun b => .connective (.binary b)) ++ List.replicate n (.connective .neg)) :
    binaryCount seg = bs.length := by
  have hkinds := congrArg (List.countP fun k : TokenKind => match k with
    | .connective (.binary _) => true
    | _ => false) h
  rw [List.countP_map, List.countP_append, List.countP_map, List.countP_replicate] at hkinds
  simpa [binaryCount, Function.comp_def] using hkinds

/-- Each binary connective binds tighter than those before it. -/
def Ascends (bs : List Binary) : Prop :=
  (bs.map fun b => (Connective.binary b).strength).Pairwise (· < ·)

/-- Connectives of increasing strength, from some strength on, are some of those that are
that strong, in their order. -/
theorem Ascends.sublist_drop : ∀ {bs : List Binary} {k : Nat}, Ascends bs →
    (∀ b ∈ bs, k ≤ (Connective.binary b).strength) →
      bs.Sublist (([.imp, .disj, .conj] : List Binary).drop k)
  | [], _, _, _ => List.nil_sublist _
  | b :: bs, k, h, hfrom => by
    obtain ⟨hb, hbs⟩ := List.pairwise_cons.1 h
    have habove := Ascends.sublist_drop (k := (Connective.binary b).strength + 1) hbs
      fun c hc => hb _ (List.mem_map_of_mem hc)
    have hnext : ([.imp, .disj, .conj] : List Binary).drop (Connective.binary b).strength =
        b :: ([.imp, .disj, .conj] : List Binary).drop ((Connective.binary b).strength + 1) := by
      cases b <;> rfl
    have hk : k ≤ (Connective.binary b).strength := hfrom b List.mem_cons_self
    exact (hnext ▸ habove.cons_cons b).trans (List.drop_sublist_drop_left _ hk)

theorem Ascends.sublist {bs : List Binary} (h : Ascends bs) : bs.Sublist [.imp, .disj, .conj] :=
  h.sublist_drop (k := 0) fun _ _ => Nat.zero_le _

theorem RestsOn.strength_lt {upper lower : Token} (h : upper.RestsOn lower) {b : Binary}
    {c : Connective} (hb : upper.kind = .connective (.binary b)) (hc : lower.kind = .connective c) :
    c.strength < (Connective.binary b).strength := by
  have hyields := h b hb
  rw [hc, Stacks.yieldsTo, decide_eq_false_iff_not] at hyields
  omega

/-- **What waits between parentheses**, from the bottom up, is a run of binary connectives
of increasing strength and a run of negations above it. -/
theorem exists_ascent : ∀ {seg : List Token}, seg.IsChain (fun lower upper => upper.RestsOn lower) →
    (∀ t ∈ seg, ∃ c, t.kind = .connective c) →
      ∃ (bs : List Binary) (n : Nat), Ascends bs ∧ seg.map Token.kind =
        bs.map (fun b => .connective (.binary b)) ++ List.replicate n (.connective .neg)
  | [], _, _ => ⟨[], 0, .nil, rfl⟩
  | t :: seg, hchain, hkinds => by
    obtain ⟨hnext, hseg⟩ := List.isChain_cons.1 hchain
    obtain ⟨⟨c, hc⟩, hrest⟩ := List.forall_mem_cons.1 hkinds
    obtain ⟨bs, n, hascends, hmap⟩ := exists_ascent hseg hrest
    -- the lowest binary connective above `t` binds tighter than `t`
    have hlowest : ∀ b ∈ bs.head?, c.strength < (Connective.binary b).strength := by
      rintro b hb
      obtain ⟨bs', rfl⟩ := List.head?_eq_some_iff.1 hb
      obtain ⟨o, seg', rfl, ho, -⟩ := List.map_eq_cons_iff.1 hmap
      exact (hnext o rfl).strength_lt ho hc
    cases c with
    | neg =>
      have hnone : bs = [] := by
        cases bs with
        | nil => rfl
        | cons b bs =>
          have hstronger := hlowest b rfl
          cases b <;> simp [Connective.strength] at hstronger
      subst hnone
      exact ⟨[], n + 1, .nil, by rw [List.map_cons, hc, hmap]; rfl⟩
    | binary b =>
      refine ⟨b :: bs, n, ?_, by rw [List.map_cons, hc, hmap]; rfl⟩
      rw [Ascends, ← List.isChain_iff_pairwise] at hascends ⊢
      refine hascends.cons fun k hk => ?_
      rw [List.head?_map] at hk
      obtain ⟨d, hd, rfl⟩ := Option.map_eq_some_iff.1 hk
      exact hlowest d hd

end Token

/-- **Waiting operators are in order.** After any tokens that a parse takes, under any limit
and whatever tokens come after them, only opening parentheses and connectives wait. Between
parentheses there wait, from the bottom up, binary connectives of increasing strength,
each of the three at most once, and then negations. So at most three binary connectives
wait for each opening parenthesis, and three more below all of them. -/
theorem operators_in_order {limit : Option Limit} {taken : List Token} {s : Stacks}
    (h : Stacks.run limit .empty taken = .ok s) :
    (∀ rest, parseTokens limit (taken ++ rest) =
      (do let s' ← Stacks.run limit s rest; s'.finish limit)) ∧
    (∀ o ∈ s.operators, o.kind = .openParen ∨ ∃ c, o.kind = .connective c) ∧
    (∀ seg ∈ Token.segments s.operators.reverse, ∃ (bs : List Binary) (n : Nat),
      seg.map Token.kind =
        bs.map (fun b => .connective (.binary b)) ++ List.replicate n (.connective .neg) ∧
      (bs.map fun b => (Connective.binary b).strength).Pairwise (· < ·) ∧
      bs.Sublist [.imp, .disj, .conj] ∧ bs.length ≤ 3) ∧
    Token.binaryCount s.operators ≤ 3 * (Token.openCount s.operators + 1) := by
  have hwaits := (Stacks.pending_empty.run h).waits
  have hordered : Stacks.Ordered s := Stacks.ordered_empty.run h
  have hsegments : ∀ seg ∈ Token.segments s.operators.reverse, ∃ (bs : List Binary) (n : Nat),
      Token.Ascends bs ∧ seg.map Token.kind =
        bs.map (fun b => .connective (.binary b)) ++ List.replicate n (.connective .neg) := by
    intro seg hseg
    obtain ⟨hstretch, hopen⟩ := Token.infix_of_mem_segments hseg
    have hchain : seg.IsChain fun lower upper => upper.RestsOn lower := by
      obtain ⟨lower, upper, hops⟩ := hstretch
      exact (hops ▸ List.isChain_reverse.2 hordered).left_of_append.right_of_append
    have hkinds : ∀ t ∈ seg, ∃ c, t.kind = .connective c := fun t ht =>
      (hwaits t (List.mem_reverse.1 (hstretch.subset ht))).resolve_left (hopen t ht)
    exact Token.exists_ascent hchain hkinds
  refine ⟨fun rest => ?_, hwaits, fun seg hseg => ?_, ?_⟩
  · rw [parseTokens, Stacks.run_append, h]
    rfl
  · obtain ⟨bs, n, hascends, hmap⟩ := hsegments seg hseg
    exact ⟨bs, n, hmap, hascends, hascends.sublist, hascends.sublist.length_le⟩
  · have hthree : ∀ seg ∈ Token.segments s.operators.reverse, Token.binaryCount seg ≤ 3 := by
      intro seg hseg
      obtain ⟨bs, n, hascends, hmap⟩ := hsegments seg hseg
      exact (Token.binaryCount_eq hmap).trans_le hascends.sublist.length_le
    have hall := Token.binaryCount_le hthree
    rwa [Token.binaryCount, Token.openCount, List.countP_reverse, List.countP_reverse] at hall

/-- In `p->q||!((r&&s)->t||!!u` the inner parenthesis is closed, and what comes after it waits
in the segment of the outer one. -/
theorem operators_in_order_nested :
    let below : List Token :=
      [⟨.connective (.binary .imp), "->", .offset 1⟩,
        ⟨.connective (.binary .disj), "||", .offset 4⟩, ⟨.connective .neg, "!", .offset 6⟩]
    let outer : Token := ⟨.openParen, "(", .offset 7⟩
    let above : List Token :=
      [⟨.connective (.binary .imp), "->", .offset 14⟩,
        ⟨.connective (.binary .disj), "||", .offset 17⟩, ⟨.connective .neg, "!", .offset 19⟩,
        ⟨.connective .neg, "!", .offset 20⟩]
    let taken : List Token :=
      [⟨.name, "p", .offset 0⟩, ⟨.connective (.binary .imp), "->", .offset 1⟩,
        ⟨.name, "q", .offset 3⟩, ⟨.connective (.binary .disj), "||", .offset 4⟩,
        ⟨.connective .neg, "!", .offset 6⟩, ⟨.openParen, "(", .offset 7⟩,
        ⟨.openParen, "(", .offset 8⟩, ⟨.name, "r", .offset 9⟩,
        ⟨.connective (.binary .conj), "&&", .offset 10⟩, ⟨.name, "s", .offset 12⟩,
        ⟨.closeParen, ")", .offset 13⟩, ⟨.connective (.binary .imp), "->", .offset 14⟩,
        ⟨.name, "t", .offset 16⟩, ⟨.connective (.binary .disj), "||", .offset 17⟩,
        ⟨.connective .neg, "!", .offset 19⟩, ⟨.connective .neg, "!", .offset 20⟩,
        ⟨.name, "u", .offset 21⟩]
    ∃ s, Stacks.run none .empty taken = .ok s ∧
      s.operators.reverse = below ++ outer :: above ∧
      Token.segments s.operators.reverse = [below, above] ∧
      Token.binaryCount s.operators ≤ 3 * (Token.openCount s.operators + 1) := by
  intro below outer above taken
  obtain ⟨s, hrun⟩ : ∃ s, Stacks.run none .empty taken = .ok s := ⟨_, rfl⟩
  obtain ⟨-, -, -, hbound⟩ := operators_in_order hrun
  refine ⟨s, hrun, ?_, ?_, hbound⟩ <;> cases hrun <;> decide

end Turnstile
