/-
# Parsing under a limit on the depth

A parse under a limit on the depth does what the parse without one does, until the
first formula that the limit does not allow is made. There it stops and reports this
formula, whose operands were allowed or are variables. The other parse goes on; if it
succeeds, the formula is one of those that it made (`Limited`, `parseTokens_limited`).

What a parse makes are the compound formulas of its result. So a parse under a limit,
whatever kind of limit it is, succeeds just where the one without does and every
compound formula of its result is allowed (`parseTokens_ok_iff_allowed`). If the limit
is a number, what it refuses is one deeper than it, and the result without a limit is
too deep as well (`Parser.outcome_limited`). For parsers this says what each limit
makes of each sequence of tokens (`depth_limit_exact`).

Key definitions: `Allowed`, `Refused`, `Stacks.Within`, `Limited`, `Parser.outcome`.
Key theorems: `Limited.bind`, `Stacks.limited_apply`, `Stacks.limited_run`,
`parseTokens_limited`, `parseTokens_ok_iff_allowed`, `Parser.outcome_limited`,
`depth_limit_exact`.
-/
import Turnstile.Proofs.TokenConservation

namespace Turnstile

/-! ### What a limit allows -/

/-- The limit, if there is one, lets the depths of all these formulas pass. -/
def Allowed (limit : Option Limit) (fs : List Formula) : Prop :=
  ∀ m ∈ limit, ∀ f ∈ fs, m.exceededBy? f.depth = some false

theorem allowed_nil (limit : Option Limit) : Allowed limit [] := by
  intro m _ f hf
  cases hf

theorem allowed_cons {limit : Option Limit} {f : Formula} {fs : List Formula} :
    Allowed limit (f :: fs) ↔ Allowed limit [f] ∧ Allowed limit fs := by
  simp [Allowed, forall_and]

theorem allowed_reverse {limit : Option Limit} {fs : List Formula} :
    Allowed limit fs.reverse ↔ Allowed limit fs := by
  simp only [Allowed, List.mem_reverse]

theorem allowed_int_iff {i : Int} {fs : List Formula} :
    Allowed (some (.int i)) fs ↔ ∀ f ∈ fs, (f.depth : Int) ≤ i := by
  simp [Allowed, Limit.exceededBy?]

namespace Formula

/-- The compound formulas of a formula are not deeper than it. -/
theorem depth_le_of_mem_compounds : ∀ {f g : Formula}, g ∈ f.compounds → g.depth ≤ f.depth
  | atom v, g, h => by cases h
  | neg f, g, h => by
    rw [compounds, List.mem_append, List.mem_singleton] at h
    rcases h with h | rfl
    · have := depth_le_of_mem_compounds h
      rw [depth]
      omega
    · exact Nat.le_refl _
  | bin b l r, g, h => by
    rw [compounds, List.mem_append, List.mem_append, List.mem_singleton] at h
    rcases h with (h | h) | rfl
    · have := depth_le_of_mem_compounds h
      rw [depth]
      omega
    · have := depth_le_of_mem_compounds h
      rw [depth]
      omega
    · exact Nat.le_refl _

theorem allowed_compounds {f : Formula} {maxDepth : Int} (h : (f.depth : Int) ≤ maxDepth) :
    Allowed (some (.int maxDepth)) f.compounds := by
  rw [allowed_int_iff]
  intro g hg
  have := depth_le_of_mem_compounds hg
  omega

/-- A formula is as deep as one of its compound formulas, or a variable. -/
theorem depth_le_of_allowed_compounds {f : Formula} {d : Nat}
    (h : Allowed (some (.int d)) f.compounds) : f.depth ≤ d := by
  cases f with
  | atom v => exact Nat.zero_le d
  | neg f => exact Int.ofNat_le.1 (allowed_int_iff.1 h _ (by simp [compounds]))
  | bin b l r => exact Int.ofNat_le.1 (allowed_int_iff.1 h _ (by simp [compounds]))

end Formula

/-- A variable, or a formula that the limit allows. -/
def Passes (limit : Option Limit) (f : Formula) : Prop := f.isAtomic = true ∨ Allowed limit [f]

/-- How a formula is refused for its depth, though its operands pass. -/
inductive Refused (limit : Option Limit) (f : Formula) : ParseError → Prop
  | tooDeep {m : Limit} (hoperands : ∀ g ∈ f.operands, Passes limit g) (hm : limit = some m)
      (hdeep : m.exceededBy? f.depth = some true) : Refused limit f (.tooLarge .depth m f.depth)
  | incomparable {m : Limit} (hm : limit = some m) (hdeep : m.exceededBy? f.depth = none) :
      Refused limit f .incomparable

theorem Refused.not_allowed {limit : Option Limit} {f : Formula} {fs : List Formula}
    {e : ParseError} (h : Refused limit f e) (hf : f ∈ fs) : ¬ Allowed limit fs := by
  intro hallowed
  cases h with
  | tooDeep _ hm hdeep => cases hdeep.symm.trans (hallowed _ hm f hf)
  | incomparable hm hdeep => cases hdeep.symm.trans (hallowed _ hm f hf)

/-- What a number refuses is one deeper than it. -/
theorem Refused.int {d : Nat} {f : Formula} {e : ParseError} (h : Refused (some (.int d)) f e) :
    d < f.depth ∧ e = .tooLarge .depth (.int d) (d + 1) := by
  cases h with
  | tooDeep hoperands hm hdeep =>
    cases hm
    have hlt : d < f.depth := by simpa [Limit.exceededBy?] using hdeep
    have hpasses : ∀ g ∈ f.operands, g.depth ≤ d := by
      intro g hg
      rcases hoperands g hg with hatomic | hallowed
      · cases g with
        | atom v => exact Nat.zero_le d
        | neg g => cases hatomic
        | bin b l r => cases hatomic
      · exact Int.ofNat_le.1 (allowed_int_iff.1 hallowed g (by simp))
    have hle : f.depth ≤ d + 1 := by
      cases f with
      | atom v => exact Nat.zero_le _
      | neg g =>
        have := hpasses g (by simp [Formula.operands])
        rw [Formula.depth]
        omega
      | bin b l r =>
        have := hpasses l (by simp [Formula.operands])
        have := hpasses r (by simp [Formula.operands])
        rw [Formula.depth]
        omega
    exact ⟨hlt, by rw [show f.depth = d + 1 by omega]⟩
  | incomparable hm hdeep =>
    cases hm
    cases hdeep

/-! ### Until then nothing differs -/

/-- The limit was observed: it allows what was made, and operands pass. -/
structure Stacks.Within (limit : Option Limit) (s : Stacks) : Prop where
  built : Allowed limit s.built
  operands : ∀ f ∈ s.operands, Passes limit f

/-- The first outcome is that under a limit, the second one that without. They are the
same and the limit was observed, or the first one is a refusal of a formula that the
second one made, if it is a success. -/
def Limited {α : Type} (limit : Option Limit) (state : α → Stacks) (x y : Except Halt α) : Prop :=
  (x = y ∧ ∀ a, y = .ok a → (state a).Within limit) ∨
    ∃ f e, Refused limit f e.error ∧ x = .error e ∧ ∀ a, y = .ok a → f ∈ (state a).built

namespace Limited

variable {α β : Type} {limit : Option Limit} {state : α → Stacks} {state' : β → Stacks}
  {x y : Except Halt α}

theorem of_ok {a : α} (h : (state a).Within limit) : Limited limit state (.ok a) (.ok a) :=
  .inl ⟨rfl, fun _ hb => Except.ok.inj hb ▸ h⟩

theorem of_error (e : Halt) : Limited limit state (.error e) (.error e) :=
  .inl ⟨rfl, fun _ ha => nomatch ha⟩

/-- Limited steps one after another are limited, if what was made stays. -/
theorem bind (h : Limited limit state x y) {k k' : α → Except Halt β}
    (hk : ∀ a, (state a).Within limit → Limited limit state' (k a) (k' a))
    (hbuilt : ∀ a b, k' a = .ok b → (state a).built ⊆ (state' b).built) :
    Limited limit state' (x >>= k) (y >>= k') := by
  rcases h with ⟨rfl, hwithin⟩ | ⟨f, e, hrefused, rfl, hmade⟩
  · cases x with
    | error e => exact of_error e
    | ok a => exact hk a (hwithin a rfl)
  · refine .inr ⟨f, e, hrefused, rfl, fun b hb => ?_⟩
    obtain ⟨a, ha, hb⟩ := Halt.bind_eq_ok.1 hb
    exact hbuilt a b hb (hmade a ha)

end Limited

namespace Stacks

variable {limit : Option Limit} {s s' : Stacks} {t : Token}

/-! What was made stays. -/

theorem built_subset_of_applyWhile {p : TokenKind → Bool} : ∀ {ts : List Token} {s : Stacks},
    applyWhile limit p ts s = .ok s' → s.built ⊆ s'.built
  | [], s, h => by
    cases h
    exact List.Subset.refl _
  | t :: ts, s, h => by
    rw [applyWhile] at h
    by_cases hp : p t.kind = true
    · rw [if_pos hp] at h
      obtain ⟨s₁, happ, hloop⟩ := Halt.bind_eq_ok.1 h
      obtain ⟨c, g, rest, -, -, rfl⟩ := apply_ok happ
      exact List.Subset.trans (List.subset_cons_self g s.built) (built_subset_of_applyWhile hloop)
    · rw [if_neg hp] at h
      cases h
      exact List.Subset.refl _

theorem built_subset_of_step (h : step limit s t = .ok s') : s.built ⊆ s'.built := by
  cases takes_of_step h with
  | opening | naming | negating => exact List.Subset.refl _
  | closing _ hloop => exact (built_subset_of_applyWhile hloop :)
  | yielding _ _ hloop => exact (built_subset_of_applyWhile hloop :)

theorem built_subset_of_run {ts : List Token} (h : run limit s ts = .ok s') :
    s.built ⊆ s'.built :=
  run_keeps (P := fun _ s₁ => s.built ⊆ s₁.built)
    (fun hsub hstep => List.Subset.trans hsub (built_subset_of_step hstep)) []
    (List.Subset.refl _) h

theorem built_subset_of_finish {r : Formula × Stacks} (h : finish limit s = .ok r) :
    s.built ⊆ r.2.built := by
  obtain ⟨s₁, hloop, -, -, hr⟩ := finish_ok h
  rw [hr]
  exact (built_subset_of_applyWhile hloop :)

/-! The limit is observed until it refuses. -/

theorem within_empty (limit : Option Limit) : empty.Within limit :=
  ⟨allowed_nil limit, fun _ hf => nomatch hf⟩

theorem limited_push {f : Formula} (hs : s.Within limit)
    (hf : ∀ g ∈ f.operands, Passes limit g) :
    Limited limit id (push limit f s) (push none f s) := by
  have hmade : ∀ s', push none f s = .ok s' → f ∈ s'.built := by
    rintro s' h
    rw [push_ok h]
    exact List.mem_cons_self
  have hwithin : Allowed limit [f] → ∀ s', push none f s = .ok s' → s'.Within limit := by
    intro hallowed s' h
    rw [push_ok h]
    exact ⟨allowed_cons.2 ⟨hallowed, hs.built⟩, List.forall_mem_cons.2 ⟨.inr hallowed, hs.operands⟩⟩
  cases limit with
  | none => exact .inl ⟨rfl, hwithin fun m hm => nomatch hm⟩
  | some m =>
    cases hexceeded : m.exceededBy? f.depth with
    | none => exact .inr ⟨f, _, .incomparable rfl hexceeded, by rw [push, hexceeded], hmade⟩
    | some above =>
      cases above with
      | true => exact .inr ⟨f, _, .tooDeep hf rfl hexceeded, by rw [push, hexceeded], hmade⟩
      | false =>
        refine .inl ⟨by simp only [push, hexceeded], hwithin ?_⟩
        rintro m ⟨⟩ g hg
        obtain rfl := List.mem_singleton.1 hg
        exact hexceeded

theorem limited_apply (hs : s.Within limit) (t : Token) :
    Limited limit id (apply limit t s) (apply none t s) := by
  unfold apply
  split
  next =>
    cases hops : s.operands with
    | nil => exact .of_error _
    | cons f rest =>
      have hpasses := List.forall_mem_cons.1 (hops ▸ hs.operands)
      exact limited_push ⟨hs.built, hpasses.2⟩ (List.forall_mem_singleton.2 hpasses.1)
  next b =>
    rcases hops : s.operands with _ | ⟨r, _ | ⟨l, rest⟩⟩
    · exact .of_error _
    · exact .of_error _
    · obtain ⟨hr, hpasses⟩ := List.forall_mem_cons.1 (hops ▸ hs.operands)
      obtain ⟨hl, hrest⟩ := List.forall_mem_cons.1 hpasses
      exact limited_push ⟨hs.built, hrest⟩
        (List.forall_mem_cons.2 ⟨hl, List.forall_mem_singleton.2 hr⟩)
  next => exact .of_error _

theorem limited_applyWhile (p : TokenKind → Bool) : ∀ (ts : List Token) {s : Stacks},
    s.Within limit → Limited limit id (applyWhile limit p ts s) (applyWhile none p ts s)
  | [], _, hs => .of_ok ⟨hs.built, hs.operands⟩
  | t :: ts, s, hs => by
    rw [applyWhile, applyWhile]
    by_cases hp : p t.kind = true
    · rw [if_pos hp, if_pos hp]
      exact (limited_apply (s := { s with operators := ts }) ⟨hs.built, hs.operands⟩ t).bind
        (fun _ h => limited_applyWhile p ts h) fun _ _ h => built_subset_of_applyWhile h
    · rw [if_neg hp, if_neg hp]
      exact .of_ok ⟨hs.built, hs.operands⟩

theorem limited_step (hs : s.Within limit) (t : Token) :
    Limited limit id (step limit s t) (step none s t) := by
  unfold step
  split
  next => exact .of_ok ⟨hs.built, hs.operands⟩
  next =>
    refine (limited_applyWhile _ s.operators hs).bind (fun s₁ h₁ => ?_) fun s₁ s₂ h => ?_
    · split
      · exact .of_error _
      · exact .of_ok ⟨h₁.built, h₁.operands⟩
    · split at h
      · cases h
      · cases h
        exact List.Subset.refl _
  next =>
    split
    next x _ => exact .of_ok ⟨hs.built, List.forall_mem_cons.2 ⟨.inl rfl, hs.operands⟩⟩
    next => exact .of_error _
  next c _ =>
    by_cases hc : c = .neg ∧ s.afterOperand = false
    · simp only [if_pos hc]
      exact .of_ok ⟨hs.built, hs.operands⟩
    · simp only [if_neg hc]
      refine (limited_applyWhile _ s.operators hs).bind
        (fun s₁ h₁ => .of_ok ⟨h₁.built, h₁.operands⟩) fun s₁ s₂ h => ?_
      cases h
      exact List.Subset.refl _
  next => exact .of_error _
  next => exact .of_error _

theorem limited_run : ∀ (ts : List Token) {s : Stacks}, s.Within limit →
    Limited limit id (run limit s ts) (run none s ts)
  | [], _, hs => .of_ok hs
  | t :: ts, s, hs => by
    rw [run_cons, run_cons]
    exact (limited_step hs t).bind (fun _ h => limited_run ts h) fun _ _ h => built_subset_of_run h

theorem limited_finish (hs : s.Within limit) :
    Limited limit Prod.snd (finish limit s) (finish none s) := by
  unfold finish
  refine (limited_applyWhile _ s.operators hs).bind (fun s₁ h₁ => ?_) fun s₁ r h => ?_
  · split
    · exact .of_ok ⟨h₁.built, fun _ hf => nomatch hf⟩
    · exact .of_error _
  · split at h
    · cases h
      exact List.Subset.refl _
    · cases h

end Stacks

/-- **A limit changes nothing until it refuses.** -/
theorem parseTokens_limited (limit : Option Limit) (ts : List Token) :
    Limited limit Prod.snd (parseTokens limit ts) (parseTokens none ts) :=
  (Stacks.limited_run ts (Stacks.within_empty limit)).bind (fun _ h => Stacks.limited_finish h)
    fun _ _ h => Stacks.built_subset_of_finish h

theorem built_of_parseTokens {limit : Option Limit} {ts : List Token} {f : Formula} {s : Stacks}
    (h : parseTokens limit ts = .ok (f, s)) : s.built.reverse = f.compounds := by
  simpa using (parseTokens_accounts h).1.built

/-- **A limit on the depth looks at the result only.** Under a limit the same tokens
are accepted as without, with the same result, but for those of which the result has
a compound formula that is not allowed. -/
theorem parseTokens_ok_iff_allowed {limit : Option Limit} {ts : List Token} {f : Formula}
    {s : Stacks} :
    parseTokens limit ts = .ok (f, s) ↔
      parseTokens none ts = .ok (f, s) ∧ Allowed limit f.compounds := by
  rcases parseTokens_limited limit ts with ⟨hsame, hwithin⟩ | ⟨g, e, hrefused, herror, hmade⟩
  · rw [hsame]
    refine ⟨fun h => ⟨h, ?_⟩, And.left⟩
    rw [← built_of_parseTokens h, allowed_reverse]
    exact (hwithin _ h).built
  · rw [herror]
    refine ⟨fun h => (nomatch h), fun ⟨h, hallowed⟩ => ?_⟩
    rw [← built_of_parseTokens h, allowed_reverse] at hallowed
    exact absurd hallowed (hrefused.not_allowed (hmade _ h))

/-! ### Parsers under limits -/

namespace Parser

/-- What a new parser makes of tokens. -/
def outcome (limit : Option Limit) (ts : List Token) : Except ParseError Formula :=
  ((new limit).parse ts).1.result

theorem outcome_of_ok {limit : Option Limit} {ts : List Token} {r : Formula × Stacks}
    (h : parseTokens limit ts = .ok r) : outcome limit ts = .ok r.1 := by
  simp only [outcome, parse, new, h]

theorem outcome_of_error {limit : Option Limit} {ts : List Token} {e : Halt}
    (h : parseTokens limit ts = .error e) : outcome limit ts = .error e.error := by
  simp only [outcome, parse, new, h]

/-- Under a limit a parser makes of tokens what one without a limit does, which is
then shallow enough if it is a formula, or refuses a depth of one more than the
limit, and the formula made without it, if there is one, is too deep. -/
theorem outcome_limited (d : Nat) (ts : List Token) :
    (outcome (some (.int d)) ts = outcome none ts ∧ ∀ f, outcome none ts = .ok f → f.depth ≤ d) ∨
    (outcome (some (.int d)) ts = .error (.tooLarge .depth (.int d) (d + 1)) ∧
      ∀ f, outcome none ts = .ok f → d < f.depth) := by
  have hlimited := parseTokens_limited (some (.int d)) ts
  cases hfree : parseTokens none ts with
  | ok r =>
    have hfreeOutcome : outcome none ts = .ok r.1 := outcome_of_ok hfree
    have hbuilt : r.2.built.reverse = r.1.compounds := built_of_parseTokens hfree
    rw [hfreeOutcome]
    rcases hlimited with ⟨hsame, hwithin⟩ | ⟨g, e, hrefused, herror, hmade⟩
    · refine .inl ⟨outcome_of_ok (hsame.trans hfree), fun f hf => ?_⟩
      cases hf
      refine Formula.depth_le_of_allowed_compounds ?_
      rw [← hbuilt, allowed_reverse]
      exact (hwithin r hfree).built
    · obtain ⟨hdeep, herror'⟩ := hrefused.int
      refine .inr ⟨(outcome_of_error herror).trans (by rw [herror']), fun f hf => ?_⟩
      cases hf
      have hmem : g ∈ r.1.compounds := by
        rw [← hbuilt, List.mem_reverse]
        exact hmade r hfree
      exact Nat.lt_of_lt_of_le hdeep (Formula.depth_le_of_mem_compounds hmem)
  | error e =>
    have hfreeOutcome : outcome none ts = .error e.error := outcome_of_error hfree
    rw [hfreeOutcome]
    rcases hlimited with ⟨hsame, -⟩ | ⟨g, e', hrefused, herror, -⟩
    · exact .inl ⟨outcome_of_error (hsame.trans hfree), fun f hf => nomatch hf⟩
    · exact .inr ⟨(outcome_of_error herror).trans (by rw [hrefused.int.2]), fun f hf => nomatch hf⟩

end Parser

/-- **A limit on the depth refuses what is too deep and changes nothing else.** A
formula within the limit is still the result, one beyond it is refused with a depth
of one more than the limit, and a fault stays as it is unless such a refusal comes
before it. So what is accepted is never too deep, and is accepted under every higher
limit and without one. -/
theorem depth_limit_exact (ts : List Token) (d : Nat) :
    (∀ f, Parser.outcome none ts = .ok f → f.depth ≤ d →
      Parser.outcome (some (.int d)) ts = .ok f) ∧
    (∀ f, Parser.outcome none ts = .ok f → d < f.depth →
      Parser.outcome (some (.int d)) ts = .error (.tooLarge .depth (.int d) (d + 1))) ∧
    (∀ e, Parser.outcome none ts = .error e →
      Parser.outcome (some (.int d)) ts = .error e ∨
        Parser.outcome (some (.int d)) ts = .error (.tooLarge .depth (.int d) (d + 1))) ∧
    (∀ f, Parser.outcome (some (.int d)) ts = .ok f →
      f.depth ≤ d ∧ Parser.outcome none ts = .ok f ∧
        ∀ d' : Nat, d ≤ d' → Parser.outcome (some (.int d')) ts = .ok f) := by
  have hwithin : ∀ (d : Nat) f, Parser.outcome none ts = .ok f → f.depth ≤ d →
      Parser.outcome (some (.int d)) ts = .ok f := by
    intro d f hf hdepth
    rcases Parser.outcome_limited d ts with ⟨hsame, -⟩ | ⟨-, hdeep⟩
    · exact hsame.trans hf
    · exact absurd (hdeep f hf) (Nat.not_lt.2 hdepth)
  refine ⟨hwithin d, ?_⟩
  rcases Parser.outcome_limited d ts with ⟨hsame, hshallow⟩ | ⟨hrefused, hdeep⟩
  · refine ⟨fun f hf hdepth => absurd hdepth (Nat.not_lt.2 (hshallow f hf)),
      fun e he => .inl (hsame.trans he), fun f hf => ?_⟩
    have hfree : Parser.outcome none ts = .ok f := hsame.symm.trans hf
    have hdepth : f.depth ≤ d := hshallow f hfree
    exact ⟨hdepth, hfree, fun d' hd' => hwithin d' f hfree (Nat.le_trans hdepth hd')⟩
  · refine ⟨fun f hf _ => hrefused, fun e _ => .inr hrefused, fun f hf => ?_⟩
    cases hrefused.symm.trans hf

/-- `!!p` is too deep for a limit of one and within one of two. The parenthesis that
is missing in `!!p)` is not reached under a limit of one. -/
theorem depth_limit_exact_negations :
    let p : Formula := .atom ⟨"p", by decide⟩
    let ts : List Token := [⟨.connective .neg, "!", .offset 0⟩, ⟨.connective .neg, "!", .offset 1⟩,
      ⟨.name, "p", .offset 2⟩]
    let us : List Token := ts ++ [⟨.closeParen, ")", .offset 3⟩]
    Parser.outcome (some (.int 2)) ts = .ok (.neg (.neg p)) ∧
    Parser.outcome (some (.int 7)) ts = .ok (.neg (.neg p)) ∧
    Parser.outcome (some (.int 1)) ts = .error (.tooLarge .depth (.int 1) 2) ∧
    Parser.outcome none us = .error (.unbalanced ")") ∧
    Parser.outcome (some (.int 1)) us = .error (.tooLarge .depth (.int 1) 2) := by
  intro p ts us
  have hfree : Parser.outcome none ts = .ok (.neg (.neg p)) := rfl
  obtain ⟨hwithin, -, -, haccepted⟩ := depth_limit_exact ts 2
  obtain ⟨-, hbeyond, -, -⟩ := depth_limit_exact ts 1
  have htwo : Parser.outcome (some (.int 2)) ts = .ok (.neg (.neg p)) :=
    hwithin _ hfree (by decide)
  have hfault : Parser.outcome none us = .error (.unbalanced ")") := rfl
  have hfirst : Parser.outcome (some (.int 1)) us = .error (.tooLarge .depth (.int 1) 2) := by
    rcases (depth_limit_exact us 1).2.2.1 _ hfault with hsame | hrefused
    · cases hsame
    · exact hrefused
  exact ⟨htwo, (haccepted _ htwo).2.2 7 (by decide), hbeyond _ hfree (by decide), hfault, hfirst⟩

end Turnstile
