/-
# The grammar of infix formulas

Formulas are written by the grammar

    Imp ::= Or  | Imp '->' Or
    Or  ::= And | Or '||' And
    And ::= Un  | And '&&' Un
    Un  ::= '!' Un | '(' Imp ')' | NAME

in which binary connectives associate to the left and parentheses leave no
trace (`Derives`). In a sentence of it operands and operators alternate: an
operand never starts right after an operand, and a binary connective or a
closing parenthesis stands only where an operand has just ended (`Alternates`).

A looser grammar has the same levels, but its operands lie on one pile: a name
puts an operand on it and an operator takes as many as it needs from its top,
wherever they come from (`Piles`). In it an operator may stand before, between
or after its operands, operands may stand next to each other, and parentheses
may be empty. The sentences of the strict grammar are those of the loose one
that alternate (`derives_iff_piles_alternates`).

Key definitions: `Category`, `Derives`, `Alternates`, `Layer`, `Piles`.
Key theorems: `Derives.alternates`, `Derives.piles`,
`Piles.derives_of_alternates`, `derives_iff_piles_alternates`.
-/
import Mathlib.Tactic.Common
import Turnstile.Parse

namespace Turnstile

/-! ### The grammar -/

/-- The levels of the grammar. The sequences of operands joined by one binary
connective are Imp, Or and And. -/
inductive Category where
  | unary
  | chain (b : Binary)
deriving DecidableEq, Repr

namespace Category

/-- The level of the operands that a binary connective joins. -/
def operandOf : Binary → Category
  | .imp => chain .disj
  | .disj => chain .conj
  | .conj => unary

/-- The strength of the loosest connective that may be outermost. -/
def level : Category → Nat
  | unary => Connective.neg.strength
  | chain b => (Connective.binary b).strength

theorem level_operandOf (b : Binary) :
    (operandOf b).level = (Connective.binary b).strength + 1 := by
  cases b <;> rfl

end Category

/-- The tokens are a sentence of the category and denote the formula. -/
inductive Derives : Category → List Token → Formula → Prop
  | name {t : Token} {x : Var} (hkind : t.kind = .name) (hname : t.value = x.name) :
      Derives .unary [t] (.atom x)
  | neg {t : Token} {ts : List Token} {f : Formula} (hkind : t.kind = .connective .neg)
      (h : Derives .unary ts f) : Derives .unary (t :: ts) (.neg f)
  | paren {o c : Token} {ts : List Token} {f : Formula} (hopen : o.kind = .openParen)
      (h : Derives (.chain .imp) ts f) (hclose : c.kind = .closeParen) :
      Derives .unary (o :: (ts ++ [c])) f
  | operand {b : Binary} {ts : List Token} {f : Formula} (h : Derives (.operandOf b) ts f) :
      Derives (.chain b) ts f
  | join {b : Binary} {t : Token} {ls rs : List Token} {l r : Formula}
      (hl : Derives (.chain b) ls l) (hkind : t.kind = .connective (.binary b))
      (hr : Derives (.operandOf b) rs r) : Derives (.chain b) (ls ++ t :: rs) (.bin b l r)

/-! ### Alternation -/

namespace TokenKind

/-- Whether an operand ends with a token of the kind. -/
def endsOperand : TokenKind → Bool
  | name => true
  | closeParen => true
  | _ => false

/-- Whether a token of the kind may come next, given whether an operand has just
ended. -/
def fits (after : Bool) : TokenKind → Bool
  | name => !after
  | openParen => !after
  | connective .neg => !after
  | connective (.binary _) => after
  | closeParen => after
  | _ => false

end TokenKind

/-- Whether an operand has just ended after tokens, given whether one had before
them. -/
def endsOperand (after : Bool) : List Token → Bool
  | [] => after
  | t :: ts => endsOperand t.kind.endsOperand ts

/-- Whether each token may come next after those before it. -/
def fitsAll (after : Bool) : List Token → Bool
  | [] => true
  | t :: ts => t.kind.fits after && fitsAll t.kind.endsOperand ts

/-- Operands and operators alternate, and an operand comes last. -/
def Alternates (ts : List Token) : Prop := fitsAll false ts = true ∧ endsOperand false ts = true

instance (ts : List Token) : Decidable (Alternates ts) := inferInstanceAs (Decidable (_ ∧ _))

theorem endsOperand_append (after : Bool) : ∀ ls rs : List Token,
    endsOperand after (ls ++ rs) = endsOperand (endsOperand after ls) rs
  | [], _ => rfl
  | t :: ls, rs => endsOperand_append t.kind.endsOperand ls rs

theorem endsOperand_concat (after : Bool) (ls : List Token) (t : Token) :
    endsOperand after (ls ++ [t]) = t.kind.endsOperand := endsOperand_append after ls [t]

theorem fitsAll_append (after : Bool) : ∀ ls rs : List Token,
    fitsAll after (ls ++ rs) = (fitsAll after ls && fitsAll (endsOperand after ls) rs)
  | [], _ => by rw [List.nil_append, fitsAll, endsOperand, Bool.true_and]
  | t :: ls, rs => by
    rw [List.cons_append, fitsAll, fitsAll_append t.kind.endsOperand ls rs, fitsAll, endsOperand,
      Bool.and_assoc]

/-- Sentences alternate. -/
theorem Derives.alternates {c : Category} {ts : List Token} {f : Formula} (h : Derives c ts f) :
    Alternates ts := by
  induction h with
  | name hkind hname =>
    simp [Alternates, fitsAll, endsOperand, hkind, TokenKind.fits, TokenKind.endsOperand]
  | neg hkind _ ih =>
    obtain ⟨hfits, hends⟩ := ih
    simp [Alternates, fitsAll, endsOperand, hkind, TokenKind.fits, TokenKind.endsOperand, hfits,
      hends]
  | paren hopen _ hclose ih =>
    obtain ⟨hfits, hends⟩ := ih
    simp [Alternates, fitsAll, endsOperand, fitsAll_append, endsOperand_append, hopen, hclose,
      TokenKind.fits, TokenKind.endsOperand, hfits, hends]
  | operand _ ih => exact ih
  | join _ hkind _ ihl ihr =>
    obtain ⟨hfitsl, hendsl⟩ := ihl
    obtain ⟨hfitsr, hendsr⟩ := ihr
    simp [Alternates, fitsAll, endsOperand, fitsAll_append, endsOperand_append, hkind,
      TokenKind.fits, TokenKind.endsOperand, hfitsl, hendsl, hfitsr, hendsr]

/-! ### The loose grammar -/

/-- What the loose grammar knows apart from the categories. -/
inductive Layer where
  /-- Any number of operands next to each other. -/
  | bare
  /-- Such operands after any number of `!`. -/
  | negated
  /-- What takes the place of a category. -/
  | whole (c : Category)
deriving DecidableEq, Repr

/-- Reading the tokens as the layer turns the first pile of operands into the
second. Piles have their top first. -/
inductive Piles : Layer → List Token → List Formula → List Formula → Prop
  | nil {u : List Formula} : Piles .bare [] u u
  | name {t : Token} {x : Var} {as : List Token} {u v : List Formula} (h : Piles .bare as u v)
      (hkind : t.kind = .name) (hname : t.value = x.name) :
      Piles .bare (as ++ [t]) u (.atom x :: v)
  | paren {o c : Token} {as ts : List Token} {u v w : List Formula} (h : Piles .bare as u v)
      (hopen : o.kind = .openParen) (hin : Piles (.whole (.chain .imp)) ts v w)
      (hclose : c.kind = .closeParen) : Piles .bare (as ++ o :: (ts ++ [c])) u w
  | bare {as : List Token} {u v : List Formula} (h : Piles .bare as u v) : Piles .negated as u v
  | neg {t : Token} {ts : List Token} {u v : List Formula} {f : Formula}
      (hkind : t.kind = .connective .neg) (h : Piles .negated ts u (f :: v)) :
      Piles .negated (t :: ts) u (.neg f :: v)
  | negated {ts : List Token} {u v : List Formula} (h : Piles .negated ts u v) :
      Piles (.whole .unary) ts u v
  -- a `!` that comes after an operand waits for no `!` before it
  | next {t : Token} {ls rs : List Token} {u v w : List Formula} {f : Formula}
      (hl : Piles (.whole .unary) ls u v) (hends : endsOperand false ls = true)
      (hkind : t.kind = .connective .neg) (hr : Piles .negated rs v (f :: w)) :
      Piles (.whole .unary) (ls ++ t :: rs) u (.neg f :: w)
  | operand {b : Binary} {ts : List Token} {u v : List Formula}
      (h : Piles (.whole (.operandOf b)) ts u v) : Piles (.whole (.chain b)) ts u v
  | join {b : Binary} {t : Token} {ls rs : List Token} {u v w : List Formula} {l r : Formula}
      (hl : Piles (.whole (.chain b)) ls u v) (hkind : t.kind = .connective (.binary b))
      (hr : Piles (.whole (.operandOf b)) rs v (r :: l :: w)) :
      Piles (.whole (.chain b)) (ls ++ t :: rs) u (.bin b l r :: w)

namespace Category

/-- The layer that the sentences of a category are in: a `!` never comes after an
operand in them. -/
def layer : Category → Layer
  | unary => .negated
  | chain b => .whole (chain b)

end Category

theorem Piles.whole_of_layer {c : Category} {ts : List Token} {u v : List Formula}
    (h : Piles c.layer ts u v) : Piles (.whole c) ts u v := by
  cases c with
  | unary => exact .negated h
  | chain b => exact h

/-- A sentence of the grammar is one of the loose grammar, and puts its formula on
any pile. -/
theorem Derives.piles {c : Category} {ts : List Token} {f : Formula} (h : Derives c ts f) :
    ∀ u : List Formula, Piles c.layer ts u (f :: u) := by
  induction h with
  | name hkind hname => exact fun u => .bare (.name .nil hkind hname)
  | neg hkind _ ih => exact fun u => .neg hkind (ih u)
  | paren hopen _ hclose ih => exact fun u => .bare (.paren .nil hopen (ih u) hclose)
  | operand _ ih => exact fun u => .operand (ih u).whole_of_layer
  | join _ hkind _ ihl ihr =>
    exact fun u => .join (ihl u) hkind (ihr _).whole_of_layer

namespace Layer

/-- The category that a layer takes the place of. -/
def category : Layer → Category
  | bare => .unary
  | negated => .unary
  | whole c => c

end Layer

namespace Piles

/-- Operands next to each other end with an operand, or there are none. -/
theorem nil_of_endsOperand_eq_false {as : List Token} {u v : List Formula}
    (h : Piles .bare as u v) (hends : endsOperand false as = false) : as = [] ∧ u = v := by
  cases h with
  | nil => exact ⟨rfl, rfl⟩
  | name _ hkind _ =>
    rw [endsOperand_concat, hkind] at hends
    simp [TokenKind.endsOperand] at hends
  | @paren o c as ts _ _ _ _ _ _ hclose =>
    rw [show as ++ o :: (ts ++ [c]) = (as ++ o :: ts) ++ [c] by simp, endsOperand_concat,
      hclose] at hends
    simp [TokenKind.endsOperand] at hends

/-- **What alternates is strict.** A sentence of the loose grammar that alternates
puts one formula on the pile, and is a sentence that denotes it. -/
theorem derives_of_alternates {y : Layer} {ts : List Token} {u v : List Formula}
    (h : Piles y ts u v) (halt : Alternates ts) : ∃ f, v = f :: u ∧ Derives y.category ts f := by
  induction h with
  | nil => exact absurd halt.2 (by simp [endsOperand])
  | @name t x as u v has hkind hname _ =>
    -- the token before a name is no operand's end, so there is none
    obtain ⟨hfits, -⟩ := halt
    rw [fitsAll_append] at hfits
    simp only [fitsAll, hkind, TokenKind.fits, Bool.and_true, Bool.and_eq_true,
      Bool.not_eq_true'] at hfits
    obtain ⟨rfl, rfl⟩ := has.nil_of_endsOperand_eq_false hfits.2
    exact ⟨_, rfl, .name hkind hname⟩
  | @paren o c as ts u v w has hopen _ hclose _ ih =>
    obtain ⟨hfits, -⟩ := halt
    simp only [fitsAll_append, fitsAll, hopen, hclose, TokenKind.fits, TokenKind.endsOperand,
      Bool.and_true, Bool.and_eq_true, Bool.not_eq_true'] at hfits
    obtain ⟨-, hends, hin⟩ := hfits
    obtain ⟨rfl, rfl⟩ := has.nil_of_endsOperand_eq_false hends
    obtain ⟨f, rfl, hf⟩ := ih hin
    exact ⟨f, rfl, .paren hopen hf hclose⟩
  | bare _ ih => exact ih halt
  | @neg t ts u v f hkind _ ih =>
    have hts : Alternates ts := by
      simpa [Alternates, fitsAll, endsOperand, hkind, TokenKind.fits, TokenKind.endsOperand]
        using halt
    obtain ⟨f, hv, hf⟩ := ih hts
    obtain ⟨rfl, rfl⟩ := List.cons.inj hv
    exact ⟨_, rfl, .neg hkind hf⟩
  | negated _ ih => exact ih halt
  | next _ hends hkind _ _ _ =>
    -- a `!` cannot follow an operand
    obtain ⟨hfits, -⟩ := halt
    simp [fitsAll_append, fitsAll, hends, hkind, TokenKind.fits] at hfits
  | operand _ ih =>
    obtain ⟨f, hv, hf⟩ := ih halt
    exact ⟨f, hv, .operand hf⟩
  | @join b t ls rs u v w l r _ hkind _ ihl ihr =>
    have hsplit : Alternates ls ∧ Alternates rs := by
      simpa [Alternates, fitsAll_append, endsOperand_append, fitsAll, endsOperand, hkind,
        TokenKind.fits, TokenKind.endsOperand, and_assoc] using halt
    obtain ⟨hls, hrs⟩ := hsplit
    obtain ⟨l', rfl, hl⟩ := ihl hls
    obtain ⟨r', hv, hr⟩ := ihr hrs
    simp only [List.cons.injEq] at hv
    obtain ⟨rfl, rfl, rfl⟩ := hv
    exact ⟨_, rfl, .join hl hkind hr⟩

end Piles

/-- **The strict grammar is the loose one where it alternates.** -/
theorem derives_iff_piles_alternates {c : Category} {ts : List Token} {f : Formula} :
    Derives c ts f ↔ Piles (.whole c) ts [] [f] ∧ Alternates ts := by
  constructor
  · exact fun h => ⟨(h.piles []).whole_of_layer, h.alternates⟩
  · rintro ⟨h, halt⟩
    obtain ⟨g, hg, hder⟩ := h.derives_of_alternates halt
    obtain ⟨rfl, -⟩ := List.cons.inj hg
    exact hder

end Turnstile
