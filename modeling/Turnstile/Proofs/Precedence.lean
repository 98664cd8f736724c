/-
# Precedence and what lies outside the grammar

Every sentence of the grammar is parsed to the formula that it denotes
(`parse_of_sentence`). The converse fails: nothing makes operands and operators
alternate, so that `p q &&` is taken for `p && q`
(`trailing_connective_accepted`). What the tokens of a text are parsed to is
what the loose grammar reads in them, of which the sentences are those that
alternate; everything else is rejected with a fault of sentences
(`accepted_sentence_iff_alternates`).

Key theorems: `Token.isProper_of_scan`, `parse_of_sentence`,
`accepted_sentence_iff_alternates`, `trailing_connective_accepted`.
-/
import Turnstile.Proofs.Acceptance
import Turnstile.Proofs.PendingOperators

namespace Turnstile

open Stacks

/-! ### Scanned tokens -/

namespace Token

theorem single?_cases {c : Char} {k : TokenKind} (h : single? c = some k) :
    k = .connective .neg ∨ k = .openParen ∨ k = .closeParen := by
  unfold single? at h
  split_ifs at h <;> cases h <;> simp

/-- What a scan that puts a token first gives. -/
theorem scanned_cons {t : Token} {x : Except LexError (List Token)} {ts : List Token}
    (h : (do let tokens ← x; return t :: tokens) = .ok ts) :
    ∃ tokens, x = .ok tokens ∧ ts = t :: tokens := by
  cases x with
  | error e => cases h
  | ok tokens => exact ⟨tokens, rfl, (Except.ok.inj h).symm⟩

theorem isName_takeWhile {c : Char} (cs : List Char) (hc : isLetter c = true) :
    Var.isName (String.ofList (c :: cs.takeWhile isAlnum)).toList = true := by
  rw [String.toList_ofList, Var.isName, hc, Bool.true_and, List.all_takeWhile]

theorem isProper_of_scanFrom {text : String} {i : Nat} {cs : List Char} {ts : List Token}
    (h : scanFrom text i cs = .ok ts) : ∀ t ∈ ts, t.IsProper := by
  fun_induction scanFrom text i cs generalizing ts with
  | case1 =>
    cases h
    exact List.forall_mem_nil _
  | case2 i c connective d rest _ ih =>
    obtain ⟨tokens, hrest, rfl⟩ := scanned_cons h
    exact List.forall_mem_cons.2 ⟨trivial, ih hrest⟩
  | case3 => cases h
  | case4 => cases h
  | case5 i c cs _ kind hsingle ih =>
    obtain ⟨tokens, hrest, rfl⟩ := scanned_cons h
    refine List.forall_mem_cons.2 ⟨?_, ih hrest⟩
    rcases single?_cases hsingle with rfl | rfl | rfl <;> trivial
  | case6 i c cs _ _ hletter name =>
    rename_i ih
    obtain ⟨tokens, hrest, rfl⟩ := scanned_cons h
    exact List.forall_mem_cons.2 ⟨isName_takeWhile cs hletter, ih hrest⟩
  | case7 i c cs _ _ _ _ ih => exact ih h
  | case8 => cases h

/-- The tokens of a text are of the kinds that texts have. -/
theorem isProper_of_scan {text : String} {ts : List Token} (h : scan text = .ok ts) :
    ∀ t ∈ ts, t.IsProper := isProper_of_scanFrom h

end Token

/-! ### Sentences -/

/-- **Sentences are parsed to what they denote.** Negation binds tightest, then
conjunction, disjunction and implication; binary connectives associate to the
left, and parentheses leave no trace. -/
theorem parse_of_sentence {ts : List Token} {f : Formula} (h : Derives (.chain .imp) ts f) :
    ∃ s, parseTokens none ts = .ok (f, s) := by
  obtain ⟨hpiles, -⟩ := derives_iff_piles_alternates.1 h
  exact parseTokens_ok_iff.2 hpiles

/-- `!p && q -> p -> q` is `(((!p) && q) -> p) -> q`. -/
theorem parse_of_sentence_chain :
    ∃ s, parseTokens none
      [⟨.connective .neg, "!", .offset 0⟩, ⟨.name, "p", .offset 1⟩,
        ⟨.connective (.binary .conj), "&&", .offset 3⟩, ⟨.name, "q", .offset 6⟩,
        ⟨.connective (.binary .imp), "->", .offset 8⟩, ⟨.name, "p", .offset 11⟩,
        ⟨.connective (.binary .imp), "->", .offset 13⟩, ⟨.name, "q", .offset 16⟩] =
      .ok (.bin .imp (.bin .imp
        (.bin .conj (.neg (.atom ⟨"p", by decide⟩)) (.atom ⟨"q", by decide⟩))
        (.atom ⟨"p", by decide⟩)) (.atom ⟨"q", by decide⟩), s) := by
  have p (n : Nat) : Derives .unary [⟨.name, "p", .offset n⟩] (.atom ⟨"p", by decide⟩) :=
    .name rfl rfl
  have q (n : Nat) : Derives .unary [⟨.name, "q", .offset n⟩] (.atom ⟨"q", by decide⟩) :=
    .name rfl rfl
  have negation := Derives.neg (t := ⟨.connective .neg, "!", .offset 0⟩) rfl (p 1)
  have conjunction := Derives.join (b := .conj)
    (t := ⟨.connective (.binary .conj), "&&", .offset 3⟩) (.operand negation) rfl (q 6)
  have implication := Derives.join (b := .imp) (t := ⟨.connective (.binary .imp), "->", .offset 8⟩)
    (.operand (.operand conjunction)) rfl (.operand (.operand (p 11)))
  have sentence := Derives.join (b := .imp) (t := ⟨.connective (.binary .imp), "->", .offset 13⟩)
    implication rfl (.operand (.operand (q 16)))
  exact parse_of_sentence sentence

/-! ### Outside the grammar -/

/-- **What is accepted is a sentence just where it alternates.** The tokens of a
text are parsed to what the loose grammar reads in them. The sentences among these
are those in which operands and operators alternate. What the loose grammar does
not read is rejected. -/
theorem accepted_sentence_iff_alternates {text : String} {ts : List Token}
    (h : Token.scan text = .ok ts) :
    (∀ f, (∃ s, parseTokens none ts = .ok (f, s)) ↔ Piles (.whole (.chain .imp)) ts [] [f]) ∧
    (∀ f, Derives (.chain .imp) ts f ↔ (∃ s, parseTokens none ts = .ok (f, s)) ∧ Alternates ts) ∧
    ((∀ f, ¬Piles (.whole (.chain .imp)) ts [] [f]) →
      ∃ e, parseTokens none ts = .error e ∧ IsSentenceFault e.error) := by
  refine ⟨fun f => parseTokens_ok_iff, fun f => ?_, fun hnot => ?_⟩
  · rw [derives_iff_piles_alternates, parseTokens_ok_iff]
  · cases hparse : parseTokens none ts with
    | ok result => exact absurd (parseTokens_ok_iff.1 ⟨result.2, hparse⟩) (hnot result.1)
    | error e =>
      have hfault := parseTokens_fault (Token.isProper_of_scan h) hparse
      exact ⟨e, rfl, hfault.isSentenceFault⟩

/-- Two names next to each other that no connective follows are rejected. -/
theorem adjacent_names_rejected :
    ∃ e, parseTokens none [⟨.name, "p", .offset 0⟩, ⟨.name, "q", .offset 2⟩] = .error e ∧
      IsSentenceFault e.error := by
  have hscan : Token.scan "p q" = .ok [⟨.name, "p", .offset 0⟩, ⟨.name, "q", .offset 2⟩] := by
    decide +kernel
  obtain ⟨haccepted, -, hrejected⟩ := accepted_sentence_iff_alternates hscan
  refine hrejected fun f hpiles => ?_
  obtain ⟨s, hparse⟩ := (haccepted f).2 hpiles
  cases hparse

/-- The tokens of `p q &&`. -/
theorem scan_trailing_connective : Token.scan "p q &&" =
    .ok [⟨.name, "p", .offset 0⟩, ⟨.name, "q", .offset 2⟩,
      ⟨.connective (.binary .conj), "&&", .offset 4⟩] := by decide +kernel

/-- **Not only sentences are accepted.** The connective of `p q &&` finds its
operands on the stack, though two names stand next to each other. -/
theorem trailing_connective_accepted :
    ∃ ts, Token.scan "p q &&" = .ok ts ∧
      (∃ s, parseTokens none ts =
        .ok (.bin .conj (.atom ⟨"p", by decide⟩) (.atom ⟨"q", by decide⟩), s)) ∧
      ∀ f, ¬Derives (.chain .imp) ts f := by
  refine ⟨_, scan_trailing_connective, ⟨_, rfl⟩, fun f h => ?_⟩
  exact absurd h.alternates (by decide)

end Turnstile
