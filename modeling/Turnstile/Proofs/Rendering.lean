/-
# Rendered formulas are read back

The text of a formula has no blanks, and parentheses around binary formulas only.
Scanning it gives one token for each variable, connective and parenthesis, at the
place where it stands (`Formula.scan_render`): a name ends where it should, because
what follows a formula in a rendering is never a letter or digit. The tokens are a
sentence of the grammar, on its tightest level, that denotes the formula
(`Formula.derives_tokensAt`). So the text is parsed to the formula it renders, under
every limit on length and depth that the formula itself keeps to
(`parseText_render`).

Key definitions: `Formula.tokensAt`.
Key theorems: `Token.scanFrom_name`, `Formula.scanFrom_render`,
`Formula.scan_render`, `Formula.derives_tokensAt`, `parseText_render`.
-/
import Turnstile.Proofs.Acceptance
import Turnstile.Proofs.DepthLimit

namespace Turnstile

/-! ### Scanning one token -/

namespace Token

variable (text : String) (i : Nat)

theorem scanFrom_single {c : Char} {kind : TokenKind} (hdouble : double? c = none)
    (hsingle : single? c = some kind) (cs : List Char) :
    scanFrom text i (c :: cs) =
      (scanFrom text (i + 1) cs).map (⟨kind, c.toString, .offset i⟩ :: ·) := by
  rw [scanFrom]
  simp only [hdouble, hsingle]
  cases scanFrom text (i + 1) cs <;> rfl

theorem scanFrom_double {c d : Char} {connective : Connective}
    (hdouble : double? c = some (d, connective)) (cs : List Char) :
    scanFrom text i (c :: d :: cs) = (scanFrom text (i + 2) cs).map
      (⟨.connective connective, String.ofList [c, d], .offset i⟩ :: ·) := by
  rw [scanFrom]
  simp only [hdouble, if_true]
  cases scanFrom text (i + 2) cs <;> rfl

theorem double?_of_isLetter {c : Char} (h : isLetter c = true) : double? c = none := by
  unfold double?
  split_ifs with h₁ h₂ h₃
  · exact absurd h (by subst h₁; decide)
  · exact absurd h (by subst h₂; decide)
  · exact absurd h (by subst h₃; decide)
  · rfl

theorem single?_of_isLetter {c : Char} (h : isLetter c = true) : single? c = none := by
  unfold single?
  split_ifs with h₁ h₂ h₃
  · exact absurd h (by subst h₁; decide)
  · exact absurd h (by subst h₂; decide)
  · exact absurd h (by subst h₃; decide)
  · rfl

/-- A name that no letter or digit follows is scanned as a whole. -/
theorem scanFrom_name {name rest : List Char} (hname : Var.isName name = true)
    (hrest : ∀ c ∈ rest.head?, isAlnum c = false) :
    scanFrom text i (name ++ rest) = (scanFrom text (i + name.length) rest).map
      (⟨.name, String.ofList name, .offset i⟩ :: ·) := by
  obtain _ | ⟨c, cs⟩ := name
  · simp [Var.isName] at hname
  · obtain ⟨hletter, hcs⟩ : isLetter c = true ∧ ∀ d ∈ cs, isAlnum d = true := by
      simpa [Var.isName] using hname
    have hnone : rest.takeWhile isAlnum = [] ∧ rest.dropWhile isAlnum = rest := by
      cases rest with
      | nil => exact ⟨rfl, rfl⟩
      | cons d ds => simp [hrest d (by simp)]
    have htake : (cs ++ rest).takeWhile isAlnum = cs := by
      rw [List.takeWhile_append_of_pos hcs, hnone.1, List.append_nil]
    have hdrop : (cs ++ rest).dropWhile isAlnum = rest := by
      rw [List.dropWhile_append_of_pos hcs, hnone.2]
    rw [List.cons_append, scanFrom]
    simp only [double?_of_isLetter hletter, single?_of_isLetter hletter, hletter, if_true, htake,
      hdrop]
    cases scanFrom text (i + (c :: cs).length) rest <;> rfl

end Token

/-! ### The tokens of a rendering -/

namespace Formula

/-- The tokens of the rendering of a formula that starts at offset `i`. -/
def tokensAt : Nat → Formula → List Token
  | i, atom x => [⟨.name, x.name, .offset i⟩]
  | i, neg f => ⟨.connective .neg, "!", .offset i⟩ :: f.tokensAt (i + 1)
  | i, bin b l r =>
    let middle := i + 1 + l.render.length
    let last := middle + 2 + r.render.length
    ⟨.openParen, "(", .offset i⟩ :: (l.tokensAt (i + 1) ++
      ⟨.connective (.binary b), b.symbol, .offset middle⟩ :: r.tokensAt (middle + 2) ++
        [⟨.closeParen, ")", .offset last⟩])

end Formula

/-- The symbol of a binary connective as its two characters. -/
theorem Binary.exists_symbol (b : Binary) : ∃ c d, b.symbol.toList = [c, d] ∧
    b.symbol = String.ofList [c, d] ∧ Token.double? c = some (d, .binary b) ∧
      isAlnum c = false := by
  cases b with
  | conj => exact ⟨'&', '&', by decide, by decide, by decide, by decide⟩
  | disj => exact ⟨'|', '|', by decide, by decide, by decide, by decide⟩
  | imp => exact ⟨'-', '>', by decide, by decide, by decide, by decide⟩

namespace Formula

/-- The rendering of a formula is scanned to its tokens, whatever comes after it
that is no letter or digit. -/
theorem scanFrom_render (text : String) : ∀ (f : Formula) (i : Nat) {rest : List Char},
    (∀ c ∈ rest.head?, isAlnum c = false) →
      Token.scanFrom text i (f.render.toList ++ rest) =
        (Token.scanFrom text (i + f.render.length) rest).map (f.tokensAt i ++ ·)
  | atom x, i, rest, hrest => by
    rw [render, Token.scanFrom_name text i x.valid hrest, String.ofList_toList]
    rfl
  | neg f, i, rest, hrest => by
    have hsingle : Token.single? '!' = some (.connective .neg) := by decide
    have hchars : (neg f).render.toList ++ rest = '!' :: (f.render.toList ++ rest) := by
      simp [render]
    have hlength : i + (neg f).render.length = i + 1 + f.render.length := by
      simp only [render, String.length_append, show "!".length = 1 from rfl]
      omega
    rw [hchars, hlength, Token.scanFrom_single text i (by decide) hsingle,
      scanFrom_render text f (i + 1) hrest]
    cases Token.scanFrom text (i + 1 + f.render.length) rest <;> rfl
  | bin b l r, i, rest, hrest => by
    obtain ⟨c, d, hchars, hsymbol, hdouble, hc⟩ := b.exists_symbol
    have hopen : Token.single? '(' = some .openParen := by decide
    have hclose : Token.single? ')' = some .closeParen := by decide
    have hsplit : (bin b l r).render.toList ++ rest =
        '(' :: (l.render.toList ++ c :: d :: (r.render.toList ++ ')' :: rest)) := by
      simp [render, hchars]
    have hlength : i + (bin b l r).render.length =
        i + 1 + l.render.length + 2 + r.render.length + 1 := by
      have htwo : b.symbol.length = 2 := by cases b <;> rfl
      simp only [render, String.length_append, htwo, show "(".length = 1 from rfl,
        show ")".length = 1 from rfl]
      omega
    -- neither operand is followed by a letter or digit
    have hleft : ∀ x ∈ (c :: d :: (r.render.toList ++ ')' :: rest)).head?, isAlnum x = false := by
      simpa using hc
    have hparen : isAlnum ')' = false := by decide
    have hright : ∀ x ∈ (')' :: rest).head?, isAlnum x = false := by simpa using hparen
    rw [hsplit, hlength, Token.scanFrom_single text i (by decide) hopen,
      scanFrom_render text l (i + 1) hleft, Token.scanFrom_double text _ hdouble,
      scanFrom_render text r _ hright, Token.scanFrom_single text _ (by decide) hclose, ← hsymbol]
    cases Token.scanFrom text (i + 1 + l.render.length + 2 + r.render.length + 1) rest with
    | error e => rfl
    | ok ts => simp [Except.map, tokensAt]

theorem scan_render (f : Formula) : Token.scan f.render = .ok (f.tokensAt 0) := by
  have hnil : ∀ c ∈ ([] : List Char).head?, isAlnum c = false := by simp
  have h := scanFrom_render f.render f 0 hnil
  rw [List.append_nil] at h
  rw [Token.scan, h, Token.scanFrom]
  simp [Except.map]

end Formula

/-! ### The sentence of a rendering -/

namespace Derives

variable {ts : List Token} {f : Formula}

/-- A sentence of the tightest level is one of every level. -/
theorem of_unary (h : Derives .unary ts f) : ∀ c : Category, Derives c ts f
  | .unary => h
  | .chain .conj => .operand h
  | .chain .disj => .operand (b := .disj) (.operand (b := .conj) h)
  | .chain .imp => .operand (b := .imp) (.operand (b := .disj) (.operand (b := .conj) h))

/-- A sentence of any level is one of the loosest. -/
theorem toImp : ∀ {c : Category}, Derives c ts f → Derives (.chain .imp) ts f
  | .unary, h => h.of_unary _
  | .chain .conj, h => .operand (b := .imp) (.operand (b := .disj) h)
  | .chain .disj, h => .operand (b := .imp) h
  | .chain .imp, h => h

end Derives

namespace Formula

/-- The tokens of a rendering denote the formula. -/
theorem derives_tokensAt : ∀ (f : Formula) (i : Nat), Derives .unary (f.tokensAt i) f
  | atom x, i => .name rfl rfl
  | neg f, i => .neg rfl (f.derives_tokensAt (i + 1))
  | bin b l r, i => by
    have hl := (l.derives_tokensAt (i + 1)).of_unary (.chain b)
    have hr := (r.derives_tokensAt (i + 1 + l.render.length + 2)).of_unary (.operandOf b)
    have hjoin := Derives.join (t := ⟨_, b.symbol, .offset (i + 1 + l.render.length)⟩) hl rfl hr
    exact .paren rfl hjoin.toImp rfl

end Formula

/-! ### Reading back -/

/-- The tokens of a rendering are parsed to the formula under each limit that allows
its compound formulas. -/
theorem Formula.parseTokens_tokensAt {limit : Option Limit} {f : Formula}
    (h : Allowed limit f.compounds) : ∃ s, parseTokens limit (f.tokensAt 0) = .ok (f, s) := by
  obtain ⟨hpiles, -⟩ := derives_iff_piles_alternates.1 (f.derives_tokensAt 0).toImp
  obtain ⟨s, hfree⟩ := parseTokens_ok_iff.2 hpiles
  exact ⟨s, parseTokens_ok_iff_allowed.2 ⟨hfree, h⟩⟩

/-- **Parsing undoes rendering.** Under limits that the length of its text and its
depth do not exceed, the text of a formula is parsed to that formula. -/
theorem parseText_render (f : Formula) {maxLength maxDepth : Int}
    (hlength : (f.render.length : Int) ≤ maxLength) (hdepth : (f.depth : Int) ≤ maxDepth) :
    parseText ⟨some (.int maxLength), some (.int maxDepth)⟩ f.render = .ok f := by
  have hfits : (Limit.int maxLength).exceededBy? f.render.length = some false := by
    simp [Limit.exceededBy?, hlength]
  obtain ⟨s, hparse⟩ := f.parseTokens_tokensAt (Formula.allowed_compounds hdepth)
  simp only [parseText, Attempt.ofText, hfits, Attempt.ofScan, f.scan_render, Attempt.ofTokens]
  rw [hparse]

/-- `!(p&&!!q)` is read back under the tightest limits. -/
theorem parseText_render_negations :
    let p : Formula := .atom ⟨"p", by decide⟩
    let q : Formula := .atom ⟨"q", by decide⟩
    let f : Formula := .neg (.bin .conj p (.neg (.neg q)))
    f.render = "!(p&&!!q)" ∧ parseText ⟨some (.int 9), some (.int 4)⟩ "!(p&&!!q)" = .ok f := by
  intro p q f
  have hrender : f.render = "!(p&&!!q)" := by decide
  refine ⟨hrender, ?_⟩
  rw [← hrender]
  exact parseText_render f (by rw [hrender]; decide) (by decide)

end Turnstile
