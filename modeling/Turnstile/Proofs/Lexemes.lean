/-
# Texts cut into lexemes

A text of tokens is one that can be cut into lexemes with blanks around them, where
two names have at least one blank between them (`Cut`). Scanning finds the tokens of
such a cut and goes on behind it (`Cut.scanFrom_append`): blanks are passed over, and
a name goes on as far as letters and digits do, which is where the lexeme ends, since
neither a blank nor the start of a symbol is a letter or digit. What follows the cut
must not carry on its last name either (`Seam`). Every text is a cut followed by
nothing or by an offence, on which the scan fails (`Cut.exists_passed`); so a scan
that succeeds has passed over a cut (`Cut.exists_of_scanFrom`). A cut is determined
by its text and its tokens (`Cut.eq_of_tokensFrom_eq`), and so by its text alone.

Key definitions: `Lexeme.symbols`, `Lexeme.IsName`, `Cut`, `Cut.Proper`,
`Cut.chars`, `Cut.tokens`, `Seam`, `Offence`, `Cut.Passed`.
Key theorems: `Lexeme.scanFrom_lexeme`, `Cut.scanFrom_append`,
`Cut.scanFrom_chars`, `Cut.exists_passed`, `Cut.exists_of_scanFrom`,
`Cut.eq_of_tokensFrom_eq`, `scan_ok_iff_cut`.
-/
import Mathlib.Data.List.Chain
import Turnstile.Proofs.Precedence
import Turnstile.Proofs.Rendering

namespace Turnstile

/-! ### Lexemes -/

namespace Lexeme

/-- The lexemes of fixed spelling, each with its kind. -/
def symbols : List (List Char × TokenKind) :=
  [(['!'], .connective .neg), (['('], .openParen), ([')'], .closeParen),
    (['&', '&'], .connective (.binary .conj)), (['|', '|'], .connective (.binary .disj)),
    (['-', '>'], .connective (.binary .imp))]

/-- A letter followed by letters and digits, all of them ASCII. -/
def IsName (v : List Char) : Prop :=
  ∃ c cs, v = c :: cs ∧ c.isAlpha = true ∧ ∀ d ∈ cs, d.isAlphanum = true

/-- A symbol or a name. -/
def Proper (v : List Char) : Prop := v ∈ symbols.map Prod.fst ∨ IsName v

/-- The kind of a lexeme: that of the symbol, or a name. -/
def kind (v : List Char) : TokenKind := (symbols.lookup v).getD .name

end Lexeme

/-- A text cut into lexemes and blanks. -/
structure Cut where
  /-- Each lexeme, with the blanks before it in front. -/
  pieces : List (List Char × List Char)
  /-- The blanks after the last lexeme. -/
  last : List Char

namespace Cut

/-- Blanks and lexemes are what they should be, and between two names there is a
blank. -/
structure Proper (k : Cut) : Prop where
  blanks : ∀ p ∈ k.pieces, ∀ c ∈ p.1, Text.isBlank c = true
  lexemes : ∀ p ∈ k.pieces, Lexeme.Proper p.2
  apart : k.pieces.IsChain fun p q => Lexeme.IsName p.2 → Lexeme.IsName q.2 → q.1 ≠ []
  last : ∀ c ∈ k.last, Text.isBlank c = true

/-- The characters of the text that was cut. -/
def chars (k : Cut) : List Char := (k.pieces.flatMap fun p => p.1 ++ p.2) ++ k.last

/-- The tokens of pieces that start at offset `i`. -/
def tokensFrom (i : Nat) : List (List Char × List Char) → List Token
  | [] => []
  | (w, v) :: pieces =>
    ⟨Lexeme.kind v, String.ofList v, .offset (i + w.length)⟩ ::
      tokensFrom (i + w.length + v.length) pieces

/-- The tokens of a cut, each at the offset of its lexeme in the text. -/
def tokens (k : Cut) : List Token := tokensFrom 0 k.pieces

end Cut

/-- Two texts do not join in the middle of a name. -/
def Seam (front rest : List Char) : Prop :=
  ∀ a ∈ front.getLast?, isAlnum a = true → ∀ c ∈ rest.head?, isAlnum c = false

/-- What a scan of `text` fails on where the characters that follow offset `i` start no
token: a character that no token starts with, a token of two characters with another
second character, or with none. -/
inductive Offence (text : String) (i : Nat) : List Char → LexError → Prop
  | stray {c : Char} (rest : List Char) (hdouble : Token.double? c = none)
      (hsingle : Token.single? c = none) (hletter : isLetter c = false)
      (hblank : Text.isBlank c = false) : Offence text i (c :: rest) ⟨some c, i, text, none⟩
  | mismatch {c d second : Char} {connective : Connective} (rest : List Char)
      (hdouble : Token.double? c = some (second, connective)) (hne : d ≠ second) :
      Offence text i (c :: d :: rest) ⟨some d, i + 1, c.toString, some second⟩
  | cutShort {c second : Char} {connective : Connective}
      (hdouble : Token.double? c = some (second, connective)) :
      Offence text i [c] ⟨none, i + 1, c.toString, some second⟩

/-! ### Characters -/

theorem isLetter_eq_isAlpha (c : Char) : isLetter c = c.isAlpha := by
  have hupper : c.isUpper = ('A'.val ≤ c.val && c.val ≤ 'Z'.val) := Bool.decide_and ..
  have hlower : c.isLower = ('a'.val ≤ c.val && c.val ≤ 'z'.val) := rfl
  rw [isLetter, Bool.or_comm, ← hupper, ← hlower]
  rfl

theorem isAlnum_eq_isAlphanum (c : Char) : isAlnum c = c.isAlphanum := by
  simp only [isAlnum, isLetter_eq_isAlpha]
  rfl

theorem Lexeme.isName_iff {v : List Char} : Lexeme.IsName v ↔ Var.isName v = true := by
  cases v with
  | nil => simp [Lexeme.IsName, Var.isName]
  | cons c cs =>
    simp [Lexeme.IsName, Var.isName, isLetter_eq_isAlpha, isAlnum_eq_isAlphanum]

/-- A blank is no letter or digit. -/
theorem isAlnum_of_isBlank {c : Char} (h : Text.isBlank c = true) : isAlnum c = false := by
  simp only [Text.isBlank, Bool.or_eq_true, Bool.and_eq_true, decide_eq_true_eq,
    beq_iff_eq] at h
  rw [Bool.eq_false_iff, Ne, isAlnum_iff]
  omega

/-! ### Scanning blanks and lexemes -/

namespace Lexeme

theorem kind_of_isName {v : List Char} (h : IsName v) : kind v = .name := by
  obtain ⟨c, cs, rfl, hc, -⟩ := h
  have hne : ∀ d : Char, d.isAlpha = false → (c == d) = false := by
    rintro d hd
    exact beq_eq_false_iff_ne.2 fun h => by simp [h, hd] at hc
  simp [kind, symbols, List.lookup_cons, hne]

/-- No symbol starts with a letter, a digit or a blank. -/
theorem head_symbol {v : List Char} (h : v ∈ symbols.map Prod.fst) {c : Char} (hc : c ∈ v.head?) :
    isAlnum c = false ∧ Text.isBlank c = false := by
  simp only [symbols, List.map_cons, List.map_nil, List.mem_cons, List.not_mem_nil, or_false] at h
  obtain rfl | rfl | rfl | rfl | rfl | rfl := h <;> cases hc <;> decide

/-- Nor does one end with a letter or digit. -/
theorem last_symbol {v : List Char} (h : v ∈ symbols.map Prod.fst) {c : Char}
    (hc : c ∈ v.getLast?) : isAlnum c = false := by
  simp only [symbols, List.map_cons, List.map_nil, List.mem_cons, List.not_mem_nil, or_false] at h
  obtain rfl | rfl | rfl | rfl | rfl | rfl := h <;> cases hc <;> decide

theorem IsName.forall_isAlnum {v : List Char} (h : IsName v) : ∀ c ∈ v, isAlnum c = true := by
  obtain ⟨c, cs, rfl, hc, hcs⟩ := h
  refine List.forall_mem_cons.2 ⟨?_, fun d hd => by rw [isAlnum_eq_isAlphanum, hcs d hd]⟩
  simp [isAlnum, isLetter_eq_isAlpha, hc]

theorem not_isName_symbol {v : List Char} (h : v ∈ symbols.map Prod.fst) : ¬IsName v := by
  have hnames : ∀ v ∈ symbols.map Prod.fst, ¬Var.isName v = true := by decide
  exact isName_iff.not.2 (hnames v h)

/-- A symbol is what the scan takes for a token of one character, or of two. -/
theorem symbol_cases {v : List Char} (h : v ∈ symbols.map Prod.fst) :
    (∃ c, v = [c] ∧ Token.double? c = none ∧ Token.single? c = some (kind v)) ∨
      ∃ c d k, v = [c, d] ∧ Token.double? c = some (d, k) ∧ kind v = .connective k := by
  simp only [symbols, List.map_cons, List.map_nil, List.mem_cons, List.not_mem_nil, or_false] at h
  obtain rfl | rfl | rfl | rfl | rfl | rfl := h
  · exact .inl ⟨'!', rfl, rfl, rfl⟩
  · exact .inl ⟨'(', rfl, rfl, rfl⟩
  · exact .inl ⟨')', rfl, rfl, rfl⟩
  · exact .inr ⟨'&', '&', _, rfl, rfl, rfl⟩
  · exact .inr ⟨'|', '|', _, rfl, rfl, rfl⟩
  · exact .inr ⟨'-', '>', _, rfl, rfl, rfl⟩

theorem mem_symbols_of_single? {c : Char} {k : TokenKind} (h : Token.single? c = some k) :
    [c] ∈ symbols.map Prod.fst := by
  unfold Token.single? at h
  split_ifs at h with h₁ h₂ h₃ <;> cases h <;> subst c <;> decide

theorem mem_symbols_of_double? {c d : Char} {k : Connective}
    (h : Token.double? c = some (d, k)) : [c, d] ∈ symbols.map Prod.fst := by
  unfold Token.double? at h
  split_ifs at h with h₁ h₂ h₃ <;> cases h <;> subst c <;> decide

end Lexeme

namespace Token

variable (text : String) (i : Nat)

theorem double?_of_isBlank {c : Char} (h : Text.isBlank c = true) : double? c = none := by
  cases hc : double? c with
  | none => rfl
  | some p =>
    have hmem := Lexeme.mem_symbols_of_double? hc
    simp [(Lexeme.head_symbol hmem (c := c) (by simp)).2] at h

theorem single?_of_isBlank {c : Char} (h : Text.isBlank c = true) : single? c = none := by
  cases hc : single? c with
  | none => rfl
  | some kind =>
    have hmem := Lexeme.mem_symbols_of_single? hc
    simp [(Lexeme.head_symbol hmem (c := c) (by simp)).2] at h

theorem scanFrom_blank {c : Char} (h : Text.isBlank c = true) (cs : List Char) :
    scanFrom text i (c :: cs) = scanFrom text (i + 1) cs := by
  have hletter : isLetter c = false := (Bool.or_eq_false_iff.1 (isAlnum_of_isBlank h)).1
  rw [scanFrom]
  simp [double?_of_isBlank h, single?_of_isBlank h, hletter, h]

theorem scanFrom_blanks {w : List Char} (hw : ∀ c ∈ w, Text.isBlank c = true) (cs : List Char) :
    scanFrom text i (w ++ cs) = scanFrom text (i + w.length) cs := by
  induction w generalizing i with
  | nil => rfl
  | cons c w ih =>
    obtain ⟨hc, hw⟩ := List.forall_mem_cons.1 hw
    rw [List.cons_append, scanFrom_blank text i hc, ih (i + 1) hw, List.length_cons]
    congr 1
    omega

end Token

/-- **One lexeme is scanned as one token**, where a name is not followed by what it
would go on with. -/
theorem Lexeme.scanFrom_lexeme (text : String) (i : Nat) {v rest : List Char} (hv : Lexeme.Proper v)
    (hrest : Lexeme.IsName v → ∀ c ∈ rest.head?, isAlnum c = false) :
    Token.scanFrom text i (v ++ rest) = (Token.scanFrom text (i + v.length) rest).map
      (⟨Lexeme.kind v, String.ofList v, .offset i⟩ :: ·) := by
  obtain hsymbol | hname := hv
  · obtain ⟨c, rfl, hdouble, hsingle⟩ | ⟨c, d, k, rfl, hdouble, hkind⟩ :=
      Lexeme.symbol_cases hsymbol
    · exact Token.scanFrom_single text i hdouble hsingle rest
    · rw [hkind]
      exact Token.scanFrom_double text i hdouble rest
  · rw [Lexeme.kind_of_isName hname]
    exact Token.scanFrom_name text i (Lexeme.isName_iff.1 hname) (hrest hname)

/-- The scan fails on an offence. -/
theorem Offence.scanFrom_eq {text : String} {i : Nat} {cs : List Char} {e : LexError}
    (h : Offence text i cs e) : Token.scanFrom text i cs = .error e := by
  cases h with
  | stray rest hdouble hsingle hletter hblank =>
    rw [Token.scanFrom]
    simp [hdouble, hsingle, hletter, hblank]
  | mismatch rest hdouble hne =>
    rw [Token.scanFrom]
    simp [hdouble, hne]
  | cutShort hdouble =>
    rw [Token.scanFrom]
    simp [hdouble]

/-! ### Seams -/

theorem Seam.append {v front rest : List Char} (h : Seam front rest)
    (hv : front = [] → Seam v rest) : Seam (v ++ front) rest := by
  obtain rfl | hne := eq_or_ne front []
  · rw [List.append_nil]
    exact hv rfl
  · rw [Seam, List.getLast?_append_of_ne_nil v hne]
    exact h

theorem Seam.of_append {v front rest : List Char} (h : Seam (v ++ front) rest) :
    Seam front rest := by
  obtain rfl | hne := eq_or_ne front []
  · exact fun a ha => by cases ha
  · rw [Seam, List.getLast?_append_of_ne_nil v hne] at h
    exact h

theorem Lexeme.IsName.seam_iff {v : List Char} (h : Lexeme.IsName v) {rest : List Char} :
    Seam v rest ↔ ∀ c ∈ rest.head?, isAlnum c = false := by
  refine ⟨fun hseam c hc => ?_, fun hrest _ _ _ => hrest⟩
  have hne : v ≠ [] := by
    obtain ⟨c, cs, rfl, -⟩ := h
    exact List.cons_ne_nil c cs
  have hlast := List.getLast?_eq_some_getLast hne
  exact hseam _ hlast (h.forall_isAlnum _ (List.getLast_mem hne)) c hc

theorem Lexeme.seam_symbol {v : List Char} (h : v ∈ Lexeme.symbols.map Prod.fst)
    (rest : List Char) : Seam v rest :=
  fun a ha halnum => by simp [Lexeme.last_symbol h ha] at halnum

theorem Seam.of_isBlank {c : Char} (h : Text.isBlank c = true) (rest : List Char) :
    Seam [c] rest := by
  intro a ha halnum
  obtain rfl : c = a := by simpa using ha
  simp [isAlnum_of_isBlank h] at halnum

/-! ### Cuts -/

namespace Cut

variable {p : List Char × List Char} {pieces : List (List Char × List Char)} {last : List Char}

@[simp] theorem chars_cons : chars ⟨p :: pieces, last⟩ = p.1 ++ (p.2 ++ chars ⟨pieces, last⟩) := by
  simp [chars]

theorem Proper.tail (h : Proper ⟨p :: pieces, last⟩) : Proper ⟨pieces, last⟩ where
  blanks := (List.forall_mem_cons.1 h.blanks).2
  lexemes := (List.forall_mem_cons.1 h.lexemes).2
  apart := h.apart.tail
  last := h.last

/-- What follows a name does not go on with a letter or digit. -/
theorem Proper.isAlnum_head? (h : Proper ⟨p :: pieces, last⟩) (hname : Lexeme.IsName p.2) :
    ∀ c ∈ (chars ⟨pieces, last⟩).head?, isAlnum c = false := by
  intro c hc
  match pieces, h, hc with
  | [], h, hc => exact isAlnum_of_isBlank (h.last c (List.mem_of_mem_head? hc))
  | (b :: w, v) :: pieces, h, hc =>
    obtain rfl : b = c := by simpa using hc
    exact isAlnum_of_isBlank (h.blanks (b :: w, v) (by simp) b (by simp))
  | ([], v) :: pieces, h, hc =>
    -- without a blank between them the second is no name
    obtain hsymbol | hsecond := h.lexemes ([], v) (by simp)
    · have hne : v ≠ [] := fun hv => by subst hv; revert hsymbol; decide
      have hhead : c ∈ v.head? := by
        simpa [List.head?_append_of_ne_nil v hne] using hc
      exact (Lexeme.head_symbol hsymbol hhead).1
    · exact absurd rfl ((List.isChain_cons_cons.1 h.apart).1 hname hsecond)

/-- **A scan passes over a cut and goes on behind it**, as long as what follows does not
carry on its last name. -/
theorem scanFrom_append (text : String) (i : Nat) (h : Proper ⟨pieces, last⟩) {rest : List Char}
    (hseam : Seam (chars ⟨pieces, last⟩) rest) :
    Token.scanFrom text i (chars ⟨pieces, last⟩ ++ rest) =
      (Token.scanFrom text (i + (chars ⟨pieces, last⟩).length) rest).map
        (tokensFrom i pieces ++ ·) := by
  induction pieces generalizing i with
  | nil =>
    have hchars : chars ⟨[], last⟩ = last := rfl
    rw [hchars, Token.scanFrom_blanks text i h.last]
    cases Token.scanFrom text (i + last.length) rest <;> rfl
  | cons p pieces ih =>
    have hblanks := (List.forall_mem_cons.1 h.blanks).1
    have hlexeme := (List.forall_mem_cons.1 h.lexemes).1
    rw [chars_cons] at hseam
    have hnext : Lexeme.IsName p.2 →
        ∀ c ∈ (chars ⟨pieces, last⟩ ++ rest).head?, isAlnum c = false := by
      intro hname c hc
      obtain hnil | hne := eq_or_ne (chars ⟨pieces, last⟩) []
      · -- the cut ends with the name, so what follows is on the other side of the seam
        rw [hnil, List.append_nil] at hseam
        rw [hnil, List.nil_append] at hc
        exact hname.seam_iff.1 hseam.of_append c hc
      · rw [List.head?_append_of_ne_nil _ hne] at hc
        exact h.isAlnum_head? hname c hc
    rw [chars_cons, List.append_assoc, List.append_assoc, Token.scanFrom_blanks text i hblanks,
      Lexeme.scanFrom_lexeme text _ hlexeme hnext, ih _ h.tail hseam.of_append.of_append]
    rw [List.length_append, List.length_append, ← Nat.add_assoc, ← Nat.add_assoc]
    cases Token.scanFrom text _ rest <;> rfl

/-- **The tokens of a cut are scanned from its text.** -/
theorem scanFrom_chars (text : String) (i : Nat) (h : Proper ⟨pieces, last⟩) :
    Token.scanFrom text i (chars ⟨pieces, last⟩) = .ok (tokensFrom i pieces) := by
  have hseam : Seam (chars ⟨pieces, last⟩) [] := fun _ _ _ _ hc => by cases hc
  have happend := scanFrom_append text i h hseam
  rw [List.append_nil, Token.scanFrom] at happend
  rw [happend]
  exact congrArg Except.ok (List.append_nil _)

/-! ### Scans -/

/-- The cut with a blank more at its start. -/
def blank (c : Char) : Cut → Cut
  | ⟨[], last⟩ => ⟨[], c :: last⟩
  | ⟨(w, v) :: pieces, last⟩ => ⟨(c :: w, v) :: pieces, last⟩

/-- The cut with a lexeme more at its start. -/
def lexeme (v : List Char) (k : Cut) : Cut := ⟨([], v) :: k.pieces, k.last⟩

theorem Proper.blank {c : Char} (hc : Text.isBlank c = true) {k : Cut} (h : k.Proper) :
    (k.blank c).Proper := by
  obtain ⟨_ | ⟨⟨w, v⟩, pieces⟩, last⟩ := k
  · exact ⟨h.blanks, h.lexemes, h.apart, List.forall_mem_cons.2 ⟨hc, h.last⟩⟩
  · obtain ⟨hblanks, hpieces⟩ := List.forall_mem_cons.1 h.blanks
    exact {
      blanks := List.forall_mem_cons.2 ⟨List.forall_mem_cons.2 ⟨hc, hblanks⟩, hpieces⟩
      lexemes := List.forall_mem_cons.2 (List.forall_mem_cons.1 h.lexemes)
      apart := List.isChain_cons.2 (List.isChain_cons.1 h.apart)
      last := h.last }

@[simp] theorem chars_blank (c : Char) (k : Cut) : (k.blank c).chars = c :: k.chars := by
  obtain ⟨_ | ⟨⟨w, v⟩, pieces⟩, last⟩ := k
  · rfl
  · simp [blank]

theorem offset_blank (c : Char) (i : Nat) (k : Cut) :
    i + (k.blank c).chars.length = i + 1 + k.chars.length := by
  rw [chars_blank, List.length_cons]
  omega

theorem Proper.lexeme {v : List Char} (hv : Lexeme.Proper v) {k : Cut} (h : k.Proper)
    (hrest : Lexeme.IsName v → ∀ c ∈ k.chars.head?, isAlnum c = false) :
    (k.lexeme v).Proper where
  blanks := List.forall_mem_cons.2 ⟨List.forall_mem_nil _, h.blanks⟩
  lexemes := List.forall_mem_cons.2 ⟨hv, h.lexemes⟩
  apart := by
    refine List.isChain_cons.2 ⟨fun q hq hname hsecond hnone => ?_, h.apart⟩
    -- two names with nothing between them are one
    obtain ⟨c, cs, hcs, hc, -⟩ := hsecond
    obtain ⟨pieces, hpieces⟩ : ∃ pieces, k.pieces = q :: pieces := List.head?_eq_some_iff.1 hq
    have hhead : c ∈ k.chars.head? := by simp [chars, hpieces, hnone, hcs]
    have halnum : isAlnum c = true := by simp [isAlnum, isLetter_eq_isAlpha, hc]
    simp [hrest hname c hhead] at halnum
  last := h.last

@[simp] theorem chars_lexeme (v : List Char) (k : Cut) : (k.lexeme v).chars = v ++ k.chars := by
  simp [lexeme, chars]

theorem offset_lexeme (v : List Char) (i : Nat) (k : Cut) :
    i + (k.lexeme v).chars.length = i + v.length + k.chars.length := by
  rw [chars_lexeme, List.length_append, Nat.add_assoc]

/-- The cut is proper and what follows it does not carry on its last name: a scan
passes over it. -/
structure Passed (k : Cut) (rest : List Char) : Prop where
  proper : k.Proper
  seam : Seam k.chars rest

section Passed

variable {k : Cut} {rest : List Char}

theorem passed_nil (rest : List Char) : Passed ⟨[], []⟩ rest :=
  ⟨⟨by simp, by simp, .nil, by simp⟩, fun _ ha => by cases ha⟩

theorem Passed.symbol (h : k.Passed rest) {v : List Char} (hv : v ∈ Lexeme.symbols.map Prod.fst) :
    (k.lexeme v).Passed rest where
  proper := h.proper.lexeme (.inl hv) fun hname => absurd hname (Lexeme.not_isName_symbol hv)
  seam := by
    rw [chars_lexeme]
    exact h.seam.append fun _ => Lexeme.seam_symbol hv rest

theorem Passed.name (h : k.Passed rest) {v : List Char} (hv : Lexeme.IsName v)
    (hnext : ∀ c ∈ (k.chars ++ rest).head?, isAlnum c = false) : (k.lexeme v).Passed rest where
  proper := by
    refine h.proper.lexeme (.inr hv) fun _ c hc => hnext c ?_
    rw [List.head?_append, Option.mem_def.1 hc]
    rfl
  seam := by
    rw [chars_lexeme]
    exact h.seam.append fun hnil => hv.seam_iff.2 (by simpa [hnil] using hnext)

theorem Passed.blank (h : k.Passed rest) {c : Char} (hc : Text.isBlank c = true) :
    (k.blank c).Passed rest where
  proper := h.proper.blank hc
  seam := by
    rw [chars_blank]
    exact Seam.append (v := [c]) h.seam fun _ => Seam.of_isBlank hc rest

theorem Passed.scanFrom (h : k.Passed rest) (text : String) (i : Nat) :
    Token.scanFrom text i (k.chars ++ rest) =
      (Token.scanFrom text (i + k.chars.length) rest).map (tokensFrom i k.pieces ++ ·) :=
  scanFrom_append text i h.proper h.seam

end Passed

/-- **Every scan passes over a cut**, up to the end of the text or to an offence. -/
theorem exists_passed (text : String) (i : Nat) (cs : List Char) :
    ∃ (k : Cut) (rest : List Char), k.Passed rest ∧ k.chars ++ rest = cs ∧
      (rest = [] ∨ ∃ e, Offence text (i + k.chars.length) rest e) := by
  fun_induction Token.scanFrom text i cs with
  | case1 => exact ⟨_, [], passed_nil [], rfl, .inl rfl⟩
  | case2 i c connective d rest hdouble ih =>
    obtain ⟨k, rest, hk, rfl, hstop⟩ := ih
    have hmem := Lexeme.mem_symbols_of_double? hdouble
    refine ⟨k.lexeme [c, d], rest, hk.symbol hmem, by simp, ?_⟩
    rw [offset_lexeme]
    exact hstop
  | case3 i c second connective hdouble d rest hne =>
    exact ⟨_, _, passed_nil _, rfl, .inr ⟨_, .mismatch rest hdouble hne⟩⟩
  | case4 i c second connective hdouble =>
    exact ⟨_, _, passed_nil _, rfl, .inr ⟨_, .cutShort hdouble⟩⟩
  | case5 i c cs _ kind hsingle ih =>
    obtain ⟨k, rest, hk, rfl, hstop⟩ := ih
    have hmem := Lexeme.mem_symbols_of_single? hsingle
    refine ⟨k.lexeme [c], rest, hk.symbol hmem, by simp, ?_⟩
    rw [offset_lexeme]
    exact hstop
  | case6 i c cs _ _ hletter name =>
    rename_i ih
    obtain ⟨k, rest, hk, hchars, hstop⟩ := ih
    have hname : Lexeme.IsName name := by
      have := Token.isName_takeWhile cs hletter
      rw [String.toList_ofList] at this
      exact Lexeme.isName_iff.2 this
    refine ⟨k.lexeme name, rest, hk.name hname ?_, ?_, ?_⟩
    · intro d hd
      have hnot := List.head?_dropWhile_not isAlnum cs
      rw [← hchars, Option.mem_def.1 hd] at hnot
      simpa using hnot
    · simp [hchars, name]
    · rw [offset_lexeme]
      exact hstop
  | case7 i c cs _ _ _ hblank ih =>
    obtain ⟨k, rest, hk, rfl, hstop⟩ := ih
    refine ⟨k.blank c, rest, hk.blank hblank, by simp, ?_⟩
    rw [offset_blank]
    exact hstop
  | case8 i c cs hdouble hsingle hletter hblank =>
    exact ⟨_, _, passed_nil _, rfl,
      .inr ⟨_, .stray cs hdouble hsingle (by simpa using hletter) (by simpa using hblank)⟩⟩

/-- **A scan that succeeds has passed over a cut.** -/
theorem exists_of_scanFrom {text : String} {i : Nat} {cs : List Char} {ts : List Token}
    (h : Token.scanFrom text i cs = .ok ts) :
    ∃ k : Cut, k.Proper ∧ k.chars = cs ∧ tokensFrom i k.pieces = ts := by
  obtain ⟨k, rest, hk, rfl, rfl | ⟨e, he⟩⟩ := exists_passed text i cs
  · rw [List.append_nil, scanFrom_chars text i hk.proper] at h
    exact ⟨k, hk.proper, (List.append_nil _).symm, Except.ok.inj h⟩
  · rw [hk.scanFrom, he.scanFrom_eq] at h
    cases h

/-- **A cut is determined by its text and its tokens**: they say how long each lexeme
and each row of blanks is. -/
theorem eq_of_tokensFrom_eq {i : Nat} {k l : Cut} (hchars : k.chars = l.chars)
    (htokens : tokensFrom i k.pieces = tokensFrom i l.pieces) : k = l := by
  obtain ⟨pieces, last⟩ := k
  obtain ⟨pieces', last'⟩ := l
  induction pieces generalizing i pieces' with
  | nil =>
    cases pieces' with
    | nil => simpa [chars] using hchars
    | cons p' pieces' => cases htokens
  | cons p pieces ih =>
    cases pieces' with
    | nil => cases htokens
    | cons p' pieces' =>
      obtain ⟨w, v⟩ := p
      obtain ⟨w', v'⟩ := p'
      simp only [tokensFrom, List.cons.injEq, Token.mk.injEq, Position.offset.injEq,
        Nat.add_left_cancel_iff] at htokens
      obtain ⟨⟨-, hv, hw⟩, hrest⟩ := htokens
      obtain rfl : v = v' := String.ofList_injective hv
      simp only [chars_cons] at hchars
      obtain ⟨rfl, hafter⟩ := List.append_inj hchars hw
      obtain ⟨rfl, rfl⟩ : pieces = pieces' ∧ last = last' := by
        simpa using ih pieces' (List.append_cancel_left hafter) hrest
      rfl

end Cut

/-- **Scanning recognises exactly the texts that can be cut into lexemes.** A text has
tokens if and only if it is a row of symbols and names with blanks around them, where
two names have a blank between them; there is then only one way to cut it, and the
tokens are its lexemes in order, each with its kind and its offset. Each name among
them is the name of a variable. -/
theorem scan_ok_iff_cut (text : String) :
    (∀ ts, Token.scan text = .ok ts ↔
      ∃ k : Cut, k.Proper ∧ k.chars = text.toList ∧ k.tokens = ts) ∧
    (∀ k l : Cut, k.Proper → k.chars = text.toList → l.Proper → l.chars = text.toList → k = l) ∧
    ∀ ts, Token.scan text = .ok ts →
      ∀ t ∈ ts, t.kind = .name → ∃ x, Var.ofName? t.value = some x ∧ x.name = t.value := by
  have hscan : ∀ k : Cut, k.Proper → k.chars = text.toList → Token.scan text = .ok k.tokens := by
    intro k hk hchars
    rw [Token.scan, ← hchars]
    exact Cut.scanFrom_chars text 0 hk
  refine ⟨fun ts => ⟨Cut.exists_of_scanFrom, ?_⟩, ?_, ?_⟩
  · rintro ⟨k, hk, hchars, rfl⟩
    exact hscan k hk hchars
  · intro k l hk hkchars hl hlchars
    have htokens := Except.ok.inj ((hscan k hk hkchars).symm.trans (hscan l hl hlchars))
    exact Cut.eq_of_tokensFrom_eq (hkchars.trans hlchars.symm) htokens
  · intro ts h t ht hkind
    have hproper := Token.isProper_of_scan h t ht
    rw [Token.IsProper, hkind] at hproper
    exact ⟨⟨t.value, hproper⟩, dif_pos hproper, rfl⟩

/-- Two names with a blank between them, a symbol right after the second, and a name
after a tab. -/
theorem scan_ok_iff_cut_names : Token.scan "p1 q->\tr" =
    .ok [⟨.name, "p1", .offset 0⟩, ⟨.name, "q", .offset 3⟩,
      ⟨.connective (.binary .imp), "->", .offset 4⟩, ⟨.name, "r", .offset 7⟩] := by
  have hname : ∀ v, Var.isName v = true → Lexeme.Proper v :=
    fun v h => .inr (Lexeme.isName_iff.2 h)
  have hsymbol : ¬Lexeme.IsName ['-', '>'] := Lexeme.not_isName_symbol (by decide)
  refine ((scan_ok_iff_cut "p1 q->\tr").1 _).2
    ⟨⟨[([], ['p', '1']), ([' '], ['q']), ([], ['-', '>']), (['\t'], ['r'])], []⟩,
      ⟨by simp [Text.isBlank], ?_, ?_, by simp⟩, rfl, rfl⟩
  · simp only [List.forall_mem_cons]
    exact ⟨hname _ (by decide), hname _ (by decide), .inl (by decide), hname _ (by decide),
      List.forall_mem_nil _⟩
  · simp [hsymbol]

end Turnstile
