/-
# The faults that texts meet

A text that is no formula has a character that fits no token, is too long or too deep,
or its tokens meet one of few faults (`TextFault`, `parseText_fault`). Each parenthesis
is spelt in one way, so a fault of parentheses names the one that is to blame
(`Token.value_of_scan`).

What is found is announced to the caller (`ParseError.IsAnnounced`) but for one case: a
message about a limit with too many digits cannot be written, and the caller sees that
failure in its place (`TextFault.isAnnounced_or`).

Key definitions: `TextFault`, `ParseError.IsAnnounced`.
Key theorems: `Token.value_of_scan`, `parseText_fault`, `TextFault.isAnnounced_or`,
`parse_faults_truthful`, `unwritable_limit_unannounced`.
-/
import Mathlib.Algebra.Ring.Int.Defs
import Turnstile.Proofs.DefaultSettings
import Turnstile.Proofs.Lexemes
import Turnstile.Proofs.UncheckedStacks

namespace Turnstile

/-! ### Parentheses of texts -/

namespace Token

/-- Each parenthesis of a text is spelt in one way. -/
theorem value_of_lexeme {v : List Char} (h : Lexeme.Proper v) :
    (Lexeme.kind v = .openParen → v = ['(']) ∧ (Lexeme.kind v = .closeParen → v = [')']) := by
  rcases h with hsymbol | hname
  · have hspelt : ∀ v ∈ Lexeme.symbols.map Prod.fst,
        (Lexeme.kind v = .openParen → v = ['(']) ∧ (Lexeme.kind v = .closeParen → v = [')']) := by
      decide
    exact hspelt v hsymbol
  · rw [Lexeme.kind_of_isName hname]
    constructor <;> exact nofun

theorem mem_tokensFrom {t : Token} : ∀ {i : Nat} {pieces : List (List Char × List Char)},
    t ∈ Cut.tokensFrom i pieces → ∃ p ∈ pieces, t.kind = Lexeme.kind p.2 ∧ t.value = .ofList p.2
  | i, [], ht => by cases ht
  | i, (w, v) :: pieces, ht => by
    rcases List.mem_cons.1 ht with rfl | ht
    · exact ⟨(w, v), by simp, rfl, rfl⟩
    · obtain ⟨p, hp, hkind, hvalue⟩ := mem_tokensFrom ht
      exact ⟨p, List.mem_cons_of_mem _ hp, hkind, hvalue⟩

/-- The parentheses of a text are what their tokens say. -/
theorem value_of_scan {text : String} {ts : List Token} (h : scan text = .ok ts) {t : Token}
    (ht : t ∈ ts) :
    (t.kind = .openParen → t.value = "(") ∧ (t.kind = .closeParen → t.value = ")") := by
  obtain ⟨k, hproper, -, rfl⟩ := Cut.exists_of_scanFrom h
  obtain ⟨p, hp, hkind, hvalue⟩ := mem_tokensFrom ht
  obtain ⟨hopen, hclose⟩ := value_of_lexeme (hproper.lexemes p hp)
  rw [hkind, hvalue]
  exact ⟨fun h => by rw [hopen h], fun h => by rw [hclose h]⟩

end Token

section

variable {limit : Option Limit} {text : String} {ts : List Token}

/-- A closing parenthesis is blamed only where more were closed than opened. -/
theorem TokenFault.closes_unopened (h : TokenFault limit ts (.unbalanced ")"))
    (hscan : Token.scan text = .ok ts) :
    ∃ pre, pre <+: ts ∧ Token.openCount pre < Token.closeCount pre := by
  generalize herror : ParseError.unbalanced ")" = e at h
  cases h with
  | @unopened pre rest t hts hkind heven =>
    refine ⟨pre ++ [t], ⟨rest, by rw [hts, List.append_assoc, List.singleton_append]⟩, ?_⟩
    simp only [Token.openCount, Token.closeCount] at heven ⊢
    simp [hkind, heven]
  | @unclosed t ht hkind =>
    rw [(Token.value_of_scan hscan ht).1 hkind] at herror
    exact absurd herror (by decide)
  | _ => cases herror

/-- An opening parenthesis is blamed only where none was closed too early, and fewer
were closed than opened. -/
theorem TokenFault.leaves_open (h : TokenFault limit ts (.unbalanced "("))
    (hscan : Token.scan text = .ok ts) :
    (∀ pre, pre <+: ts → Token.closeCount pre ≤ Token.openCount pre) ∧
      Token.closeCount ts < Token.openCount ts := by
  generalize herror : ParseError.unbalanced "(" = e at h
  cases h with
  | @unopened pre rest t hts hkind =>
    rw [(Token.value_of_scan hscan (hts ▸ by simp)).2 hkind] at herror
    exact absurd herror (by decide)
  | unclosed _ _ hintime hmore => exact ⟨hintime, hmore⟩
  | _ => cases herror

end

/-! ### Faults of texts -/

/-- What a text can meet under limits. -/
inductive TextFault (limits : Limits) (text : String) : ParseError → Prop
  | lex {e : LexError} (hscan : Token.scan text = .error e) : TextFault limits text (.lex e)
  | tooLong {m : Limit} (hm : limits.maxLength = some m)
      (hlong : m.exceededBy? text.length = some true) :
      TextFault limits text (.tooLarge .length m text.length)
  | incomparable {m : Limit} (hm : limits.maxLength = some m)
      (hlong : m.exceededBy? text.length = none) : TextFault limits text .incomparable
  | tokens {ts : List Token} {e : ParseError} (hscan : Token.scan text = .ok ts)
      (hfault : TokenFault limits.maxDepth ts e) : TextFault limits text e

section

variable {limits : Limits} {text : String} {e : ParseError}

theorem ofScan_fault (h : (Attempt.ofScan limits.maxDepth text).result = .error e) :
    TextFault limits text e := by
  unfold Attempt.ofScan at h
  cases hscan : Token.scan text with
  | error e' =>
    rw [hscan] at h
    cases h
    exact .lex hscan
  | ok ts =>
    rw [hscan] at h
    simp only [Attempt.ofTokens] at h
    cases hparse : parseTokens limits.maxDepth ts with
    | ok r =>
      rw [hparse] at h
      cases h
    | error e' =>
      rw [hparse] at h
      cases h
      exact .tokens hscan (parseTokens_fault (Token.isProper_of_scan hscan) hparse)

theorem parseText_fault (h : parseText limits text = .error e) : TextFault limits text e := by
  unfold parseText Attempt.ofText at h
  split at h
  next => exact ofScan_fault h
  next m hm =>
    split at h
    next => exact ofScan_fault h
    next hlong =>
      cases h
      exact .tooLong hm hlong
    next hlong =>
      cases h
      exact .incomparable hm hlong

/-- The limit that a fault names is one of those that were observed. -/
theorem TextFault.limit_mem {what : Measure} {m : Limit} {n : Nat}
    (h : TextFault limits text (.tooLarge what m n)) :
    limits.maxLength = some m ∨ limits.maxDepth = some m := by
  cases h with
  | tooLong hm => exact .inl hm
  | tokens _ hfault =>
    cases hfault with
    | tooDeep hm => exact .inr hm

/-- Under limits that are integers, with which sizes can be compared, a text has a
character that fits no token, is no sentence or is too large. -/
theorem TextFault.classify {maxLength maxDepth : Int}
    (h : TextFault ⟨some (.int maxLength), some (.int maxDepth)⟩ text e) :
    (∃ x, e = .lex x) ∨ Stacks.IsSentenceFault e ∨ ∃ what m n, e = .tooLarge what m n := by
  cases h with
  | lex => exact .inl ⟨_, rfl⟩
  | tooLong => exact .inr (.inr ⟨_, _, _, rfl⟩)
  | incomparable hm hlong =>
    cases hm
    cases hlong
  | tokens _ hfault =>
    cases hfault with
    | missing => exact .inr (.inl trivial)
    | notSingle => exact .inr (.inl trivial)
    | tooDeep => exact .inr (.inr ⟨_, _, _, rfl⟩)
    | incomparable hm hn =>
      cases hm
      cases hn
    | unopened => exact .inr (.inl trivial)
    | unclosed => exact .inr (.inl trivial)

/-- A size that is refused is above its limit. -/
theorem TextFault.exceeded {what : Measure} {m : Limit} {n : Nat}
    (h : TextFault limits text (.tooLarge what m n)) : m.exceededBy? n = some true := by
  cases h with
  | tooLong _ hlong => exact hlong
  | tokens _ hfault =>
    cases hfault with
    | tooDeep _ hn => exact hn

end

/-- The errors that parsing announces: a character that fits no token, a sentence
fault, or a size above a limit that messages can show. -/
def ParseError.IsAnnounced (e : ParseError) : Prop :=
  (∃ x, e = .lex x) ∨ Stacks.IsSentenceFault e ∨
    ∃ what m n, e = .tooLarge what m n ∧ m.isWritable = true

/-- An error that is announced is seen by the caller as one of four kinds. -/
theorem ParseError.IsAnnounced.kind_mem {e : ParseError} (h : e.IsAnnounced) :
    e.kind ∈ [ErrorKind.lex, .unbalanced, .malformed, .tooLarge] := by
  rcases h with ⟨x, rfl⟩ | hsentence | ⟨what, m, n, rfl, hm⟩
  · simp [kind]
  · cases e with
    | unbalanced => simp [kind]
    | malformed => simp [kind]
    | lex => cases hsentence
    | tooLarge => cases hsentence
    | incomparable => cases hsentence
  · simp [kind, hm]

/-! ### Limits that are given -/

/-- The limits of a parse that was given some, or none, where nobody has changed the
settings. -/
def Limits.given (maxLength maxDepth : Option Int) : Limits :=
  Limits.orElse ⟨maxLength.map .int, maxDepth.map .int⟩ Settings.default.limits

theorem Limits.given_eq (maxLength maxDepth : Option Int) :
    given maxLength maxDepth =
      ⟨some (.int (maxLength.getD 10000)), some (.int (maxDepth.getD 200))⟩ := by
  rw [given, Settings.limits_default]
  cases maxLength <;> cases maxDepth <;> rfl

/-- A limit that messages cannot show was given, and is not a default. -/
theorem Limits.exists_of_not_isWritable {maxLength maxDepth : Option Int} {m : Limit}
    (h : (given maxLength maxDepth).maxLength = some m ∨
      (given maxLength maxDepth).maxDepth = some m) (hm : m.isWritable = false) :
    ∃ i, m = .int i ∧ (maxLength = some i ∨ maxDepth = some i) := by
  have hdefaults : Numeral.isWritable 10000 = true ∧ Numeral.isWritable 200 = true := by
    decide +kernel
  rw [given_eq] at h
  rcases h with hlength | hdepth
  · cases hlength
    cases maxLength with
    | none => simp [Limit.isWritable, hdefaults] at hm
    | some i => exact ⟨i, rfl, .inl rfl⟩
  · cases hdepth
    cases maxDepth with
    | none => simp [Limit.isWritable, hdefaults] at hm
    | some i => exact ⟨i, rfl, .inr rfl⟩

/-- An error is announced, or it is about a given limit that is exceeded and that
messages cannot show. -/
theorem TextFault.isAnnounced_or {maxLength maxDepth : Option Int} {text : String}
    {e : ParseError} (h : TextFault (.given maxLength maxDepth) text e) :
    e.IsAnnounced ∨ e.kind = .unwritable ∧ ∃ what i n, e = .tooLarge what (.int i) n ∧
      (maxLength = some i ∨ maxDepth = some i) ∧ i < (n : Int) ∧ Numeral.isWritable i = false := by
  have hkinds := h
  rw [Limits.given_eq] at hkinds
  rcases hkinds.classify with hlex | hsentence | ⟨what, m, n, rfl⟩
  · exact .inl (.inl hlex)
  · exact .inl (.inr (.inl hsentence))
  · cases hm : m.isWritable with
    | true => exact .inl (.inr (.inr ⟨what, m, n, rfl, hm⟩))
    | false =>
      obtain ⟨i, rfl, hgiven⟩ := Limits.exists_of_not_isWritable h.limit_mem hm
      have hexceeded : i < (n : Int) := by simpa [Limit.exceededBy?] using h.exceeded
      exact .inr ⟨by simp [ParseError.kind, hm], what, i, n, rfl, hgiven, hexceeded, hm⟩

/-- **A text is parsed or meets one of few faults, and what is said of parentheses is
true.** Under the default settings and whatever integers are given as limits, a text
that is not parsed has a character that fits no token, a parenthesis without a partner,
an operator without operands or not one formula at the end, or is too large, and the
caller sees one of four kinds of error; or it exceeds a given limit that has too many
digits for a message, and then the caller sees another kind. So where each limit that is
given can be written, only the four kinds are seen. Of scanned tokens, under any limit:
a parse on stacks that are not checked is the parse, so nothing breaks down; if the
parentheses are not balanced, it fails; if it blames a closing parenthesis, more are
closed than opened at some point; if it blames an opening one, that is never so, and in
the end fewer are closed than opened. -/
theorem parse_faults_truthful (text : String) (maxLength maxDepth : Option Int) :
    ((∃ f, parseText (.given maxLength maxDepth) text = .ok f) ∨
      ∃ e, parseText (.given maxLength maxDepth) text = .error e ∧
        TextFault (.given maxLength maxDepth) text e ∧
        (e.IsAnnounced ∨ e.kind = .unwritable ∧ ∃ what i n, e = .tooLarge what (.int i) n ∧
          (maxLength = some i ∨ maxDepth = some i) ∧ i < (n : Int) ∧
          Numeral.isWritable i = false)) ∧
    ((∀ i, maxLength = some i ∨ maxDepth = some i → Numeral.isWritable i = true) →
      (∃ f, parseText (.given maxLength maxDepth) text = .ok f) ∨
      ∃ e, parseText (.given maxLength maxDepth) text = .error e ∧ e.IsAnnounced ∧
        e.kind ∈ [ErrorKind.lex, .unbalanced, .malformed, .tooLarge]) ∧
    ∀ ts, Token.scan text = .ok ts → ∀ limit : Option Limit,
      Unchecked.parse limit ts = Unchecked.refusing (parseTokens limit ts) ∧
      (¬Token.Balanced ts → ∃ h, parseTokens limit ts = .error h) ∧
      ∀ h, parseTokens limit ts = .error h →
        (h.error = .unbalanced ")" →
          ∃ pre, pre <+: ts ∧ Token.openCount pre < Token.closeCount pre) ∧
        (h.error = .unbalanced "(" →
          (∀ pre, pre <+: ts → Token.closeCount pre ≤ Token.openCount pre) ∧
            Token.closeCount ts < Token.openCount ts) := by
  refine ⟨?_, fun hwritable => ?_, fun ts hscan limit => ?_⟩
  · cases hparse : parseText (.given maxLength maxDepth) text with
    | ok f => exact .inl ⟨f, rfl⟩
    | error e =>
      have hfault := parseText_fault hparse
      exact .inr ⟨e, rfl, hfault, hfault.isAnnounced_or⟩
  · cases hparse : parseText (.given maxLength maxDepth) text with
    | ok f => exact .inl ⟨f, rfl⟩
    | error e =>
      rcases (parseText_fault hparse).isAnnounced_or with
        hann | ⟨-, what, i, n, -, hgiven, -, hlong⟩
      · exact .inr ⟨e, rfl, hann, hann.kind_mem⟩
      · rw [hwritable i hgiven] at hlong
        cases hlong
  · refine ⟨Unchecked.parse_eq limit ts, fun hnot => ?_, fun h hparse => ?_⟩
    · cases hparse : parseTokens limit ts with
      | ok r =>
        obtain ⟨haccounts, -, -⟩ := parseTokens_accounts hparse
        exact absurd ⟨haccounts.closedInTime, haccounts.opened.symm⟩ hnot
      | error h => exact ⟨h, rfl⟩
    · have hfault := parseTokens_fault (Token.isProper_of_scan hscan) hparse
      constructor
      · intro hclose
        rw [hclose] at hfault
        exact hfault.closes_unopened hscan
      · intro hopen
        rw [hopen] at hfault
        exact hfault.leaves_open hscan

/-- `p)(` has as many parentheses of each kind, and the closing one is blamed. In `((p)`
the opening one is. A limit of 3 can be written, and `p&&q` is refused as too large. -/
theorem parse_faults_truthful_parentheses :
    (∃ ts h, Token.scan "p)(" = .ok ts ∧ parseTokens none ts = .error h ∧
      h.error = .unbalanced ")" ∧ ¬Token.Balanced ts ∧
      ∃ pre, pre <+: ts ∧ Token.openCount pre < Token.closeCount pre) ∧
    (∃ ts h, Token.scan "((p)" = .ok ts ∧ parseTokens (some (.int 0)) ts = .error h ∧
      h.error = .unbalanced "(" ∧ Token.closeCount ts < Token.openCount ts) ∧
    Numeral.isWritable 3 = true ∧
    ∃ e, parseText (.given (some 3) none) "p&&q" = .error e ∧ e.IsAnnounced ∧
      e.kind = .tooLarge := by
  have hearly : Token.scan "p)(" = .ok
      [⟨.name, "p", .offset 0⟩, ⟨.closeParen, ")", .offset 1⟩, ⟨.openParen, "(", .offset 2⟩] := by
    decide +kernel
  have hlate : Token.scan "((p)" = .ok
      [⟨.openParen, "(", .offset 0⟩, ⟨.openParen, "(", .offset 1⟩, ⟨.name, "p", .offset 2⟩,
        ⟨.closeParen, ")", .offset 3⟩] := by decide +kernel
  have hthree : Numeral.isWritable 3 = true := by decide +kernel
  refine ⟨?_, ?_, hthree, ?_⟩
  · obtain ⟨-, -, htokens⟩ := parse_faults_truthful "p)(" none none
    obtain ⟨-, hfails, hblames⟩ := htokens _ hearly none
    obtain ⟨pre, hpre, hmore⟩ := (hblames _ rfl).1 rfl
    have hnot : ¬Token.Balanced _ := fun hbalanced => Nat.not_lt.2 (hbalanced.1 pre hpre) hmore
    obtain ⟨h, hparse⟩ := hfails hnot
    exact ⟨_, h, hearly, hparse, by cases hparse; rfl, hnot, pre, hpre, hmore⟩
  · obtain ⟨-, -, htokens⟩ := parse_faults_truthful "((p)" none (some 0)
    obtain ⟨-, -, hblames⟩ := htokens _ hlate (some (.int 0))
    exact ⟨_, _, hlate, rfl, rfl, ((hblames _ rfl).2 rfl).2⟩
  · have hlong : parseText (.given (some 3) none) "p&&q" =
        .error (.tooLarge .length (.int 3) 4) := by
      rw [Limits.given_eq]
      decide +kernel
    obtain ⟨-, hkinds, -⟩ := parse_faults_truthful "p&&q" (some 3) none
    have hgiven : ∀ i, some (3 : Int) = some i ∨ none = some i → Numeral.isWritable i = true := by
      rintro i (hi | hi)
      · cases hi
        exact hthree
      · cases hi
    rcases hkinds hgiven with ⟨f, hf⟩ | ⟨e, he, hann, -⟩
    · cases hlong.symm.trans hf
    · cases hlong.symm.trans he
      exact ⟨_, hlong, hann, by decide +kernel⟩

/-- **Not every refusal is announced.** Under a limit of `-10 ^ 4300` the text `p` is too
long, and the message that would say so cannot be written. -/
theorem unwritable_limit_unannounced :
    ∃ e, parseText (.given (some (-10 ^ 4300)) none) "p" = .error e ∧ e.kind = .unwritable ∧
      ¬e.IsAnnounced := by
  have hlong : parseText (.given (some (-10 ^ 4300)) none) "p" =
      .error (.tooLarge .length (.int (-10 ^ 4300)) 1) := by
    rw [Limits.given_eq]
    decide +kernel
  have hkind : (ParseError.tooLarge .length (.int (-10 ^ 4300)) 1).kind = .unwritable := by
    decide +kernel
  refine ⟨_, hlong, hkind, fun hann => ?_⟩
  have hmem := hann.kind_mem
  rw [hkind] at hmem
  exact absurd hmem (by decide)

end Turnstile
