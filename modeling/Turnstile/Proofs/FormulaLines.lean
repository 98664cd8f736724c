/-
# Files read line by line

A file of formulas is read if and only if each line that says something is a formula,
and then its formulas are those of the lines in order; otherwise the fault is that
of one of the lines (`FormulaFile.read_cases`). Reading makes one of all line breaks
that a file may have, which changes no line (`Text.splitLines_unifyBreaks`). Under
the standard limits a line fails for its own faults only: sizes can be compared with
them (`parseText_standard_ne_incomparable`).

Key definitions: `FormulaFile.texts`.
Key theorems: `Text.splitLines_unifyBreaks`, `FormulaFile.read_cases`,
`parseText_standard_ne_incomparable`.
-/
import Mathlib.Data.List.Forall2
import Turnstile.FormulaFile
import Turnstile.Proofs.Precedence

namespace Turnstile

/-! ### Lines -/

namespace Text

theorem splitLines_cons_of_isBreak {c : Char} (hc : isBreak c = true) {cs : List Char}
    (hpair : ∀ rest, c = '\r' → cs ≠ '\n' :: rest) :
    splitLines (c :: cs) = [] :: splitLines cs := by
  rw [splitLines]
  · rw [if_pos hc]
  · rintro rest rfl rfl
    exact hpair rest rfl rfl

/-- A character that is no break comes in front of the first line. -/
theorem splitLines_cons_of_not_isBreak {c : Char} (hc : isBreak c = false) (cs : List Char) :
    splitLines (c :: cs) = (c :: (splitLines cs).headD []) :: (splitLines cs).tail := by
  have hreturn : c ≠ '\r' := by
    rintro rfl
    cases hc
  have hnot : ¬isBreak c = true := by simp [hc]
  rw [splitLines, if_neg hnot]
  · cases splitLines cs <;> rfl
  · exact fun _ h => absurd h hreturn

/-- **A text has the lines it had after its breaks are made one.** -/
theorem splitLines_unifyBreaks (cs : List Char) :
    splitLines (unifyBreaks cs) = splitLines cs := by
  fun_induction unifyBreaks cs with
  | case1 => rfl
  | case2 cs ih =>
    rw [splitLines_cons_of_isBreak (by decide) (by simp), ih, splitLines]
  | case3 c cs hpair ih =>
    by_cases hreturn : c = '\r'
    · subst hreturn
      rw [if_pos rfl, splitLines_cons_of_isBreak (by decide) (by simp), ih,
        splitLines_cons_of_isBreak (by decide) fun rest _ hrest => hpair rest rfl hrest]
    · rw [if_neg hreturn]
      cases hbreak : isBreak c with
      | true =>
        rw [splitLines_cons_of_isBreak hbreak fun _ h => absurd h hreturn, ih,
          splitLines_cons_of_isBreak hbreak fun _ h => absurd h hreturn]
      | false =>
        rw [splitLines_cons_of_not_isBreak hbreak, splitLines_cons_of_not_isBreak hbreak, ih]

end Text

namespace FormulaFile

/-- What the lines of a text say, without those that say nothing. -/
def texts (content : String) : List String :=
  (((Text.splitLines content.toList).map statement).filter (· ≠ [])).map String.ofList

theorem mem_texts {content text : String} : text ∈ texts content ↔
    ∃ line ∈ Text.splitLines content.toList,
      statement line ≠ [] ∧ String.ofList (statement line) = text := by
  simp [texts, and_assoc]

theorem map_snd_numbered (n : Nat) (lines : List (List Char)) :
    (numbered n lines).map Prod.snd =
      ((lines.map statement).filter (· ≠ [])).map String.ofList := by
  fun_induction numbered n lines with
  | case1 => rfl
  | case2 n line lines hempty ih => simp [hempty, ih]
  | case3 n line lines hsays ih =>
    rw [List.map_cons, ih, List.map_cons, List.filter_cons_of_pos (by simpa using hsays),
      List.map_cons]

theorem map_snd_statements (content : String) :
    (statements content).map Prod.snd = texts content := map_snd_numbered 1 _

theorem texts_unifyBreaks (content : String) :
    texts (String.ofList (Text.unifyBreaks content.toList)) = texts content := by
  rw [texts, String.toList_ofList, Text.splitLines_unifyBreaks, texts]

/-! ### Reading -/

variable {limits : Limits}

theorem readAll_cons_ok {n : Nat} {text : String} {f : Formula}
    (h : parseText limits text = .ok f) (rest : List (Nat × String)) :
    (readAll limits ((n, text) :: rest)).result = (readAll limits rest).result.map (f :: ·) := by
  rw [parseText] at h
  rw [readAll]
  simp only [h]

theorem readAll_cons_error {n : Nat} {text : String} {e : ParseError}
    (h : parseText limits text = .error e) (rest : List (Nat × String)) :
    (readAll limits ((n, text) :: rest)).result = .error ⟨n, e⟩ := by
  rw [parseText] at h
  rw [readAll]
  simp only [h]

/-- Statements are read to their formulas, or one of them is none. -/
theorem readAll_cases : ∀ statements : List (Nat × String),
    (∃ fs, (readAll limits statements).result = .ok fs ∧
      List.Forall₂ (fun text f => parseText limits text = .ok f) (statements.map Prod.snd) fs) ∨
    ∃ e, (readAll limits statements).result = .error e ∧
      ∃ text ∈ statements.map Prod.snd, parseText limits text = .error e.error
  | [] => .inl ⟨[], rfl, .nil⟩
  | (n, text) :: rest => by
    cases hparse : parseText limits text with
    | error e => exact .inr ⟨⟨n, e⟩, readAll_cons_error hparse rest, text, by simp, hparse⟩
    | ok f =>
      rw [readAll_cons_ok hparse]
      rcases readAll_cases rest with ⟨fs, hfs, hspells⟩ | ⟨e, he, text', hmem, hfail⟩
      · exact .inl ⟨f :: fs, by rw [hfs]; rfl, .cons hparse hspells⟩
      · exact .inr ⟨e, by rw [he]; rfl, text', by simp [hmem], hfail⟩

/-- **A text is read to the formulas of its lines, or one of them is none.** -/
theorem read_cases (limits : Limits) (content : String) :
    (∃ fs, (read limits content).result = .ok fs ∧
      List.Forall₂ (fun text f => parseText limits text = .ok f) (texts content) fs) ∨
    ∃ e, (read limits content).result = .error e ∧
      ∃ text ∈ texts content, parseText limits text = .error e.error := by
  rw [← map_snd_statements]
  exact readAll_cases (statements content)

/-- None of the texts that are read to formulas fails. -/
theorem not_fails_of_forall₂ {texts : List String} {fs : List Formula}
    (h : List.Forall₂ (fun text f => parseText limits text = .ok f) texts fs) :
    ¬∃ text ∈ texts, ∀ f, parseText limits text ≠ .ok f := by
  rintro ⟨text, hmem, hno⟩
  induction h with
  | nil => cases hmem
  | cons hparse _ ih =>
    rcases List.mem_cons.1 hmem with rfl | hmem
    · exact hno _ hparse
    · exact ih hmem

/-- A text has one list of formulas. -/
theorem formulas_unique {texts : List String} {fs gs : List Formula}
    (hf : List.Forall₂ (fun text f => parseText limits text = .ok f) texts fs)
    (hg : List.Forall₂ (fun text f => parseText limits text = .ok f) texts gs) : fs = gs :=
  List.right_unique_forall₂' (fun _ _ _ h h' => Except.ok.inj (h.symm.trans h')) hf hg

/-- A line that says no formula, and what it says. -/
theorem exists_line_iff {content : String} :
    (∃ line ∈ Text.splitLines content.toList, statement line ≠ [] ∧
      ∀ f, parseText limits (String.ofList (statement line)) ≠ .ok f) ↔
    ∃ text ∈ texts content, ∀ f, parseText limits text ≠ .ok f := by
  simp [mem_texts, and_assoc]

end FormulaFile

/-! ### Standard limits -/

/-- Depths can be compared with a limit that is a number. -/
theorem ofScan_int_ne_incomparable (d : Nat) (text : String) :
    (Attempt.ofScan (some (.int d)) text).result ≠ .error .incomparable := by
  rw [Attempt.ofScan]
  cases hscan : Token.scan text with
  | error e => simp [Attempt.failed]
  | ok ts =>
    simp only [Attempt.ofTokens]
    cases hparse : parseTokens (some (.int d)) ts with
    | ok r => simp
    | error h =>
      intro heq
      have hfault := parseTokens_fault (Token.isProper_of_scan hscan) hparse
      rw [Except.error.inj heq] at hfault
      cases hfault with
      | incomparable hm hn =>
        cases hm
        cases hn

/-- Sizes can be compared with limits that are numbers. -/
theorem parseText_int_ne_incomparable (m d : Nat) (text : String) :
    parseText ⟨some (.int m), some (.int d)⟩ text ≠ .error .incomparable := by
  have hlength : (Limit.int m).exceededBy? text.length = some (decide (m < text.length)) := by
    simp [Limit.exceededBy?]
  simp only [parseText, Attempt.ofText, hlength]
  by_cases hlong : m < text.length
  · simp [hlong, Attempt.failed]
  · simp only [hlong, decide_false]
    exact ofScan_int_ne_incomparable d text

/-- Under the standard limits no text fails because sizes cannot be compared. -/
theorem parseText_standard_ne_incomparable (text : String) :
    parseText .standard text ≠ .error .incomparable :=
  parseText_int_ne_incomparable 10000 200 text

end Turnstile
