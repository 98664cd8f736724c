/-
# Files of formulas are read back

A rendering is made of visible ASCII characters other than the number sign
(`Formula.isInk_of_mem_render`). So it is one line, which says the rendering itself:
no break divides it, no comment shortens it, and there is nothing to trim
(`FormulaFile.statements_render`). A written file is the first rendering, a line feed
and the file of the others, and joined contents are read in turn; hence a file of
formulas that keep to the limits is read back to them (`FormulaFile.read_write`).

Key definitions: `IsInk`.
Key theorems: `Text.splitLines_eq_singleton`, `Text.trim_eq_self`,
`Formula.isInk_of_mem_render`, `FormulaFile.statements_render`,
`FormulaFile.read_write`.
-/
import Turnstile.Proofs.JoinedFiles
import Turnstile.Proofs.Reparsing
import Turnstile.Proofs.UniqueReading

namespace Turnstile

/-! ### Characters -/

/-- A visible ASCII character that starts no comment. -/
def IsInk (c : Char) : Prop := 0x20 < c.toNat ∧ c.toNat < 0x7f ∧ c ≠ '#'

instance (c : Char) : Decidable (IsInk c) := inferInstanceAs (Decidable (_ ∧ _ ∧ _))

theorem isInk_of_isAlnum {c : Char} (h : isAlnum c = true) : IsInk c := by
  have hsign : c ≠ '#' := by
    rintro rfl
    exact absurd h (by decide)
  rw [isAlnum_iff] at h
  exact ⟨by omega, by omega, hsign⟩

namespace IsInk

variable {c : Char}

theorem isBreak (h : IsInk c) : Text.isBreak c = false := by
  obtain ⟨hlow, hhigh, -⟩ := h
  simp only [Text.isBreak, Bool.or_eq_false_iff, Bool.and_eq_false_iff, decide_eq_false_iff_not,
    beq_eq_false_iff_ne]
  omega

theorem isBlank (h : IsInk c) : Text.isBlank c = false := by
  obtain ⟨hlow, hhigh, -⟩ := h
  simp only [Text.isBlank, Bool.or_eq_false_iff, Bool.and_eq_false_iff, decide_eq_false_iff_not,
    beq_eq_false_iff_ne]
  omega

end IsInk

theorem Binary.isInk_of_mem_symbol {b : Binary} {c : Char} (h : c ∈ b.symbol.toList) :
    IsInk c := by
  have hc : c = '&' ∨ c = '|' ∨ c = '-' ∨ c = '>' := by
    cases b <;> simp [symbol] at h <;> simp [h]
  rcases hc with rfl | rfl | rfl | rfl <;> decide

namespace Formula

/-- Renderings have no breaks, no blanks and no comments. -/
theorem isInk_of_mem_render : ∀ (f : Formula), ∀ c ∈ f.render.toList, IsInk c
  | atom x => by
    obtain ⟨-, -, -, -, halnum⟩ := x.exists_cons
    exact fun c hc => isInk_of_isAlnum (halnum c hc)
  | neg f => by
    rw [toList_render_neg]
    exact List.forall_mem_cons.2 ⟨by decide, f.isInk_of_mem_render⟩
  | bin b l r => by
    have hchars := toList_render_bin_append b l r []
    rw [List.append_nil] at hchars
    rw [hchars]
    intro c hc
    simp only [List.mem_cons, List.mem_append, List.not_mem_nil, or_false] at hc
    rcases hc with rfl | hl | hb | hr | rfl
    · decide
    · exact l.isInk_of_mem_render c hl
    · exact Binary.isInk_of_mem_symbol hb
    · exact r.isInk_of_mem_render c hr
    · decide

theorem toList_render_ne_nil (f : Formula) : f.render.toList ≠ [] := by
  cases f with
  | atom x =>
    obtain ⟨c, cs, hname, -, -⟩ := x.exists_cons
    rw [render, hname]
    simp
  | neg f => simp [render]
  | bin b l r => simp [render]

end Formula

/-! ### Lines and statements -/

namespace Text

/-- A text without breaks is one line, unless it is empty. -/
theorem splitLines_eq_singleton : ∀ {cs : List Char}, cs ≠ [] → (∀ c ∈ cs, isBreak c = false) →
    splitLines cs = [cs]
  | [c], _, h => by
    have hc : isBreak c = false := h c (by simp)
    rw [splitLines_cons_of_not_isBreak hc, splitLines]
    rfl
  | c :: d :: cs, _, h => by
    obtain ⟨hc, hcs⟩ := List.forall_mem_cons.1 h
    rw [splitLines_cons_of_not_isBreak hc, splitLines_eq_singleton (by simp) hcs]
    rfl

theorem dropWhile_isBlank_eq_self {cs : List Char} (h : ∀ c ∈ cs, isBlank c = false) :
    cs.dropWhile isBlank = cs := by
  cases cs with
  | nil => rfl
  | cons c cs => simp [h c (by simp)]

/-- A text without blanks has none to trim. -/
theorem trim_eq_self {cs : List Char} (h : ∀ c ∈ cs, isBlank c = false) : trim cs = cs := by
  have hreverse : ∀ c ∈ cs.reverse, isBlank c = false := by simpa using h
  rw [trim, trimEnd, dropWhile_isBlank_eq_self h, dropWhile_isBlank_eq_self hreverse,
    List.reverse_reverse]

end Text

namespace FormulaFile

theorem statement_render (f : Formula) : statement f.render.toList = f.render.toList := by
  have hcomment : f.render.toList.takeWhile (fun c => c ≠ '#') = f.render.toList := by
    rw [List.takeWhile_eq_self_iff]
    intro c hc
    simpa using (f.isInk_of_mem_render c hc).2.2
  rw [statement, hcomment]
  exact Text.trim_eq_self fun c hc => (f.isInk_of_mem_render c hc).isBlank

/-- A rendering is one line, which says it. -/
theorem statements_render (f : Formula) : statements f.render = [(1, f.render)] := by
  have hline : Text.splitLines f.render.toList = [f.render.toList] :=
    Text.splitLines_eq_singleton f.toList_render_ne_nil fun c hc =>
      (f.isInk_of_mem_render c hc).isBreak
  rw [statements, hline, numbered, statement_render]
  split
  next hempty => exact absurd hempty f.toList_render_ne_nil
  next => rw [String.ofList_toList, numbered]

end FormulaFile

/-! ### Reading back -/

namespace Formula

/-- A rendering that is not too long is parsed to its formula under each limit on the
depth that allows its parts. -/
theorem parseText_of_allowed {f : Formula} {maxLength : Int} {maxDepth : Option Limit}
    (hlength : (f.render.length : Int) ≤ maxLength) (hallowed : Allowed maxDepth f.compounds) :
    parseText ⟨some (.int maxLength), maxDepth⟩ f.render = .ok f := by
  obtain ⟨s, hparse⟩ := parseTokens_tokensAt hallowed
  rw [parseText_of_length_le hlength]
  simp only [Attempt.ofScan, f.scan_render, Attempt.ofTokens, hparse]

end Formula

namespace FormulaFile

theorem read_render {limits : Limits} {f : Formula} (h : parseText limits f.render = .ok f) :
    (read limits f.render).result = .ok [f] := by
  rw [read, statements_render, readAll_cons_ok h]
  rfl

theorem write_cons (f : Formula) (fs : List Formula) :
    write (f :: fs) = f.render ++ "\n" ++ write fs := by
  rw [write, List.map_cons, String.join_cons, write]

/-- **What was written is read back.** A file of formulas whose texts and depths keep to
the limits is read to the same formulas in the same order. -/
theorem read_write {fs : List Formula} {maxLength maxDepth : Int}
    (h : ∀ f ∈ fs, (f.render.length : Int) ≤ maxLength ∧ (f.depth : Int) ≤ maxDepth) :
    (read ⟨some (.int maxLength), some (.int maxDepth)⟩ (write fs)).result = .ok fs := by
  induction fs with
  | nil => rfl
  | cons f fs ih =>
    obtain ⟨⟨hlength, hdepth⟩, hfs⟩ := List.forall_mem_cons.1 h
    have hf := read_render (Formula.parseText_of_allowed hlength (Formula.allowed_compounds hdepth))
    rw [write_cons, read_joined, hf, ih hfs]
    rfl

/-- Three formulas, two of them the same, under the tightest limits. -/
theorem read_write_repeated :
    let p : Formula := .atom ⟨"p", by decide⟩
    let f : Formula := .neg (.bin .imp p (.atom ⟨"q1", by decide⟩))
    write [f, p, f] = "!(p->q1)\np\n!(p->q1)\n" ∧
    (read ⟨some (.int 8), some (.int 2)⟩ "!(p->q1)\np\n!(p->q1)\n").result = .ok [f, p, f] := by
  intro p f
  have hwrite : write [f, p, f] = "!(p->q1)\np\n!(p->q1)\n" := by decide
  have hfits : ∀ g ∈ [f, p, f], (g.render.length : Int) ≤ 8 ∧ (g.depth : Int) ≤ 2 := by decide
  refine ⟨hwrite, ?_⟩
  rw [← hwrite]
  exact read_write hfits

end FormulaFile

end Turnstile
