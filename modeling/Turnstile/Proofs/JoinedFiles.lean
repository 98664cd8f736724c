/-
# Files joined

Two contents joined by a line feed have the lines of the first, which the line feed
ends, and then the lines of the second (`Text.exists_seam`). What the line feed does
at the seam depends on what stands before it: it ends a line, or completes a carriage
return, or adds an empty line. In no case does it add a statement. So the statements
of the joined contents are those of both, the later ones with their numbers moved by
the number of lines before them (`FormulaFile.statements_joined`), and reading the
whole is reading one part after the other (`FormulaFile.read_joined`).

Key definitions: `LineError.moved`, `FormulaFile.lineCount`.
Key theorems: `Text.exists_seam`, `FormulaFile.statements_joined`,
`FormulaFile.read_joined`, `FormulaFile.read_parts`.
-/
import Turnstile.Proofs.FormulaLines

namespace Turnstile

/-! ### Lines at the seam -/

namespace Text

/-- The same lines, perhaps with an empty one after them. -/
def Padded (ks ls : List (List Char)) : Prop := ls = ks ∨ ls = ks ++ [[]]

theorem Padded.cons {ks ls : List (List Char)} (h : Padded ks ls) (l : List Char) :
    Padded (l :: ks) (l :: ls) := by
  rcases h with rfl | rfl
  · exact .inl rfl
  · exact .inr rfl

theorem Padded.exists_cons {l : List Char} {ks ls : List (List Char)}
    (h : Padded (l :: ks) ls) : ∃ more, ls = l :: more ∧ Padded ks more := by
  rcases h with rfl | rfl
  · exact ⟨ks, rfl, .inl rfl⟩
  · exact ⟨ks ++ [[]], rfl, .inr rfl⟩

/-- **A line feed ends the lines before it.** The lines of a text, a line feed and more
are those of the text, perhaps with an empty one, and then those of what comes after
the line feed. -/
theorem exists_seam (cs : List Char) :
    ∃ ls, ls ≠ [] ∧ Padded (splitLines cs) ls ∧
      ∀ ds, splitLines (cs ++ '\n' :: ds) = ls ++ splitLines ds := by
  fun_induction splitLines cs with
  | case1 =>
    refine ⟨[[]], by simp, .inr rfl, fun ds => ?_⟩
    exact splitLines_cons_of_isBreak (by decide) (by simp)
  | case2 cs ih =>
    obtain ⟨ls, -, hcs, hds⟩ := ih
    refine ⟨[] :: ls, by simp, hcs.cons [], fun ds => ?_⟩
    rw [List.cons_append, List.cons_append, splitLines, hds, List.cons_append]
  | case3 c cs hpair hc ih =>
    by_cases hseam : c = '\r' ∧ cs = []
    · -- the line feed belongs to the carriage return, which ended the line already
      obtain ⟨rfl, rfl⟩ := hseam
      refine ⟨[[]], by simp, .inl rfl, fun ds => ?_⟩
      rw [List.cons_append, List.nil_append, splitLines, List.singleton_append]
    · obtain ⟨ls, -, hcs, hds⟩ := ih
      refine ⟨[] :: ls, by simp, hcs.cons [], fun ds => ?_⟩
      have hapart : ∀ rest, c = '\r' → cs ++ '\n' :: ds ≠ '\n' :: rest := by
        rintro rest rfl hrest
        cases cs with
        | nil => exact hseam ⟨rfl, rfl⟩
        | cons d cs =>
          rw [List.cons_append, List.cons.injEq] at hrest
          exact hpair cs rfl (by rw [hrest.1])
      rw [List.cons_append, splitLines_cons_of_isBreak hc hapart, hds, List.cons_append]
  | case4 c cs hpair hc hnone ih =>
    -- the last line had no break, and the line feed is its break
    obtain ⟨ls, hne, hcs, hds⟩ := ih
    rw [hnone] at hcs
    have hls : ls = [[]] := hcs.resolve_left hne
    refine ⟨[[c]], by simp, .inl rfl, fun ds => ?_⟩
    rw [List.cons_append, splitLines_cons_of_not_isBreak (by simpa using hc), hds, hls]
    rfl
  | case5 c cs hpair hc l ls' hlines ih =>
    obtain ⟨ls, -, hcs, hds⟩ := ih
    rw [hlines] at hcs
    obtain ⟨more, hls, hmore⟩ := hcs.exists_cons
    refine ⟨(c :: l) :: more, by simp, hmore.cons (c :: l), fun ds => ?_⟩
    rw [List.cons_append, splitLines_cons_of_not_isBreak (by simpa using hc), hds, hls]
    rfl

end Text

/-- The same error that many lines further on. -/
def LineError.moved (n : Nat) (e : LineError) : LineError := { e with line := n + e.line }

namespace FormulaFile

/-! ### Numbers of lines -/

theorem numbered_append (n : Nat) (ls ks : List (List Char)) :
    numbered n (ls ++ ks) = numbered n ls ++ numbered (n + ls.length) ks := by
  induction ls generalizing n with
  | nil => rfl
  | cons l ls ih =>
    have hcount : n + 1 + ls.length = n + (l :: ls).length := by
      rw [List.length_cons]
      omega
    have hrest := ih (n + 1)
    rw [hcount] at hrest
    rw [List.cons_append, numbered, numbered, hrest]
    cases statement l with
    | nil => rfl
    | cons c cs => rfl

/-- Lines that come later have larger numbers and say the same. -/
theorem numbered_add (n k : Nat) (ls : List (List Char)) :
    numbered (n + k) ls = (numbered k ls).map fun p => (n + p.1, p.2) := by
  induction ls generalizing k with
  | nil => rfl
  | cons l ls ih =>
    have hrest := ih (k + 1)
    rw [← Nat.add_assoc] at hrest
    rw [numbered, numbered, hrest]
    cases statement l with
    | nil => rfl
    | cons c cs => rfl

/-- The number of lines of a content. -/
def lineCount (content : String) : Nat := (Text.splitLines content.toList).length

/-- **Joined contents say what both say.** The numbers of the later statements are moved
by the lines of the first content and its line feed. -/
theorem statements_joined (a b : String) :
    statements (a ++ "\n" ++ b) =
      statements a ++ (statements b).map fun p => (lineCount (a ++ "\n") + p.1, p.2) := by
  obtain ⟨ls, -, hls, hseam⟩ := Text.exists_seam a.toList
  have hlines : Text.splitLines (a ++ "\n" ++ b).toList = ls ++ Text.splitLines b.toList := by
    have hchars : (a ++ "\n" ++ b).toList = a.toList ++ '\n' :: b.toList := by simp
    rw [hchars, hseam]
  have hcount : lineCount (a ++ "\n") = ls.length := by
    have hchars : (a ++ "\n").toList = a.toList ++ '\n' :: [] := by simp
    rw [lineCount, hchars, hseam, Text.splitLines, List.append_nil]
  -- an empty line says nothing
  have hfirst : numbered 1 ls = statements a := by
    rcases hls with rfl | rfl
    · rfl
    · rw [numbered_append]
      exact List.append_nil _
  rw [statements, hlines, numbered_append, hfirst, Nat.add_comm, numbered_add, ← hcount]
  rfl

/-! ### Reading in turn -/

section

variable (limits : Limits)

theorem readAll_append (xs ys : List (Nat × String)) :
    (readAll limits (xs ++ ys)).result = (do
      let fs ← (readAll limits xs).result
      let gs ← (readAll limits ys).result
      return fs ++ gs) := by
  induction xs with
  | nil =>
    rw [List.nil_append]
    cases (readAll limits ys).result <;> rfl
  | cons x xs ih =>
    obtain ⟨n, text⟩ := x
    rw [List.cons_append]
    cases hparse : parseText limits text with
    | error e =>
      rw [readAll_cons_error hparse, readAll_cons_error hparse]
      rfl
    | ok f =>
      rw [readAll_cons_ok hparse, readAll_cons_ok hparse, ih]
      cases (readAll limits xs).result with
      | error e => rfl
      | ok fs => cases (readAll limits ys).result <;> rfl

theorem readAll_moved (n : Nat) (xs : List (Nat × String)) :
    (readAll limits (xs.map fun p => (n + p.1, p.2))).result =
      (readAll limits xs).result.mapError (.moved n) := by
  induction xs with
  | nil => rfl
  | cons x xs ih =>
    obtain ⟨k, text⟩ := x
    rw [List.map_cons]
    cases hparse : parseText limits text with
    | error e =>
      rw [readAll_cons_error hparse, readAll_cons_error hparse]
      rfl
    | ok f =>
      rw [readAll_cons_ok hparse, readAll_cons_ok hparse, ih]
      cases (readAll limits xs).result <;> rfl

/-- Joined contents are read one after the other. -/
theorem read_joined (a b : String) :
    (read limits (a ++ "\n" ++ b)).result = (do
      let fs ← (read limits a).result
      let gs ← (read limits b).result.mapError (.moved (lineCount (a ++ "\n")))
      return fs ++ gs) := by
  rw [read, statements_joined, readAll_append, readAll_moved]
  rfl

end

/-- **Files that are joined are read in turn.** An error of the first one is the error of
the whole. If the first one is read, the whole has its formulas and then those of the
second, or the error of the second, at a line that is further on by the lines before.
Its message then says that line, and the rest of it is the same. -/
theorem read_parts (limits : Limits) (a b : String) :
    let n := lineCount (a ++ "\n")
    let whole := (read limits (a ++ "\n" ++ b)).result
    (∀ e, (read limits a).result = .error e → whole = .error e) ∧
    (∀ fs gs, (read limits a).result = .ok fs → (read limits b).result = .ok gs →
      whole = .ok (fs ++ gs)) ∧
    ∀ fs k e, (read limits a).result = .ok fs → (read limits b).result = .error ⟨k, e⟩ →
      whole = .error ⟨n + k, e⟩ ∧
      (e.isUnwritable = false →
        LineError.message ⟨k, e⟩ = "line " ++ toString k ++ ": " ++ e.message ∧
        LineError.message ⟨n + k, e⟩ = "line " ++ toString (n + k) ++ ": " ++ e.message) := by
  intro n whole
  have hwhole : whole = _ := read_joined limits a b
  refine ⟨fun e ha => ?_, fun fs gs ha hb => ?_, fun fs k e ha hb => ⟨?_, fun hshown => ?_⟩⟩
  · rw [hwhole, ha]
    rfl
  · rw [hwhole, ha, hb]
    rfl
  · rw [hwhole, ha, hb]
    rfl
  · constructor
    · simp [LineError.message, hshown]
    · simp [LineError.message, hshown]

/-- The line feed completes the carriage return of the first file, so one line comes
before those of the second; its first line is empty, and is counted. -/
theorem read_parts_carriage_return :
    let limits : Limits := ⟨some (.int 8), some (.int 1)⟩
    let p : Formula := .atom ⟨"p", by decide⟩
    let e : ParseError := .lex ⟨some '?', 2, "p ?", none⟩
    lineCount "p # one\r\n" = 1 ∧
    (read limits "p # one\r").result = .ok [p] ∧
    (read limits "\x0c!p").result = .ok [.neg p] ∧
    (read limits "p # one\r\n\x0c!p").result = .ok [p, .neg p] ∧
    (read limits "\u2028 p ?").result = .error ⟨2, e⟩ ∧
    (read limits "p # one\r\n\u2028 p ?").result = .error ⟨3, e⟩ ∧
    LineError.message ⟨3, e⟩ = "line 3: " ++ e.message ∧
    (read limits "\u2028 p ?\n!p").result = .error ⟨2, e⟩ := by
  intro limits p e
  have hp : (read limits "p # one\r").result = .ok [p] := by decide +kernel
  have hneg : (read limits "\x0c!p").result = .ok [.neg p] := by decide +kernel
  have herror : (read limits "\u2028 p ?").result = .error ⟨2, e⟩ := by decide +kernel
  have hcount : lineCount "p # one\r\n" = 1 := by decide +kernel
  obtain ⟨-, hboth, -⟩ := read_parts limits "p # one\r" "\x0c!p"
  obtain ⟨-, -, hsecond⟩ := read_parts limits "p # one\r" "\u2028 p ?"
  obtain ⟨hfirst, -, -⟩ := read_parts limits "\u2028 p ?" "!p"
  obtain ⟨hmoved, hmessage⟩ := hsecond _ _ _ hp herror
  refine ⟨hcount, hp, hneg, hboth _ _ hp hneg, herror, hmoved, (hmessage rfl).2, hfirst _ herror⟩

end FormulaFile

end Turnstile
