/-
# Parsing a text, its rendering, and the rendering again

A limit on the depth looks at the result only, so a formula that was parsed from some
text is parsed from its own rendering as well, as far as that limit is concerned. The
limit on the length looks at the text: a rendering has parentheses that its source may
lack, and where they make it too long it is refused (`rendering_too_long`). Otherwise it
is parsed to the same formula (`reparse_rendering`).

Key theorems: `Formula.parseTokens_tokensAt`, `reparse_rendering`, `rendering_too_long`.
-/
import Turnstile.Proofs.Rendering

namespace Turnstile

/-- A text within the limit on the length is parsed as its tokens are. -/
theorem parseText_of_length_le {maxLength : Int} {maxDepth : Option Limit} {text : String}
    (h : (text.length : Int) ≤ maxLength) :
    parseText ⟨some (.int maxLength), maxDepth⟩ text = (Attempt.ofScan maxDepth text).result := by
  have hfits : (Limit.int maxLength).exceededBy? text.length = some false := by
    simp [Limit.exceededBy?, h]
  simp only [parseText, Attempt.ofText, hfits]

theorem parseText_of_lt_length {maxLength : Int} {maxDepth : Option Limit} {text : String}
    (h : maxLength < text.length) :
    parseText ⟨some (.int maxLength), maxDepth⟩ text =
      .error (.tooLarge .length (.int maxLength) text.length) := by
  have hexceeded : (Limit.int maxLength).exceededBy? text.length = some true := by
    simp [Limit.exceededBy?, h]
  simp only [parseText, Attempt.ofText, hexceeded, Attempt.failed]

/-- What was parsed from a text has only compound formulas that are allowed. -/
theorem allowed_of_ofScan {maxDepth : Option Limit} {text : String} {f : Formula}
    (h : (Attempt.ofScan maxDepth text).result = .ok f) : Allowed maxDepth f.compounds := by
  unfold Attempt.ofScan at h
  cases hscan : Token.scan text with
  | error e =>
    rw [hscan] at h
    cases h
  | ok ts =>
    rw [hscan] at h
    simp only [Attempt.ofTokens] at h
    cases hparse : parseTokens maxDepth ts with
    | error e =>
      rw [hparse] at h
      cases h
    | ok r =>
      rw [hparse] at h
      cases h
      exact (parseTokens_ok_iff_allowed.1 hparse).2

/-- **A rendering is parsed again unless it is too long.** What was parsed from a text
is parsed from its rendering under the same limits, to the same formula, if the
rendering is within the limit on the length. If it is not, it is refused for its
length; its depth is never in the way. -/
theorem reparse_rendering {text : String} {f : Formula} {maxLength maxDepth : Int}
    (h : parseText ⟨some (.int maxLength), some (.int maxDepth)⟩ text = .ok f) :
    parseText ⟨some (.int maxLength), some (.int maxDepth)⟩ f.render =
      if (f.render.length : Int) ≤ maxLength then .ok f
      else .error (.tooLarge .length (.int maxLength) f.render.length) := by
  have htext : (text.length : Int) ≤ maxLength := by
    by_contra hlong
    rw [parseText_of_lt_length (Int.not_le.1 hlong)] at h
    cases h
  rw [parseText_of_length_le htext] at h
  by_cases hfits : (f.render.length : Int) ≤ maxLength
  · obtain ⟨s, hparse⟩ := Formula.parseTokens_tokensAt (allowed_of_ofScan h)
    rw [if_pos hfits, parseText_of_length_le hfits]
    simp only [Attempt.ofScan, f.scan_render, Attempt.ofTokens, hparse]
  · rw [if_neg hfits, parseText_of_lt_length (Int.not_le.1 hfits)]

/-- `(p) && q` is longer than its rendering, which is parsed to the same formula under
the tightest limits. -/
theorem reparse_rendering_shorter :
    let f : Formula := .bin .conj (.atom ⟨"p", by decide⟩) (.atom ⟨"q", by decide⟩)
    let limits : Limits := ⟨some (.int 8), some (.int 1)⟩
    parseText limits "(p) && q" = .ok f ∧ f.render = "(p&&q)" ∧
      parseText limits "(p&&q)" = .ok f := by
  intro f limits
  have hscan : Token.scan "(p) && q" = .ok
      [⟨.openParen, "(", .offset 0⟩, ⟨.name, "p", .offset 1⟩, ⟨.closeParen, ")", .offset 2⟩,
        ⟨.connective (.binary .conj), "&&", .offset 4⟩, ⟨.name, "q", .offset 7⟩] := by
    decide +kernel
  have hparse : parseText limits "(p) && q" = .ok f := by
    rw [parseText_of_length_le (by decide), Attempt.ofScan, hscan]
    rfl
  have hrender : f.render = "(p&&q)" := by decide
  have hagain := reparse_rendering hparse
  rw [hrender, if_pos (by decide)] at hagain
  exact ⟨hparse, hrender, hagain⟩

/-- **A rendering can be too long where its source is not.** Under a limit of four
characters `p&&q` is parsed, and its rendering `(p&&q)` is not. -/
theorem rendering_too_long :
    let f : Formula := .bin .conj (.atom ⟨"p", by decide⟩) (.atom ⟨"q", by decide⟩)
    let limits : Limits := ⟨some (.int 4), some (.int 200)⟩
    parseText limits "p&&q" = .ok f ∧ f.render = "(p&&q)" ∧
      ∀ g, parseText limits f.render ≠ .ok g := by
  intro f limits
  have hscan : Token.scan "p&&q" = .ok
      [⟨.name, "p", .offset 0⟩, ⟨.connective (.binary .conj), "&&", .offset 1⟩,
        ⟨.name, "q", .offset 3⟩] := by decide +kernel
  have hparse : parseText limits "p&&q" = .ok f := by
    rw [parseText_of_length_le (by decide), Attempt.ofScan, hscan]
    rfl
  have hrender : f.render = "(p&&q)" := by decide
  refine ⟨hparse, hrender, fun g hg => ?_⟩
  rw [hrender, parseText_of_lt_length (by decide)] at hg
  cases hg

end Turnstile
