/-
# Letter case

Text in lower and in upper case, in all scripts. The other case of a letter
may be several characters. A capital sigma has the lower case of a word's end
where a letter with case comes before it and none after it; what is ignored
between is an apostrophe, a combining mark and the like.

Key definitions: `Text.lowerPoints`, `Text.lower`, `Text.upper`.
-/
import Turnstile.Text.CaseTable
import Turnstile.Text.Points
import Turnstile.Text.Printable

namespace Turnstile.Text

/-- The other case of a code point by a table of runs. -/
def mapRun? (table : Array CaseRun) (n : Nat) : Option Nat :=
  (table.find? fun (first, last, step, _) =>
    first ≤ n && n ≤ last && (n - first) % step == 0).map
      fun (first, _, _, target) => target + (n - first)

/-- Whether a code point is ignored around a sigma. -/
def isCaseIgnorable : CodePoint → Bool
  | .char c => inRanges caseIgnorable c.toNat 0 caseIgnorable.size
  | .half _ => false

/-- Whether the first code point that is not ignored is a letter with case. -/
def meetsCased (p : Points) : Bool :=
  match p.dropWhile isCaseIgnorable with
  | .char c :: _ => inRanges cased c.toNat 0 cased.size
  | _ => false

/-- The lower case of a character between those before it, the nearest first,
and those after it. -/
def lowerChar (before : Points) (c : Char) (after : Points) : List Char :=
  if c.toNat = 0x3a3 then
    [Char.ofNat (if meetsCased before && !meetsCased after then 0x3c2 else 0x3c3)]
  else if c.toNat = 0x130 then ['i', Char.ofNat 0x307]
  else
    match mapRun? lowerRuns c.toNat with
    | some n => [Char.ofNat n]
    | none => [c]

/-- The lower case of code points that follow others, the nearest of which comes
first; half of a surrogate pair has no case. -/
def lowerFrom (before : Points) : Points → Points
  | [] => []
  | .char c :: p => .ofChars (lowerChar before c p) ++ lowerFrom (.char c :: before) p
  | .half n :: p => .half n :: lowerFrom (.half n :: before) p

/-- Code points in lower case. -/
def lowerPoints (p : Points) : Points := lowerFrom [] p

/-- A text in lower case. -/
def lower (s : String) : String := (lowerPoints s).nearest

/-- The upper case of a character. -/
def upperChar (c : Char) : List Char :=
  match mapRun? upperRuns c.toNat, upperWords.find? fun p => p.1 == c.toNat with
  | some n, _ => [Char.ofNat n]
  | none, some (_, ns) => ns.map Char.ofNat
  | none, none => [c]

/-- The upper case of a code point; half of a surrogate pair has no case. -/
def upperPoint : CodePoint → Points
  | .char c => .ofChars (upperChar c)
  | .half n => [.half n]

/-- A text in upper case. -/
def upper (p : Points) : Points := p.flatMap upperPoint

end Turnstile.Text
