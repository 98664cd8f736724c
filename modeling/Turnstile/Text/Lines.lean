/-
# Blanks and lines

Blank characters separate tokens and are trimmed from the ends of a line: the
ASCII blanks, the four information separators, and the spaces and line breaks
beyond ASCII. Some of them end a line: a line feed, a carriage return (with the
line feed that may follow it), a vertical tab, a form feed, three of the
information separators, the next-line character and the line and paragraph
separators. A break at the very end of a text opens no further line.

Key definitions: `Text.isBlank`, `Text.trim`, `Text.isBreak`,
`Text.splitLines`, `Text.unifyBreaks`.
-/

namespace Turnstile.Text

/-! ### Blanks -/

/-- Whether a character is blank. -/
def isBlank (c : Char) : Bool :=
  let n := c.toNat
  (0x09 ≤ n && n ≤ 0x0d) || (0x1c ≤ n && n ≤ 0x20) || n == 0x85 || n == 0xa0 ||
    n == 0x1680 || (0x2000 ≤ n && n ≤ 0x200a) || n == 0x2028 || n == 0x2029 ||
    n == 0x202f || n == 0x205f || n == 0x3000

/-- The characters without the blanks at their end. -/
def trimEnd (cs : List Char) : List Char := (cs.reverse.dropWhile isBlank).reverse

/-- The characters without the blanks at both ends. -/
def trim (cs : List Char) : List Char := trimEnd (cs.dropWhile isBlank)

/-! ### Lines -/

/-- Whether a character ends a line. -/
def isBreak (c : Char) : Bool :=
  let n := c.toNat
  (0x0a ≤ n && n ≤ 0x0d) || (0x1c ≤ n && n ≤ 0x1e) || n == 0x85 || n == 0x2028 || n == 0x2029

/-- The lines of a text, without their breaks. -/
def splitLines : List Char → List (List Char)
  | [] => []
  | '\r' :: '\n' :: cs => [] :: splitLines cs
  | c :: cs =>
    if isBreak c then [] :: splitLines cs
    else
      match splitLines cs with
      | [] => [[c]]
      | l :: ls => (c :: l) :: ls

/-- The text of a file as it is read: a carriage return, with the line feed
that may follow it, becomes a line feed. -/
def unifyBreaks : List Char → List Char
  | [] => []
  | '\r' :: '\n' :: cs => '\n' :: unifyBreaks cs
  | c :: cs => (if c = '\r' then '\n' else c) :: unifyBreaks cs

end Turnstile.Text
