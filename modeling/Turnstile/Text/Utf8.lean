/-
# Text from bytes

The text of a file's bytes, which must be UTF-8. Where they are not, the
first sequence that spells no character is named: a byte that starts none, a
byte that does not continue the one begun, or an end that comes too early.

Key definitions: `Text.decode`, `Text.firstFault`, `Text.BadBytes.message`.
-/
import Turnstile.Text.Quoted

namespace Turnstile.Text

/-- How bytes fail to spell a character. -/
inductive BadSequence where
  | start
  | continuation
  | truncated
deriving DecidableEq, Repr

/-- Bytes that spell no character: the offset and value of the first, their
number, and what is wrong. -/
structure BadBytes where
  position : Nat
  first : UInt8
  count : Nat
  reason : BadSequence
deriving DecidableEq, Repr

/-- What is wrong, in words. -/
def BadSequence.text : BadSequence → String
  | start => "invalid start byte"
  | continuation => "invalid continuation byte"
  | truncated => "unexpected end of data"

/-- Undecodable bytes in words. -/
def BadBytes.message (b : BadBytes) : String :=
  let place :=
    if b.count = 1 then
      "byte 0x" ++ String.ofList (hexDigits 2 b.first.toNat) ++ " in position " ++
        toString b.position
    else
      "bytes in position " ++ toString b.position ++ "-" ++ toString (b.position + b.count - 1)
  "'utf-8' codec can't decode " ++ place ++ ": " ++ b.reason.text

/-- Looks at `need` continuation bytes, of which the first lies between `lo`
and `hi` and the others anywhere in their class; `seen` bytes came before.
The answer is the number of good bytes and what is wrong after them, if
anything is. -/
def continuation (need lo hi seen : Nat) (bytes : List UInt8) : Option (Nat × BadSequence) :=
  match need, bytes with
  | 0, _ => none
  | _ + 1, [] => some (seen, .truncated)
  | need + 1, b :: rest =>
    if lo ≤ b.toNat ∧ b.toNat ≤ hi then continuation need 0x80 0xbf (seen + 1) rest
    else some (seen, .continuation)

/-- The number of continuation bytes after a first byte, and the bounds of the
first of them; nothing if the byte starts no character. -/
def startByte? (b : UInt8) : Option (Nat × Nat × Nat) :=
  let n := b.toNat
  if n < 0x80 then some (0, 0x80, 0xbf)
  else if n < 0xc2 then none
  else if n < 0xe0 then some (1, 0x80, 0xbf)
  else if n = 0xe0 then some (2, 0xa0, 0xbf)
  else if n = 0xed then some (2, 0x80, 0x9f)
  else if n < 0xf0 then some (2, 0x80, 0xbf)
  else if n = 0xf0 then some (3, 0x90, 0xbf)
  else if n < 0xf4 then some (3, 0x80, 0xbf)
  else if n = 0xf4 then some (3, 0x80, 0x8f)
  else none

/-- The first bytes that spell no character, where the first byte has the given
offset. -/
def firstFault (position : Nat) : List UInt8 → Option BadBytes
  | [] => none
  | b :: rest =>
    match startByte? b with
    | none => some ⟨position, b, 1, .start⟩
    | some (need, lo, hi) =>
      match continuation need lo hi 1 rest with
      | some (count, reason) => some ⟨position, b, count, reason⟩
      | none => firstFault (position + 1 + need) (rest.drop need)
termination_by bytes => bytes.length
decreasing_by rw [List.length_drop, List.length_cons]; omega

/-- The text that bytes spell. -/
def decode (bytes : ByteArray) : Except BadBytes String :=
  match String.fromUTF8? bytes with
  | some s => .ok s
  | none => .error ((firstFault 0 bytes.toList).getD ⟨0, 0, 1, .start⟩)

end Turnstile.Text
