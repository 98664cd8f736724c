/-
# What scalars mean

A scalar is read as what its tag says, and may turn out not to be that. Numbers
are written with underscores anywhere, integers to one of four bases or in
parts to the base sixty, decimals in such parts too.

Key definitions: `Yaml.integerOf`, `Yaml.decimalOf`, `Yaml.truthOf`,
`Yaml.momentOf`, `Yaml.scalarData`.
-/
import Turnstile.Numeral
import Turnstile.Text.Base64
import Turnstile.Text.Casing
import Turnstile.Yaml.Fault
import Turnstile.Yaml.Tag

namespace Turnstile.Yaml

/-- The code points without underscores. -/
def dropBars (p : Points) : Points := p.filter fun c => c ≠ .char '_'

/-- The sign that code points start with, and the rest. -/
def signOf : Points → Bool × Points
  | .char '-' :: p => (true, p)
  | .char '+' :: p => (false, p)
  | p => (false, p)

/-- The beginning of a quoted text, as far as a complaint shows it. -/
def excerpt (p : Points) : String := String.ofList ((Text.quotedPoints p).toList.take 200)

/-- The integer that a text spells to a base. -/
def baseInteger (base : Nat) (p : Points) : Except Fault Int :=
  (Numeral.integer base p).mapError fun
    | .malformed => .notInteger base (excerpt p)
    | .long digits => .longNumber digits

/-- The integer without a sign that a text means. -/
def naturalOf (p : Points) : Except Fault Int :=
  match p with
  | [] => .error .emptyNumber
  | .char '0' :: .char 'b' :: ds => baseInteger 2 ds
  | .char '0' :: .char 'x' :: ds => baseInteger 16 ds
  | .char '0' :: _ => baseInteger 8 p
  | p =>
    match pieces (.char ':') p with
    | [_] => baseInteger 10 p
    | parts => do
      let values ← parts.mapM (baseInteger 10)
      return values.foldl (fun n d => n * 60 + d) 0

/-- The integer that a text means. -/
def integerOf (p : Points) : Except Fault Int :=
  let (negative, p) := signOf (dropBars p)
  (naturalOf p).map fun n => if negative then -n else n

/-- The decimal that a text spells. -/
def decimal (p : Points) : Except Fault Double :=
  match Numeral.decimal? p with
  | some x => .ok x
  | none => .error (.notDecimal (Text.quotedPoints p))

/-- The decimal that has parts to the base sixty, the last first, each of which
counts so many times. -/
def sixtieths (factor : Nat) (total : Double) : List Double → Except Fault Double
  | [] => .ok total
  | x :: xs =>
    match x.times? factor with
    | some y => sixtieths (factor * 60) (total.plus y) xs
    | none => .error .tooLarge

/-- The decimal without a sign that a text in lower case means. -/
def positiveOf (p : Points) : Except Fault Double :=
  if p = .ofString ".inf" then .ok (.infinite false)
  else if p = .ofString ".nan" then .ok .nan
  else
    match pieces (.char ':') p with
    | [_] => decimal p
    | parts => do
      let values ← parts.mapM decimal
      sixtieths 1 (.ofRatio false 0 1) values.reverse

/-- The decimal that a text means. -/
def decimalOf (p : Points) : Except Fault Double :=
  match Text.lowerPoints (dropBars p) with
  | [] => .error .emptyNumber
  | p =>
    let (negative, p) := signOf p
    (positiveOf p).map fun x => if negative then x.negate else x

/-- The truth value that a text means. -/
def truthOf (p : Points) : Except Fault Bool :=
  let word := Text.lowerPoints p
  if word ∈ ["yes", "true", "on"].map Points.ofString then .ok true
  else if word ∈ ["no", "false", "off"].map Points.ofString then .ok false
  else .error (.notTruth (Text.quotedPoints word))

/-- The date that a text means. -/
def momentOf (p : Points) : Except Fault Moment :=
  match p.string?.bind fun s => readMoment (withoutBreak s).toList with
  | none => .error .notDate
  | some m =>
    match m.fault? with
    | some complaint => .error (.wrongDate complaint)
    | none => .ok m

/-- The bytes that a text means. It must be ASCII. -/
def bytesOf (p : Points) : Except Fault (List UInt8) :=
  match p.string? with
  | none => .error .malformed
  | some s =>
    if s.toList.all fun c => c.toNat < 0x80 then orMalformed (Text.decodeBase64? s.toList)
    else .error .malformed

/-- The data that a scalar with a tag means. -/
def scalarData (t : Tag) (said : Points) : Except Fault Data :=
  match t with
  | .null => .ok .null
  | .text => .ok (.ofPoints said)
  | .bool => (truthOf said).map .bool
  | .int => (integerOf said).map .int
  | .float => (decimalOf said).map .float
  | .date => (momentOf said).map .moment
  | .binary => (bytesOf said).map .bytes
  | _ => .error .malformed

end Turnstile.Yaml
