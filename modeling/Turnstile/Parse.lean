/-
# From tokens to formulas

Parsing by two stacks: one of operator tokens and opening parentheses that
wait for their operands, one of finished formulas. A token that binds no
tighter than the operators on top makes them take their operands first, so
binary connectives associate to the left; a negation that starts an operand
waits for it. Parsing that fails leaves the stacks as they were at the fault.

Key definitions: `Stacks`, `Stacks.step`, `parseTokens`, `parseText`, `Parser`.
-/
import Turnstile.Formula
import Turnstile.Token

namespace Turnstile

/-- The state of a parse. Stacks have their top first. -/
structure Stacks where
  /-- Connectives and opening parentheses that are not done. -/
  operators : List Token
  /-- Formulas that wait to become operands. -/
  operands : List Formula
  /-- Whether the last token completed an operand. -/
  afterOperand : Bool
  /-- The compound formulas made so far, the latest first. -/
  built : List Formula

/-- A parse that failed: the cause, and the stacks it left. -/
structure Halt where
  error : ParseError
  state : Stacks

namespace Stacks

/-- The state before the first token. -/
def empty : Stacks := ⟨[], [], false, []⟩

/-- Puts a new compound formula on the stack, if its depth is allowed. -/
def push (limit : Option Limit) (f : Formula) (s : Stacks) : Except Halt Stacks :=
  match limit with
  | none => .ok { s with operands := f :: s.operands, built := f :: s.built }
  | some m =>
    match m.exceededBy? f.depth with
    | some false => .ok { s with operands := f :: s.operands, built := f :: s.built }
    | some true => .error ⟨.tooLarge .depth m f.depth, s⟩
    | none => .error ⟨.incomparable, s⟩

/-- Gives the operator `t`, just taken off its stack, its operands. -/
def apply (limit : Option Limit) (t : Token) (s : Stacks) : Except Halt Stacks :=
  match t.kind with
  | .connective .neg =>
    match s.operands with
    | f :: rest => push limit (.neg f) { s with operands := rest }
    | _ => .error ⟨.malformed (.missingOperand .neg t.position), s⟩
  | .connective (.binary b) =>
    match s.operands with
    | r :: l :: rest => push limit (.bin b l r) { s with operands := rest }
    | _ => .error ⟨.malformed (.missingOperand (.binary b) t.position), s⟩
  | _ => .error ⟨.unbalanced t.value, s⟩

/-- Applies the operators `ts` of the stack from the top while `p` holds. -/
def applyWhile (limit : Option Limit) (p : TokenKind → Bool) :
    List Token → Stacks → Except Halt Stacks
  | [], s => .ok { s with operators := [] }
  | t :: ts, s =>
    if p t.kind then do
      let s ← apply limit t { s with operators := ts }
      applyWhile limit p ts s
    else .ok { s with operators := t :: ts }

/-- Whether an operator on top takes its operands before `c` is put on it. -/
def yieldsTo (c : Connective) : TokenKind → Bool
  | .connective top => c.strength ≤ top.strength
  | _ => false

/-- Takes one token. -/
def step (limit : Option Limit) (s : Stacks) (t : Token) : Except Halt Stacks :=
  match t.kind with
  | .openParen => .ok { s with operators := t :: s.operators, afterOperand := false }
  | .closeParen => do
    let s ← applyWhile limit (fun k => k != .openParen) s.operators s
    match s.operators with
    | [] => .error ⟨.unbalanced t.value, s⟩
    | _ :: rest => return { s with operators := rest, afterOperand := true }
  | .name =>
    match Var.ofName? t.value with
    | some v => .ok { s with operands := .atom v :: s.operands, afterOperand := true }
    | none => .error ⟨.malformed (.invalidName (Text.quoted t.value)), s⟩
  | .connective c => do
    let s ←
      if c = .neg ∧ s.afterOperand = false then .ok s
      else applyWhile limit (yieldsTo c) s.operators s
    return { s with operators := t :: s.operators, afterOperand := false }
  | .other _ => .error ⟨.malformed (.unexpectedToken (Text.quoted t.value)), s⟩
  | .refused e => .error ⟨e, s⟩

/-- Takes the tokens in order. -/
def run (limit : Option Limit) (s : Stacks) (tokens : List Token) : Except Halt Stacks :=
  tokens.foldlM (step limit) s

/-- Applies all that is left and takes the one formula off its stack. -/
def finish (limit : Option Limit) (s : Stacks) : Except Halt (Formula × Stacks) := do
  let s ← applyWhile limit (fun _ => true) s.operators s
  match s.operands with
  | [f] => return (f, { s with operands := [] })
  | fs => .error ⟨.malformed (.notSingle fs.length), s⟩

end Stacks

/-- The formula spelt by a sequence of tokens, and the stacks at the end. -/
def parseTokens (limit : Option Limit) (tokens : List Token) : Except Halt (Formula × Stacks) := do
  let s ← Stacks.run limit .empty tokens
  s.finish limit

/-- The outcome of a parse: the formula or the cause, and the compound
formulas that were made on the way, in the order of their making. -/
structure Attempt where
  result : Except ParseError Formula
  built : List Formula

namespace Attempt

/-- An attempt that failed before anything was made. -/
def failed (e : ParseError) : Attempt := ⟨.error e, []⟩

/-- The outcome of a parse of tokens. -/
def ofTokens (limit : Option Limit) (tokens : List Token) : Attempt :=
  match parseTokens limit tokens with
  | .ok (f, s) => ⟨.ok f, s.built.reverse⟩
  | .error h => ⟨.error h.error, h.state.built.reverse⟩

/-- The outcome of a parse of a text whose length has been found right. -/
def ofScan (limit : Option Limit) (text : String) : Attempt :=
  match Token.scan text with
  | .ok tokens => ofTokens limit tokens
  | .error e => failed (.lex e)

/-- The outcome of a parse of a text: its length is looked at first. -/
def ofText (limits : Limits) (text : String) : Attempt :=
  match limits.maxLength with
  | none => ofScan limits.maxDepth text
  | some m =>
    match m.exceededBy? text.length with
    | some false => ofScan limits.maxDepth text
    | some true => failed (.tooLarge .length m text.length)
    | none => failed .incomparable

end Attempt

/-- The formula spelt by a text. -/
def parseText (limits : Limits) (text : String) : Except ParseError Formula :=
  (Attempt.ofText limits text).result

/-- A parser that is used again and again: the limit that it observes, and the
stacks as its last parse left them. -/
structure Parser where
  limit : Option Limit
  state : Stacks

namespace Parser

/-- A parser that has not been used. -/
def new (limit : Option Limit) : Parser := ⟨limit, .empty⟩

/-- Parses tokens. What the stacks held before is dropped. -/
def parse (p : Parser) (tokens : List Token) : Attempt × Parser :=
  match parseTokens p.limit tokens with
  | .ok (f, s) => (⟨.ok f, s.built.reverse⟩, { p with state := s })
  | .error h => (⟨.error h.error, h.state.built.reverse⟩, { p with state := h.state })

end Parser

end Turnstile
