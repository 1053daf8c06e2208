import DocSuite.Syntax.Token

/-!
Ordered choice over a list of tokens. A parser reads from a mark and gives a value, fails so that
the next alternative is tried, gives up the rule that it belongs to, or stops with a fault. How
far tokens were looked at is part of the state, because faults are reported where the reader is.
Values of the memoized rules are kept for each mark.
-/
namespace DocSuite.Syntax.Grammar

/-- The arguments of a call, with the line on which they start. -/
structure Arguments where
  line : Nat
  args : List Expr
  keywords : List Keyword

/-- The rules through which the grammar is recursive, and those whose values are kept. -/
inductive Rule
  | simpleStmt | block | elifStmt
  | expression | starExpression | disjunction | conjunction | inversion
  | bitOr | bitXor | bitAnd | shift | sum | term | factor | awaitPrimary | primary | strings
  | arguments | faultyNamedExpression
  | starTarget | targetWithStarAtom | targetPrimary | delTarget | singleTarget
  | faultyAnnotationTarget
  | closedPattern
  deriving DecidableEq, Repr

/-- What a rule gives. -/
@[reducible] def Rule.Out : Rule → Type
  | .simpleStmt | .elifStmt => Stmt
  | .block => List Stmt
  | .arguments => Arguments
  | .faultyNamedExpression => Unit
  | .closedPattern => Pattern
  | _ => Expr

/-- Whether the value of a rule is kept for each mark. -/
def Rule.memoized : Rule → Bool
  | .elifStmt | .singleTarget | .faultyAnnotationTarget => false
  | _ => true

/-- The outcome of a rule at a mark; a value comes with the mark behind it. -/
structure Kept where
  rule : Rule
  outcome : Option (rule.Out × Nat)

structure Env where
  tokens : Array Token
  source : Source
  /-- Rules that only explain faults are tried. -/
  explaining : Bool := false
  /-- The text is a field of an interpolated string. -/
  inField : Bool := false

structure State where
  mark : Nat := 0
  /-- How many tokens were looked at. -/
  reached : Nat := 0
  memo : Array (List Kept)

inductive Result (α : Type)
  | value (a : α)
  | none
  /-- No other alternative of the rule may be tried. -/
  | giveUp
  | stop (fault : SyntaxFault)

abbrev P (α : Type) := Env → State → Result α × State

/-- The rules of the grammar. -/
structure Rules where
  read : (r : Rule) → P r.Out

namespace Rules

def simpleStmt (g : Rules) : P Stmt := g.read .simpleStmt
def block (g : Rules) : P (List Stmt) := g.read .block
def elifStmt (g : Rules) : P Stmt := g.read .elifStmt
def expression (g : Rules) : P Expr := g.read .expression
def starExpression (g : Rules) : P Expr := g.read .starExpression
def disjunction (g : Rules) : P Expr := g.read .disjunction
def conjunction (g : Rules) : P Expr := g.read .conjunction
def inversion (g : Rules) : P Expr := g.read .inversion
def bitOr (g : Rules) : P Expr := g.read .bitOr
def bitXor (g : Rules) : P Expr := g.read .bitXor
def bitAnd (g : Rules) : P Expr := g.read .bitAnd
def shift (g : Rules) : P Expr := g.read .shift
def sum (g : Rules) : P Expr := g.read .sum
def term (g : Rules) : P Expr := g.read .term
def factor (g : Rules) : P Expr := g.read .factor
def awaitPrimary (g : Rules) : P Expr := g.read .awaitPrimary
def primary (g : Rules) : P Expr := g.read .primary
def strings (g : Rules) : P Expr := g.read .strings
def arguments (g : Rules) : P Arguments := g.read .arguments
def faultyNamedExpression (g : Rules) : P Unit := g.read .faultyNamedExpression
def starTarget (g : Rules) : P Expr := g.read .starTarget
def targetWithStarAtom (g : Rules) : P Expr := g.read .targetWithStarAtom
def targetPrimary (g : Rules) : P Expr := g.read .targetPrimary
def delTarget (g : Rules) : P Expr := g.read .delTarget
def singleTarget (g : Rules) : P Expr := g.read .singleTarget
def faultyAnnotationTarget (g : Rules) : P Expr := g.read .faultyAnnotationTarget
def closedPattern (g : Rules) : P Pattern := g.read .closedPattern

end Rules

/-- The token after the last one: texts end with a token that ends them. -/
def endToken : Token := { kind := .finish, span := default }

namespace Env

def token (env : Env) (i : Nat) : Token := (env.tokens[i]?).getD endToken

/-- The last token that was looked at. -/
def lastToken (env : Env) (state : State) : Token := env.token (state.reached - 1)

def inContext (env : Env) (fault : Fault) : Fault :=
  if env.inField then .fieldInside fault else fault

/-- The report of a fault of the grammar at a line. -/
def report (env : Env) (state : State) (fault : Fault) (line : Nat) : SyntaxFault :=
  let last := env.lastToken state
  env.source.report last.shownFrom last.span.stop.line (env.inContext fault) line

/-- The report for a token that could not be read. -/
def tokenReport (env : Env) (token : Token) (reason : TokenFault) : SyntaxFault :=
  if reason.direct then
    ⟨reason.fault, reason.line, String.ofList (env.source.line reason.line)⟩
  else
    env.source.report token.shownFrom token.span.stop.line (env.inContext reason.fault) reason.line

end Env

namespace P

def pure {α : Type} (a : α) : P α := fun _ state => (.value a, state)

def bind {α β : Type} (p : P α) (f : α → P β) : P β := fun env state =>
  match p env state with
  | (.value a, state) => f a env state
  | (.none, state) => (.none, state)
  | (.giveUp, state) => (.giveUp, state)
  | (.stop fault, state) => (.stop fault, state)

instance : Monad P where
  pure := P.pure
  bind := P.bind

end P

def fail {α : Type} : P α := fun _ state => (.none, state)

def giveUp {α : Type} : P α := fun _ state => (.giveUp, state)

/-- The token at the mark. -/
def peek : P Token := fun env state =>
  let token := env.token state.mark
  let state := { state with reached := max state.reached (state.mark + 1) }
  match token.kind with
  | .failure reason => (.stop (env.tokenReport token reason), state)
  | _ => (.value token, state)

def advance : P Unit := fun _ state => (.value (), { state with mark := state.mark + 1 })

/-- Reads a token that passes a test. -/
def tokenThat (test : Token → Bool) : P Token := do
  let token ← peek
  if test token then advance; pure token else fail

def accept (t : Terminal) : P Token := tokenThat (·.isTerminal t)

def nameToken : P Token := tokenThat Token.isName

/-- A name that is a keyword in some places only. -/
def softKeyword (word : List Char) : P Token := tokenThat fun t => t.isName && t.text == word

/-- A name with which such a keyword starts, or the keyword. -/
def softKeywordStart (words : List (List Char)) : P Token :=
  tokenThat fun t => t.isName && words.any t.text.isPrefixOf

def newline : P Token := tokenThat fun t => match t.kind with
  | .newline => true
  | _ => false

def indent : P Token := tokenThat fun t => match t.kind with
  | .indent => true
  | _ => false

def dedent : P Token := tokenThat fun t => match t.kind with
  | .dedent => true
  | _ => false

def finish : P Token := tokenThat fun t => match t.kind with
  | .finish => true
  | _ => false

/-- Stops with a fault at a line. -/
def raiseAt {α : Type} (line : Nat) (fault : Fault) : P α := fun env state =>
  (.stop (env.report state fault line), state)

/-- Stops with a fault at the last token that was looked at. -/
def raiseLast {α : Type} (fault : Fault) : P α := fun env state =>
  (.stop (env.report state fault (env.lastToken state).line), state)

/-- A terminal without which there is a fault. -/
def require (t : Terminal) : P Token := do
  let token ← peek
  if token.isTerminal t then advance; pure token
  else raiseAt token.line (.expected t.text)

/-- The first alternative that does not fail. -/
def choice {α : Type} : List (P α) → P α
  | [] => fail
  | p :: ps => fun env state =>
      match p env state with
      | (.none, after) => choice ps env { after with mark := state.mark }
      | (.giveUp, after) => (.none, { after with mark := state.mark })
      | outcome => outcome

/-- No alternative is left once this is begun. -/
def commit {α : Type} (p : P α) : P α := fun env state =>
  match p env state with
  | (.none, state) => (.giveUp, state)
  | outcome => outcome

def optional {α : Type} (p : P α) : P (Option α) := choice [some <$> p, pure none]

/-- Succeeds where a parser does, and reads nothing. -/
def ahead {α : Type} (p : P α) : P Unit := fun env state =>
  match p env state with
  | (.value _, after) => (.value (), { after with mark := state.mark })
  | (.stop fault, after) => (.stop fault, after)
  | (_, after) => (.none, { after with mark := state.mark })

/-- Succeeds where a parser does not, and reads nothing. -/
def notAhead {α : Type} (p : P α) : P Unit := fun env state =>
  match p env state with
  | (.value _, after) => (.none, { after with mark := state.mark })
  | (.stop fault, after) => (.stop fault, after)
  | (_, after) => (.value (), { after with mark := state.mark })

/-- Applies a step to a value for as long as the step succeeds, at most `n` times. -/
def iterate {α : Type} (step : α → P α) : Nat → α → P α
  | 0, a => pure a
  | n + 1, a => do
      match ← optional (step a) with
      | some b => iterate step n b
      | none => pure a

/-- Applies a step for as long as it succeeds; each success reads a token. -/
def extend {α : Type} (a : α) (step : α → P α) : P α := fun env state =>
  iterate step (env.tokens.size + 1) a env state

def many {α : Type} (p : P α) : P (List α) :=
  List.reverse <$> extend [] fun (done : List α) => (· :: done) <$> p

def many1 {α : Type} (p : P α) : P (List α) := do
  let first ← p
  return first :: (← many p)

def separated {α β : Type} (separator : P β) (p : P α) : P (List α) := do
  let first ← p
  return first :: (← many (do let _ ← separator; p))

def commaSeparated {α : Type} (p : P α) : P (List α) := separated (accept .comma) p

/-- An alternative that only explains a fault. -/
def explain {α : Type} (p : P Unit) : P α := fun env state =>
  if env.explaining then (do let _ ← p; fail : P α) env state else (.none, state)

/-- Without the alternatives that explain faults. -/
def withoutExplaining {α : Type} (p : P α) : P α := fun env state =>
  p { env with explaining := false } state

/-- The line of the token at the mark. -/
def startLine : P Nat := Token.line <$> peek

/-- An expression that starts at the mark. -/
def located (p : P Form) : P Expr := do
  let line ← startLine
  return ⟨line, ← p⟩

/-- The number of open brackets behind the last token that was read. -/
def depthBehind : P Nat := fun env state => (.value (env.token (state.mark - 1)).depth, state)

/-- The last token before a mark that has text of its own. -/
def Env.lastWithText (env : Env) : Nat → Token
  | 0 => env.token 0
  | i + 1 => if (env.token i).isLayout then env.lastWithText i else env.token i

/-- From the token to the end of what was read. -/
def spanFrom (start : Token) : P Span := fun env state =>
  (.value ⟨start.span.start, (env.lastWithText state.mark).span.stop⟩, state)

/-! ### Kept values -/

def lookup? (r : Rule) (entries : List Kept) : Option (Option (r.Out × Nat)) :=
  entries.findSome? fun entry =>
    if h : entry.rule = r then some (h ▸ entry.outcome) else none

/-- Reads a rule, or takes the outcome that it had at this mark before. -/
def memoize (r : Rule) (p : P r.Out) : P r.Out := fun env state =>
  if !r.memoized then p env state
  else
    match lookup? r ((state.memo[state.mark]?).getD []) with
    | some (some (a, mark)) => (.value a, { state with mark })
    | some none => (.none, state)
    | none =>
        let keep (outcome : Option (r.Out × Nat)) (after : State) : State :=
          { after with memo := after.memo.modify state.mark (⟨r, outcome⟩ :: ·) }
        match p env state with
        | (.value a, after) => (.value a, keep (some (a, after.mark)) after)
        | (.stop fault, after) => (.stop fault, after)
        | (_, after) => (.none, keep none { after with mark := state.mark })

/-! ### Running -/

/-- A fault further on in the text that is reported first: one that the reader of tokens finds
itself, or a bracket that is never closed and that was opened on an earlier line than the one
looked at last. -/
def Env.laterFault? (env : Env) (state : State) : Option SyntaxFault :=
  let unread := (env.tokens.toList.drop state.reached)
  match unread.getLast? with
  | none => none
  | some token =>
      match token.kind with
      | .failure reason =>
          if reason.direct then some (env.tokenReport token reason)
          else
            match reason.opening with
            | some (bracket, line) =>
                if line < (env.lastToken state).line then
                  some (env.source.report token.shownFrom token.span.stop.line
                    (env.inContext (.neverClosed bracket)) line)
                else none
            | none => none
      | _ => none

/-- Reads tokens from the start. If that fails, the rules that explain faults are tried too; what
they find is reported, or else where the first reading stood. -/
def Env.parse {α : Type} (env : Env) (p : P α) : Except SyntaxFault α :=
  let memo := Array.replicate (env.tokens.size + 1) []
  match p { env with explaining := false } { memo } with
  | (.value a, _) => .ok a
  | (.stop fault, after) => .error ((env.laterFault? after).getD fault)
  | (_, first) =>
      let last := env.lastToken first
      match p { env with explaining := true } { memo, reached := first.reached } with
      | (.stop fault, after) => .error ((env.laterFault? after).getD fault)
      | (_, after) =>
          match last.kind with
          | .indent => .error (env.report after .unexpectedIndent (env.lastToken after).line)
          | .dedent => .error (env.report after .unexpectedUnindent (env.lastToken after).line)
          | _ =>
              let fault := env.report after .invalidSyntax last.line
              .error ((env.laterFault? after).getD fault)

end DocSuite.Syntax.Grammar
