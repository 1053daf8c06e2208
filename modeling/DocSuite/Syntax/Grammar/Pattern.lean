import DocSuite.Syntax.Grammar.Expression

/-!
Patterns of `case` blocks.
-/
namespace DocSuite.Syntax.Grammar

def underscore : P Token := softKeyword ['_']

/-- A number that may have a minus. -/
def signed (p : P Expr) : P Expr :=
  choice [p, located do let _ ← accept .minus; return .unary .minus (← p)]

def isImaginary (e : Expr) : Bool :=
  match e.form with
  | .literal (.imaginary _) => true
  | _ => false

def realNumber : P Expr :=
  choice [do
    let e ← number
    if isImaginary e then raiseAt e.line .realExpected else pure e]

def imaginaryNumber : P Expr :=
  choice [do
    let e ← number
    if isImaginary e then pure e else raiseAt e.line .imaginaryExpected]

def complexNumber : P Expr :=
  let sum (t : Terminal) (op : BinaryOp) : P Expr :=
    located do
      let real ← signed realNumber
      let _ ← accept t
      return .binary real op (← imaginaryNumber)
  choice [sum .plus .add, sum .minus .sub]

/-- A number with its sign, unless it starts a sum. -/
def loneNumber : P Expr := do
  let e ← signed number
  notAhead (choice [accept .plus, accept .minus])
  pure e

/-- What a name must not be followed by if it is to be bound. -/
def notQualified : P Unit :=
  notAhead (choice [accept .dot, accept .parenOpen, accept .equal])

def captureName : P String :=
  choice [do
    notAhead underscore
    let name ← nameText
    notQualified
    pure name]

/-- Names with dots between them, `least` dots at the least. -/
def attributeOf (least : Nat) : P Expr := do
  let first ← nameExpr
  let more ← many (behind .dot nameText)
  if more.length < least then fail
  else return more.foldl (fun value name => ⟨first.line, .attribute value name⟩) first

namespace Rules

variable (g : Rules)

def orPattern : P Pattern := do
  let patterns ← separated (accept .bar) g.closedPattern
  match patterns with
  | [pattern] => pure pattern
  | _ => pure (.either patterns)

def pattern : P Pattern :=
  choice [
    do
      let pattern ← g.orPattern
      let _ ← accept .kwAs
      return .capture (some pattern) (some (← captureName)),
    explain (choice [
      do
        let _ ← g.orPattern
        let _ ← accept .kwAs
        raiseAt (← underscore).line .wildcardTarget,
      do
        let _ ← g.orPattern
        let _ ← accept .kwAs
        notAhead nameToken
        raiseAt (← g.expression).line .patternTarget]),
    g.orPattern]

def maybeStarPattern : P Pattern :=
  choice [
    do let _ ← accept .star; return .star (some (← captureName)),
    do let _ ← accept .star; let _ ← underscore; return .star none,
    g.pattern]

def sequenceItems : P (List Pattern) := do
  let patterns ← commaSeparated g.maybeStarPattern
  let _ ← optional (accept .comma)
  return patterns

/-- A sequence without brackets: there is a comma behind its first item. -/
def openSequence : P (List Pattern) := do
  let first ← g.maybeStarPattern
  let _ ← accept .comma
  let more ← optional g.sequenceItems
  return first :: more.getD []

def sequencePattern : P Pattern :=
  choice [
    do
      let _ ← accept .listOpen
      let patterns ← optional g.sequenceItems
      let _ ← accept .listClose
      return .sequence (patterns.getD []),
    do
      let _ ← accept .parenOpen
      let patterns ← optional g.openSequence
      let _ ← accept .parenClose
      return .sequence (patterns.getD [])]

def literalKey : P Expr :=
  choice [
    loneNumber, complexNumber, g.strings, constant .kwNone .none, constant .kwTrue .true,
    constant .kwFalse .false]

def keyPattern : P (Expr × Pattern) := do
  let key ← choice [g.literalKey, attributeOf 1]
  let _ ← accept .colon
  return (key, ← g.pattern)

def restPattern : P String := do
  let _ ← accept .pow
  captureName

def mappingPattern : P Pattern :=
  let close : P Unit := do
    let _ ← optional (accept .comma)
    discard (accept .braceClose)
  let mapping (items : List (Expr × Pattern)) (rest : Option String) : Pattern :=
    .mapping (items.map Prod.fst) (items.map Prod.snd) rest
  choice [
    do let _ ← accept .braceOpen; let _ ← accept .braceClose; return mapping [] none,
    do
      let _ ← accept .braceOpen
      let rest ← restPattern
      close
      return mapping [] (some rest),
    do
      let _ ← accept .braceOpen
      let items ← commaSeparated g.keyPattern
      let _ ← accept .comma
      let rest ← restPattern
      close
      return mapping items (some rest),
    do
      let _ ← accept .braceOpen
      let items ← commaSeparated g.keyPattern
      close
      return mapping items none]

def positionalPatterns : P (List Pattern) := commaSeparated g.pattern

def namedPattern : P (String × Pattern) := do
  let name ← nameText
  let _ ← accept .equal
  return (name, ← g.pattern)

def namedPatterns : P (List (String × Pattern)) := commaSeparated g.namedPattern

def classPattern : P Pattern :=
  let close : P Unit := do
    let _ ← optional (accept .comma)
    discard (accept .parenClose)
  let construct (type : Expr) (positional : List Pattern) (named : List (String × Pattern)) :
      Pattern :=
    .construct type positional (named.map Prod.fst) (named.map Prod.snd)
  choice [
    do
      let type ← attributeOf 0
      let _ ← accept .parenOpen; let _ ← accept .parenClose
      return construct type [] [],
    do
      let type ← attributeOf 0
      let _ ← accept .parenOpen
      let positional ← g.positionalPatterns
      close
      return construct type positional [],
    do
      let type ← attributeOf 0
      let _ ← accept .parenOpen
      let named ← g.namedPatterns
      close
      return construct type [] named,
    do
      let type ← attributeOf 0
      let _ ← accept .parenOpen
      let positional ← g.positionalPatterns
      let _ ← accept .comma
      let named ← g.namedPatterns
      close
      return construct type positional named,
    explain do
      let _ ← attributeOf 0
      let _ ← accept .parenOpen
      let _ ← optional do
        let _ ← g.positionalPatterns
        accept .comma
      let _ ← g.namedPatterns
      let _ ← accept .comma
      let line ← startLine
      let _ ← g.positionalPatterns
      raiseAt line .positionalAfterKeywordPattern]

def closedPatternBody : P Pattern :=
  choice [
    Pattern.value <$> loneNumber,
    Pattern.value <$> complexNumber,
    Pattern.value <$> g.strings,
    do let _ ← accept .kwNone; return .singleton .none,
    do let _ ← accept .kwTrue; return .singleton .true,
    do let _ ← accept .kwFalse; return .singleton .false,
    do return .capture none (some (← captureName)),
    do let _ ← underscore; return .capture none none,
    do
      let value ← attributeOf 1
      notQualified
      return .value value,
    do
      let _ ← accept .parenOpen
      let pattern ← g.pattern
      let _ ← accept .parenClose
      return pattern,
    g.sequencePattern,
    g.mappingPattern,
    g.classPattern]

/-- The pattern of a `case`. -/
def patterns : P Pattern := choice [Pattern.sequence <$> g.openSequence, g.pattern]

end Rules

end DocSuite.Syntax.Grammar
