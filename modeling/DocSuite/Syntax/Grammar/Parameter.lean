import DocSuite.Syntax.Grammar.Literal

/-!
Parameters of functions and of lambdas. Those of a function may have annotations and end at a
closing parenthesis, those of a lambda end at its colon.
-/
namespace DocSuite.Syntax.Grammar

/-- Where parameters stand. -/
inductive Signature
  | function
  | lambda
  deriving DecidableEq, Repr

namespace Signature

/-- What ends the parameters. -/
def close : Signature → Terminal
  | function => .parenClose
  | lambda => .colon

end Signature

def Param.withDefault (default : Option Expr) : Param → Param
  | ⟨name, hint, _⟩ => ⟨name, hint, default⟩

namespace Rules

variable (g : Rules) (s : Signature)

/-- A name with its annotation, if it may have one. -/
def param : P Param := do
  let name ← nameText
  let hint ← match s with
    | .function => optional (do let _ ← accept .colon; g.expression)
    | .lambda => pure none
  return ⟨name, hint, none⟩

/-- The annotation of a variadic parameter can be starred. -/
def starParam : P Param := do
  let name ← nameText
  let _ ← accept .colon
  return ⟨name, some (← g.starExpression), none⟩

def paramDefault : P Expr :=
  choice [
    do let _ ← accept .equal; g.expression,
    explain do
      let token ← accept .equal
      ahead (choice [accept .parenClose, accept .comma])
      raiseAt token.line .expectedDefault]

/-- A parameter is followed by a comma or by the end. -/
def paramEnd (p : P Param) : P Param :=
  choice [
    do let a ← p; let _ ← accept .comma; pure a,
    do let a ← p; ahead (accept s.close); pure a]

def paramPlain : P Param := paramEnd s (g.param s)

def paramWithDefault : P Param :=
  paramEnd s do
    let a ← g.param s
    return Param.withDefault (some (← g.paramDefault)) a

def paramMaybeDefault : P Param :=
  paramEnd s do
    let a ← g.param s
    return Param.withDefault (← optional g.paramDefault) a

/-- The slash behind positional parameters. -/
def slashEnd {α : Type} (p : P α) : P α :=
  choice [
    do let a ← p; let _ ← accept .slash; let _ ← accept .comma; pure a,
    do let a ← p; let _ ← accept .slash; ahead (accept s.close); pure a]

def slashPlain : P (List Param) := slashEnd s (many1 (g.paramPlain s))

def slashWithDefault : P (List Param) :=
  slashEnd s do
    let plain ← many (g.paramPlain s)
    return plain ++ (← many1 (g.paramWithDefault s))

/-- What a star introduces: the variadic parameter, those behind it, and the doubly starred
one. -/
structure StarParams where
  rest : Option Param := none
  keywordOnly : List Param := []
  keywordRest : Option Param := none

/-- A token that cannot follow the doubly starred parameter. -/
def afterKeywordRest : P Token := choice [accept .star, accept .pow, accept .slash]

def keywordRest : P Param :=
  choice [
    explain (choice [
      do
        let _ ← accept .pow; let _ ← g.param s
        raiseAt (← accept .equal).line .doubleStarDefault,
      do
        let _ ← accept .pow; let _ ← g.param s; let _ ← accept .comma
        let line ← startLine; let _ ← g.param s
        raiseAt line .afterDoubleStar,
      do
        let _ ← accept .pow; let _ ← g.param s; let _ ← accept .comma
        raiseAt (← afterKeywordRest).line .afterDoubleStar]),
    do let _ ← accept .pow; g.paramPlain s]

def paramOrComma : P Unit :=
  choice [(fun _ => ()) <$> g.paramPlain s, (fun _ => ()) <$> accept .comma]

def faultyStar : P Unit :=
  choice [
    do
      let token ← accept .star
      let _ ← choice [
        accept s.close,
        do let _ ← accept .comma; choice [accept s.close, accept .pow]]
      match s with
      | .function => raiseAt token.line .bareStar
      | .lambda => raiseLast .bareStar,
    do
      let _ ← accept .star; let _ ← g.param s
      raiseAt (← accept .equal).line .starDefault,
    do
      let _ ← accept .star; g.paramOrComma s; let _ ← many (g.paramMaybeDefault s)
      let token ← accept .star
      g.paramOrComma s
      raiseAt token.line .repeatedStar]

def starParams : P StarParams :=
  choice [
    explain (g.faultyStar s),
    do
      let _ ← accept .star
      let rest ← g.paramPlain s
      let keywordOnly ← many (g.paramMaybeDefault s)
      return ⟨some rest, keywordOnly, ← optional (g.keywordRest s)⟩,
    do
      if s = .lambda then fail
      let _ ← accept .star
      let rest ← paramEnd s g.starParam
      let keywordOnly ← many (g.paramMaybeDefault s)
      return ⟨some rest, keywordOnly, ← optional (g.keywordRest s)⟩,
    do
      let _ ← accept .star; let _ ← accept .comma
      let keywordOnly ← many1 (g.paramMaybeDefault s)
      return ⟨none, keywordOnly, ← optional (g.keywordRest s)⟩,
    do return ⟨none, [], some (← g.keywordRest s)⟩]

/-- Parameters behind those that are only positional. -/
def paramsBehind (positional plain : List Param) : P Params := do
  let star ← optional (g.starParams s)
  let star := star.getD {}
  return ⟨positional, plain, star.rest, star.keywordOnly, star.keywordRest⟩

def parameters : P Params :=
  choice [
    do
      let positional ← g.slashPlain s
      let plain ← many (g.paramPlain s)
      let defaults ← many (g.paramWithDefault s)
      g.paramsBehind s positional (plain ++ defaults),
    do
      let positional ← g.slashWithDefault s
      let defaults ← many (g.paramWithDefault s)
      g.paramsBehind s positional defaults,
    do
      let plain ← many1 (g.paramPlain s)
      let defaults ← many (g.paramWithDefault s)
      g.paramsBehind s [] (plain ++ defaults),
    do g.paramsBehind s [] (← many1 (g.paramWithDefault s)),
    do
      let star ← g.starParams s
      return ⟨[], [], star.rest, star.keywordOnly, star.keywordRest⟩]

def slashParams : P (List Param) := choice [g.slashPlain s, g.slashWithDefault s]

/-- Parameters in parentheses. -/
def parenthesizedParams : P Unit := do
  let token ← accept .parenOpen
  match s with
  | .function => let _ ← many1 (g.paramPlain s)
  | .lambda => let _ ← commaSeparated (g.param s)
  let _ ← optional (accept .comma)
  let _ ← accept .parenClose
  raiseAt token.line (.parenthesizedParameters (s = .lambda))

def faultyParameters : P Unit :=
  choice [
    do
      let _ ← many (g.paramPlain s)
      let _ ← choice [g.slashWithDefault s, many1 (g.paramWithDefault s)]
      let line ← startLine; let _ ← g.paramPlain s
      raiseAt line .defaultOrder,
    do let _ ← many (g.paramPlain s); g.parenthesizedParams s,
    do
      let token ← accept .slash; let _ ← accept .comma
      raiseAt token.line .nothingBeforeSlash,
    do
      let _ ← g.slashParams s; let _ ← many (g.paramMaybeDefault s)
      raiseAt (← accept .slash).line .repeatedSlash,
    do
      let _ ← optional (g.slashParams s); let _ ← many (g.paramMaybeDefault s)
      let _ ← accept .star; g.paramOrComma s; let _ ← many (g.paramMaybeDefault s)
      raiseAt (← accept .slash).line .slashAfterStar,
    do
      let _ ← many1 (g.paramMaybeDefault s); let _ ← accept .slash
      raiseAt (← accept .star).line .slashStar]

def params : P Params := choice [explain (g.faultyParameters s), g.parameters s]

end Rules

end DocSuite.Syntax.Grammar
