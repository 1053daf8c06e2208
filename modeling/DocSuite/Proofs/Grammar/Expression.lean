import DocSuite.Proofs.Grammar.Text
import DocSuite.Syntax.Grammar.Pattern
import DocSuite.Syntax.Grammar.Target

/-!
Expressions, their parts, targets and patterns stand on one line of tokens.
-/
namespace DocSuite.Syntax.Grammar

section

variable {tokens : Array Token} {α : Type}

/-! ### Names, numbers and strings -/

instance : Consumes tokens nameText :=
  inferInstanceAs (Consumes tokens ((fun token => identifier token.text) <$> nameToken))

instance : Consumes tokens nameExpr := by
  unfold nameExpr
  infer_instance

instance (t : Terminal) (value : Literal) : Consumes tokens (constant t value) := by
  unfold constant
  infer_instance

instance : Consumes tokens number := by
  unfold number
  have h (token : Token) : Spans tokens (match numberLiteral token.text with
      | .ok value => pure ⟨token.line, .literal value⟩
      | .error fault => raiseAt token.line fault : P Expr) := by
    split <;> infer_instance
  infer_instance

instance (value : Except Fault α) : Spans tokens (orRaise value) := by
  unfold orRaise
  split <;> infer_instance

variable {g : Env → Except SyntaxFault Expr} {token : Token}

instance (rest expr : List Char) (mark : Char) :
    Spans tokens (fieldExpr g token rest expr mark) := by
  unfold fieldExpr
  split
  · infer_instance
  · dsimp only
    split
    · infer_instance
    · exact .of_stays (Reads.of_stays (fun _ => True) fun _ _ => ⟨rfl, rfl, fun _ _ => trivial⟩)

theorem spans_interpolation (isRaw : Bool) (fuel level : Nat) (pieces : List Piece)
    (cs : List Char) : Spans tokens (interpolation g token isRaw fuel level pieces cs) := by
  induction fuel generalizing level pieces cs with
  | zero =>
    unfold interpolation
    infer_instance
  | succ fuel ih =>
    have format (level : Nat) (rest : List Char) :
        Spans tokens (interpolation g token isRaw fuel (level + 1) [] rest) := ih _ _ _
    unfold interpolation
    refine @Spans.bind _ _ _ _ _ inferInstance fun run =>
      @Spans.bind _ _ _ _ _ inferInstance fun text => ?_
    dsimp only
    split
    · exact ih level _ _
    · split
      · split
        · infer_instance
        · refine @Spans.bind _ _ _ _ _ inferInstance fun rest => ?_
          split
          · infer_instance
          · refine @Spans.bind _ _ _ _ _ inferInstance fun value => ?_
            -- The conversion, the format and the end of the field each double what is left.
            repeat' first
              | exact ih _ _ _
              | infer_instance
              | split
              | refine @Spans.bind _ _ _ _ _ inferInstance fun _ => ?_
      · split <;> infer_instance

instance (first : Bool) (sofar : Adjacent) : Spans tokens (addString g first sofar token) := by
  have pieces (isRaw : Bool) (fuel : Nat) (body : List Char) :
      Spans tokens (interpolation g token isRaw fuel 0 sofar.pieces body) :=
    spans_interpolation isRaw fuel 0 _ body
  unfold addString
  dsimp only
  split
  · split
    · infer_instance
    · refine @Spans.bind _ _ _ _ _ inferInstance fun value => ?_
      split
      · infer_instance
      · split <;> infer_instance
  · split
    · split <;> infer_instance
    · infer_instance

theorem spans_addStrings (first : Bool) (sofar : Adjacent) (strings : List Token) :
    Spans tokens (addStrings g first sofar strings) := by
  induction strings generalizing first sofar with
  | nil =>
    unfold addStrings
    infer_instance
  | cons token strings ih =>
    unfold addStrings
    infer_instance

instance : Consumes tokens (adjacentStrings g) := by
  have h (found : List Token) : Spans tokens (addStrings g true {} found) :=
    spans_addStrings true {} found
  unfold adjacentStrings
  infer_instance

end

-- An instance for a rule is as large as the rule.
set_option synthInstance.maxSize 512

namespace Rules

variable {tokens : Array Token} {α : Type} (g : Rules) (s : Signature)

/-! ### Rules that the grammar is recursive through -/

section

variable [hg : g.Sound tokens]

instance : Consumes tokens g.expression := ⟨hg.reads .expression⟩
instance : Consumes tokens g.starExpression := ⟨hg.reads .starExpression⟩
instance : Consumes tokens g.disjunction := ⟨hg.reads .disjunction⟩
instance : Consumes tokens g.conjunction := ⟨hg.reads .conjunction⟩
instance : Consumes tokens g.inversion := ⟨hg.reads .inversion⟩
instance : Consumes tokens g.bitOr := ⟨hg.reads .bitOr⟩
instance : Consumes tokens g.bitXor := ⟨hg.reads .bitXor⟩
instance : Consumes tokens g.bitAnd := ⟨hg.reads .bitAnd⟩
instance : Consumes tokens g.shift := ⟨hg.reads .shift⟩
instance : Consumes tokens g.sum := ⟨hg.reads .sum⟩
instance : Consumes tokens g.term := ⟨hg.reads .term⟩
instance : Consumes tokens g.factor := ⟨hg.reads .factor⟩
instance : Consumes tokens g.awaitPrimary := ⟨hg.reads .awaitPrimary⟩
instance : Consumes tokens g.primary := ⟨hg.reads .primary⟩
instance : Consumes tokens g.strings := ⟨hg.reads .strings⟩
instance : Consumes tokens g.arguments := ⟨hg.reads .arguments⟩
instance : Consumes tokens g.faultyNamedExpression := ⟨hg.reads .faultyNamedExpression⟩
instance : Consumes tokens g.starTarget := ⟨hg.reads .starTarget⟩
instance : Consumes tokens g.targetWithStarAtom := ⟨hg.reads .targetWithStarAtom⟩
instance : Consumes tokens g.targetPrimary := ⟨hg.reads .targetPrimary⟩
instance : Consumes tokens g.delTarget := ⟨hg.reads .delTarget⟩
instance : Consumes tokens g.singleTarget := ⟨hg.reads .singleTarget⟩
instance : Consumes tokens g.faultyAnnotationTarget := ⟨hg.reads .faultyAnnotationTarget⟩
instance : Consumes tokens g.closedPattern := ⟨hg.reads .closedPattern⟩

end

/-! ### Parameters -/

section

variable [hg : g.Sound tokens]

instance : Consumes tokens (g.param s) := by
  unfold param
  cases s <;> infer_instance

instance : Consumes tokens g.starParam := by
  unfold starParam
  infer_instance

instance : Consumes tokens g.paramDefault := by
  unfold paramDefault
  infer_instance

instance (p : P Param) [Consumes tokens p] : Consumes tokens (paramEnd s p) := by
  unfold paramEnd
  infer_instance

instance : Consumes tokens (g.paramPlain s) := by
  unfold paramPlain
  infer_instance

instance : Consumes tokens (g.paramWithDefault s) := by
  unfold paramWithDefault
  infer_instance

instance : Consumes tokens (g.paramMaybeDefault s) := by
  unfold paramMaybeDefault
  infer_instance

instance (p : P α) [Consumes tokens p] : Consumes tokens (slashEnd s p) := by
  unfold slashEnd
  infer_instance

instance : Consumes tokens (g.slashPlain s) := by
  unfold slashPlain
  infer_instance

instance : Consumes tokens (g.slashWithDefault s) := by
  unfold slashWithDefault
  infer_instance

instance : Consumes tokens (g.keywordRest s) := by
  unfold keywordRest
  infer_instance

instance : Consumes tokens (g.starParams s) := by
  unfold starParams
  dsimp only
  infer_instance

instance (positional plain : List Param) : Spans tokens (g.paramsBehind s positional plain) := by
  unfold paramsBehind
  infer_instance

instance : Consumes tokens (g.parameters s) := by
  unfold parameters
  infer_instance

instance : Consumes tokens (g.params s) := by
  unfold params
  infer_instance

end

/-! ### Expressions -/

section

instance (t : Terminal) (p : P α) [Spans tokens p] : Consumes tokens (behind t p) := by
  unfold behind
  infer_instance

instance (p : P α) [Spans tokens p] : Spans tokens (discard p) :=
  inferInstanceAs (Spans tokens ((fun _ => ()) <$> p))

instance (p : P α) [Consumes tokens p] : Consumes tokens (discard p) :=
  inferInstanceAs (Consumes tokens ((fun _ => ()) <$> p))

instance (p : P Expr) [Spans tokens p] : Consumes tokens (starred p) := by
  unfold starred
  infer_instance

instance (item : P Expr) [Consumes tokens item] : Consumes tokens (tupleOf item) := by
  unfold tupleOf
  infer_instance

instance (op : Connective) (t : Terminal) (operand : P Expr) [Consumes tokens operand] :
    Consumes tokens (connected op t operand) := by
  unfold connected
  infer_instance

instance (ops : List (Terminal × BinaryOp)) (operand : P Expr) [Consumes tokens operand] :
    Consumes tokens (leftGrouped ops operand) := by
  unfold leftGrouped
  infer_instance

variable [hg : g.Sound tokens]

instance : Consumes tokens g.starredExpression := by
  unfold starredExpression
  infer_instance

instance : Consumes tokens g.starExpressions := by
  unfold starExpressions
  infer_instance

instance : Consumes tokens g.expressions := by
  unfold expressions
  infer_instance

instance : Consumes tokens g.starExpressionBody := by
  unfold starExpressionBody
  infer_instance

instance : Consumes tokens g.assignmentExpression := by
  unfold assignmentExpression
  infer_instance

instance : Consumes tokens g.namedExpression := by
  unfold namedExpression
  infer_instance

instance : Consumes tokens g.plainOrNamed := by
  unfold plainOrNamed
  infer_instance

instance : Consumes tokens g.starNamedExpression := by
  unfold starNamedExpression
  infer_instance

instance : Consumes tokens g.starNamedExpressions := by
  unfold starNamedExpressions
  infer_instance

instance : Consumes tokens g.yieldExpr := by
  unfold yieldExpr
  infer_instance

instance : Consumes tokens g.yieldOrStars := by
  unfold yieldOrStars
  infer_instance

instance : Consumes tokens g.lambda := by
  unfold lambda
  infer_instance

instance : Consumes tokens g.conditional := by
  unfold conditional
  infer_instance

instance : Consumes tokens g.expressionBody := by
  unfold expressionBody
  infer_instance

instance : Consumes tokens g.disjunctionBody := by
  unfold disjunctionBody
  infer_instance

instance : Consumes tokens g.conjunctionBody := by
  unfold conjunctionBody
  infer_instance

instance : Consumes tokens g.comparison := by
  unfold comparison
  infer_instance

instance : Consumes tokens g.inversionBody := by
  unfold inversionBody
  infer_instance

instance : Consumes tokens g.bitOrBody := by
  unfold bitOrBody
  infer_instance

instance : Consumes tokens g.bitXorBody := by
  unfold bitXorBody
  infer_instance

instance : Consumes tokens g.bitAndBody := by
  unfold bitAndBody
  infer_instance

instance : Consumes tokens g.shiftBody := by
  unfold shiftBody
  infer_instance

instance : Consumes tokens g.sumBody := by
  unfold sumBody
  infer_instance

instance : Consumes tokens g.termBody := by
  unfold termBody
  infer_instance

instance : Consumes tokens g.factorBody := by
  unfold factorBody
  infer_instance

end

/-! ### Comprehensions, displays and primaries -/

section

variable [hg : g.Sound tokens]

instance : Consumes tokens g.targets := by
  unfold targets
  infer_instance

instance : Consumes tokens g.generator := by
  unfold generator
  dsimp only
  infer_instance

instance : Consumes tokens g.generators := by
  unfold generators
  infer_instance

instance (bracket : Bracket) (openWith closeWith : Terminal) (element : P Expr)
    [Consumes tokens element] :
    Consumes tokens (g.comprehensionIn bracket openWith closeWith element) := by
  unfold comprehensionIn
  infer_instance

instance : Consumes tokens g.generatorExpression := by
  unfold generatorExpression
  infer_instance

instance : Consumes tokens g.list := by
  unfold list
  infer_instance

instance : Consumes tokens g.tuple := by
  unfold tuple
  infer_instance

instance : Consumes tokens g.set := by
  unfold set
  infer_instance

instance : Consumes tokens g.entry := by
  unfold entry
  infer_instance

instance : AllConsume tokens g.faultyEntryValue := by
  unfold faultyEntryValue
  infer_instance

instance : Consumes tokens g.faultyEntries := by
  unfold faultyEntries
  infer_instance

instance : Consumes tokens g.dict := by
  unfold dict
  infer_instance

instance : Consumes tokens g.dictComprehension := by
  unfold dictComprehension
  infer_instance

instance : Consumes tokens g.group := by
  unfold group
  infer_instance

instance : Consumes tokens g.atom := by
  unfold atom
  infer_instance

instance : Consumes tokens g.slice := by
  unfold slice
  infer_instance

instance : Consumes tokens g.slices := by
  unfold slices
  infer_instance

instance (line : Nat) (value : Expr) : AllConsume tokens (g.trailers line value) := by
  unfold trailers
  infer_instance

instance : Consumes tokens g.primaryBody := by
  unfold primaryBody
  infer_instance

instance : Consumes tokens g.awaitPrimaryBody := by
  unfold awaitPrimaryBody
  infer_instance

instance : Consumes tokens g.stringsBody := by
  unfold stringsBody
  infer_instance

instance : Consumes tokens g.faultyNamedExpressionBody := by
  unfold faultyNamedExpressionBody
  dsimp only
  infer_instance

end

/-! ### Arguments and targets -/

section

instance (openWith closeWith : Terminal) (p : P Expr) [Spans tokens p] :
    Consumes tokens (bracketed openWith closeWith p) := by
  unfold bracketed
  infer_instance

instance (openWith closeWith : Terminal) (elements : P (List Expr)) (form : List Expr → Form)
    [Spans tokens elements] : Consumes tokens (elementsIn openWith closeWith elements form) := by
  unfold elementsIn
  infer_instance

instance : Consumes tokens goesOn := by
  unfold goesOn
  infer_instance

variable [hg : g.Sound tokens]

instance : Consumes tokens g.namedArgument := by
  unfold namedArgument
  infer_instance

instance : Consumes tokens g.keywordOrStarred := by
  unfold keywordOrStarred
  infer_instance

instance : Consumes tokens g.keywordOrDoubleStarred := by
  unfold keywordOrDoubleStarred
  infer_instance

instance : Consumes tokens g.keywordArguments := by
  unfold keywordArguments
  infer_instance

instance : Consumes tokens g.positionalArgument := by
  unfold positionalArgument
  infer_instance

instance : Consumes tokens g.args := by
  unfold args
  infer_instance

instance : Consumes tokens g.argumentsBody := by
  unfold argumentsBody
  infer_instance

instance : Consumes tokens g.targetPrimaryBody := by
  unfold targetPrimaryBody
  dsimp only
  have continued (line : Nat) (value : Expr) : AllConsume tokens
      ((g.trailers line value).map fun p => do
        let value ← p
        ahead goesOn
        pure value) := by
    refine ⟨fun q hq => ?_⟩
    obtain ⟨p, hp, rfl⟩ := List.mem_map.mp hq
    have := @AllConsume.consumes tokens _ _ _ p hp
    infer_instance
  infer_instance

instance : AllConsume tokens g.attributeOrIndex := by
  unfold attributeOrIndex
  infer_instance

instance : Consumes tokens g.starTargetBody := by
  unfold starTargetBody
  infer_instance

instance : Consumes tokens g.tupleTargets := by
  unfold tupleTargets
  infer_instance

instance : Consumes tokens g.listTargets := by
  unfold listTargets
  infer_instance

instance : Consumes tokens g.targetWithStarAtomBody := by
  unfold targetWithStarAtomBody
  infer_instance

instance : Consumes tokens g.singleTargetBody := by
  unfold singleTargetBody
  infer_instance

instance : Consumes tokens g.delTargets := by
  unfold delTargets
  infer_instance

instance : Consumes tokens g.delTargetBody := by
  unfold delTargetBody
  infer_instance

instance : Consumes tokens g.faultyAnnotationTargetBody := by
  unfold faultyAnnotationTargetBody
  infer_instance

end

/-! ### Patterns -/

section

instance : Consumes tokens underscore := by
  unfold underscore
  infer_instance

instance (p : P Expr) [Consumes tokens p] : Consumes tokens (signed p) := by
  unfold signed
  infer_instance

instance : Consumes tokens realNumber := by
  unfold realNumber
  infer_instance

instance : Consumes tokens imaginaryNumber := by
  unfold imaginaryNumber
  infer_instance

instance : Consumes tokens complexNumber := by
  unfold complexNumber
  infer_instance

instance : Consumes tokens loneNumber := by
  unfold loneNumber
  infer_instance

instance : Spans tokens notQualified := by
  unfold notQualified
  infer_instance

instance : Consumes tokens captureName := by
  unfold captureName
  infer_instance

instance (least : Nat) : Consumes tokens (attributeOf least) := by
  unfold attributeOf
  infer_instance

variable [hg : g.Sound tokens]

instance : Consumes tokens g.orPattern := by
  unfold orPattern
  have alone (patterns : List Pattern) : Spans tokens (match patterns with
      | [pattern] => pure pattern
      | _ => pure (.either patterns) : P Pattern) := by
    split <;> infer_instance
  infer_instance

instance : Consumes tokens g.pattern := by
  unfold pattern
  infer_instance

instance : Consumes tokens g.maybeStarPattern := by
  unfold maybeStarPattern
  infer_instance

instance : Consumes tokens g.sequenceItems := by
  unfold sequenceItems
  infer_instance

instance : Consumes tokens g.openSequence := by
  unfold openSequence
  infer_instance

instance : Consumes tokens g.sequencePattern := by
  unfold sequencePattern
  infer_instance

instance : Consumes tokens g.literalKey := by
  unfold literalKey
  infer_instance

instance : Consumes tokens g.keyPattern := by
  unfold keyPattern
  infer_instance

instance : Consumes tokens restPattern := by
  unfold restPattern
  infer_instance

instance : Consumes tokens g.mappingPattern := by
  unfold mappingPattern
  dsimp only
  infer_instance

instance : Consumes tokens g.positionalPatterns := by
  unfold positionalPatterns
  infer_instance

instance : Consumes tokens g.namedPattern := by
  unfold namedPattern
  infer_instance

instance : Consumes tokens g.namedPatterns := by
  unfold namedPatterns
  infer_instance

instance : Consumes tokens g.classPattern := by
  unfold classPattern
  dsimp only
  infer_instance

instance : Consumes tokens g.closedPatternBody := by
  unfold closedPatternBody
  infer_instance

instance : Consumes tokens g.patterns := by
  unfold patterns
  infer_instance

end

end Rules

end DocSuite.Syntax.Grammar
