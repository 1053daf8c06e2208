import DocSuite.Proofs.Grammar.LineLiteral
import DocSuite.Syntax.Grammar.Compound

/-!
Lines that the rules of the grammar name. Main statement: over tokens in lines of which something
holds, each rule stops in such a line only.
-/
-- The instance for a rule has a part for each parser that the rule is put together of.
set_option synthInstance.maxSize 2000

namespace DocSuite.Syntax.Grammar

variable {p : Nat → Prop}

/-! ### Rules -/

/-- Rules that stop in lines of which something holds. -/
class Rules.Within (p : Nat → Prop) (g : Rules) : Prop where
  within : ∀ r, Yields p (r.InLines p) (g.read r)

namespace Rules

variable (g : Rules) [hg : g.Within p]

instance : Grammar.Within p g.simpleStmt := ⟨hg.within .simpleStmt⟩
instance : Grammar.Within p g.block := ⟨hg.within .block⟩
instance : Grammar.Within p g.elifStmt := ⟨hg.within .elifStmt⟩
instance : Grammar.Within p g.expression := ⟨hg.within .expression⟩
instance : Grammar.Within p g.starExpression := ⟨hg.within .starExpression⟩
instance : Grammar.Within p g.disjunction := ⟨hg.within .disjunction⟩
instance : Grammar.Within p g.conjunction := ⟨hg.within .conjunction⟩
instance : Grammar.Within p g.inversion := ⟨hg.within .inversion⟩
instance : Grammar.Within p g.bitOr := ⟨hg.within .bitOr⟩
instance : Grammar.Within p g.bitXor := ⟨hg.within .bitXor⟩
instance : Grammar.Within p g.bitAnd := ⟨hg.within .bitAnd⟩
instance : Grammar.Within p g.shift := ⟨hg.within .shift⟩
instance : Grammar.Within p g.sum := ⟨hg.within .sum⟩
instance : Grammar.Within p g.term := ⟨hg.within .term⟩
instance : Grammar.Within p g.factor := ⟨hg.within .factor⟩
instance : Grammar.Within p g.awaitPrimary := ⟨hg.within .awaitPrimary⟩
instance : Grammar.Within p g.primary := ⟨hg.within .primary⟩
instance : Grammar.Within p g.strings := ⟨hg.within .strings⟩
instance : Grammar.Within p g.arguments := ⟨hg.within .arguments⟩
instance : Grammar.Within p g.faultyNamedExpression := ⟨hg.within .faultyNamedExpression⟩
instance : Grammar.Within p g.starTarget := ⟨hg.within .starTarget⟩
instance : Grammar.Within p g.targetWithStarAtom := ⟨hg.within .targetWithStarAtom⟩
instance : Grammar.Within p g.targetPrimary := ⟨hg.within .targetPrimary⟩
instance : Grammar.Within p g.delTarget := ⟨hg.within .delTarget⟩
instance : Grammar.Within p g.singleTarget := ⟨hg.within .singleTarget⟩
instance : Grammar.Within p g.faultyAnnotationTarget := ⟨hg.within .faultyAnnotationTarget⟩
instance : Grammar.Within p g.closedPattern := ⟨hg.within .closedPattern⟩

/-! ### Parameters -/

section

variable (s : Signature)

instance : Grammar.Within p (g.param s) := by
  unfold param
  cases s <;> infer_instance

instance : Grammar.Within p g.starParam := by
  unfold starParam
  infer_instance

instance : Grammar.Within p g.paramDefault := by
  unfold paramDefault
  infer_instance

instance (m : P Param) [Grammar.Within p m] : Grammar.Within p (paramEnd s m) := by
  unfold paramEnd
  infer_instance

instance : Grammar.Within p (g.paramPlain s) := by
  unfold paramPlain
  infer_instance

instance : Grammar.Within p (g.paramWithDefault s) := by
  unfold paramWithDefault
  infer_instance

instance : Grammar.Within p (g.paramMaybeDefault s) := by
  unfold paramMaybeDefault
  infer_instance

instance {α : Type} [Lined α] (m : P α) [Grammar.Within p m] :
    Grammar.Within p (slashEnd s m) := by
  unfold slashEnd
  infer_instance

instance : Grammar.Within p (g.slashPlain s) := by
  unfold slashPlain
  infer_instance

instance : Grammar.Within p (g.slashWithDefault s) := by
  unfold slashWithDefault
  infer_instance

instance : Grammar.Within p afterKeywordRest := by
  unfold afterKeywordRest
  infer_instance

instance : Grammar.Within p (g.keywordRest s) := by
  unfold keywordRest
  infer_instance

instance : Grammar.Within p (g.paramOrComma s) := by
  unfold paramOrComma
  infer_instance

instance : Grammar.Within p (g.faultyStar s) := by
  unfold faultyStar
  cases s <;> infer_instance

instance : Grammar.Within p (g.starParams s) := by
  unfold starParams
  cases s <;> infer_instance

instance (positional plain : List Param) :
    Grammar.Within p (g.paramsBehind s positional plain) := by
  unfold paramsBehind
  infer_instance

instance : Grammar.Within p (g.parameters s) := by
  unfold parameters
  infer_instance

instance : Grammar.Within p (g.slashParams s) := by
  unfold slashParams
  infer_instance

instance : Grammar.Within p (g.parenthesizedParams s) := by
  unfold parenthesizedParams
  cases s <;> infer_instance

instance : Grammar.Within p (g.faultyParameters s) := by
  unfold faultyParameters
  infer_instance

instance : Grammar.Within p (g.params s) := by
  unfold params
  infer_instance

end

/-! ### Expressions -/

instance (use : TargetUse) (e : Expr) [h : StartsIn p e] :
    Grammar.Within p (raiseInvalidTarget use e) := by
  unfold raiseInvalidTarget
  split
  next part hpart =>
    have : Holds p part.line := ⟨line_of_invalidTarget? h.inLines hpart⟩
    infer_instance
  next => infer_instance

instance (m : P Expr) [Grammar.Within p m] : Grammar.Within p (starred m) := by
  unfold starred
  infer_instance

instance (m : P Expr) [Grammar.Within p m] : Grammar.Within p (tupleOf m) := by
  unfold tupleOf
  infer_instance

instance : Grammar.Within p g.starredExpression := by
  unfold starredExpression
  infer_instance

instance : Grammar.Within p g.starExpressions := by
  unfold starExpressions
  infer_instance

instance : Grammar.Within p g.expressions := by
  unfold expressions
  infer_instance

instance : Grammar.Within p g.starExpressionBody := by
  unfold starExpressionBody
  infer_instance

instance : Grammar.Within p g.assignmentExpression := by
  unfold assignmentExpression
  infer_instance

instance : Grammar.Within p g.namedExpression := by
  unfold namedExpression
  infer_instance

instance : Grammar.Within p g.plainOrNamed := by
  unfold plainOrNamed
  infer_instance

instance : Grammar.Within p g.starNamedExpression := by
  unfold starNamedExpression
  infer_instance

instance : Grammar.Within p g.starNamedExpressions := by
  unfold starNamedExpressions
  infer_instance

instance : Grammar.Within p g.yieldExpr := by
  unfold yieldExpr
  infer_instance

instance : Grammar.Within p g.yieldOrStars := by
  unfold yieldOrStars
  infer_instance

instance : Grammar.Within p g.lambda := by
  unfold lambda
  infer_instance

instance : Grammar.Within p g.conditional := by
  unfold conditional
  infer_instance

instance : Grammar.Within p g.conditionalOrLess := by
  unfold conditionalOrLess
  infer_instance

instance : Grammar.Within p g.faultyExpression := by
  unfold faultyExpression
  infer_instance

instance : Grammar.Within p g.faultyStatementWord := by
  unfold faultyStatementWord
  infer_instance

instance : Grammar.Within p g.expressionBody := by
  unfold expressionBody
  infer_instance

instance (op : Connective) (t : Terminal) (m : P Expr) [Grammar.Within p m] :
    Grammar.Within p (connected op t m) := by
  unfold connected
  infer_instance

instance : Grammar.Within p g.disjunctionBody := by
  unfold disjunctionBody
  infer_instance

instance : Grammar.Within p g.conjunctionBody := by
  unfold conjunctionBody
  infer_instance

instance : Grammar.Within p g.comparison := by
  unfold comparison
  infer_instance

instance : Grammar.Within p g.inversionBody := by
  unfold inversionBody
  infer_instance

instance (ops : List (Terminal × BinaryOp)) (m : P Expr) [Grammar.Within p m] :
    Grammar.Within p (leftGrouped ops m) := by
  unfold leftGrouped
  infer_instance

instance : Grammar.Within p g.bitOrBody := by
  unfold bitOrBody
  infer_instance

instance : Grammar.Within p g.bitXorBody := by
  unfold bitXorBody
  infer_instance

instance : Grammar.Within p g.bitAndBody := by
  unfold bitAndBody
  infer_instance

instance : Grammar.Within p g.shiftBody := by
  unfold shiftBody
  infer_instance

instance : Grammar.Within p g.sumBody := by
  unfold sumBody
  infer_instance

instance : Grammar.Within p g.termBody := by
  unfold termBody
  infer_instance

instance : Grammar.Within p g.factorBody := by
  unfold factorBody
  infer_instance

instance : Grammar.Within p g.targets := by
  unfold targets
  infer_instance

instance : Grammar.Within p g.faultyForTarget := by
  unfold faultyForTarget
  infer_instance

instance : Grammar.Within p g.generator := by
  unfold generator
  infer_instance

instance : Grammar.Within p g.generators := by
  unfold generators
  infer_instance

instance : Grammar.Within p g.faultyComprehension := by
  unfold faultyComprehension
  infer_instance

instance (bracket : Bracket) (openWith closeWith : Terminal) (m : P Expr)
    [Grammar.Within p m] : Grammar.Within p (g.comprehensionIn bracket openWith closeWith m) := by
  unfold comprehensionIn
  infer_instance

instance : Grammar.Within p g.generatorExpression := by
  unfold generatorExpression
  infer_instance

instance : Grammar.Within p g.list := by
  unfold list
  infer_instance

instance : Grammar.Within p g.tuple := by
  unfold tuple
  infer_instance

instance : Grammar.Within p g.set := by
  unfold set
  infer_instance

instance : Grammar.Within p g.entry := by
  unfold entry
  infer_instance

instance : AllWithin p g.faultyEntryValue := by
  unfold faultyEntryValue
  infer_instance

instance : Grammar.Within p g.faultyEntries := by
  unfold faultyEntries
  infer_instance

instance : Grammar.Within p g.dict := by
  unfold dict
  infer_instance

instance : Grammar.Within p g.dictComprehension := by
  unfold dictComprehension
  infer_instance

instance : Grammar.Within p g.group := by
  unfold group
  infer_instance

instance : Grammar.Within p g.atom := by
  unfold atom
  infer_instance

instance : Grammar.Within p g.slice := by
  unfold slice
  infer_instance

instance : Grammar.Within p g.slices := by
  unfold slices
  infer_instance

instance (line : Nat) (function : Expr) (arguments : Option Arguments) [Holds p line] :
    StartsIn p (callOf line function arguments) := by
  unfold callOf
  split <;> infer_instance

instance (line : Nat) (value : Expr) [Holds p line] : AllWithin p (g.trailers line value) := by
  unfold trailers
  infer_instance

instance : Grammar.Within p g.primaryBody := by
  unfold primaryBody
  infer_instance

instance : Grammar.Within p g.awaitPrimaryBody := by
  unfold awaitPrimaryBody
  infer_instance

instance : Grammar.Within p g.faultyNamedExpressionBody := by
  unfold faultyNamedExpressionBody
  infer_instance

instance : Grammar.Within p g.stringsBody :=
  ⟨yields_adjacentStrings fun _ _ henv h =>
    henv.parse (Grammar.Within.yields (m := g.starExpressions)).settles h⟩

/-! ### Arguments -/

instance (value : Expr) [h : StartsIn p value] : StartsIn p (KeywordArgument.starred value) :=
  ⟨h.inLines⟩

instance (keyword : Keyword) : StartsIn p (KeywordArgument.keyword keyword) := ⟨trivial⟩

instance : Grammar.Within p g.faultyKeyword := by
  unfold faultyKeyword
  infer_instance

instance : Grammar.Within p g.namedArgument := by
  unfold namedArgument
  infer_instance

instance : Grammar.Within p g.keywordOrStarred := by
  unfold keywordOrStarred
  infer_instance

instance : Grammar.Within p g.keywordOrDoubleStarred := by
  unfold keywordOrDoubleStarred
  infer_instance

instance : Grammar.Within p g.keywordArguments := by
  unfold keywordArguments
  infer_instance

instance (line : Nat) (positional : List Expr) (named : List KeywordArgument) [hl : Holds p line]
    [hp : StartsIn p positional] [hn : StartsIn p named] :
    StartsIn p (collect line positional named) := by
  refine ⟨hl.holds, fun e he => (List.mem_append.mp he).elim (hp.inLines e) fun he => ?_⟩
  obtain ⟨argument, hm, h⟩ := List.mem_filterMap.mp he
  have hin := hn.inLines argument hm
  cases argument with
  | starred value => exact Option.some.inj h ▸ hin
  | keyword => cases h

instance : Grammar.Within p g.positionalArgument := by
  unfold positionalArgument
  infer_instance

instance : Grammar.Within p g.args := by
  unfold args
  infer_instance

instance : Grammar.Within p g.faultyArguments := by
  have (arguments : LinedValue p Arguments) :
      Grammar.Within p (match arguments.value.args with
        | _ :: _ :: _ =>
            let last := (arguments.value.args.getLast?).getD default
            raiseAt last.line .unparenthesizedGenerator
        | _ => giveUp : P Unit) := by
    split
    next first second rest h =>
      have : Holds p ((arguments.value.args.getLast?).getD default).line := by
        refine ⟨Expr.InLines.line (arguments.inLines.2 _ ?_)⟩
        rw [h, List.getLast?_eq_some_getLast (by simp), Option.getD_some]
        exact List.getLast_mem _
      infer_instance
    next => infer_instance
  unfold faultyArguments
  infer_instance

instance : Grammar.Within p g.argumentsBody := by
  unfold argumentsBody
  infer_instance

/-! ### Targets -/

instance : Grammar.Within p goesOn := by
  unfold goesOn
  infer_instance

instance : Grammar.Within p g.targetPrimaryBody := by
  have (line : LineOf p) (value : Expr) :
      AllWithin p ((g.trailers line.number value).map fun m => do
        let value ← m
        ahead goesOn
        pure value) :=
    .map fun m _ => inferInstance
  unfold targetPrimaryBody
  dsimp only
  infer_instance

instance : AllWithin p g.attributeOrIndex := by
  unfold attributeOrIndex
  infer_instance

instance : Grammar.Within p g.starTargetBody := by
  unfold starTargetBody
  infer_instance

instance : Grammar.Within p g.tupleTargets := by
  unfold tupleTargets
  infer_instance

instance : Grammar.Within p g.listTargets := by
  unfold listTargets
  infer_instance

instance (openWith closeWith : Terminal) (m : P Expr) [Grammar.Within p m] :
    Grammar.Within p (bracketed openWith closeWith m) := by
  unfold bracketed
  infer_instance

instance (openWith closeWith : Terminal) (elements : P (List Expr)) [Grammar.Within p elements]
    (form : List Expr → Form) [hf : ∀ es : LinedValue p (List Expr), StartsIn p (form es.value)] :
    Grammar.Within p (elementsIn openWith closeWith elements form) := by
  have (es? : LinedValue p (Option (List Expr))) : StartsIn p (form (es?.value.getD [])) :=
    hf ⟨es?.value.getD [], StartsIn.inLines⟩
  unfold elementsIn
  infer_instance

instance : Grammar.Within p g.targetWithStarAtomBody := by
  unfold targetWithStarAtomBody
  infer_instance

instance : Grammar.Within p g.singleTargetBody := by
  unfold singleTargetBody
  infer_instance

instance : Grammar.Within p g.delTargets := by
  unfold delTargets
  infer_instance

instance : Grammar.Within p g.delTargetBody := by
  unfold delTargetBody
  infer_instance

instance : Grammar.Within p g.faultyAnnotationTargetBody := by
  unfold faultyAnnotationTargetBody
  infer_instance

end Rules

end DocSuite.Syntax.Grammar
