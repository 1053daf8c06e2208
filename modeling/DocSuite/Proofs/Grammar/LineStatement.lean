import DocSuite.Proofs.Grammar.LineExpression
import DocSuite.Syntax.Parser

/-!
Lines that statements and whole texts name. Main statement: a fault of a text is in one of its
lines.
-/
-- The instance for a rule has a part for each parser that the rule is put together of.
set_option synthInstance.maxSize 2000

namespace DocSuite.Syntax

namespace Grammar

variable {p : Nat → Prop}

/-! ### Patterns -/

instance : Within p underscore := inferInstanceAs (Within p (softKeyword _))

instance (m : P Expr) [Within p m] : Within p (signed m) := by
  unfold signed
  infer_instance

instance : Within p realNumber := by
  unfold realNumber
  infer_instance

instance : Within p imaginaryNumber := by
  unfold imaginaryNumber
  infer_instance

instance : Within p complexNumber := by
  unfold complexNumber
  dsimp only
  infer_instance

instance : Within p loneNumber := by
  unfold loneNumber
  infer_instance

instance : Within p notQualified := by
  unfold notQualified
  infer_instance

instance : Within p captureName := by
  unfold captureName
  infer_instance

instance (least : Nat) : Within p (attributeOf least) := by
  have (first : LinedValue p Expr) (names : List String) : StartsIn p
      (names.foldl (fun value name => ⟨first.value.line, .attribute value name⟩) first.value) := by
    have hline : p first.value.line := Expr.InLines.line first.inLines
    have hfold (value : Expr) (hv : value.InLines p) : (names.foldl (fun value name =>
        (⟨first.value.line, .attribute value name⟩ : Expr)) value).InLines p := by
      induction names generalizing value with
      | nil => exact hv
      | cons name names ih => exact ih _ (.mk hline (List.forall_mem_nil _))
    exact ⟨hfold first.value first.inLines⟩
  unfold attributeOf
  infer_instance

namespace Rules

variable (g : Rules) [hg : g.Within p]

instance : Grammar.Within p g.orPattern := by
  have (patterns : List Pattern) : Grammar.Within p (match patterns with
      | [pattern] => pure pattern
      | _ => pure (.either patterns) : P Pattern) := by
    split <;> infer_instance
  unfold orPattern
  infer_instance

instance : Grammar.Within p g.pattern := by
  unfold pattern
  infer_instance

instance : Grammar.Within p g.maybeStarPattern := by
  unfold maybeStarPattern
  infer_instance

instance : Grammar.Within p g.sequenceItems := by
  unfold sequenceItems
  infer_instance

instance : Grammar.Within p g.openSequence := by
  unfold openSequence
  infer_instance

instance : Grammar.Within p g.sequencePattern := by
  unfold sequencePattern
  infer_instance

instance : Grammar.Within p g.literalKey := by
  unfold literalKey
  infer_instance

instance : Grammar.Within p g.keyPattern := by
  unfold keyPattern
  infer_instance

instance : Grammar.Within p restPattern := by
  unfold restPattern
  infer_instance

instance : Grammar.Within p g.mappingPattern := by
  unfold mappingPattern
  infer_instance

instance : Grammar.Within p g.positionalPatterns := by
  unfold positionalPatterns
  infer_instance

instance : Grammar.Within p g.namedPattern := by
  unfold namedPattern
  infer_instance

instance : Grammar.Within p g.namedPatterns := by
  unfold namedPatterns
  infer_instance

instance : Grammar.Within p g.classPattern := by
  unfold classPattern
  infer_instance

instance : Grammar.Within p g.closedPatternBody := by
  unfold closedPatternBody
  infer_instance

instance : Grammar.Within p g.patterns := by
  unfold patterns
  infer_instance

end Rules

/-! ### Statements without blocks -/

instance (m : P Simple) [Within p m] : Within p (simpleAt m) := by
  unfold simpleAt
  infer_instance

instance : Within p augmentation := by
  unfold augmentation
  infer_instance

instance : Within p dottedName := by
  unfold dottedName
  infer_instance

instance : Within p importDots := by
  unfold importDots
  infer_instance

instance (m : P String) [Within p m] : Within p (renamed m) := by
  unfold renamed
  infer_instance

instance : Within p importNames := by
  unfold importNames
  infer_instance

instance : Within p importTargets := by
  unfold importTargets
  infer_instance

instance : Within p importStmt := by
  unfold importStmt
  infer_instance

namespace Rules

variable (g : Rules) [hg : g.Within p]

instance : Grammar.Within p g.assignedValue := by
  unfold assignedValue
  infer_instance

instance : Grammar.Within p g.faultyAssignment := by
  unfold faultyAssignment
  infer_instance

instance : Grammar.Within p g.assignment := by
  unfold assignment
  infer_instance

instance : Grammar.Within p g.delete := by
  unfold delete
  infer_instance

instance : Grammar.Within p g.raiseStmt := by
  unfold raiseStmt
  infer_instance

instance : Grammar.Within p g.simpleStmtBody := by
  unfold simpleStmtBody
  infer_instance

instance : Grammar.Within p g.simpleStmts := by
  unfold simpleStmts
  infer_instance

end Rules

/-! ### Statements with blocks -/

instance (m : P (Head × List Block)) [Within p m] : Within p (compoundAt m) := by
  unfold compoundAt
  infer_instance

instance : Within p missingBlock := by
  unfold missingBlock
  infer_instance

instance (owner : String) (head : P Token) [Within p head] :
    Within p (raiseMissingBlock owner head) := by
  unfold raiseMissingBlock
  infer_instance

instance {α : Type} [Lined α] (head : P α) [Within p head] : Within p (raiseMissingColon head) := by
  unfold raiseMissingColon
  infer_instance

namespace Rules

variable (g : Rules) [hg : g.Within p]

instance (statements : P (List Stmt)) [Grammar.Within p statements] :
    Grammar.Within p (g.blockBody statements) := by
  unfold blockBody
  infer_instance

instance : Grammar.Within p g.elseBlock := by
  unfold elseBlock
  infer_instance

instance (keyword : Terminal) : Grammar.Within p (g.conditionStmt keyword) := by
  unfold conditionStmt
  infer_instance

instance : Grammar.Within p g.whileStmt := by
  unfold whileStmt
  infer_instance

instance : Grammar.Within p g.forStmt := by
  unfold forStmt
  infer_instance

instance : Grammar.Within p g.withItem := by
  unfold withItem
  infer_instance

instance : AllWithin p g.faultyWithHeads := by
  unfold faultyWithHeads
  infer_instance

instance : Grammar.Within p g.withStmt := by
  have hcolon : AllWithin p (g.faultyWithHeads.map raiseMissingColon) :=
    .map fun m _ => inferInstance
  have hblock : AllWithin p (g.faultyWithHeads.map fun head =>
      raiseMissingBlock "'with' statement" do
        let token ← head
        let _ ← accept .colon
        pure token) :=
    .map fun m _ => inferInstance
  unfold withStmt
  infer_instance

instance : Grammar.Within p handlerName := by
  unfold handlerName
  infer_instance

instance : Grammar.Within p g.faultyHandler := by
  unfold faultyHandler
  infer_instance

instance : Grammar.Within p g.handler := by
  unfold handler
  infer_instance

instance : Grammar.Within p g.starHandler := by
  unfold starHandler
  infer_instance

instance : Grammar.Within p g.finallyBlock := by
  unfold finallyBlock
  infer_instance

instance : Grammar.Within p g.triedBlocks := by
  unfold triedBlocks
  infer_instance

instance : Grammar.Within p g.faultyTry := by
  unfold faultyTry
  infer_instance

instance : Grammar.Within p g.tryStmt := by
  unfold tryStmt
  infer_instance

instance : Grammar.Within p g.subject := by
  unfold subject
  infer_instance

instance : Grammar.Within p g.guard := by
  unfold guard
  infer_instance

instance : Grammar.Within p matchWord := inferInstanceAs (Grammar.Within p (softKeyword _))

instance : Grammar.Within p caseWord := inferInstanceAs (Grammar.Within p (softKeyword _))

instance : Grammar.Within p g.caseBlock := by
  unfold caseBlock
  infer_instance

instance : Grammar.Within p g.matchStmt := by
  unfold matchStmt
  infer_instance

instance : Grammar.Within p g.decorators := by
  unfold decorators
  infer_instance

instance : Grammar.Within p g.returns := by
  unfold returns
  infer_instance

instance (decorators : List Expr) : Grammar.Within p (g.functionDef decorators) := by
  unfold functionDef
  infer_instance

instance : Grammar.Within p g.decoratedFunction := by
  unfold decoratedFunction
  infer_instance

instance (decorators : List Expr) : Grammar.Within p (g.classDef decorators) := by
  unfold classDef
  infer_instance

instance : Grammar.Within p g.decoratedClass := by
  unfold decoratedClass
  infer_instance

instance : Grammar.Within p g.compoundStmt := by
  unfold compoundStmt
  infer_instance

instance : Grammar.Within p g.statements := by
  unfold statements
  infer_instance

/-! ### The grammar -/

theorem yields_body (r : Rule) : Yields p (r.InLines p) (g.body r) := by
  cases r <;> simp only [body] <;> exact (inferInstance : Grammar.Within p _).yields

theorem within_upTo (depth : Nat) : (upTo depth).Within p := by
  induction depth with
  | zero => exact ⟨fun _ => .fail⟩
  | succ depth ih => exact ⟨fun r => .memoize (yields_body (upTo depth) r)⟩

/-- The end of the text is the last thing that is read. -/
theorem settles_file : Settles p g.file :=
  .bind (Grammar.Within.yields (m := optional g.statements)) fun body _ =>
    settles_finish (body.getD [])

end Rules

end Grammar

/-! ### Texts -/

/-- A fault of a text is in a line of it. -/
theorem line_of_parseText {p : Nat → Prop} (hn : ∀ line, p line → 0 < line) {source : List Char}
    (hr : '\r' ∉ source) (hp : ∀ k ≤ source.count '\n', p (1 + k)) {fault : SyntaxFault}
    (h : parseText source = .error fault) : p fault.line := by
  unfold parseText at h
  dsimp only at h
  generalize 200 * ((Source.normalize source).length + 2) = depth at h
  have := Grammar.Rules.within_upTo (p := p) depth
  refine Grammar.Env.Within.parse ?_ (Grammar.Rules.settles_file _) h
  exact tokensOf_within hn hr hp

end DocSuite.Syntax
