import DocSuite.Proofs.Result
import DocSuite.Syntax.Printer

/-!
Texts of expressions. Main statement: an expression has a text exactly if none of its integers is
too long and the text of no field of an interpolated string in it holds a backslash.
-/
namespace DocSuite.Syntax

/-! ### Parts of expressions -/

mutual

/-- The expression and those inside it. -/
def Expr.parts : Expr → List Expr
  | ⟨line, form⟩ => ⟨line, form⟩ :: form.parts

def Form.parts : Form → List Expr
  | .connect _ values => partsOf values
  | .named target value => target.parts ++ value.parts
  | .binary left _ right => left.parts ++ right.parts
  | .unary _ operand => operand.parts
  | .lambda params body => params.parts ++ body.parts
  | .conditional test body orelse => test.parts ++ (body.parts ++ orelse.parts)
  | .dict entries => partsOfEntries entries
  | .set elements => partsOf elements
  | .comprehension _ element generators => element.parts ++ partsOfGenerators generators
  | .dictComprehension key value generators =>
      key.parts ++ (value.parts ++ partsOfGenerators generators)
  | .await value => value.parts
  | .yield value => partsOfOption value
  | .yieldFrom value => value.parts
  | .compare left rest => left.parts ++ partsOfComparisons rest
  | .call function args keywords => function.parts ++ (partsOf args ++ partsOfKeywords keywords)
  | .interpolated pieces => partsOfPieces pieces
  | .literal _ => []
  | .attribute value _ => value.parts
  | .subscript value index => value.parts ++ index.parts
  | .starred value => value.parts
  | .name _ => []
  | .list elements => partsOf elements
  | .tuple elements => partsOf elements
  | .slice lower upper step => partsOfOption lower ++ (partsOfOption upper ++ partsOfOption step)

def partsOf : List Expr → List Expr
  | [] => []
  | e :: es => e.parts ++ partsOf es

def partsOfOption : Option Expr → List Expr
  | none => []
  | some e => e.parts

def partsOfEntries : List Entry → List Expr
  | [] => []
  | ⟨key, value⟩ :: rest => partsOfOption key ++ (value.parts ++ partsOfEntries rest)

def partsOfGenerators : List Generator → List Expr
  | [] => []
  | ⟨_, target, source, conditions⟩ :: rest =>
      target.parts ++ (source.parts ++ (partsOf conditions ++ partsOfGenerators rest))

def partsOfComparisons : List Comparison → List Expr
  | [] => []
  | ⟨_, right⟩ :: rest => right.parts ++ partsOfComparisons rest

def partsOfKeywords : List Keyword → List Expr
  | [] => []
  | ⟨_, value⟩ :: rest => value.parts ++ partsOfKeywords rest

def partsOfPieces : List Piece → List Expr
  | [] => []
  | .text _ :: rest => partsOfPieces rest
  | .field value _ format :: rest =>
      value.parts ++ ((match format with
        | some pieces => partsOfPieces pieces
        | none => []) ++ partsOfPieces rest)

def Param.parts : Param → List Expr
  | ⟨_, hint, default⟩ => partsOfOption hint ++ partsOfOption default

def partsOfParams : List Param → List Expr
  | [] => []
  | p :: ps => p.parts ++ partsOfParams ps

def Params.parts : Params → List Expr
  | ⟨positional, plain, rest, keywordOnly, keywordRest⟩ =>
      partsOfParams positional ++ (partsOfParams plain ++ ((match rest with
        | some p => p.parts
        | none => []) ++ (partsOfParams keywordOnly ++ (match keywordRest with
        | some p => p.parts
        | none => []))))

end

/-- The expressions in the fields of an interpolated string, and in the formats of its fields. -/
def fieldsOf : List Piece → List Expr
  | [] => []
  | .text _ :: rest => fieldsOf rest
  | .field value _ format :: rest =>
      value :: ((match format with
        | some pieces => fieldsOf pieces
        | none => []) ++ fieldsOf rest)

/-- The text of a field holds no backslash. -/
def Expr.FitsField (field : Expr) : Prop :=
  ∀ text, exprText true (Precedence.next Precedence.test) field = .ok text →
    text.toList.contains '\\' = false

/-- Nothing keeps the expression from having a text if what is inside it has one. -/
def Expr.IsPlain : Expr → Prop
  | ⟨_, .literal (.int value)⟩ => ¬ Nat.pow 10 4300 ≤ value
  | ⟨_, .interpolated pieces⟩ => ∀ field ∈ fieldsOf pieces, field.FitsField
  | _ => True

def AllPlain (parts : List Expr) : Prop := ∀ part ∈ parts, part.IsPlain

@[simp] theorem allPlain_nil : AllPlain [] ↔ True := by simp [AllPlain]

@[simp] theorem allPlain_cons {part : Expr} {parts : List Expr} :
    AllPlain (part :: parts) ↔ part.IsPlain ∧ AllPlain parts := by
  simp [AllPlain]

@[simp] theorem allPlain_append {as bs : List Expr} :
    AllPlain (as ++ bs) ↔ AllPlain as ∧ AllPlain bs := by
  simp only [AllPlain, List.mem_append]
  exact ⟨fun h => ⟨fun e he => h e (.inl he), fun e he => h e (.inr he)⟩,
    fun h e he => he.elim (h.1 e) (h.2 e)⟩

/-! ### Texts -/

theorem succeeds_literalText (avoid : Bool) (line : Nat) (value : Literal) :
    Succeeds (literalText avoid value) ↔ (Expr.mk line (.literal value)).IsPlain := by
  cases value with
  | int value =>
    simp only [literalText, Expr.IsPlain]
    split
    next h => simp only [succeeds_error, h, not_true_eq_false]
    next h => simp only [succeeds_ok, h, not_false_eq_true]
  | _ => simp only [literalText, succeeds_ok, Expr.IsPlain]

/-- The parentheses of a tuple are left out in brackets. -/
theorem succeeds_subscript (avoid : Bool) (place : Precedence) (line : Nat) (value index : Expr) :
    Succeeds (exprText avoid place ⟨line, .subscript value index⟩) ↔
      Succeeds (exprText avoid Precedence.atom value) ∧
        Succeeds (exprText avoid Precedence.test index) := by
  obtain ⟨line', form⟩ := index
  cases form with
  | tuple elements =>
    cases elements with
    | nil => simp [exprText]
    | cons first more => simp [exprText, exprTexts]
  | _ =>
    simp only [exprText, succeeds_bind, succeeds_pure, and_true, exists_and_right, exists_eq_ok]

/-- A field has a text if its value has one that needs no backslash. -/
theorem succeeds_field (value : Expr) (conversion : Option Char) (format : Option (List Piece))
    (rest : List Piece) :
    Succeeds (pieceParts (.field value conversion format :: rest)) ↔
      (∃ text, exprText true (Precedence.next Precedence.test) value = .ok text ∧
        text.toList.contains '\\' = false) ∧
      (∀ pieces ∈ format, Succeeds (pieceParts pieces)) ∧ Succeeds (pieceParts rest) := by
  cases hvalue : exprText true (Precedence.next Precedence.test) value with
  | error fault => cases format <;> simp [pieceParts, hvalue]
  | ok text =>
    by_cases hb : '\\' ∈ text.toList
    · cases format <;> simp [pieceParts, hvalue, hb]
    · cases format <;> simp [pieceParts, hvalue, hb]

mutual

theorem succeeds_exprText (e : Expr) (avoid : Bool) (place : Precedence) :
    Succeeds (exprText avoid place e) ↔ AllPlain e.parts := by
  obtain ⟨line, form⟩ := e
  rw [Expr.parts, allPlain_cons]
  cases form with
  | connect op values =>
    simp [exprText, Form.parts, Expr.IsPlain, succeeds_operandTexts values]
  | named target value =>
    simp [exprText, Form.parts, Expr.IsPlain, succeeds_exprText target, succeeds_exprText value]
  | binary left op right =>
    simp [exprText, Form.parts, Expr.IsPlain, succeeds_exprText left, succeeds_exprText right]
  | unary op operand =>
    simp [exprText, Form.parts, Expr.IsPlain, succeeds_exprText operand]
  | lambda params body =>
    simp [exprText, Form.parts, Expr.IsPlain, succeeds_paramsText params, succeeds_exprText body]
  | conditional test body orelse =>
    simp [exprText, Form.parts, Expr.IsPlain, succeeds_exprText test, succeeds_exprText body,
      succeeds_exprText orelse]
    exact and_left_comm
  | dict entries =>
    simp [exprText, Form.parts, Expr.IsPlain, succeeds_entryTexts entries]
  | set elements =>
    simp [exprText, Form.parts, Expr.IsPlain, succeeds_exprTexts elements]
  | comprehension bracket element generators =>
    simp [exprText, Form.parts, Expr.IsPlain, succeeds_exprText element,
      succeeds_generatorTexts generators]
  | dictComprehension key value generators =>
    simp [exprText, Form.parts, Expr.IsPlain, succeeds_exprText key, succeeds_exprText value,
      succeeds_generatorTexts generators]
  | await value | yieldFrom value | starred value | «attribute» value name =>
    simp [exprText, Form.parts, Expr.IsPlain, succeeds_exprText value]
  | yield value =>
    cases value with
    | none => simp [exprText, Form.parts, Expr.IsPlain, partsOfOption]
    | some value =>
      simp [exprText, Form.parts, Expr.IsPlain, partsOfOption, succeeds_exprText value]
  | compare left rest =>
    simp [exprText, Form.parts, Expr.IsPlain, succeeds_exprText left, succeeds_comparisonTexts rest]
  | call function args keywords =>
    simp [exprText, Form.parts, Expr.IsPlain, succeeds_exprText function, succeeds_exprTexts args,
      succeeds_keywordTexts keywords]
  | interpolated pieces =>
    have hpieces := succeeds_pieceParts pieces
    cases avoid <;>
      simp [exprText, Form.parts, Expr.IsPlain, hpieces]
  | literal value =>
    simp [exprText, Form.parts]
    exact succeeds_literalText avoid line value
  | subscript value index =>
    rw [succeeds_subscript]
    simp [Form.parts, Expr.IsPlain, succeeds_exprText value, succeeds_exprText index]
  | name id => simp [exprText, Form.parts, Expr.IsPlain]
  | list elements | tuple elements =>
    simp [exprText, Form.parts, Expr.IsPlain, succeeds_exprTexts elements]
  | slice lower upper step =>
    rw [Form.parts, allPlain_append, allPlain_append, ← succeeds_exprOption lower avoid,
      ← succeeds_exprOption upper avoid, ← succeeds_exprOption step avoid]
    cases lower <;> cases upper <;> cases step <;> simp [exprText, Expr.IsPlain]

theorem succeeds_exprTexts (es : List Expr) (avoid : Bool) (place : Precedence) :
    Succeeds (exprTexts avoid place es) ↔ AllPlain (partsOf es) := by
  cases es with
  | nil => simp [exprTexts, partsOf]
  | cons e es =>
    simp [exprTexts, partsOf, succeeds_exprText e, succeeds_exprTexts es]

theorem succeeds_exprOption (e : Option Expr) (avoid : Bool) :
    (∀ value ∈ e, Succeeds (exprText avoid Precedence.test value)) ↔
      AllPlain (partsOfOption e) := by
  cases e with
  | none => simp [partsOfOption]
  | some value => simp [partsOfOption, succeeds_exprText value]

theorem succeeds_operandTexts (es : List Expr) (avoid : Bool) (level : Precedence) :
    Succeeds (operandTexts avoid level es) ↔ AllPlain (partsOf es) := by
  cases es with
  | nil => simp [operandTexts, partsOf]
  | cons e es =>
    simp [operandTexts, partsOf, succeeds_exprText e, succeeds_operandTexts es]

theorem succeeds_entryTexts (entries : List Entry) (avoid : Bool) :
    Succeeds (entryTexts avoid entries) ↔ AllPlain (partsOfEntries entries) := by
  cases entries with
  | nil => simp [entryTexts, partsOfEntries]
  | cons entry rest =>
    obtain ⟨key, value⟩ := entry
    cases key with
    | none =>
      simp [entryTexts, partsOfEntries, partsOfOption, succeeds_exprText value,
        succeeds_entryTexts rest]
    | some key =>
      simp [entryTexts, partsOfEntries, partsOfOption, succeeds_exprText key,
        succeeds_exprText value, succeeds_entryTexts rest]

theorem succeeds_generatorTexts (generators : List Generator) (avoid : Bool) :
    Succeeds (generatorTexts avoid generators) ↔ AllPlain (partsOfGenerators generators) := by
  cases generators with
  | nil => simp [generatorTexts, partsOfGenerators]
  | cons generator rest =>
    obtain ⟨isAsync, target, source, conditions⟩ := generator
    simp [generatorTexts, partsOfGenerators, succeeds_exprText target, succeeds_exprText source,
      succeeds_exprTexts conditions, succeeds_generatorTexts rest]

theorem succeeds_comparisonTexts (rest : List Comparison) (avoid : Bool) :
    Succeeds (comparisonTexts avoid rest) ↔ AllPlain (partsOfComparisons rest) := by
  cases rest with
  | nil => simp [comparisonTexts, partsOfComparisons]
  | cons comparison rest =>
    obtain ⟨op, right⟩ := comparison
    simp [comparisonTexts, partsOfComparisons, succeeds_exprText right,
      succeeds_comparisonTexts rest]

theorem succeeds_keywordTexts (keywords : List Keyword) (avoid : Bool) :
    Succeeds (keywordTexts avoid keywords) ↔ AllPlain (partsOfKeywords keywords) := by
  cases keywords with
  | nil => simp [keywordTexts, partsOfKeywords]
  | cons keyword rest =>
    obtain ⟨name, value⟩ := keyword
    simp [keywordTexts, partsOfKeywords, succeeds_exprText value, succeeds_keywordTexts rest]

theorem succeeds_pieceParts (pieces : List Piece) :
    Succeeds (pieceParts pieces) ↔
      (∀ field ∈ fieldsOf pieces, field.FitsField) ∧ AllPlain (partsOfPieces pieces) := by
  cases pieces with
  | nil => simp [pieceParts, fieldsOf, partsOfPieces]
  | cons piece rest =>
    have hrest := succeeds_pieceParts rest
    cases piece with
    | text text => simp [pieceParts, fieldsOf, partsOfPieces, hrest]
    | field value conversion format =>
      rw [succeeds_field, exists_ok_and, ← Expr.FitsField, succeeds_exprText value, hrest]
      cases format with
      | none =>
        simp only [fieldsOf, partsOfPieces, List.nil_append, List.forall_mem_cons, allPlain_append,
          Option.mem_def, reduceCtorEq, false_implies, implies_true, true_and]
        exact ⟨fun h => ⟨⟨h.1.2, h.2.1⟩, h.1.1, h.2.2⟩, fun h => ⟨⟨h.2.1, h.1.1⟩, h.1.2, h.2.2⟩⟩
      | some pieces =>
        have hpieces := succeeds_pieceParts pieces
        simp only [fieldsOf, partsOfPieces, List.forall_mem_cons, List.forall_mem_append,
          allPlain_append, Option.mem_some_iff, forall_eq', hpieces]
        exact ⟨fun h => ⟨⟨h.1.2, h.2.1.1, h.2.2.1⟩, h.1.1, h.2.1.2, h.2.2.2⟩,
          fun h => ⟨⟨h.2.1, h.1.1⟩, ⟨h.1.2.1, h.2.2.1⟩, h.1.2.2, h.2.2.2⟩⟩

theorem succeeds_paramText (param : Param) (avoid : Bool) :
    Succeeds (paramText avoid param) ↔ AllPlain param.parts := by
  obtain ⟨name, hint, default⟩ := param
  rw [Param.parts, allPlain_append, ← succeeds_exprOption hint avoid,
    ← succeeds_exprOption default avoid]
  cases hint <;> cases default <;> simp [paramText]

theorem succeeds_paramTexts (params : List Param) (avoid : Bool) :
    Succeeds (paramTexts avoid params) ↔ AllPlain (partsOfParams params) := by
  cases params with
  | nil => simp [paramTexts, partsOfParams]
  | cons param rest =>
    simp [paramTexts, partsOfParams, succeeds_paramText param, succeeds_paramTexts rest]

theorem succeeds_paramsText (params : Params) (avoid : Bool) :
    Succeeds (paramsText avoid params) ↔ AllPlain params.parts := by
  obtain ⟨positional, plain, rest, keywordOnly, keywordRest⟩ := params
  have hpositional := succeeds_paramTexts positional avoid
  have hplain := succeeds_paramTexts plain avoid
  have hkeywordOnly := succeeds_paramTexts keywordOnly avoid
  cases rest with
  | none =>
    cases keywordRest with
    | none => simp [paramsText, Params.parts, hpositional, hplain, hkeywordOnly]
    | some kept =>
      simp [paramsText, Params.parts, hpositional, hplain, hkeywordOnly, succeeds_paramText kept]
  | some rest =>
    cases keywordRest with
    | none =>
      simp [paramsText, Params.parts, hpositional, hplain, hkeywordOnly, succeeds_paramText rest]
    | some kept =>
      simp [paramsText, Params.parts, hpositional, hplain, hkeywordOnly, succeeds_paramText rest,
        succeeds_paramText kept]

end

end DocSuite.Syntax
