import DocSuite.Proofs.Delay
import DocSuite.Proofs.Result
import DocSuite.Sample.Parse

/-!
What an expression does to the function around it: a `yield` makes the function a generator, and a
named expression binds one of its names. Main statement: checks leave both where they are, except in
the expressions that functions are made for.
-/
namespace DocSuite

open DocSuite.Syntax

namespace Syntax

/-- What belongs to the scope in which an expression is evaluated. -/
inductive ScopePart
  /-- A `yield` or a `yield from`. -/
  | yields (expression : Expr)
  /-- The target of a named expression. -/
  | binds (target : Expr)

def ScopePart.isBinding : ScopePart → Bool
  | .yields _ => false
  | .binds _ => true

mutual

/-- What is evaluated in the scope of the expression itself. The body of a lambda has a scope of its
own; so has a comprehension behind its first source, but names are bound around it. -/
def Expr.scopeParts : Expr → List ScopePart
  | ⟨line, form⟩ => form.scopeParts ⟨line, form⟩

/-- `whole`: the expression of which this is the form. -/
def Form.scopeParts (whole : Expr) : Form → List ScopePart
  | .connect _ values => scopePartsOf values
  | .named target value => .binds target :: value.scopeParts
  | .binary left _ right => left.scopeParts ++ right.scopeParts
  | .unary _ operand => operand.scopeParts
  | .lambda params _ => params.scopeParts
  | .conditional test body orelse => test.scopeParts ++ (body.scopeParts ++ orelse.scopeParts)
  | .dict entries => scopePartsOfEntries entries
  | .set elements => scopePartsOf elements
  | .comprehension _ element generators =>
      element.scopeParts.filter ScopePart.isBinding ++ scopePartsOfGenerators true generators
  | .dictComprehension key value generators =>
      (key.scopeParts ++ value.scopeParts).filter ScopePart.isBinding ++
        scopePartsOfGenerators true generators
  | .await value => value.scopeParts
  | .yield value => .yields whole :: scopePartsOfOption value
  | .yieldFrom value => .yields whole :: value.scopeParts
  | .compare left rest => left.scopeParts ++ scopePartsOfComparisons rest
  | .call function args keywords =>
      function.scopeParts ++ (scopePartsOf args ++ scopePartsOfKeywords keywords)
  | .interpolated pieces => scopePartsOfPieces pieces
  | .literal _ => []
  | .attribute value _ => value.scopeParts
  | .subscript value index => value.scopeParts ++ index.scopeParts
  | .starred value => value.scopeParts
  | .name _ => []
  | .list elements => scopePartsOf elements
  | .tuple elements => scopePartsOf elements
  | .slice lower upper step =>
      scopePartsOfOption lower ++ (scopePartsOfOption upper ++ scopePartsOfOption step)

def scopePartsOf : List Expr → List ScopePart
  | [] => []
  | e :: es => e.scopeParts ++ scopePartsOf es

def scopePartsOfOption : Option Expr → List ScopePart
  | none => []
  | some e => e.scopeParts

def scopePartsOfEntries : List Entry → List ScopePart
  | [] => []
  | ⟨key, value⟩ :: rest =>
      scopePartsOfOption key ++ (value.scopeParts ++ scopePartsOfEntries rest)

/-- `outside`: the first source is evaluated around the comprehension. -/
def scopePartsOfGenerators (outside : Bool) : List Generator → List ScopePart
  | [] => []
  | ⟨_, target, source, conditions⟩ :: rest =>
      (if outside then source.scopeParts else source.scopeParts.filter ScopePart.isBinding) ++
        ((target.scopeParts ++ scopePartsOf conditions).filter ScopePart.isBinding ++
          scopePartsOfGenerators false rest)

def scopePartsOfComparisons : List Comparison → List ScopePart
  | [] => []
  | ⟨_, right⟩ :: rest => right.scopeParts ++ scopePartsOfComparisons rest

def scopePartsOfKeywords : List Keyword → List ScopePart
  | [] => []
  | ⟨_, value⟩ :: rest => value.scopeParts ++ scopePartsOfKeywords rest

def scopePartsOfPieces : List Piece → List ScopePart
  | [] => []
  | .text _ :: rest => scopePartsOfPieces rest
  | .field value _ format :: rest =>
      value.scopeParts ++ ((match format with
        | some pieces => scopePartsOfPieces pieces
        | none => []) ++ scopePartsOfPieces rest)

def Param.scopeParts : Param → List ScopePart
  | ⟨_, hint, default⟩ => scopePartsOfOption hint ++ scopePartsOfOption default

def scopePartsOfParams : List Param → List ScopePart
  | [] => []
  | p :: ps => p.scopeParts ++ scopePartsOfParams ps

/-- Hints and defaults are evaluated where the function is made. -/
def Params.scopeParts : Params → List ScopePart
  | ⟨positional, plain, rest, keywordOnly, keywordRest⟩ =>
      scopePartsOfParams positional ++ (scopePartsOfParams plain ++ ((match rest with
        | some p => p.scopeParts
        | none => []) ++ (scopePartsOfParams keywordOnly ++ (match keywordRest with
        | some p => p.scopeParts
        | none => []))))

end

mutual

def Pattern.scopeParts : Pattern → List ScopePart
  | .value value => value.scopeParts
  | .singleton _ => []
  | .sequence patterns => scopePartsOfPatterns patterns
  | .star _ => []
  | .mapping keys patterns _ => scopePartsOf keys ++ scopePartsOfPatterns patterns
  | .construct type positional _ named =>
      type.scopeParts ++ (scopePartsOfPatterns positional ++ scopePartsOfPatterns named)
  | .capture none _ => []
  | .capture (some pattern) _ => pattern.scopeParts
  | .either patterns => scopePartsOfPatterns patterns

def scopePartsOfPatterns : List Pattern → List ScopePart
  | [] => []
  | p :: ps => p.scopeParts ++ scopePartsOfPatterns ps

end

def Simple.scopeParts : Simple → List ScopePart
  | .expr value => value.scopeParts
  | .assign targets value => scopePartsOf targets ++ value.scopeParts
  | .augment target _ value => target.scopeParts ++ value.scopeParts
  | .annotate target hint value _ =>
      target.scopeParts ++ (hint.scopeParts ++ scopePartsOfOption value)
  | .ret value => scopePartsOfOption value
  | .raise exception cause => scopePartsOfOption exception ++ scopePartsOfOption cause
  | .delete targets => scopePartsOf targets
  | .assert test message => test.scopeParts ++ scopePartsOfOption message
  | .global _ | .nonlocal _ | .pass | .break | .continue => []
  | .importModules _ | .importFrom .. => []

def Head.scopeParts : Head → List ScopePart
  | .function _ _ params decorators returns =>
      scopePartsOf decorators ++ (params.scopeParts ++ scopePartsOfOption returns)
  | .classDef _ bases keywords decorators =>
      scopePartsOf decorators ++ (scopePartsOf bases ++ scopePartsOfKeywords keywords)
  | .ifThen test => test.scopeParts
  | .forLoop _ target source => target.scopeParts ++ source.scopeParts
  | .whileLoop test => test.scopeParts
  | .withItems _ items =>
      items.flatMap fun item => item.1.scopeParts ++ scopePartsOfOption item.2
  | .matchOn subject => subject.scopeParts
  | .tryBlock _ => []

def Label.scopeParts : Label → List ScopePart
  | .body | .orelse | .finalbody => []
  | .handler type _ => scopePartsOfOption type
  | .case pattern guard => pattern.scopeParts ++ scopePartsOfOption guard

end Syntax

/-! ### Scopes of a body -/

def Syntax.Head.isFunction : Head → Bool
  | .function .. => true
  | _ => false

mutual

/-- What is evaluated in the scope in which the statement stands. -/
def Syntax.Stmt.direct : Stmt → List ScopePart
  | .simple _ form => form.scopeParts
  | .compound _ head blocks =>
      head.scopeParts ++ if head.ownScope?.isSome then [] else directOfBlocks blocks

def directOfBlocks : List Block → List ScopePart
  | [] => []
  | ⟨label, body⟩ :: rest => label.scopeParts ++ (directOf body ++ directOfBlocks rest)

def directOf : List Stmt → List ScopePart
  | [] => []
  | stmt :: rest => stmt.direct ++ directOf rest

end

section

variable (recorded : Bool)

mutual

/-- The functions at any depth, those of checks or the others, each by what is evaluated in its
scope. -/
def Syntax.Stmt.functions : Stmt → List (List ScopePart)
  | .simple .. => []
  | .compound site head blocks =>
      (if head.isFunction && site.recorded == recorded then [directOfBlocks blocks] else []) ++
        functionsOfBlocks blocks

def functionsOfBlocks : List Block → List (List ScopePart)
  | [] => []
  | ⟨_, body⟩ :: rest => functionsOf body ++ functionsOfBlocks rest

def functionsOf : List Stmt → List (List ScopePart)
  | [] => []
  | stmt :: rest => stmt.functions ++ functionsOf rest

end

@[simp] theorem functionsOf_append (as bs : List Stmt) :
    functionsOf recorded (as ++ bs) = functionsOf recorded as ++ functionsOf recorded bs := by
  induction as with
  | nil => rfl
  | cons a as ih => simp [functionsOf, ih]

@[simp] theorem functionsOfBlocks_append (as bs : List Block) :
    functionsOfBlocks recorded (as ++ bs) =
      functionsOfBlocks recorded as ++ functionsOfBlocks recorded bs := by
  induction as with
  | nil => rfl
  | cons a as ih =>
    obtain ⟨label, body⟩ := a
    simp [functionsOfBlocks, ih]

end

@[simp] theorem directOf_append (as bs : List Stmt) :
    directOf (as ++ bs) = directOf as ++ directOf bs := by
  induction as with
  | nil => rfl
  | cons a as ih => simp [directOf, ih]

@[simp] theorem directOfBlocks_append (as bs : List Block) :
    directOfBlocks (as ++ bs) = directOfBlocks as ++ directOfBlocks bs := by
  induction as with
  | nil => rfl
  | cons a as ih =>
    obtain ⟨label, body⟩ := a
    simp [directOfBlocks, ih]

/-- The scopes of a sample: its own coroutine, and each function that is written in it. -/
def scopesOf (body : List Stmt) : List (List ScopePart) := directOf body :: functionsOf false body

/-- The scopes of the functions that checks make. -/
def madeScopesOf (body : List Stmt) : List (List ScopePart) := functionsOf true body

/-! ### Expressions that functions are made for -/

/-- A function is made for the statement if it stands in the scope. -/
def Syntax.Stmt.isDelayedIn (scope : Scope) (stmt : Stmt) : Bool :=
  decide (stmt.annotationKind? = some .error ∧ scope ≠ .classBody)

theorem Placed.isDelayed_eq (p : Placed) :
    p.isDelayed = p.stmt.isDelayedIn (scopeBetween p.heads) := rfl

mutual

/-- The statement with a `pass` in place of each expression that a function is made for. -/
def Syntax.Stmt.withoutDelayed (scope : Scope) : Stmt → Stmt
  | .simple site form =>
      if (Stmt.simple site form).isDelayedIn scope then .simple site .pass else .simple site form
  | .compound site head blocks =>
      .compound site head (blocksWithoutDelayed (scope.enter head) blocks)

def blocksWithoutDelayed (scope : Scope) : List Block → List Block
  | [] => []
  | ⟨label, body⟩ :: rest =>
      ⟨label, bodyWithoutDelayed scope body⟩ :: blocksWithoutDelayed scope rest

def bodyWithoutDelayed (scope : Scope) : List Stmt → List Stmt
  | [] => []
  | stmt :: rest => stmt.withoutDelayed scope :: bodyWithoutDelayed scope rest

end

/-- What is evaluated in the functions that are made for some statements. -/
def delayedParts (placed : List Placed) : List (List ScopePart) :=
  (placed.filter Placed.isDelayed).map fun p => p.stmt.direct

@[simp] theorem delayedParts_append (ps qs : List Placed) :
    delayedParts (ps ++ qs) = delayedParts ps ++ delayedParts qs := by
  simp [delayedParts]

theorem delayedParts_singleton (p : Placed) :
    delayedParts [p] = if p.isDelayed then [p.stmt.direct] else [] := by
  cases h : p.isDelayed <;> simp [delayedParts, h]

/-! ### Scopes of checks -/

section

variable (x : Expr)

theorem scopeParts_textExpr (s : String) : (Check.textExpr s).scopeParts = [] := by
  simp [Check.textExpr, Check.made, Expr.scopeParts, Form.scopeParts]

theorem scopeParts_nameExpr (id : String) : (Check.nameExpr id).scopeParts = [] := by
  simp [Check.nameExpr, Check.made, Expr.scopeParts, Form.scopeParts]

theorem scopeParts_supportCall (function : String) (args : List Expr) :
    (Check.supportCall function args).scopeParts = scopePartsOf args := by
  simp [Check.supportCall, Check.made, Expr.scopeParts, Form.scopeParts, scopeParts_nameExpr,
    scopePartsOfKeywords]

theorem direct_value (expected : String) : (Check.value x expected).direct = x.scopeParts := by
  simp [Check.value, Stmt.direct, Simple.scopeParts, scopeParts_supportCall, scopePartsOf,
    scopeParts_textExpr]

theorem direct_inlineError (name message : String) :
    (Check.inlineError x name message).direct = x.scopeParts := by
  simp [Check.inlineError, Stmt.direct, Head.scopeParts, Head.ownScope?, directOfBlocks, directOf,
    Label.scopeParts, Simple.scopeParts, scopeParts_supportCall, scopePartsOf, scopeParts_textExpr,
    scopePartsOfOption]

/-- Nothing is evaluated where a function is made and called. -/
theorem directOf_error (name message thunkName : String) (inCoroutine : Bool) :
    directOf (Check.error x name message thunkName inCoroutine) = [] := by
  cases inCoroutine <;>
    simp [Check.error, Check.thunk, Check.thunkCheck, Check.made, directOf, Stmt.direct,
      Head.scopeParts, Head.ownScope?, Params.empty, Params.scopeParts, scopePartsOfParams,
      Simple.scopeParts, Expr.scopeParts, Form.scopeParts, scopeParts_supportCall, scopePartsOf,
      scopeParts_nameExpr, scopeParts_textExpr, scopePartsOfOption]

theorem functionsOf_error (recorded : Bool) (name message thunkName : String) (inCoroutine : Bool) :
    functionsOf recorded (Check.error x name message thunkName inCoroutine) =
      if recorded then [x.scopeParts] else [] := by
  cases recorded <;>
    simp [Check.error, Check.thunk, Check.thunkCheck, Check.recorded, functionsOf, Stmt.functions,
      functionsOfBlocks, Head.isFunction, directOfBlocks, directOf, Stmt.direct, Label.scopeParts,
      Simple.scopeParts, scopePartsOfOption]

end

/-! ### Scopes after checks are put in -/

/-- The scopes that come of some statements. -/
structure Leaves (out : List Stmt) (direct : List ScopePart)
    (functions made : List (List ScopePart)) : Prop where
  direct : directOf out = direct
  functions : functionsOf false out = functions
  made : functionsOf true out = made

theorem leaves_self (stmt : Stmt) : Leaves [stmt] stmt.direct (stmt.functions false)
    (stmt.functions true) := by
  constructor <;> simp [directOf, functionsOf]

theorem Leaves.append {as bs : List Stmt} {direct direct' : List ScopePart}
    {functions functions' made made' : List (List ScopePart)}
    (h : Leaves as direct functions made) (h' : Leaves bs direct' functions' made') :
    Leaves (as ++ bs) (direct ++ direct') (functions ++ functions') (made ++ made') :=
  ⟨by rw [directOf_append, h.direct, h'.direct],
    by rw [functionsOf_append, h.functions, h'.functions],
    by rw [functionsOf_append, h.made, h'.made]⟩

/-- A check leaves the expression in its scope, or moves it to that of a function. -/
theorem leaves_statements (checks : Checks) (scope : Scope) (x : Expr) (e : Expectation) :
    Leaves (checks.statements scope x e).1
      (if e.kind = .error ∧ scope ≠ .classBody then [] else x.scopeParts) []
      (if e.kind = .error ∧ scope ≠ .classBody then [x.scopeParts] else []) := by
  cases e with
  | value expected =>
    simp only [Checks.statements, Expectation.kind, reduceCtorEq, false_and, if_false]
    have h := leaves_self (Check.value x expected)
    rwa [direct_value] at h
  | error name message =>
    have made (thunkName : String) (inCoroutine : Bool) :
        Leaves (Check.error x name message thunkName inCoroutine) [] [] [x.scopeParts] :=
      ⟨directOf_error x .., functionsOf_error x .., functionsOf_error x ..⟩
    cases scope with
    | coroutine => exact made _ _
    | function => exact made _ _
    | classBody =>
      have h := leaves_self (Check.inlineError x name message)
      rwa [direct_inlineError] at h

theorem isDelayedIn_of_expectation? {stmt : Stmt} {x : Expr} {e : Expectation}
    (h : stmt.expectation? = some (x, e)) (scope : Scope) :
    stmt.isDelayedIn scope = decide (e.kind = .error ∧ scope ≠ .classBody) := by
  simp [Stmt.isDelayedIn, stmt.annotationKind?_eq, h]

theorem isDelayedIn_of_none {stmt : Stmt} (h : stmt.expectation? = none) (scope : Scope) :
    stmt.isDelayedIn scope = false := by
  simp [Stmt.isDelayedIn, stmt.annotationKind?_eq, h]

/-- A statement that is no expression with an expectation is not touched. -/
theorem withoutDelayed_of_none (heads : List Head) (behind : List Stmt) {site : Site}
    {form : Simple} (h : (Stmt.simple site form).expectation? = none) :
    bodyWithoutDelayed (scopeBetween heads) [.simple site form] = [.simple site form] ∧
      delayedParts (placedIn heads behind [.simple site form]) = [] := by
  have hd := isDelayedIn_of_none h (scopeBetween heads)
  simp [bodyWithoutDelayed, Stmt.withoutDelayed, placedIn, Stmt.placed, delayedParts_singleton,
    Placed.isDelayed_eq, hd]

@[simp] theorem bodyWithoutDelayed_append (scope : Scope) (as bs : List Stmt) :
    bodyWithoutDelayed scope (as ++ bs) =
      bodyWithoutDelayed scope as ++ bodyWithoutDelayed scope bs := by
  induction as with
  | nil => rfl
  | cons a as ih => simp [bodyWithoutDelayed, ih]

@[simp] theorem blocksWithoutDelayed_append (scope : Scope) (as bs : List Block) :
    blocksWithoutDelayed scope (as ++ bs) =
      blocksWithoutDelayed scope as ++ blocksWithoutDelayed scope bs := by
  induction as with
  | nil => rfl
  | cons a as ih =>
    obtain ⟨label, body⟩ := a
    simp [blocksWithoutDelayed, ih]

/-- A block that is emptied and left out holds nothing that is evaluated. -/
theorem directOfBlocks_block (label : Label) (before after : List Stmt) :
    directOfBlocks (Checks.block label before after) = label.scopeParts ++ directOf after := by
  rcases Checks.block_cases label before after with
    ⟨-, hb⟩ | ⟨-, rfl, rfl, hb⟩ | ⟨-, rfl, -, hb⟩
  · rw [hb, directOfBlocks, directOfBlocks, List.append_nil]
  · rw [hb]
    rfl
  · simp [hb, directOfBlocks, directOf, Stmt.pass, Stmt.direct, Simple.scopeParts]

theorem functionsOfBlocks_block (recorded : Bool) (label : Label) (before after : List Stmt) :
    functionsOfBlocks recorded (Checks.block label before after) = functionsOf recorded after := by
  rcases Checks.block_cases label before after with
    ⟨-, hb⟩ | ⟨-, rfl, rfl, hb⟩ | ⟨-, rfl, -, hb⟩
  · rw [hb, functionsOfBlocks, functionsOfBlocks, List.append_nil]
  · rw [hb]
    rfl
  · rw [hb]
    rfl

/-- The scopes that come of some blocks. -/
structure BlocksLeave (out kept : List Block) (made : List (List ScopePart)) : Prop where
  direct : directOfBlocks out = directOfBlocks kept
  functions : functionsOfBlocks false out = functionsOfBlocks false kept
  made : functionsOfBlocks true out = made

theorem BlocksLeave.append {out out' kept kept' : List Block} {made made' : List (List ScopePart)}
    (h : BlocksLeave out kept made) (h' : BlocksLeave out' kept' made') :
    BlocksLeave (out ++ out') (kept ++ kept') (made ++ made') :=
  ⟨by rw [directOfBlocks_append, directOfBlocks_append, h.direct, h'.direct],
    by rw [functionsOfBlocks_append, functionsOfBlocks_append, h.functions, h'.functions],
    by rw [functionsOfBlocks_append, h.made, h'.made]⟩

theorem Leaves.block {out kept : List Stmt} {made : List (List ScopePart)}
    (h : Leaves out (directOf kept) (functionsOf false kept) made) (label : Label)
    (before : List Stmt) : BlocksLeave (Checks.block label before out) [⟨label, kept⟩] made :=
  ⟨by rw [directOfBlocks_block, h.direct, directOfBlocks, directOfBlocks, List.append_nil],
    by rw [functionsOfBlocks_block, h.functions, functionsOfBlocks, functionsOfBlocks,
      List.append_nil],
    by rw [functionsOfBlocks_block, h.made]⟩

theorem BlocksLeave.compound {out kept : List Block} {made : List (List ScopePart)}
    (h : BlocksLeave out kept made) {site : Site} (hr : site.recorded = false) (head : Head) :
    Leaves [.compound site head out] (directOf [.compound site head kept])
      (functionsOf false [.compound site head kept]) made :=
  ⟨by simp [directOf, Stmt.direct, h.direct],
    by simp [functionsOf, Stmt.functions, h.direct, h.functions],
    by simp [functionsOf, Stmt.functions, hr, h.made]⟩

theorem leaves_check (checks : Checks) (heads : List Head) (behind : List Stmt) {site : Site}
    {form : Simple} {x : Expr} {e : Expectation}
    (he : (Stmt.simple site form).expectation? = some (x, e)) :
    let kept := bodyWithoutDelayed (scopeBetween heads) [.simple site form]
    Leaves (checks.statements (scopeBetween heads) x e).1 (directOf kept) (functionsOf false kept)
      (delayedParts (placedIn heads behind [.simple site form])) := by
  intro kept
  have hd := isDelayedIn_of_expectation? he (scopeBetween heads)
  obtain rfl := form_of_expectation? he
  have h := leaves_statements checks (scopeBetween heads) x e
  rw [placedIn, Stmt.placed, placedIn, List.append_nil, delayedParts_singleton, Placed.isDelayed_eq,
    hd]
  by_cases hdelayed : e.kind = .error ∧ scopeBetween heads ≠ .classBody
  · simpa [kept, bodyWithoutDelayed, Stmt.withoutDelayed, hd, hdelayed, directOf, functionsOf,
      Stmt.direct, Stmt.functions, Simple.scopeParts] using h
  · simpa [kept, bodyWithoutDelayed, Stmt.withoutDelayed, hd, hdelayed, directOf, functionsOf,
      Stmt.direct, Stmt.functions, Simple.scopeParts] using h

theorem leaves_invariant : Checks.Invariant
    (fun heads _ before after _ => ∀ behind,
      Leaves after (directOf (bodyWithoutDelayed (scopeBetween heads) before))
        (functionsOf false (bodyWithoutDelayed (scopeBetween heads) before))
        (delayedParts (placedIn heads behind before)))
    (fun heads _ before after _ =>
      BlocksLeave after (blocksWithoutDelayed (scopeBetween heads) before)
        (delayedParts (placedInBlocks heads before))) where
  nil _ _ _ := ⟨rfl, rfl, rfl⟩
  append hbefore hafter behind := by
    rw [bodyWithoutDelayed_append, directOf_append, functionsOf_append, placedIn_append,
      delayedParts_append]
    exact (hbefore _).append (hafter behind)
  check heads checks _ _ _ _ _ he behind := leaves_check checks heads behind he
  hoist heads _ site form _ he hi behind := by
    obtain ⟨hkept, hparts⟩ := withoutDelayed_of_none heads behind he
    have hdirect : form.scopeParts = [] := by
      cases form with
      | importModules names => rfl
      | importFrom source names level => rfl
      | _ => cases hi
    rw [hkept, hparts, directOf, Stmt.direct, hdirect]
    exact ⟨rfl, rfl, rfl⟩
  stay heads _ site form _ he _ behind := by
    obtain ⟨hkept, hparts⟩ := withoutDelayed_of_none heads behind he
    rw [hkept, hparts]
    exact ⟨rfl, rfl, rfl⟩
  compound {heads _ _ site head before after} hr hblocks behind := by
    rw [scopeBetween_cons] at hblocks
    have hplaced : delayedParts (placedIn heads behind [.compound site head before]) =
        delayedParts (placedInBlocks (head :: heads) before) := by
      rw [placedIn, Stmt.placed, placedIn, List.append_nil]
      rfl
    rw [hplaced]
    exact hblocks.compound hr head
  noBlocks _ _ := ⟨rfl, rfl, rfl⟩
  block {heads _ _ before after} label hbody := by
    rw [placedInBlocks, placedInBlocks, List.append_nil]
    exact (hbody []).block label before
  appendBlocks hbefore hafter := by
    rw [blocksWithoutDelayed_append, placedInBlocks_append, delayedParts_append]
    exact hbefore.append hafter

theorem leaves_insert (checks : Checks) {body : List Stmt} (h : Fresh (nodesOf body)) :
    Leaves (checks.insert body).1 (directOf (bodyWithoutDelayed .coroutine body))
      (functionsOf false (bodyWithoutDelayed .coroutine body)) (delayedParts (placedOf body)) := by
  obtain ⟨after, hafter, hbody⟩ := leaves_invariant.insert checks h
  have hleaves := hafter []
  rw [hbody]
  split
  next he =>
    rw [he] at hleaves
    exact ⟨hleaves.direct, hleaves.functions, hleaves.made⟩
  next => exact hleaves

/-! ### Bodies that keep their scopes -/

/-- The expressions that functions are made for do nothing to the functions around them. -/
def Bare (placed : List Placed) : Prop :=
  ∀ p ∈ placed, p.isDelayed = true → p.stmt.direct = []

@[simp] theorem bare_nil : Bare [] := by simp [Bare]

@[simp] theorem bare_append {ps qs : List Placed} : Bare (ps ++ qs) ↔ Bare ps ∧ Bare qs := by
  simp [Bare, or_imp, forall_and]

theorem bare_cons_compound {heads : List Head} {site : Site} {head : Head} {blocks : List Block}
    {behind : List Stmt} {ps : List Placed} :
    Bare (⟨heads, .compound site head blocks, behind⟩ :: ps) ↔ Bare ps := by
  have hnot : Placed.isDelayed ⟨heads, .compound site head blocks, behind⟩ = false := by
    simp [Placed.isDelayed, Stmt.annotationKind?]
  simp [Bare, hnot]

/-- What is left of the scopes of some statements in a scope if some expressions are taken out. -/
structure Reduced (scope : Scope) (placed : List Placed) (direct direct' : List ScopePart)
    (functions functions' : List (List ScopePart)) : Prop where
  sublist : direct'.Sublist direct
  length : functions'.length = functions.length
  /-- No expression is taken out of the body of a class. -/
  classBody : scope = .classBody → direct' = direct
  same_iff : direct' = direct ∧ functions' = functions ↔ Bare placed

namespace Reduced

variable {scope : Scope} {ps qs : List Placed} {direct direct' others others' : List ScopePart}
  {functions functions' more more' : List (List ScopePart)}

theorem nil (direct : List ScopePart) : Reduced scope [] direct direct [] [] :=
  ⟨.refl _, rfl, fun _ => rfl, by simp⟩

theorem append (h : Reduced scope ps direct direct' functions functions')
    (h' : Reduced scope qs others others' more more') :
    Reduced scope (ps ++ qs) (direct ++ others) (direct' ++ others') (functions ++ more)
      (functions' ++ more') := by
  constructor
  case sublist => exact h.sublist.append h'.sublist
  case length => rw [List.length_append, List.length_append, h.length, h'.length]
  case classBody => exact fun hs => by rw [h.classBody hs, h'.classBody hs]
  case same_iff =>
    rw [bare_append, ← h.same_iff, ← h'.same_iff]
    constructor
    · rintro ⟨hdirect, hfunctions⟩
      -- Both parts are reduced, so that neither can make up for the other.
      have hlength := congrArg List.length hdirect
      rw [List.length_append, List.length_append] at hlength
      have hle := h.sublist.length_le
      have hle' := h'.sublist.length_le
      have hsame := h.sublist.eq_of_length (by omega)
      have hsame' := h'.sublist.eq_of_length (by omega)
      obtain ⟨hf, hf'⟩ := List.append_inj hfunctions h.length
      exact ⟨⟨hsame, hf⟩, hsame', hf'⟩
    · rintro ⟨⟨rfl, rfl⟩, rfl, rfl⟩
      exact ⟨rfl, rfl⟩

/-- What is evaluated in a function belongs to the function. -/
theorem function (h : Reduced scope ps direct direct' functions functions') (around : Scope) :
    Reduced around ps [] [] (direct :: functions) (direct' :: functions') := by
  refine ⟨.refl _, by simp [h.length], fun _ => rfl, ?_⟩
  rw [← h.same_iff]
  simp

/-- What is evaluated in the body of a class belongs to no function. -/
theorem ofClass (h : Reduced .classBody ps direct direct' functions functions') (around : Scope) :
    Reduced around ps [] [] functions functions' := by
  refine ⟨.refl _, h.length, fun _ => rfl, ?_⟩
  rw [← h.same_iff]
  simp [h.classBody rfl]

/-- A compound statement that is itself no expression. -/
theorem compound (h : Reduced scope ps direct direct' functions functions') {heads : List Head}
    {site : Site} {head : Head} {blocks : List Block} {behind : List Stmt} :
    Reduced scope (⟨heads, .compound site head blocks, behind⟩ :: ps) (head.scopeParts ++ direct)
      (head.scopeParts ++ direct') functions functions' := by
  have hhead : Reduced scope [] head.scopeParts head.scopeParts [] [] := .nil _
  have hall := hhead.append h
  exact ⟨hall.sublist, hall.length, hall.classBody, hall.same_iff.trans bare_cons_compound.symm⟩

end Reduced

theorem reduced_simple (heads : List Head) (behind : List Stmt) (site : Site) (form : Simple) :
    let kept := (Stmt.simple site form).withoutDelayed (scopeBetween heads)
    Reduced (scopeBetween heads) [⟨heads, .simple site form, behind⟩] form.scopeParts kept.direct
      [] (kept.functions false) := by
  intro kept
  have hbare : Bare [⟨heads, .simple site form, behind⟩] ↔
      ((Stmt.simple site form).isDelayedIn (scopeBetween heads) = true → form.scopeParts = []) := by
    simp [Bare, Placed.isDelayed_eq, Stmt.direct]
  cases hd : (Stmt.simple site form).isDelayedIn (scopeBetween heads) with
  | false =>
    have hkept : kept = .simple site form := by simp [kept, Stmt.withoutDelayed, hd]
    rw [hkept]
    exact ⟨.refl _, rfl, fun _ => rfl, iff_of_true ⟨rfl, rfl⟩ (hbare.mpr (by simp [hd]))⟩
  | true =>
    have hkept : kept = .simple site .pass := by simp [kept, Stmt.withoutDelayed, hd]
    have hscope : scopeBetween heads ≠ .classBody := (of_decide_eq_true hd).2
    rw [hkept]
    refine ⟨List.nil_sublist _, rfl, fun h => absurd h hscope, ?_⟩
    rw [hbare]
    exact ⟨fun hsame _ => hsame.1.symm, fun hnone => ⟨(hnone hd).symm, rfl⟩⟩

mutual

theorem reduced_withoutDelayed (stmt : Stmt) (heads : List Head) (behind : List Stmt)
    (h : Fresh stmt.nodes) :
    let kept := stmt.withoutDelayed (scopeBetween heads)
    Reduced (scopeBetween heads) (stmt.placed heads behind) stmt.direct kept.direct
      (stmt.functions false) (kept.functions false) := by
  intro kept
  cases stmt with
  | simple site form => exact reduced_simple heads behind site form
  | compound site head blocks =>
    simp only [Stmt.nodes, fresh_cons, Stmt.site_compound] at h
    have hb := reduced_blocksWithoutDelayed blocks (head :: heads) h.2
    rw [scopeBetween_cons] at hb
    simp only [kept, Stmt.withoutDelayed, Stmt.direct, Stmt.functions, h.1]
    refine Reduced.compound ?_
    cases head with
    | function isAsync => cases isAsync <;> exact hb.function _
    | classDef => exact hb.ofClass _
    | _ => exact hb

theorem reduced_blocksWithoutDelayed (blocks : List Block) (heads : List Head)
    (h : Fresh (nodesOfBlocks blocks)) :
    let kept := blocksWithoutDelayed (scopeBetween heads) blocks
    Reduced (scopeBetween heads) (placedInBlocks heads blocks) (directOfBlocks blocks)
      (directOfBlocks kept) (functionsOfBlocks false blocks) (functionsOfBlocks false kept) := by
  intro kept
  cases blocks with
  | nil => exact .nil []
  | cons block rest =>
    obtain ⟨label, body⟩ := block
    simp only [nodesOfBlocks, fresh_append] at h
    have hlabel : Reduced (scopeBetween heads) [] label.scopeParts label.scopeParts [] [] := .nil _
    exact hlabel.append ((reduced_bodyWithoutDelayed body heads [] h.1).append
      (reduced_blocksWithoutDelayed rest heads h.2))

theorem reduced_bodyWithoutDelayed (body : List Stmt) (heads : List Head) (behind : List Stmt)
    (h : Fresh (nodesOf body)) :
    let kept := bodyWithoutDelayed (scopeBetween heads) body
    Reduced (scopeBetween heads) (placedIn heads behind body) (directOf body) (directOf kept)
      (functionsOf false body) (functionsOf false kept) := by
  intro kept
  cases body with
  | nil => exact .nil []
  | cons stmt rest =>
    simp only [nodesOf, fresh_append] at h
    exact (reduced_withoutDelayed stmt heads (rest ++ behind) h.1).append
      (reduced_bodyWithoutDelayed rest heads behind h.2)

end

/-- Taking expressions out leaves the scopes as they are if these do nothing to them. -/
theorem scopesOf_withoutDelayed_iff {body : List Stmt} (h : Fresh (nodesOf body)) :
    scopesOf (bodyWithoutDelayed .coroutine body) = scopesOf body ↔ Bare (placedOf body) := by
  have hsame := (reduced_bodyWithoutDelayed body [] [] h).same_iff
  rw [scopesOf, scopesOf, List.cons.injEq]
  exact hsame

/-- Each function has the `yield`s and the bindings that it had, and no function that a check makes
has a `yield`. -/
structure KeepsScopes (before after : List Stmt) : Prop where
  same : scopesOf after = scopesOf before
  noYield : ∀ parts ∈ madeScopesOf after, ∀ part ∈ parts, part.isBinding = true

/-- Checks take nothing out of the scopes of a sample but what is evaluated in expressions that
functions are made for, and put it into these functions. -/
theorem insert_keepsScopes_iff (checks : Checks) {body : List Stmt} (h : Fresh (nodesOf body)) :
    scopesOf (checks.insert body).1 = scopesOf (bodyWithoutDelayed .coroutine body) ∧
      madeScopesOf (checks.insert body).1 =
        ((placedOf body).filter Placed.isDelayed).map (fun p => p.stmt.direct) ∧
      (KeepsScopes body (checks.insert body).1 ↔
        ∀ p ∈ placedOf body, p.isDelayed = true → p.stmt.direct = []) := by
  have hleaves := leaves_insert checks h
  have hscopes : scopesOf (checks.insert body).1 =
      scopesOf (bodyWithoutDelayed .coroutine body) := by
    rw [scopesOf, scopesOf, hleaves.direct, hleaves.functions]
  refine ⟨hscopes, hleaves.made, fun hkeeps => ?_, fun hbare => ⟨?_, ?_⟩⟩
  · exact (scopesOf_withoutDelayed_iff h).mp (hscopes ▸ hkeeps.same)
  · rw [hscopes]
    exact (scopesOf_withoutDelayed_iff h).mpr hbare
  · intro parts hparts part hpart
    rw [madeScopesOf, hleaves.made, delayedParts, List.mem_map] at hparts
    obtain ⟨p, hp, rfl⟩ := hparts
    obtain ⟨hp, hd⟩ := List.mem_filter.mp hp
    rw [hbare p hp hd] at hpart
    cases hpart

namespace YieldingFunctions

def expression (comment : String) (form : Form) : Stmt :=
  .simple { comments := [⟨comment, 1, 0⟩] } (.expr ⟨1, form⟩)

def name (id : String) : Expr := ⟨1, .name id⟩

/-- A generator with a `yield` that is compared, in which a call of a lambda fails that yields for
itself, and a class in which a binding fails. -/
def body : List Stmt :=
  [.compound {} (.function false "f" Params.empty [] none) [⟨.body,
    [expression " => 1" (.yield (some (name "a"))),
      expression " TypeError: b"
        (.call ⟨1, .lambda Params.empty ⟨1, .yield none⟩⟩ [name "b"] [])]⟩],
  .compound {} (.classDef "C" [] [] []) [⟨.body,
    [expression " NameError: c" (.named (name "d") (name "c"))]⟩]]

/-- A generator in which the `yield` fails. -/
def failing : Sample :=
  { title := some "Values", language := "python+test", line := some 3
    source := "def f():\n    (yield 1)  # ValueError: x\n" }

end YieldingFunctions

theorem insert_keepsScopes_yieldingFunctions :
    Fresh (nodesOf YieldingFunctions.body) ∧
      (placedOf YieldingFunctions.body).map Placed.isDelayed =
        [false, false, true, false, false] ∧
      (scopesOf YieldingFunctions.body).map List.length = [0, 1] ∧
      KeepsScopes YieldingFunctions.body (Checks.insert {} YieldingFunctions.body).1 := by
  have hf : Fresh (nodesOf YieldingFunctions.body) := by
    simp [Fresh, YieldingFunctions.body, YieldingFunctions.expression, nodesOf, Stmt.nodes,
      nodesOfBlocks]
  refine ⟨hf, by decide +kernel, by decide +kernel, (insert_keepsScopes_iff {} hf).2.2.mpr ?_⟩
  decide +kernel

/-- The generator becomes a plain function, and one that the check makes a generator. -/
theorem not_keepsScopes_failingYield : ∃ body, YieldingFunctions.failing.parse = .ok body ∧
    ¬ KeepsScopes body (Checks.insert {} body).1 := by
  have hlengths : YieldingFunctions.failing.parse.toOption.map (fun body =>
      ((scopesOf body).map List.length, (scopesOf (Checks.insert {} body).1).map List.length)) =
        some ([0, 1], [0, 0]) := by
    decide +kernel
  obtain ⟨body, hbody, hlengths⟩ := exists_of_toOption_map hlengths
  refine ⟨body, hbody, fun hkeeps => ?_⟩
  rw [hkeeps.same] at hlengths
  have hsame := (Prod.ext_iff.mp hlengths).1.symm.trans (Prod.ext_iff.mp hlengths).2
  cases hsame

end DocSuite
