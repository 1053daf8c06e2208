import DocSuite.Proofs.Insertion

/-!
Taking checks out of a body again. A check is read back as a group: the expression that it holds,
and what it expects. Main statement: with an expression in place of each group, the body of a sample
is as it was, less its imports.
-/
namespace DocSuite

open DocSuite.Syntax

/-! ### Expectations that the comments start -/

namespace Expectation

theorem ofComments_isOk {first : String} {kind : Kind} (h : kind? first = some kind)
    (others : List String) : ∃ e, ofComments (first :: others) kind.text = .ok e := by
  have hv : Kind.ofText? Kind.value.text = some .value := rfl
  have he : Kind.ofText? Kind.error.text = some .error := rfl
  unfold kind? at h
  split at h
  next hs =>
    cases h
    obtain ⟨text, ht⟩ := Option.isSome_iff_exists.mp hs
    exact ⟨.value (textOf text others), by simp only [ofComments, hv, ht]⟩
  next =>
    split at h
    next hs =>
      cases h
      obtain ⟨⟨name, text⟩, ht⟩ := Option.isSome_iff_exists.mp hs
      exact ⟨.error (String.ofList name) (textOf text others), by simp only [ofComments, he, ht]⟩
    next => cases h

end Expectation

namespace Syntax.Stmt

/-- The expression of a statement that is nothing else and whose first comment starts an
expectation, with the reading of its comments. -/
def annotation? : Stmt → Option (Expr × Except ExpectationFault Expectation)
  | .simple site (.expr value) =>
      match site.comments.map Comment.text with
      | [] => none
      | first :: others =>
          (Expectation.kind? first).map fun kind =>
            (value, Expectation.ofComments (first :: others) kind.text)
  | _ => none

theorem annotation?_eq (stmt : Stmt) :
    stmt.annotation? = stmt.expectation?.map fun (value, e) => (value, .ok e) := by
  cases stmt with
  | compound site head blocks => rfl
  | simple site form =>
    cases form <;> try rfl
    rename_i value
    simp only [annotation?, expectation?, Expectation.ofTrailing?]
    cases hc : site.comments.map Comment.text with
    | nil => rfl
    | cons first others =>
      cases hk : Expectation.kind? first with
      | none => simp [hk]
      | some kind =>
        obtain ⟨e, he⟩ := Expectation.ofComments_isOk hk others
        simp [hk, he, Except.toOption]

end Syntax.Stmt

/-! ### Groups -/

/-- What a check holds. -/
structure Group where
  expression : Expr
  expectation : Expectation

namespace Group

def text? : Expr → Option String
  | ⟨_, .literal (.text codes false)⟩ => some (String.ofList (codes.map Char.ofNat))
  | _ => none

/-- The function and the arguments of a call of the module that suites import. -/
def call? : Expr → Option (String × List Expr)
  | ⟨_, .call ⟨_, .attribute ⟨_, .name module⟩ function⟩ args []⟩ =>
      if module = supportName then some (function, args) else none
  | _ => none

def awaited? : Expr → Option Expr
  | ⟨_, .await value⟩ => some value
  | _ => none

/-- A name and a message that a call expects. -/
def error? (expression name message : Expr) : Option Group := do
  return ⟨expression, .error (← text? name) (← text? message)⟩

/-- The group in one statement. -/
def single? : Stmt → Option Group
  | .simple site (.expr e) =>
      if site.recorded then
        match call? e with
        | some ("assert_repr", [x, expected]) => (text? expected).map fun text => ⟨x, .value text⟩
        | _ => none
      else none
  | .compound site (.withItems false [(context, none)]) [⟨.body, [.simple _ (.expr x)]⟩] =>
      if site.recorded then
        match call? context with
        | some ("expect_error", [name, message]) => error? x name message
        | _ => none
      else none
  | _ => none

/-- The group in a function and the check right behind it that calls the function. -/
def pair? : Stmt → Stmt → Option Group
  | .compound site (.function isAsync thunk _ [] none) [⟨.body, [.simple _ (.ret (some x))]⟩],
    .simple site' (.expr e) =>
      if site.recorded && site'.recorded then
        match (if isAsync then awaited? e else some e).bind call? with
        | some (function, [⟨_, .name called⟩, name, message]) =>
            if called = thunk ∧ function = (if isAsync then "assert_error" else "assert_error_sync")
            then error? x name message
            else none
        | _ => none
      else none
  | _, _ => none

@[simp] theorem text?_textExpr (s : String) : text? (Check.textExpr s) = some s := by
  have h : (Char.ofNat ∘ Char.toNat) = id := by
    funext c
    simp [Char.ofNat_toNat]
  simp [text?, Check.textExpr, Check.made, Literal.ofString, h]

@[simp] theorem call?_supportCall (function : String) (args : List Expr) :
    call? (Check.supportCall function args) = some (function, args) := by
  simp [call?, Check.supportCall, Check.made, Check.nameExpr]

@[simp] theorem error?_textExpr (x : Expr) (name message : String) :
    error? x (Check.textExpr name) (Check.textExpr message) = some ⟨x, .error name message⟩ := by
  simp [error?]

@[simp] theorem single?_value (x : Expr) (expected : String) :
    single? (Check.value x expected) = some ⟨x, .value expected⟩ := by
  simp [single?, Check.value, Check.recorded]

@[simp] theorem single?_inlineError (x : Expr) (name message : String) :
    single? (Check.inlineError x name message) = some ⟨x, .error name message⟩ := by
  simp [single?, Check.inlineError, Check.recorded]

@[simp] theorem pair?_thunk (x : Expr) (thunk name message : String) (inCoroutine : Bool) :
    pair? (Check.thunk x thunk inCoroutine) (Check.thunkCheck thunk name message inCoroutine) =
      some ⟨x, .error name message⟩ := by
  cases inCoroutine <;>
    simp [pair?, Check.thunk, Check.thunkCheck, Check.recorded, Check.made, awaited?,
      Check.nameExpr]

theorem single?_eq_none {stmt : Stmt} (h : stmt.site.recorded = false) : single? stmt = none := by
  unfold single?
  split <;> simp_all [Stmt.site]

theorem pair?_eq_none {first : Stmt} (h : first.site.recorded = false) (second : Stmt) :
    pair? first second = none := by
  unfold pair?
  split <;> simp_all [Stmt.site]

end Group

/-! ### Bodies without checks -/

/-- What is written for an expression with the reading of its expectation. -/
abbrev Leaf := Expr → Except ExpectationFault Expectation → Stmt

section

variable (leaf : Leaf)

mutual

/-- The statement with a leaf in place of each group. -/
def restoreStmt : Stmt → Stmt
  | .simple site form =>
      match Group.single? (.simple site form) with
      | some group => leaf group.expression (.ok group.expectation)
      | none => .simple site form
  | .compound site head blocks =>
      match Group.single? (.compound site head blocks) with
      | some group => leaf group.expression (.ok group.expectation)
      | none => .compound site head (restoreBlocks blocks)

def restoreBlocks : List Block → List Block
  | [] => []
  | ⟨label, body⟩ :: rest => ⟨label, restoreBody body⟩ :: restoreBlocks rest

def restoreBody : List Stmt → List Stmt
  | [] => []
  | [stmt] => [restoreStmt stmt]
  | first :: second :: rest =>
      match Group.pair? first second with
      | some group => leaf group.expression (.ok group.expectation) :: restoreBody rest
      | none => restoreStmt first :: restoreBody (second :: rest)

end

mutual

/-- The statement with a leaf in place of each expression whose comments start an expectation. -/
def markStmt : Stmt → Stmt
  | .simple site form =>
      match (Stmt.simple site form).annotation? with
      | some (value, reading) => leaf value reading
      | none => .simple site form
  | .compound site head blocks => .compound site head (markBlocks blocks)

def markBlocks : List Block → List Block
  | [] => []
  | ⟨label, body⟩ :: rest => ⟨label, markBody body⟩ :: markBlocks rest

def markBody : List Stmt → List Stmt
  | [] => []
  | stmt :: rest => markStmt stmt :: markBody rest

end

end

/-- A block with what is kept of its statements. Where nothing is kept a `pass` stands, and no
`else` at all. -/
def keptBlock (label : Label) (body kept : List Stmt) : List Block :=
  if kept.isEmpty && !body.isEmpty then
    match label with
    | .orelse => []
    | label => [⟨label, [Stmt.pass]⟩]
  else [⟨label, kept⟩]

mutual

/-- The statement without the imports in its blocks. -/
def withoutImports : Stmt → Stmt
  | .simple site form => .simple site form
  | .compound site head blocks => .compound site head (blocksWithoutImports blocks)

def blocksWithoutImports : List Block → List Block
  | [] => []
  | ⟨label, body⟩ :: rest =>
      keptBlock label body (bodyWithoutImports body) ++ blocksWithoutImports rest

def bodyWithoutImports : List Stmt → List Stmt
  | [] => []
  | stmt :: rest =>
      if stmt.isImport then bodyWithoutImports rest
      else withoutImports stmt :: bodyWithoutImports rest

end

/-- The body of a sample without its imports. -/
def sampleWithoutImports (body : List Stmt) : List Stmt :=
  let kept := bodyWithoutImports body
  if kept.isEmpty then [Stmt.pass] else kept

/-! ### Restoring a body -/

section

variable {leaf : Leaf}

theorem restoreBody_cons_of_pair {first second : Stmt} {group : Group}
    (h : Group.pair? first second = some group) (rest : List Stmt) :
    restoreBody leaf (first :: second :: rest) =
      leaf group.expression (.ok group.expectation) :: restoreBody leaf rest := by
  rw [restoreBody, h]

theorem restoreBody_cons {first : Stmt} (h : ∀ second, Group.pair? first second = none)
    (rest : List Stmt) :
    restoreBody leaf (first :: rest) = restoreStmt leaf first :: restoreBody leaf rest := by
  cases rest with
  | nil => simp [restoreBody]
  | cons second rest => rw [restoreBody, h second]

theorem restoreStmt_of_single {stmt : Stmt} {group : Group}
    (h : Group.single? stmt = some group) :
    restoreStmt leaf stmt = leaf group.expression (.ok group.expectation) := by
  cases stmt <;> rw [restoreStmt, h]

theorem restoreBody_eq_nil {body : List Stmt} : restoreBody leaf body = [] ↔ body = [] := by
  fun_cases restoreBody leaf body <;> simp [*]

theorem restoreBody_statements (checks : Checks) (scope : Scope) (x : Expr) (e : Expectation)
    (rest : List Stmt) :
    restoreBody leaf ((checks.statements scope x e).1 ++ rest) =
      leaf x (.ok e) :: restoreBody leaf rest := by
  cases e with
  | value expected =>
    simp only [Checks.statements, List.singleton_append]
    rw [restoreBody_cons (fun _ => rfl), restoreStmt_of_single (Group.single?_value x expected)]
  | error name message =>
    cases scope with
    | classBody =>
      simp only [Checks.statements, List.singleton_append]
      rw [restoreBody_cons (fun _ => rfl),
        restoreStmt_of_single (Group.single?_inlineError x name message)]
    | coroutine => exact restoreBody_cons_of_pair (Group.pair?_thunk ..) rest
    | function => exact restoreBody_cons_of_pair (Group.pair?_thunk ..) rest

theorem markBody_eq_nil {body : List Stmt} : markBody leaf body = [] ↔ body = [] := by
  cases body <;> simp [markBody]

/-- What is left of a statement, as a body. -/
def stmtWithoutImports (stmt : Stmt) : List Stmt :=
  if stmt.isImport then [] else [withoutImports stmt]

theorem bodyWithoutImports_cons (stmt : Stmt) (rest : List Stmt) :
    bodyWithoutImports (stmt :: rest) = stmtWithoutImports stmt ++ bodyWithoutImports rest := by
  rw [bodyWithoutImports, stmtWithoutImports]
  split <;> rfl

@[simp] theorem bodyWithoutImports_append (as bs : List Stmt) :
    bodyWithoutImports (as ++ bs) = bodyWithoutImports as ++ bodyWithoutImports bs := by
  induction as with
  | nil => rfl
  | cons a as ih =>
    rw [List.cons_append, bodyWithoutImports_cons, bodyWithoutImports_cons, ih, List.append_assoc]

@[simp] theorem blocksWithoutImports_append (as bs : List Block) :
    blocksWithoutImports (as ++ bs) = blocksWithoutImports as ++ blocksWithoutImports bs := by
  induction as with
  | nil => rfl
  | cons a as ih =>
    obtain ⟨label, body⟩ := a
    simp [blocksWithoutImports, ih]

@[simp] theorem markBody_append (as bs : List Stmt) :
    markBody leaf (as ++ bs) = markBody leaf as ++ markBody leaf bs := by
  induction as with
  | nil => rfl
  | cons a as ih => simp [markBody, ih]

@[simp] theorem markBlocks_append (as bs : List Block) :
    markBlocks leaf (as ++ bs) = markBlocks leaf as ++ markBlocks leaf bs := by
  induction as with
  | nil => rfl
  | cons a as ih =>
    obtain ⟨label, body⟩ := a
    simp [markBlocks, ih]

@[simp] theorem restoreBlocks_append (as bs : List Block) :
    restoreBlocks leaf (as ++ bs) = restoreBlocks leaf as ++ restoreBlocks leaf bs := by
  induction as with
  | nil => rfl
  | cons a as ih =>
    obtain ⟨label, body⟩ := a
    simp [restoreBlocks, ih]

@[simp] theorem restoreBody_pass : restoreBody leaf [Stmt.pass] = [Stmt.pass] := rfl

@[simp] theorem markBody_pass : markBody leaf [Stmt.pass] = [Stmt.pass] := rfl

theorem restoreBlocks_block {before after : List Stmt}
    (h : restoreBody leaf after = markBody leaf (bodyWithoutImports before)) (label : Label) :
    restoreBlocks leaf (Checks.block label before after) =
      markBlocks leaf (keptBlock label before (bodyWithoutImports before)) := by
  have hn : after = [] ↔ bodyWithoutImports before = [] := by
    rw [← restoreBody_eq_nil, h, markBody_eq_nil]
  rcases Checks.block_cases label before after with
    ⟨hkept, hb⟩ | ⟨hne, rfl, rfl, hb⟩ | ⟨hne, rfl, hlabel, hb⟩
  · have hfull : ((bodyWithoutImports before).isEmpty && !before.isEmpty) = false := by
      rcases hkept with rfl | hafter
      · rfl
      · simp [mt hn.mpr hafter]
    unfold keptBlock
    rw [hb, hfull, if_neg Bool.false_ne_true]
    simp [restoreBlocks, markBlocks, h]
  · rw [hb, hn.mp rfl]
    simp [keptBlock, hne, restoreBlocks, markBlocks]
  · rw [hb, hn.mp rfl]
    simp [keptBlock, hne, restoreBlocks, markBlocks]

/-- What is restored in front of any others is what is marked of the body that was there. -/
theorem restored_invariant : Checks.Invariant
    (fun _ _ before after _ => ∀ rest, restoreBody leaf (after ++ rest) =
      markBody leaf (bodyWithoutImports before) ++ restoreBody leaf rest)
    (fun _ _ before after _ =>
      restoreBlocks leaf after = markBlocks leaf (blocksWithoutImports before)) where
  nil _ _ _ := rfl
  append hbefore hafter rest := by
    rw [List.append_assoc, hbefore, hafter, bodyWithoutImports_append, markBody_append,
      List.append_assoc]
  check heads checks site form x e hr he rest := by
    have ha := Stmt.annotation?_eq (.simple site form)
    rw [he, Option.map_some] at ha
    rw [Checks.check, restoreBody_statements]
    simp [bodyWithoutImports, Checks.isImport_of_expectation? he, withoutImports, markBody,
      markStmt, ha]
  hoist heads checks site form hr he hi rest := by simp [bodyWithoutImports, hi, markBody]
  stay heads checks site form hr he hi rest := by
    have ha := Stmt.annotation?_eq (.simple site form)
    rw [he, Option.map_none] at ha
    have hs : (Stmt.simple site form).site.recorded = false := hr
    rw [List.singleton_append, restoreBody_cons (Group.pair?_eq_none hs), restoreStmt,
      Group.single?_eq_none hs]
    simp [bodyWithoutImports, hi, withoutImports, markBody, markStmt, ha]
  compound {_ _ _ site head before after} hr hblocks rest := by
    have hs : (Stmt.compound site head after).site.recorded = false := hr
    rw [List.singleton_append, restoreBody_cons (Group.pair?_eq_none hs), restoreStmt,
      Group.single?_eq_none hs]
    simp [bodyWithoutImports, Stmt.isImport, withoutImports, markBody, markStmt, hblocks]
  noBlocks _ _ := rfl
  block {_ _ _ before after} label hbody := by
    have hb : restoreBody leaf after = markBody leaf (bodyWithoutImports before) := by
      simpa [restoreBody] using hbody []
    simpa [blocksWithoutImports] using restoreBlocks_block hb label
  appendBlocks hbefore hafter := by
    rw [restoreBlocks_append, hbefore, hafter, blocksWithoutImports_append, markBlocks_append]

end

/-! ### The ledger of a body -/

/-- The statements of checks that were put in. -/
def recordedOf (nodes : List Stmt) : List Stmt := nodes.filter fun stmt => stmt.site.recorded

@[simp] theorem recordedOf_append (as bs : List Stmt) :
    recordedOf (as ++ bs) = recordedOf as ++ recordedOf bs := by simp [recordedOf]

theorem recordedOf_statements (checks : Checks) (scope : Scope) (x : Expr) (e : Expectation) :
    recordedOf (nodesOf (checks.statements scope x e).1) = (checks.statements scope x e).1 := by
  cases e with
  | value expected => rfl
  | error name message => cases scope <;> rfl

theorem ledger_statements (checks : Checks) (scope : Scope) (x : Expr) (e : Expectation) :
    (checks.statements scope x e).2.ledger.nodes = checks.ledger.nodes := by
  cases e with
  | value expected => rfl
  | error name message => cases scope <;> rfl

theorem recordedOf_block (label : Label) (before after : List Stmt) :
    recordedOf (nodesOfBlocks (Checks.block label before after)) = recordedOf (nodesOf after) := by
  rcases Checks.block_cases label before after with
    ⟨-, hb⟩ | ⟨-, rfl, rfl, hb⟩ | ⟨-, rfl, -, hb⟩
  · rw [hb, nodesOfBlocks, nodesOfBlocks, List.append_nil]
  · rw [hb]
    rfl
  · rw [hb]
    rfl

/-- The ledger gets the statements of the checks that are put in. -/
theorem ledger_invariant : Checks.Invariant
    (fun _ checks _ after checks' =>
      checks'.ledger.nodes = checks.ledger.nodes ++ recordedOf (nodesOf after))
    (fun _ checks _ after checks' =>
      checks'.ledger.nodes = checks.ledger.nodes ++ recordedOf (nodesOfBlocks after)) where
  nil _ _ := by simp [nodesOf, recordedOf]
  append hbefore hafter := by
    rw [hafter, hbefore, nodesOf_append, recordedOf_append, List.append_assoc]
  check heads checks site form x e hr he := by
    simp only [Checks.check, Ledger.record]
    rw [recordedOf_statements, ledger_statements]
  hoist _ checks _ _ _ _ _ := by simp [Checks.hoist, nodesOf, recordedOf]
  stay _ checks _ _ hr _ _ := by simp [nodesOf, Stmt.nodes, recordedOf, hr]
  compound hr hblocks := by simp [hblocks, nodesOf, Stmt.nodes, recordedOf, hr]
  noBlocks _ _ := by simp [nodesOfBlocks, recordedOf]
  block label hbody := by rw [hbody, recordedOf_block]
  appendBlocks hbefore hafter := by
    rw [hafter, hbefore, nodesOfBlocks_append, recordedOf_append, List.append_assoc]

/-! ### Whole samples -/

theorem restoreBody_insert (leaf : Leaf) (checks : Checks) {body : List Stmt}
    (h : Fresh (nodesOf body)) :
    restoreBody leaf (checks.insert body).1 = markBody leaf (sampleWithoutImports body) := by
  obtain ⟨after, hafter, hbody⟩ := (@restored_invariant leaf).insert checks h
  have hb : restoreBody leaf after = markBody leaf (bodyWithoutImports body) := by
    simpa [restoreBody] using hafter []
  have hn : after = [] ↔ bodyWithoutImports body = [] := by
    rw [← @restoreBody_eq_nil leaf, hb, markBody_eq_nil]
  simp only [hbody, sampleWithoutImports, List.isEmpty_iff]
  by_cases he : after = []
  · simp [he, hn.mp he]
  · simp [he, mt hn.mpr he, hb]

theorem ledger_insert (checks : Checks) {body : List Stmt} (h : Fresh (nodesOf body)) :
    (checks.insert body).2.ledger.nodes =
      checks.ledger.nodes ++ recordedOf (nodesOf (checks.insert body).1) := by
  obtain ⟨after, hledger, hbody⟩ := ledger_invariant.insert checks h
  rw [hledger, hbody]
  split
  next he => rw [he]; rfl
  next => rfl

/-- A body without its checks is the body that they were put into, less its imports. Each check
stands where the comments of an expression start an expectation, and holds what they are read as:
the leaf may be any function of both. The statements of the checks are those that the ledger
gets. -/
theorem insert_restorable (leaf : Leaf) (checks : Checks) (body : List Stmt)
    (h : Fresh (nodesOf body)) :
    restoreBody leaf (checks.insert body).1 = markBody leaf (sampleWithoutImports body) ∧
      (checks.insert body).2.ledger.nodes =
        checks.ledger.nodes ++ recordedOf (nodesOf (checks.insert body).1) :=
  ⟨restoreBody_insert leaf checks h, ledger_insert checks h⟩

namespace MixedBody

/-- A name with a comment behind it. -/
def commented (name comment : String) : Stmt :=
  .simple { comments := [⟨comment, 1, 0⟩] } (.expr ⟨1, .name name⟩)

def bare (x : Expr) : Stmt := .simple {} (.expr x)

def importOf (name : String) : Stmt := .simple {} (.importModules [⟨name, none⟩])

def loopHead : Head := .whileLoop ⟨1, .name "a"⟩

def classHead : Head := .classDef "C" [] [] []

/-- A loop whose blocks hold imports alone, checks of both kinds, and a class. -/
def body : List Stmt :=
  [.compound {} loopHead
    [⟨.body, [importOf "os"]⟩, ⟨.orelse, [importOf "re", importOf "json"]⟩],
  commented "b" " ValueError: v",
  .compound {} classHead
    [⟨.body, [commented "c" " => 1", importOf "sys", commented "d" " KeyError: k"]⟩],
  commented "e" " no expectation"]

/-- The body without its imports, and without the comments that are read. -/
def plain : List Stmt :=
  [.compound {} loopHead [⟨.body, [Stmt.pass]⟩],
  bare ⟨1, .name "b"⟩,
  .compound {} classHead [⟨.body, [bare ⟨1, .name "c"⟩, bare ⟨1, .name "d"⟩]⟩],
  commented "e" " no expectation"]

end MixedBody

theorem insert_restorable_mixedBody :
    Fresh (nodesOf MixedBody.body) ∧
      restoreBody (fun x _ => MixedBody.bare x) (Checks.insert {} MixedBody.body).1 =
        MixedBody.plain ∧
      (Checks.insert {} MixedBody.body).2.ledger.nodes =
        (Checks.ledger {}).nodes ++ recordedOf (nodesOf (Checks.insert {} MixedBody.body).1) := by
  have hf : Fresh (nodesOf MixedBody.body) := by
    simp [Fresh, MixedBody.body, MixedBody.commented, MixedBody.importOf, nodesOf, Stmt.nodes,
      nodesOfBlocks]
  have h := insert_restorable (fun x _ => MixedBody.bare x) {} MixedBody.body hf
  exact ⟨hf, h.1.trans rfl, h.2⟩

end DocSuite
