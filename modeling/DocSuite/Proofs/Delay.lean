import DocSuite.Proofs.Print.Statement
import DocSuite.Proofs.Restoration
import DocSuite.Proofs.Scope
import DocSuite.Proofs.Thunk
import Mathlib.Data.List.Nodup

/-!
Functions that checks make. An error is expected of an expression that waits in a function of its
own, unless it stands in the body of a class. Main statement: a check makes no function and calls
none, or it makes one and calls it right behind.
-/
namespace DocSuite

open DocSuite.Syntax

/-! ### The kind of an expectation -/

namespace Expectation

def kind : Expectation → Kind
  | .value _ => .value
  | .error .. => .error

theorem kind_of_ofComments {first : String} {others : List String} {kind : Kind} {e : Expectation}
    (h : ofComments (first :: others) kind.text = .ok e) : e.kind = kind := by
  have hv : Kind.ofText? Kind.value.text = some .value := rfl
  have he : Kind.ofText? Kind.error.text = some .error := rfl
  cases kind with
  | value =>
    simp only [ofComments, hv] at h
    split at h
    next => cases h; rfl
    next => cases h
  | error =>
    simp only [ofComments, he] at h
    split at h
    next => cases h; rfl
    next => cases h

end Expectation

namespace Syntax.Stmt

/-- The kind that the first comment behind a statement that is an expression starts. -/
def annotationKind? : Stmt → Option Expectation.Kind
  | .simple site (.expr _) => site.comments.head?.bind fun comment => Expectation.kind? comment.text
  | _ => none

/-- The expression that a statement is. -/
def expression? : Stmt → Option Expr
  | .simple _ (.expr value) => some value
  | _ => none

theorem annotationKind?_eq (stmt : Stmt) :
    stmt.annotationKind? = stmt.expectation?.map fun (_, e) => e.kind := by
  cases stmt with
  | compound site head blocks => rfl
  | simple site form =>
    cases form with
    | expr value =>
      simp only [annotationKind?, expectation?, Expectation.ofTrailing?]
      cases site.comments with
      | nil => rfl
      | cons first others =>
        cases hk : Expectation.kind? first.text with
        | none => simp [hk]
        | some kind =>
          obtain ⟨e, he⟩ := Expectation.ofComments_isOk hk (others.map Comment.text)
          have hkind := Expectation.kind_of_ofComments he
          simp [hk, he, hkind, Except.toOption]
    | _ => rfl

theorem expression?_of_expectation? {stmt : Stmt} {x : Expr} {e : Expectation}
    (h : stmt.expectation? = some (x, e)) : stmt.expression? = some x := by
  unfold expectation? at h
  split at h
  next value =>
    obtain ⟨e', -, hx⟩ := Option.map_eq_some_iff.mp h
    cases hx
    rfl
  next => cases h

end Syntax.Stmt

/-! ### What checks make and call -/

/-- The name and the blocks of a function that a check makes. -/
def Syntax.Stmt.made? : Stmt → Option (String × List Block)
  | .compound site (.function _ name _ _ _) blocks =>
      if site.recorded then some (name, blocks) else none
  | _ => none

def Syntax.Expr.name? : Expr → Option String
  | ⟨_, .name id⟩ => some id
  | _ => none

/-- The names in expressions. -/
def namesIn (parts : List Expr) : List String := parts.filterMap Syntax.Expr.name?

/-- The expressions of a check, less those of the expression that it holds. A function and a block
hold theirs in a statement of their own. -/
def Check.ownParts : Stmt → List Expr
  | .simple site (.expr e) =>
      match Group.call? e with
      | some ("assert_repr", _ :: expected) => (supportCall "assert_repr" expected).parts
      | _ => (Stmt.simple site (.expr e)).parts
  | stmt => stmt.parts

/-- The names that a check itself refers to, less that of the module that suites import. -/
def Syntax.Stmt.references (stmt : Stmt) : List String :=
  if stmt.site.recorded then
    (namesIn (Check.ownParts stmt)).filter (· ≠ supportName)
  else []

/-- The block of a function that evaluates an expression. -/
def Check.returning (x : Option Expr) : List Block := [⟨.body, [.simple {} (.ret x)]⟩]

theorem thunkName_ne_supportName (number : Nat) : Ledger.thunkName number ≠ supportName := by
  intro h
  have hread := Ledger.thunkNumber?_thunkName number
  rw [h, show Ledger.thunkNumber? supportName = none by decide +kernel] at hread
  cases hread

namespace Check

theorem namesIn_supportCall (function : String) (args : List Expr) :
    namesIn (supportCall function args).parts = supportName :: namesIn (partsOf args) := by
  have hparts : (supportCall function args).parts =
      supportCall function args :: made (.attribute (nameExpr supportName) function) ::
        nameExpr supportName :: partsOf args := by
    simp [supportCall, made, nameExpr, Expr.parts, Form.parts, partsOfKeywords]
  rw [hparts]
  rfl

/-- A check with one call refers to what the call is given. -/
theorem references_of_supportCall {stmt : Stmt} {function : String} {args : List Expr}
    (hr : stmt.site.recorded = true)
    (hown : namesIn (ownParts stmt) = namesIn (supportCall function args).parts) :
    stmt.references = (namesIn (partsOf args)).filter (· ≠ supportName) := by
  rw [Stmt.references, if_pos hr, hown, namesIn_supportCall]
  simp

section

variable (x : Expr) (name message : String) (inCoroutine : Bool)

theorem references_value (expected : String) : (value x expected).references = [] := by
  have hown : ownParts (value x expected) =
      (supportCall "assert_repr" [textExpr expected]).parts := by
    simp [ownParts, value]
  rw [references_of_supportCall rfl (congrArg namesIn hown)]
  rfl

theorem references_thunk (thunkName : String) :
    (thunk x thunkName inCoroutine).references = [] := by
  rfl

theorem references_inlineError : (inlineError x name message).references = [] := by
  have hown : ownParts (inlineError x name message) =
      (supportCall "expect_error" [textExpr name, textExpr message]).parts := by
    simp [ownParts, inlineError, Stmt.parts, Head.parts, Label.parts, Block.label, partsOfOption]
  rw [references_of_supportCall rfl (congrArg namesIn hown)]
  rfl

theorem references_thunkCheck (number : Nat) :
    (thunkCheck (Ledger.thunkName number) name message inCoroutine).references =
      [Ledger.thunkName number] := by
  let args := [nameExpr (Ledger.thunkName number), textExpr name, textExpr message]
  have hargs : namesIn (partsOf args) = [Ledger.thunkName number] := rfl
  have hcall : (thunkCheck (Ledger.thunkName number) name message inCoroutine).references =
      (namesIn (partsOf args)).filter (· ≠ supportName) := by
    cases inCoroutine with
    | true =>
      have hown : namesIn (ownParts (thunkCheck (Ledger.thunkName number) name message true)) =
          namesIn (supportCall "assert_error" args).parts := rfl
      exact references_of_supportCall rfl hown
    | false =>
      have hown : ownParts (thunkCheck (Ledger.thunkName number) name message false) =
          (supportCall "assert_error_sync" args).parts := by
        simp [ownParts, thunkCheck, Stmt.parts, Simple.parts, args]
      exact references_of_supportCall rfl (congrArg namesIn hown)
  rw [hcall, hargs]
  simp [thunkName_ne_supportName]

end

end Check

/-! ### Functions and their calls -/

/-- A check makes no function and calls none, or it makes one and calls it right behind. -/
inductive Calls : List Stmt → List (String × List Block) → Prop
  | inPlace {check : Stmt} (makes : check.made? = none) (calls : check.references = []) :
      Calls [check] []
  | delayed {function check : Stmt} {name : String} {blocks : List Block}
      (makes : function.made? = some (name, blocks)) (makesNoOther : check.made? = none)
      (calls : check.references = [name]) (callsNoOther : function.references = []) :
      Calls [function, check] [(name, blocks)]

namespace Calls

theorem value (x : Expr) (expected : String) : Calls [Check.value x expected] [] :=
  .inPlace rfl (Check.references_value x expected)

theorem inlineError (x : Expr) (name message : String) :
    Calls [Check.inlineError x name message] [] :=
  .inPlace rfl (Check.references_inlineError x name message)

theorem error (x : Expr) (name message : String) (number : Nat) (inCoroutine : Bool) :
    Calls (Check.error x name message (Ledger.thunkName number) inCoroutine)
      [(Ledger.thunkName number, Check.returning (some x))] :=
  .delayed rfl rfl (Check.references_thunkCheck name message inCoroutine number)
    (Check.references_thunk x inCoroutine _)

variable {stmts : List Stmt} {functions : List (String × List Block)}

theorem made_eq (h : Calls stmts functions) : stmts.filterMap Stmt.made? = functions := by
  cases h with
  | inPlace makes calls => simp [makes]
  | delayed makes makesNoOther calls callsNoOther => simp [makes, makesNoOther]

theorem references_eq (h : Calls stmts functions) :
    stmts.flatMap Stmt.references = functions.map Prod.fst := by
  cases h with
  | inPlace makes calls => simp [calls]
  | delayed makes makesNoOther calls callsNoOther => simp [calls, callsNoOther]

theorem length_eq (h : Calls stmts functions) : stmts.length = functions.length + 1 := by
  cases h with
  | inPlace makes calls => rfl
  | delayed makes makesNoOther calls callsNoOther => rfl

variable {heads : List Head} {behind : List Stmt} {p : Placed} {name : String}

/-- A function of a check has its call right behind it. -/
theorem exists_call (h : Calls stmts functions) (hp : p ∈ placedRow heads behind stmts)
    {blocks : List Block} (hmade : p.stmt.made? = some (name, blocks)) :
    ∃ check rest, p.behind = check :: rest ∧ check.references = [name] := by
  cases h with
  | inPlace makes calls =>
    rw [List.mem_singleton.mp hp, makes] at hmade
    cases hmade
  | @delayed function check called _ makes makesNoOther calls callsNoOther =>
    rcases List.mem_cons.mp hp with rfl | hcheck
    · rw [makes] at hmade
      cases hmade
      exact ⟨check, behind, rfl, calls⟩
    · rw [List.mem_singleton.mp hcheck, makesNoOther] at hmade
      cases hmade

/-- What a check calls is the function right in front. -/
theorem exists_function (h : Calls stmts functions) (hp : p ∈ placedRow heads behind stmts)
    (hname : name ∈ p.stmt.references) :
    ∃ q ∈ placedRow heads behind stmts, q.heads = p.heads ∧ q.behind = p.stmt :: p.behind ∧
      ∃ blocks, q.stmt.made? = some (name, blocks) := by
  cases h with
  | inPlace makes calls =>
    rw [List.mem_singleton.mp hp, calls] at hname
    cases hname
  | @delayed function check called blocks makes makesNoOther calls callsNoOther =>
    rcases List.mem_cons.mp hp with rfl | hcheck
    · rw [callsNoOther] at hname
      cases hname
    · rw [List.mem_singleton.mp hcheck, calls, List.mem_singleton] at hname
      rw [List.mem_singleton.mp hcheck, hname]
      exact ⟨_, List.mem_cons_self, rfl, rfl, blocks, makes⟩

end Calls

theorem FitsScope.exists_calls {scope : Scope} {x : Expr} {e : Expectation} {stmts : List Stmt}
    (h : FitsScope scope x e stmts) : ∃ functions, Calls stmts functions := by
  cases h with
  | value _ _ expected => exact ⟨_, .value x expected⟩
  | awaited _ name message number => exact ⟨_, .error x name message number true⟩
  | called _ name message number => exact ⟨_, .error x name message number false⟩
  | inPlace _ name message => exact ⟨_, .inlineError x name message⟩

/-- Each statement that is put in stands in a row of a check. -/
theorem Replaced.exists_row_of_mem {as : List Annotated} {ps : List Placed} (h : Replaced as ps)
    {p : Placed} (hp : p ∈ ps) :
    ∃ heads behind stmts functions, Calls stmts functions ∧
      p ∈ placedRow heads behind stmts ∧ placedRow heads behind stmts ⊆ ps := by
  induction h with
  | nil => cases hp
  | @cons a rest stmts placed fits behind later ih =>
    rcases List.mem_append.mp hp with hnew | hlater
    · obtain ⟨functions, hcalls⟩ := fits.exists_calls
      exact ⟨a.heads, behind, stmts, functions, hcalls, hnew, List.subset_append_left _ _⟩
    · obtain ⟨heads, behind', stmts', functions, hcalls, hmem, hsub⟩ := ih hlater
      refine ⟨heads, behind', stmts', functions, hcalls, hmem, ?_⟩
      exact List.Subset.trans hsub (List.subset_append_right _ _)

/-! ### Expressions that wait in a function -/

/-- A function is made for the expression. -/
def Annotated.isDelayed (a : Annotated) : Bool :=
  decide (a.expectation.kind = .error ∧ scopeBetween a.heads ≠ .classBody)

/-- A function is made for the statement: an error is expected of it, and the nearest function or
class around it, if there is one, is a function. -/
def Placed.isDelayed (placed : Placed) : Bool :=
  decide (placed.stmt.annotationKind? = some .error ∧ scopeBetween placed.heads ≠ .classBody)

/-- The expressions that functions are made for. -/
def delayedOf (as : List Annotated) : List (Option Expr) :=
  (as.filter Annotated.isDelayed).map fun a => some a.expression

/-- The functions that are made for expressions, behind a number of others. -/
def functionsFrom (number : Nat) (xs : List (Option Expr)) : List (String × List Block) :=
  (xs.zipIdx (number + 1)).map fun (x, number) => (Ledger.thunkName number, Check.returning x)

section

variable (number : Nat)

@[simp] theorem delayedOf_append (as bs : List Annotated) :
    delayedOf (as ++ bs) = delayedOf as ++ delayedOf bs := by
  simp [delayedOf]

theorem functionsFrom_append (xs ys : List (Option Expr)) :
    functionsFrom number (xs ++ ys) =
      functionsFrom number xs ++ functionsFrom (number + xs.length) ys := by
  simp only [functionsFrom, List.zipIdx_append, List.map_append, Nat.add_right_comm]

theorem map_fst_functionsFrom (xs : List (Option Expr)) :
    (functionsFrom number xs).map Prod.fst =
      (List.range' (number + 1) xs.length).map Ledger.thunkName := by
  rw [← List.zipIdx_map_snd, functionsFrom, List.map_map, List.map_map]
  rfl

/-- Different functions have different names. -/
theorem nodup_functionsFrom (xs : List (Option Expr)) :
    ((functionsFrom number xs).map Prod.fst).Nodup := by
  rw [map_fst_functionsFrom]
  exact List.Nodup.map Ledger.thunkName_injective List.nodup_range'

end

theorem Placed.annotated?_cases (p : Placed) :
    (p.annotated? = none ∧ p.stmt.annotationKind? = none) ∨
      ∃ a, p.annotated? = some a ∧ p.stmt.annotationKind? = some a.expectation.kind ∧
        p.stmt.expression? = some a.expression ∧ p.heads = a.heads := by
  have hkind := p.stmt.annotationKind?_eq
  cases he : p.stmt.expectation? with
  | none =>
    rw [he] at hkind
    exact .inl ⟨by simp [annotated?, he], hkind⟩
  | some found =>
    obtain ⟨x, e⟩ := found
    rw [he] at hkind
    exact .inr ⟨⟨p.heads, x, e⟩, by simp [annotated?, he], hkind,
      Stmt.expression?_of_expectation? he, rfl⟩

theorem length_annotated (ps : List Placed) :
    (ps.filterMap Placed.annotated?).length =
      ps.countP fun p => p.stmt.annotationKind?.isSome := by
  induction ps with
  | nil => rfl
  | cons p ps ih =>
    rcases p.annotated?_cases with ⟨ha, hkind⟩ | ⟨a, ha, hkind, -⟩
    · simp [ha, hkind, ih]
    · simp [ha, hkind, ih]

theorem delayedOf_annotated (ps : List Placed) :
    delayedOf (ps.filterMap Placed.annotated?) =
      (ps.filter Placed.isDelayed).map fun p => p.stmt.expression? := by
  induction ps with
  | nil => rfl
  | cons p ps ih =>
    rcases p.annotated?_cases with ⟨ha, hkind⟩ | ⟨a, ha, hkind, hx, hheads⟩
    · have hp : p.isDelayed = false := by simp [Placed.isDelayed, hkind]
      rw [List.filterMap_cons_none ha, List.filter_cons_of_neg (by simp [hp]), ih]
    · have hp : p.isDelayed = a.isDelayed := by
        simp [Placed.isDelayed, Annotated.isDelayed, hkind, hheads]
      rw [List.filterMap_cons_some ha, List.filter_cons, hp, ← List.singleton_append,
        delayedOf_append, ih]
      cases hd : a.isDelayed with
      | true => simp [delayedOf, hd, hx]
      | false => simp [delayedOf, hd]

end DocSuite
