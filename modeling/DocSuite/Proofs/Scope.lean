import DocSuite.Proofs.Insertion

/-!
The scopes that checks are put into. Each statement is listed with the heads of the compound
statements around it, and the nearest head of a function or a class decides its scope. Main
statement: a check stands between the heads of the statement that it replaces, and is of the form
that their scope admits.
-/
namespace DocSuite

open DocSuite.Syntax

/-! ### Statements and what is around them -/

structure Placed where
  /-- The heads of the compound statements around the statement, the nearest first. -/
  heads : List Head
  stmt : Stmt
  /-- The statements behind it in its block. -/
  behind : List Stmt

mutual

/-- The statement and those inside it, in the order of the text. -/
def Syntax.Stmt.placed (heads : List Head) (behind : List Stmt) : Stmt → List Placed
  | .simple site form => [⟨heads, .simple site form, behind⟩]
  | .compound site head blocks =>
      ⟨heads, .compound site head blocks, behind⟩ :: placedInBlocks (head :: heads) blocks

def placedInBlocks (heads : List Head) : List Block → List Placed
  | [] => []
  | ⟨_, body⟩ :: rest => placedIn heads [] body ++ placedInBlocks heads rest

/-- The statements of a part of a block, in front of the others, with those inside them. -/
def placedIn (heads : List Head) (behind : List Stmt) : List Stmt → List Placed
  | [] => []
  | stmt :: rest => stmt.placed heads (rest ++ behind) ++ placedIn heads behind rest

end

/-- The statements of a sample. -/
def placedOf (body : List Stmt) : List Placed := placedIn [] [] body

/-- The statements of a part of a block without those inside them. -/
def placedRow (heads : List Head) (behind : List Stmt) : List Stmt → List Placed
  | [] => []
  | stmt :: rest => ⟨heads, stmt, rest ++ behind⟩ :: placedRow heads behind rest

theorem placedIn_append (heads : List Head) (behind as bs : List Stmt) :
    placedIn heads behind (as ++ bs) =
      placedIn heads (bs ++ behind) as ++ placedIn heads behind bs := by
  induction as with
  | nil => rfl
  | cons a as ih => simp [placedIn, ih]

@[simp] theorem placedInBlocks_append (heads : List Head) (as bs : List Block) :
    placedInBlocks heads (as ++ bs) = placedInBlocks heads as ++ placedInBlocks heads bs := by
  induction as with
  | nil => rfl
  | cons a as ih =>
    obtain ⟨label, body⟩ := a
    simp [placedInBlocks, ih]

theorem of_mem_placedRow {heads : List Head} {behind stmts : List Stmt} {p : Placed}
    (h : p ∈ placedRow heads behind stmts) : p.heads = heads ∧ p.stmt ∈ stmts := by
  induction stmts with
  | nil => cases h
  | cons stmt rest ih =>
    rcases List.mem_cons.mp h with rfl | hrest
    · exact ⟨rfl, List.mem_cons_self⟩
    · exact ⟨(ih hrest).1, List.mem_cons_of_mem _ (ih hrest).2⟩

section

variable {heads : List Head} {site : Site} {head : Head} {blocks : List Block} {behind' : List Stmt}

mutual

/-- What is inside a listed statement is listed behind its head. -/
theorem Syntax.Stmt.placed_inside (stmt : Stmt) (start : List Head) (behind : List Stmt)
    (h : ⟨heads, .compound site head blocks, behind'⟩ ∈ stmt.placed start behind) :
    placedInBlocks (head :: heads) blocks ⊆ stmt.placed start behind := by
  cases stmt with
  | simple _ form => simp [Stmt.placed] at h
  | compound _ head' others =>
    rw [Stmt.placed] at h ⊢
    rcases List.mem_cons.mp h with heq | hinside
    · cases heq
      exact List.subset_cons_self _ _
    · have hsub := placedInBlocks_inside others _ hinside
      exact List.Subset.trans hsub (List.subset_cons_self _ _)

theorem placedInBlocks_inside (others : List Block) (start : List Head)
    (h : ⟨heads, .compound site head blocks, behind'⟩ ∈ placedInBlocks start others) :
    placedInBlocks (head :: heads) blocks ⊆ placedInBlocks start others := by
  cases others with
  | nil => cases h
  | cons block rest =>
    obtain ⟨label, body⟩ := block
    rw [placedInBlocks] at h ⊢
    rcases List.mem_append.mp h with hbody | hrest
    · have hsub := placedIn_inside body start [] hbody
      exact List.Subset.trans hsub (List.subset_append_left _ _)
    · have hsub := placedInBlocks_inside rest start hrest
      exact List.Subset.trans hsub (List.subset_append_right _ _)

theorem placedIn_inside (body : List Stmt) (start : List Head) (behind : List Stmt)
    (h : ⟨heads, .compound site head blocks, behind'⟩ ∈ placedIn start behind body) :
    placedInBlocks (head :: heads) blocks ⊆ placedIn start behind body := by
  cases body with
  | nil => cases h
  | cons stmt rest =>
    rw [placedIn] at h ⊢
    rcases List.mem_append.mp h with hstmt | hrest
    · have hsub := stmt.placed_inside start _ hstmt
      exact List.Subset.trans hsub (List.subset_append_left _ _)
    · have hsub := placedIn_inside rest start behind hrest
      exact List.Subset.trans hsub (List.subset_append_right _ _)

end

end

/-! ### Checks and their scopes -/

/-- An expression whose comments start an expectation, between the heads around it. -/
structure Annotated where
  heads : List Head
  expression : Expr
  expectation : Expectation

def Placed.annotated? (placed : Placed) : Option Annotated :=
  placed.stmt.expectation?.map fun (x, e) => ⟨placed.heads, x, e⟩

def Placed.isRecorded (placed : Placed) : Bool := placed.stmt.site.recorded

/-- The statements that check an expectation in a scope. -/
inductive FitsScope : Scope → Expr → Expectation → List Stmt → Prop
  | value (scope : Scope) (x : Expr) (expected : String) :
      FitsScope scope x (.value expected) [Check.value x expected]
  /-- A coroutine is made of the expression, and waited for. -/
  | awaited (x : Expr) (name message : String) (number : Nat) :
      FitsScope .coroutine x (.error name message)
        [Check.thunk x (Ledger.thunkName number) true,
          Check.thunkCheck (Ledger.thunkName number) name message true]
  /-- A plain function is made of the expression, and called. -/
  | called (x : Expr) (name message : String) (number : Nat) :
      FitsScope .function x (.error name message)
        [Check.thunk x (Ledger.thunkName number) false,
          Check.thunkCheck (Ledger.thunkName number) name message false]
  /-- The expression stays where it is, in a block of its own. -/
  | inPlace (x : Expr) (name message : String) :
      FitsScope .classBody x (.error name message) [Check.inlineError x name message]

/-- Each annotated expression has its check in a row between its own heads, in the same order. -/
inductive Replaced : List Annotated → List Placed → Prop
  | nil : Replaced [] []
  | cons {a : Annotated} {rest : List Annotated} {stmts : List Stmt} {placed : List Placed}
      (fits : FitsScope (scopeBetween a.heads) a.expression a.expectation stmts)
      (behind : List Stmt) (later : Replaced rest placed) :
      Replaced (a :: rest) (placedRow a.heads behind stmts ++ placed)

namespace Replaced

variable {as bs : List Annotated} {ps qs : List Placed}

theorem append (h : Replaced as ps) (h' : Replaced bs qs) : Replaced (as ++ bs) (ps ++ qs) := by
  induction h with
  | nil => exact h'
  | cons fits behind _ ih =>
    rw [List.cons_append, List.append_assoc]
    exact .cons fits behind ih

/-- Nothing is put in but checks, each in its scope. -/
theorem exists_fits (h : Replaced as ps) {p : Placed} (hp : p ∈ ps) :
    ∃ x e stmts, FitsScope (scopeBetween p.heads) x e stmts ∧ p.stmt ∈ stmts := by
  induction h with
  | nil => cases hp
  | @cons a rest stmts placed fits behind later ih =>
    rcases List.mem_append.mp hp with hnew | hlater
    · obtain ⟨hheads, hs⟩ := of_mem_placedRow hnew
      exact ⟨a.expression, a.expectation, stmts, hheads ▸ fits, hs⟩
    · exact ih hlater

/-- The check of each annotated expression is put in. -/
theorem exists_row (h : Replaced as ps) {a : Annotated} (ha : a ∈ as) :
    ∃ stmts behind, FitsScope (scopeBetween a.heads) a.expression a.expectation stmts ∧
      placedRow a.heads behind stmts ⊆ ps := by
  induction h with
  | nil => cases ha
  | @cons b rest stmts placed fits behind later ih =>
    rcases List.mem_cons.mp ha with rfl | hrest
    · exact ⟨stmts, behind, fits, List.subset_append_left _ _⟩
    · obtain ⟨stmts', behind', hfits, hsub⟩ := ih hrest
      exact ⟨stmts', behind', hfits, List.Subset.trans hsub (List.subset_append_right _ _)⟩

end Replaced

theorem fitsScope_statements (checks : Checks) (scope : Scope) (x : Expr) (e : Expectation) :
    FitsScope scope x e (checks.statements scope x e).1 := by
  cases e with
  | value expected => exact .value scope x expected
  | error name message =>
    cases scope with
    | coroutine => exact .awaited x name message _
    | function => exact .called x name message _
    | classBody => exact .inPlace x name message

/-- What is inside the statements of a check is not recorded. -/
theorem isRecorded_statements (heads : List Head) (behind : List Stmt) (checks : Checks)
    (scope : Scope) (x : Expr) (e : Expectation) :
    (placedIn heads behind (checks.statements scope x e).1).filter Placed.isRecorded =
      placedRow heads behind (checks.statements scope x e).1 := by
  cases e with
  | value expected => rfl
  | error name message => cases scope <;> rfl

theorem isRecorded_block (heads : List Head) (label : Label) (before after : List Stmt) :
    (placedInBlocks heads (Checks.block label before after)).filter Placed.isRecorded =
      (placedIn heads [] after).filter Placed.isRecorded := by
  rcases Checks.block_cases label before after with
    ⟨-, hb⟩ | ⟨-, rfl, rfl, hb⟩ | ⟨-, rfl, -, hb⟩
  · rw [hb, placedInBlocks, placedInBlocks, List.append_nil]
  · rw [hb]
    rfl
  · rw [hb]
    rfl

theorem annotated_simple (heads : List Head) (behind : List Stmt) (site : Site) (form : Simple) :
    (placedIn heads behind [.simple site form]).filterMap Placed.annotated? =
      ((Stmt.simple site form).expectation?.map fun (x, e) =>
        (⟨heads, x, e⟩ : Annotated)).toList := by
  cases he : (Stmt.simple site form).expectation? <;>
    simp [placedIn, Stmt.placed, Placed.annotated?, he]

theorem annotated_compound (heads : List Head) (behind : List Stmt) (site : Site) (head : Head)
    (blocks : List Block) :
    (placedIn heads behind [.compound site head blocks]).filterMap Placed.annotated? =
      (placedInBlocks (head :: heads) blocks).filterMap Placed.annotated? := by
  rw [placedIn, Stmt.placed, placedIn, List.append_nil]
  rfl

/-- The checks of a part of a body are in the place of its annotated expressions, whatever stands
behind the part. -/
theorem replaced_invariant : Checks.Invariant
    (fun heads _ before after _ => ∀ behind behind',
      Replaced ((placedIn heads behind before).filterMap Placed.annotated?)
        ((placedIn heads behind' after).filter Placed.isRecorded))
    (fun heads _ before after _ =>
      Replaced ((placedInBlocks heads before).filterMap Placed.annotated?)
        ((placedInBlocks heads after).filter Placed.isRecorded)) where
  nil _ _ _ _ := .nil
  append hbefore hafter behind behind' := by
    rw [placedIn_append, placedIn_append, List.filterMap_append, List.filter_append]
    exact (hbefore _ _).append (hafter behind behind')
  check heads checks site form x e _ he behind behind' := by
    rw [annotated_simple, he, Checks.check, isRecorded_statements,
      ← List.append_nil (placedRow _ _ _)]
    exact .cons (fitsScope_statements checks _ x e) behind' .nil
  hoist heads _ site form _ he _ behind _ := by
    rw [annotated_simple, he]
    exact .nil
  stay heads _ site form hr he _ behind behind' := by
    have hafter : (placedIn heads behind' [.simple site form]).filter Placed.isRecorded = [] := by
      simp [placedIn, Stmt.placed, Placed.isRecorded, hr]
    rw [annotated_simple, he, hafter]
    exact .nil
  compound {heads _ _ site head before after} hr hblocks behind behind' := by
    have hafter : (placedIn heads behind' [.compound site head after]).filter Placed.isRecorded =
        (placedInBlocks (head :: heads) after).filter Placed.isRecorded := by
      simp [placedIn, Stmt.placed, Placed.isRecorded, hr]
    rw [annotated_compound, hafter]
    exact hblocks
  noBlocks _ _ := .nil
  block {heads _ _ before after} label hbody := by
    rw [isRecorded_block, placedInBlocks, placedInBlocks, List.append_nil]
    exact hbody [] []
  appendBlocks hbefore hafter := by
    rw [placedInBlocks_append, placedInBlocks_append, List.filterMap_append, List.filter_append]
    exact hbefore.append hafter

theorem replaced_insert (checks : Checks) {body : List Stmt} (h : Fresh (nodesOf body)) :
    Replaced ((placedOf body).filterMap Placed.annotated?)
      ((placedOf (checks.insert body).1).filter Placed.isRecorded) := by
  obtain ⟨after, hafter, hbody⟩ := replaced_invariant.insert checks h
  have hb := hafter [] []
  rw [hbody]
  split
  next he =>
    rw [he] at hb
    exact hb
  next => exact hb

/-! ### What scopes admit -/

/-- The statement waits, or makes a function that can only be waited for. -/
def Syntax.Stmt.isAwaiting : Stmt → Bool
  | .compound _ (.function true ..) _ => true
  | .simple _ (.expr ⟨_, .await _⟩) => true
  | _ => false

def Syntax.Stmt.isFunction : Stmt → Bool
  | .compound _ (.function ..) _ => true
  | _ => false

namespace FitsScope

variable {scope : Scope} {x : Expr} {e : Expectation} {stmts : List Stmt} {stmt : Stmt}

theorem eq_coroutine (h : FitsScope scope x e stmts) (hs : stmt ∈ stmts)
    (ha : stmt.isAwaiting = true) : scope = .coroutine := by
  cases h with
  | awaited => rfl
  | value | inPlace =>
    rw [List.mem_singleton.mp hs] at ha
    cases ha
  | called =>
    simp only [List.mem_cons, List.not_mem_nil, or_false] at hs
    rcases hs with rfl | rfl <;> cases ha

theorem ne_classBody (h : FitsScope scope x e stmts) (hs : stmt ∈ stmts)
    (hf : stmt.isFunction = true) : scope ≠ .classBody := by
  cases h with
  | awaited | called => exact Scope.noConfusion
  | value | inPlace =>
    rw [List.mem_singleton.mp hs] at hf
    cases hf

theorem eq_inlineError {name message : String}
    (h : FitsScope .classBody x (.error name message) stmts) :
    stmts = [Check.inlineError x name message] := by
  cases h
  rfl

end FitsScope

/-- What is put into a sample fits the scopes of its annotated expressions. -/
structure FitsScopes (body out : List Stmt) : Prop where
  replaced : Replaced ((placedOf body).filterMap Placed.annotated?)
    ((placedOf out).filter Placed.isRecorded)
  /-- Only coroutines wait. -/
  awaiting : ∀ p ∈ placedOf out, p.isRecorded = true → p.stmt.isAwaiting = true →
    scopeBetween p.heads = .coroutine
  /-- No function is made in the body of a class. -/
  function : ∀ p ∈ placedOf out, p.isRecorded = true → p.stmt.isFunction = true →
    scopeBetween p.heads ≠ .classBody
  /-- An expression in the body of a class is evaluated in the body of a class. -/
  inClass : ∀ a ∈ (placedOf body).filterMap Placed.annotated?,
    scopeBetween a.heads = .classBody →
      ∀ name message, a.expectation = .error name message →
        ∃ p ∈ placedOf out, p.stmt = .simple {} (.expr a.expression) ∧
          scopeBetween p.heads = .classBody

/-- The nearest function or class around an annotated expression decides the form of its check,
whatever other blocks are around it. -/
theorem insert_fitsScopes (checks : Checks) {body : List Stmt} (h : Fresh (nodesOf body)) :
    FitsScopes body (checks.insert body).1 := by
  have hreplaced := replaced_insert checks h
  refine ⟨hreplaced, ?_, ?_, ?_⟩
  · intro p hp hr ha
    obtain ⟨x, e, stmts, fits, hs⟩ := hreplaced.exists_fits (List.mem_filter.mpr ⟨hp, hr⟩)
    exact fits.eq_coroutine hs ha
  · intro p hp hr hf
    obtain ⟨x, e, stmts, fits, hs⟩ := hreplaced.exists_fits (List.mem_filter.mpr ⟨hp, hr⟩)
    exact fits.ne_classBody hs hf
  · intro a ha hscope name message he
    obtain ⟨stmts, behind, fits, hrow⟩ := hreplaced.exists_row ha
    rw [hscope, he] at fits
    rw [fits.eq_inlineError] at hrow
    have hcheck := (List.mem_filter.mp (hrow List.mem_cons_self)).1
    -- The head of the check makes no scope, so its block is in that of the class.
    refine ⟨_, placedIn_inside _ [] [] hcheck List.mem_cons_self, rfl, ?_⟩
    rw [scopeBetween_cons, hscope]
    rfl

namespace NestedScopes

/-- A name behind which an error is expected. -/
def failing (name error : String) : Stmt :=
  .simple { comments := [⟨" " ++ error ++ ": " ++ name, 1, 0⟩] } (.expr ⟨1, .name name⟩)

def function (isAsync : Bool) (body : List Stmt) : Stmt :=
  .compound {} (.function isAsync "f" Params.empty [] none) [⟨.body, body⟩]

def classOf (body : List Stmt) : Stmt := .compound {} (.classDef "C" [] [] []) [⟨.body, body⟩]

def loop (body : List Stmt) : Stmt := .compound {} (.whileLoop ⟨1, .name "a"⟩) [⟨.body, body⟩]

/-- A class in a coroutine, with a plain function in it, and loops around the expressions. -/
def body : List Stmt :=
  [function true
    [classOf
      [loop [failing "b" "KeyError"],
      function false [loop [failing "c" "ValueError"]],
      failing "d" "NameError"],
    failing "e" "TypeError"],
  loop [failing "g" "OSError"]]

end NestedScopes

theorem insert_fitsScopes_nestedScopes :
    Fresh (nodesOf NestedScopes.body) ∧
      ((placedOf NestedScopes.body).filterMap Placed.annotated?).map
          (fun a => scopeBetween a.heads) =
        [.classBody, .function, .classBody, .coroutine, .coroutine] ∧
      FitsScopes NestedScopes.body (Checks.insert {} NestedScopes.body).1 := by
  have hf : Fresh (nodesOf NestedScopes.body) := by
    simp [Fresh, NestedScopes.body, NestedScopes.function, NestedScopes.classOf, NestedScopes.loop,
      NestedScopes.failing, nodesOf, Stmt.nodes, nodesOfBlocks]
  exact ⟨hf, by decide +kernel, insert_fitsScopes {} hf⟩

end DocSuite
