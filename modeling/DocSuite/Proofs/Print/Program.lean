import DocSuite.Proofs.Hoisting
import DocSuite.Proofs.Print.Statement

/-!
Texts of programs. Main statement: a program has a text exactly if all the expressions in the
samples that its cases come from have one.
-/
namespace DocSuite

open DocSuite.Syntax

/-! ### Bodies with checks -/

theorem parts_of_isImport {stmt : Stmt} (h : stmt.isImport = true) : stmt.parts = [] := by
  cases stmt with
  | compound => cases h
  | simple site form =>
    cases form with
    | importModules | importFrom => rfl
    | _ => cases h

theorem allPlain_textExpr (s : String) : AllPlain (Check.textExpr s).parts := by
  simp [Check.textExpr, Check.made, Literal.ofString, Expr.parts, Form.parts, Expr.IsPlain]

theorem allPlain_supportCall (function : String) (args : List Expr) :
    AllPlain (Check.supportCall function args).parts ↔ AllPlain (partsOf args) := by
  simp [Check.supportCall, Check.made, Check.nameExpr, Expr.parts, Form.parts, Expr.IsPlain,
    partsOfKeywords]

/-- A check holds the expression, and nothing else that may have no text. -/
theorem printable_statements (checks : Checks) (scope : Scope) (x : Expr) (e : Expectation) :
    Printable (nodesOf (checks.statements scope x e).1) ↔ AllPlain x.parts := by
  cases e with
  | value expected =>
    simp [Checks.statements, Check.value, nodesOf, Stmt.nodes, Stmt.parts, Simple.parts,
      allPlain_supportCall, partsOf, allPlain_textExpr]
  | error name message =>
    cases scope <;>
      simp [Checks.statements, Check.error, Check.thunk, Check.thunkCheck, Check.inlineError,
        Check.made, Check.nameExpr, nodesOf, nodesOfBlocks, Stmt.nodes, Stmt.parts, Simple.parts,
        Head.parts, Params.empty, Params.parts, partsOfParams, partsOfOption, Block.label,
        Label.parts, Expr.parts, Form.parts, Expr.IsPlain, allPlain_supportCall, partsOf,
        allPlain_textExpr]

theorem labels_block (label : Label) (before after : List Stmt) :
    ((Checks.block label before after).map Block.label).flatMap Label.parts = label.parts := by
  rcases Checks.block_cases label before after with
    ⟨-, hb⟩ | ⟨-, rfl, rfl, hb⟩ | ⟨-, rfl, -, hb⟩
  · simp [hb, Block.label]
  · simp [hb, Label.parts]
  · simp [hb, Block.label]

theorem printable_block (label : Label) (before after : List Stmt) :
    Printable (nodesOfBlocks (Checks.block label before after)) ↔ Printable (nodesOf after) := by
  rcases Checks.block_cases label before after with
    ⟨-, hb⟩ | ⟨-, rfl, rfl, hb⟩ | ⟨-, rfl, -, hb⟩
  · rw [hb, nodesOfBlocks, nodesOfBlocks, List.append_nil]
  · rw [hb]
    rfl
  · simp [hb, nodesOfBlocks, nodesOf, Stmt.nodes, Stmt.pass, Stmt.parts, Simple.parts]

/-- Of the labels of blocks, only those that hold expressions count. -/
theorem printable_invariant : Checks.Invariant
    (fun _ _ before after _ => Printable (nodesOf after) ↔ Printable (nodesOf before))
    (fun _ _ before after _ =>
      (after.map Block.label).flatMap Label.parts = (before.map Block.label).flatMap Label.parts ∧
        (Printable (nodesOfBlocks after) ↔ Printable (nodesOfBlocks before))) where
  nil _ _ := Iff.rfl
  append hbefore hafter := by simp only [nodesOf_append, printable_append, hbefore, hafter]
  check heads checks site form x e _ he := by
    rw [Checks.check, form_of_expectation? he]
    simp [printable_statements, nodesOf, Stmt.nodes, Stmt.parts, Simple.parts]
  hoist _ _ site form _ _ hi := by simp [nodesOf, Stmt.nodes, parts_of_isImport hi]
  stay _ _ _ _ _ _ _ := Iff.rfl
  compound _ hblocks := by simp [nodesOf, Stmt.nodes, Stmt.parts, hblocks.1, hblocks.2]
  noBlocks _ _ := ⟨rfl, Iff.rfl⟩
  block {_ _ _ before after} label hbody := by
    refine ⟨?_, ?_⟩
    · rw [labels_block]
      simp [Block.label]
    · rw [printable_block, hbody, nodesOfBlocks, nodesOfBlocks, List.append_nil]
  appendBlocks hbefore hafter := by
    refine ⟨?_, ?_⟩
    · simp only [List.map_append, List.flatMap_append, hbefore.1, hafter.1]
    · simp only [nodesOfBlocks_append, printable_append, hbefore.2, hafter.2]

theorem printable_insert (checks : Checks) {body : List Stmt} (h : Fresh (nodesOf body)) :
    Printable (nodesOf (checks.insert body).1) ↔ Printable (nodesOf body) := by
  obtain ⟨after, hafter, hbody⟩ := printable_invariant.insert checks h
  rw [hbody]
  by_cases he : after = []
  · rw [if_pos he, ← hafter, he]
    simp [nodesOf, Stmt.nodes, Stmt.pass, Stmt.parts, Simple.parts]
  · rw [if_neg he, hafter]

/-! ### Programs -/

theorem printable_of_isImport {nodes : List Stmt} (h : ∀ stmt ∈ nodes, stmt.isImport = true) :
    Printable nodes := by
  intro stmt hs
  rw [parts_of_isImport (h stmt hs)]
  exact allPlain_nil.mpr trivial

theorem nodesOf_of_isImport {body : List Stmt} (h : ∀ stmt ∈ body, stmt.isImport = true) :
    nodesOf body = body := by
  induction body with
  | nil => rfl
  | cons stmt rest ih =>
    rw [List.forall_mem_cons] at h
    cases stmt with
    | simple site form => simp [nodesOf, Stmt.nodes, ih h.2]
    | compound => cases h.1

theorem whole_of_isImport {nodes : List Stmt} (h : ∀ stmt ∈ nodes, stmt.isImport = true) :
    Whole nodes := by
  intro stmt hs
  cases stmt with
  | simple => trivial
  | compound => cases h _ hs

/-- A function that is registered has a text exactly if what it holds has one. -/
theorem registered_nodes (kind title : String) (isAsync : Bool) (name : String) {body : List Stmt}
    (hw : Whole (nodesOf body)) :
    Whole (registered kind title isAsync name body).nodes ∧
      (Printable (registered kind title isAsync name body).nodes ↔ Printable (nodesOf body)) := by
  have hhead : AllPlain (Head.function isAsync name Params.empty
      [Check.supportCall kind [Check.textExpr title]] none).parts := by
    simp [Head.parts, Params.empty, Params.parts, partsOfParams, partsOfOption, partsOf,
      allPlain_supportCall, allPlain_textExpr]
  by_cases hb : body = []
  · subst hb
    simp [registered, Stmt.nodes, nodesOfBlocks, nodesOf, Stmt.pass, Stmt.parts, Simple.parts,
      Stmt.IsWhole, Head.Takes, Block.label, Block.body, Label.parts, hhead]
  · simp [registered, hb, hw, Stmt.nodes, nodesOfBlocks, Stmt.parts, Stmt.IsWhole, Head.Takes,
      Block.label, Block.body, Label.parts, hhead]

theorem cases_nodes {cases : List Case} (hw : ∀ case ∈ cases, Whole (nodesOf case.body)) :
    Whole (nodesOf (cases.map Case.statement)) ∧
      (Printable (nodesOf (cases.map Case.statement)) ↔
        ∀ case ∈ cases, Printable (nodesOf case.body)) := by
  induction cases with
  | nil => simp [nodesOf]
  | cons case rest ih =>
    rw [List.forall_mem_cons] at hw
    obtain ⟨hwhole, hprint⟩ := ih hw.2
    obtain ⟨hcase, hbody⟩ := registered_nodes "it" case.title case.isAsync Case.functionName hw.1
    rw [← Case.statement] at hcase hbody
    simp [nodesOf, hwhole, hprint, hcase, hbody]

/-- A program has a text exactly if its cases have one. -/
theorem Program.succeeds_textOf {program : Program}
    (hi : ∀ stmt ∈ program.imports, stmt.isImport = true)
    (hw : ∀ case ∈ program.cases, Whole (nodesOf case.body)) :
    Succeeds (textOf program.statements) ↔
      ∀ case ∈ program.cases, Printable (nodesOf case.body) := by
  have himports : ∀ stmt ∈ program.futureImports ++ preamble ++ program.otherImports,
      stmt.isImport = true := by
    intro stmt hs
    simp only [List.mem_append, futureImports, otherImports, List.mem_filter] at hs
    rcases hs with (⟨hs, -⟩ | hs) | ⟨hs, -⟩
    · exact hi stmt hs
    · simp only [preamble, List.mem_cons, List.not_mem_nil, or_false] at hs
      rcases hs with rfl | rfl | rfl <;> rfl
    · exact hi stmt hs
  obtain ⟨hcases, hprint⟩ := cases_nodes hw
  obtain ⟨hsuite, hbodies⟩ :=
    registered_nodes "describe" program.title false Program.functionName hcases
  rw [← Program.suite] at hsuite hbodies
  have hnodes : nodesOf program.statements =
      program.futureImports ++ preamble ++ program.otherImports ++ program.suite.nodes := by
    rw [statements, statementsWith, nodesOf_append, nodesOf_of_isImport himports]
    simp [nodesOf]
  have hwhole : Whole (nodesOf program.statements) := by
    rw [hnodes, whole_append]
    exact ⟨whole_of_isImport himports, hsuite⟩
  rw [textOf, succeeds_map, succeeds_printModule hwhole, hnodes, printable_append, hbodies, hprint]
  exact and_iff_right (printable_of_isImport himports)

end DocSuite
