import DocSuite.Proofs.Print.Expression
import DocSuite.Proofs.Shape

/-!
Texts of statements. Main statement: the statements of a body have a text exactly if all the
expressions in them have one.
-/
namespace DocSuite.Syntax

/-! ### Parts of statements -/

mutual

/-- The expressions in a pattern that is spelled. -/
def Pattern.parts : Pattern → List Expr
  | .value value => value.parts
  | .singleton value => [⟨0, .literal value⟩]
  | .sequence patterns => partsOfPatterns patterns
  | .star _ => []
  | .mapping keys patterns _ => partsOf keys ++ partsOfPatterns patterns
  | .construct type positional _ named =>
      type.parts ++ (partsOfPatterns positional ++ partsOfPatterns named)
  | .capture _ none => []
  | .capture none (some _) => []
  | .capture (some pattern) (some _) => pattern.parts
  | .either patterns => partsOfPatterns patterns

def partsOfPatterns : List Pattern → List Expr
  | [] => []
  | p :: ps => p.parts ++ partsOfPatterns ps

end

def Simple.parts : Simple → List Expr
  | .expr value => value.parts
  | .assign targets value => partsOf targets ++ value.parts
  | .augment target _ value => target.parts ++ value.parts
  | .annotate target hint value _ => target.parts ++ (hint.parts ++ partsOfOption value)
  | .ret value => partsOfOption value
  | .raise none _ => []
  | .raise (some exception) cause => exception.parts ++ partsOfOption cause
  | .delete targets => partsOf targets
  | .assert test message => test.parts ++ partsOfOption message
  | _ => []

def Head.parts : Head → List Expr
  | .function _ _ params decorators returns =>
      params.parts ++ (partsOfOption returns ++ partsOf decorators)
  | .classDef _ bases keywords decorators =>
      partsOf bases ++ (partsOfKeywords keywords ++ partsOf decorators)
  | .ifThen test => test.parts
  | .forLoop _ target source => target.parts ++ source.parts
  | .whileLoop test => test.parts
  | .withItems _ items => items.flatMap fun item => item.1.parts ++ partsOfOption item.2
  | .matchOn subject => subject.parts
  | .tryBlock _ => []

def Label.parts : Label → List Expr
  | .body | .orelse | .finalbody => []
  | .handler type _ => partsOfOption type
  | .case pattern guard => pattern.parts ++ partsOfOption guard

/-- The expressions in a statement, less those inside its blocks. -/
def Stmt.parts : Stmt → List Expr
  | .simple _ form => form.parts
  | .compound _ head blocks => head.parts ++ (blocks.map Block.label).flatMap Label.parts

/-- All expressions in the statements have texts. -/
def Printable (nodes : List Stmt) : Prop := ∀ stmt ∈ nodes, AllPlain stmt.parts

@[simp] theorem printable_nil : Printable [] ↔ True := by simp [Printable]

@[simp] theorem printable_cons {stmt : Stmt} {nodes : List Stmt} :
    Printable (stmt :: nodes) ↔ AllPlain stmt.parts ∧ Printable nodes := by
  simp [Printable]

@[simp] theorem printable_append {as bs : List Stmt} :
    Printable (as ++ bs) ↔ Printable as ∧ Printable bs := by
  simp only [Printable, List.mem_append]
  exact ⟨fun h => ⟨fun s hs => h s (.inl hs), fun s hs => h s (.inr hs)⟩,
    fun h s hs => hs.elim (h.1 s) (h.2 s)⟩

/-! ### Texts -/

@[simp] theorem succeeds_valueText (e : Expr) : Succeeds (valueText e) ↔ AllPlain e.parts :=
  succeeds_exprText e false Precedence.test

@[simp] theorem succeeds_optionText (before : String) (e : Option Expr) :
    Succeeds (optionText before e) ↔ AllPlain (partsOfOption e) := by
  cases e <;> simp [optionText, partsOfOption]

mutual

theorem succeeds_patternText (pattern : Pattern) (place : Precedence) :
    Succeeds (patternText place pattern) ↔ AllPlain pattern.parts := by
  cases pattern with
  | value value => simp [patternText, Pattern.parts, succeeds_exprText]
  | singleton value => simp [patternText, Pattern.parts, succeeds_literalText false 0]
  | sequence patterns | either patterns =>
    simp [patternText, Pattern.parts, succeeds_patternTexts patterns]
  | star name => simp [patternText, Pattern.parts]
  | mapping keys patterns rest =>
    simp [patternText, Pattern.parts, succeeds_exprTexts, succeeds_patternTexts patterns]
  | construct type positional names named =>
    simp [patternText, Pattern.parts, succeeds_exprText, succeeds_patternTexts positional,
      succeeds_patternTexts named]
  | capture pattern name =>
    cases name with
    | none => simp [patternText, Pattern.parts]
    | some name =>
      cases pattern with
      | none => simp [patternText, Pattern.parts]
      | some pattern => simp [patternText, Pattern.parts, succeeds_patternText pattern]

theorem succeeds_patternTexts (patterns : List Pattern) (place : Precedence) :
    Succeeds (patternTexts place patterns) ↔ AllPlain (partsOfPatterns patterns) := by
  cases patterns with
  | nil => simp [patternTexts, partsOfPatterns]
  | cons pattern rest =>
    simp [patternTexts, partsOfPatterns, succeeds_patternText pattern, succeeds_patternTexts rest]

end

theorem succeeds_simpleText (form : Simple) : Succeeds (simpleText form) ↔ AllPlain form.parts := by
  cases form with
  | raise exception cause =>
    cases exception <;> simp [simpleText, Simple.parts]
  | _ => simp [simpleText, Simple.parts, succeeds_exprText, succeeds_exprTexts]

theorem succeeds_decorated (depth : Nat) (decorators : List Expr) (head : String) :
    Succeeds (decorated depth decorators head) ↔ AllPlain (partsOf decorators) := by
  simp [decorated, succeeds_exprTexts]

theorem allPlain_flatMap {α : Type} (parts : α → List Expr) (as : List α) :
    AllPlain (as.flatMap parts) ↔ ∀ a ∈ as, AllPlain (parts a) := by
  induction as with
  | nil => simp
  | cons a as ih => simp [List.flatMap_cons, ih]

theorem succeeds_headLines (depth : Nat) (head : Head) :
    Succeeds (headLines depth head) ↔ AllPlain head.parts := by
  cases head with
  | function isAsync name params decorators returns =>
    simp [headLines, Head.parts, succeeds_paramsText, succeeds_decorated]
  | classDef name bases keywords decorators =>
    simp [headLines, Head.parts, succeeds_exprTexts, succeeds_keywordTexts, succeeds_decorated]
  | withItems isAsync items =>
    simp [headLines, Head.parts, allPlain_flatMap]
  | forLoop isAsync target source => simp [headLines, Head.parts, succeeds_exprText]
  | tryBlock star => simp [headLines, Head.parts]
  | _ => simp [headLines, Head.parts]

theorem succeeds_labelLine (star : Bool) (label : Label) :
    Succeeds (labelLine star label) ↔ AllPlain label.parts := by
  cases label <;> simp [labelLine, Label.parts, succeeds_patternText]

/-- The first block has no line of its own, except behind a subject. -/
theorem Head.Takes.first_eq {head : Head} {label : Label} {others : List Label}
    (h : head.Takes (label :: others)) (hm : ∀ subject, head ≠ .matchOn subject) :
    label = .body := by
  cases head with
  | matchOn subject => exact absurd rfl (hm subject)
  | function | classDef | withItems => exact (List.cons.inj h).1
  | ifThen | forLoop | whileLoop =>
    obtain ⟨rest, hrest, -⟩ := h
    exact (List.cons.inj hrest).1
  | tryBlock =>
    rcases h with h | ⟨handlers, rest, h, -⟩
    · exact (List.cons.inj h).1
    · exact (List.cons.inj h).1

mutual

theorem succeeds_stmtLines (stmt : Stmt) (h : Whole stmt.nodes) (depth : Nat) :
    Succeeds (stmtLines depth stmt) ↔ Printable stmt.nodes := by
  cases stmt with
  | simple site form => simp [stmtLines, Stmt.nodes, Stmt.parts, succeeds_simpleText]
  | compound site head blocks =>
    simp only [Stmt.nodes, whole_cons] at h
    obtain ⟨⟨htakes, -⟩, hw⟩ := h
    rw [Stmt.nodes, printable_cons, Stmt.parts, allPlain_append, and_assoc,
      ← succeeds_headLines depth]
    cases blocks with
    | nil => exact absurd rfl htakes.ne_nil
    | cons block rest =>
      have hblocks := succeeds_blockLines (block :: rest) hw
      rcases hblock : block with ⟨label, body⟩
      rw [hblock] at htakes hw hblocks
      simp only [nodesOfBlocks, whole_append] at hw
      have hbody := succeeds_bodyLines body hw.1
      have hrest := succeeds_blockLines rest hw.2
      cases head with
      | matchOn subject => simp [stmtLines, hblocks]
      | _ =>
        have hlabel := htakes.first_eq (by simp)
        simp only [Block.label] at hlabel
        subst hlabel
        simp [stmtLines, hbody, hrest, Block.label, Label.parts, nodesOfBlocks]
        exact fun _ => and_left_comm
termination_by sizeOf stmt
decreasing_by
  all_goals
    subst_vars
    simp only [Stmt.compound.sizeOf_spec, Block.mk.sizeOf_spec, List.cons.sizeOf_spec]
    omega

theorem succeeds_blockLines (blocks : List Block) (h : Whole (nodesOfBlocks blocks)) (depth : Nat)
    (head : Head) : Succeeds (blockLines depth head blocks) ↔
      AllPlain ((blocks.map Block.label).flatMap Label.parts) ∧
        Printable (nodesOfBlocks blocks) := by
  cases blocks with
  | nil => simp [blockLines, nodesOfBlocks]
  | cons block rest =>
    rcases hblock : block with ⟨label, body⟩
    rw [hblock] at h
    simp only [nodesOfBlocks, whole_append] at h
    have hrest := succeeds_blockLines rest h.2
    have hbody := succeeds_bodyLines body h.1
    rw [blockLines.eq_def]
    split
    next he => cases he
    next he =>
      cases he
      simp [hrest, Block.label, Label.parts, nodesOfBlocks, nodesOf]
    next site test first inner blocks rest' he =>
      cases he
      simp only [nodesOf, Stmt.nodes, whole_append, whole_cons] at h
      obtain ⟨⟨⟨⟨htakes, -⟩, hw⟩, -⟩, -⟩ := h
      simp only [nodesOfBlocks, whole_append] at hw
      have hfirst := htakes.first_eq (by simp)
      have hinner := succeeds_bodyLines inner hw.1
      have hblocks := succeeds_blockLines blocks hw.2
      simp only [Block.label] at hfirst
      subst hfirst
      cases head <;>
        simp [hrest, hinner, hblocks, Block.label, Label.parts, nodesOfBlocks, nodesOf, Stmt.nodes,
          Stmt.parts, Head.parts, succeeds_headLines] <;>
        grind only
    next he =>
      cases he
      simp [succeeds_labelLine, hbody, hrest, Block.label, nodesOfBlocks]
      grind only
termination_by sizeOf blocks
decreasing_by
  all_goals
    subst_vars
    simp only [Stmt.compound.sizeOf_spec, Block.mk.sizeOf_spec, List.cons.sizeOf_spec]
    omega

theorem succeeds_bodyLines (body : List Stmt) (h : Whole (nodesOf body)) (depth : Nat)
    (documented : Bool) :
    Succeeds (bodyLines depth documented body) ↔ Printable (nodesOf body) := by
  cases body with
  | nil => simp [bodyLines, nodesOf]
  | cons stmt rest =>
    simp only [nodesOf, whole_append] at h
    have hrest := succeeds_bodyLines rest h.2
    have hstmt := succeeds_stmtLines stmt h.1
    rw [nodesOf, printable_append, bodyLines.eq_def]
    split
    next he => cases he
    next site line text marked rest' he =>
      cases he
      cases documented <;>
        simp [Stmt.nodes, Stmt.parts, Simple.parts, Expr.parts, Form.parts, Expr.IsPlain,
          succeeds_literalText false line, hrest]
    next he =>
      cases he
      simp [hstmt, hrest]
termination_by sizeOf body
decreasing_by
  all_goals
    subst_vars
    simp only [List.cons.sizeOf_spec]
    omega

end

/-- The statements of a module have a text exactly if all the expressions in them have one. -/
theorem succeeds_printModule {body : List Stmt} (h : Whole (nodesOf body)) :
    Succeeds (printModule body) ↔ Printable (nodesOf body) := by
  rw [printModule, succeeds_map, succeeds_bodyLines body h]

end DocSuite.Syntax
