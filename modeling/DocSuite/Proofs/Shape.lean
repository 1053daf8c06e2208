import DocSuite.Proofs.Forest

/-!
The blocks of compound statements. Main statement: a head takes blocks with the labels that the
grammar has behind it, and each of them holds a statement.
-/
namespace DocSuite.Syntax

def Block.label : Block → Label
  | ⟨label, _⟩ => label

def Block.body : Block → List Stmt
  | ⟨_, body⟩ => body

def Label.isHandler : Label → Bool
  | .handler .. => true
  | _ => false

def Label.isCase : Label → Bool
  | .case .. => true
  | _ => false

/-- The grammar has blocks with these labels behind the head. -/
def Head.Takes : Head → List Label → Prop
  | .function .., labels | .classDef .., labels | .withItems .., labels => labels = [.body]
  | .ifThen _, labels | .forLoop .., labels | .whileLoop _, labels =>
      ∃ others, labels = .body :: others ∧ List.Sublist others [.orelse]
  | .matchOn _, labels => labels ≠ [] ∧ ∀ label ∈ labels, label.isCase = true
  | .tryBlock _, labels =>
      labels = [.body, .finalbody] ∨
        ∃ handlers others, labels = .body :: (handlers ++ others) ∧ handlers ≠ [] ∧
          (∀ label ∈ handlers, label.isHandler = true) ∧
          List.Sublist others [.orelse, .finalbody]

/-- A compound statement has the blocks that its head takes, each with a statement. -/
def Stmt.IsWhole : Stmt → Prop
  | .simple .. => True
  | .compound _ head blocks =>
      head.Takes (blocks.map Block.label) ∧ ∀ block ∈ blocks, block.body ≠ []

def Whole (nodes : List Stmt) : Prop := ∀ stmt ∈ nodes, stmt.IsWhole

theorem Head.Takes.ne_nil {head : Head} {labels : List Label} (h : head.Takes labels) :
    labels ≠ [] := by
  rintro rfl
  cases head <;> simp [Head.Takes] at h

theorem nodesOfBlocks_ne_nil {blocks : List Block} (h : blocks ≠ [])
    (hb : ∀ block ∈ blocks, block.body ≠ []) : nodesOfBlocks blocks ≠ [] := by
  obtain ⟨⟨label, body⟩, rest, rfl⟩ := List.exists_cons_of_ne_nil h
  obtain ⟨stmt, stmts, hbody⟩ := List.exists_cons_of_ne_nil (hb _ List.mem_cons_self)
  simp only [Block.body] at hbody
  subst hbody
  have hs := stmt.self_mem_nodes
  intro hn
  simp only [nodesOfBlocks, nodesOf, List.append_eq_nil_iff] at hn
  rw [hn.1.1] at hs
  cases hs

@[simp] theorem whole_nil : Whole [] := by simp [Whole]

@[simp] theorem whole_cons {stmt : Stmt} {nodes : List Stmt} :
    Whole (stmt :: nodes) ↔ stmt.IsWhole ∧ Whole nodes := by
  simp [Whole]

@[simp] theorem whole_append {as bs : List Stmt} : Whole (as ++ bs) ↔ Whole as ∧ Whole bs := by
  simp only [Whole, List.mem_append]
  exact ⟨fun h => ⟨fun s hs => h s (.inl hs), fun s hs => h s (.inr hs)⟩,
    fun h s hs => hs.elim (h.1 s) (h.2 s)⟩

end DocSuite.Syntax
