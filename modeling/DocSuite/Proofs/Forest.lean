import DocSuite.Syntax.Basic

/-!
Forests of statements: the statements at any depth, and those among them that import. Main
statement: the statements of a forest are those of its trees, in the order of the text.
-/
namespace DocSuite.Syntax

mutual

/-- The statement and those inside it, in the order of the text. -/
def Stmt.nodes : Stmt → List Stmt
  | .simple site form => [.simple site form]
  | .compound site head blocks => .compound site head blocks :: nodesOfBlocks blocks

def nodesOfBlocks : List Block → List Stmt
  | [] => []
  | ⟨_, body⟩ :: rest => nodesOf body ++ nodesOfBlocks rest

def nodesOf : List Stmt → List Stmt
  | [] => []
  | stmt :: rest => stmt.nodes ++ nodesOf rest

end

def Stmt.isImport : Stmt → Bool
  | .simple _ (.importModules _) | .simple _ (.importFrom ..) => true
  | _ => false

/-- None of the statements belongs to a check that was put in. -/
def Fresh (nodes : List Stmt) : Prop := ∀ stmt ∈ nodes, stmt.site.recorded = false

@[simp] theorem nodesOf_append (as bs : List Stmt) :
    nodesOf (as ++ bs) = nodesOf as ++ nodesOf bs := by
  induction as with
  | nil => rfl
  | cons a as ih => simp [nodesOf, ih]

@[simp] theorem nodesOfBlocks_append (as bs : List Block) :
    nodesOfBlocks (as ++ bs) = nodesOfBlocks as ++ nodesOfBlocks bs := by
  induction as with
  | nil => rfl
  | cons a as ih =>
    obtain ⟨label, body⟩ := a
    simp [nodesOfBlocks, ih]

theorem Stmt.self_mem_nodes (stmt : Stmt) : stmt ∈ stmt.nodes := by
  cases stmt <;> simp [nodes]

@[simp] theorem Stmt.site_simple (site : Site) (form : Simple) :
    (Stmt.simple site form).site = site := rfl

@[simp] theorem Stmt.site_compound (site : Site) (head : Head) (blocks : List Block) :
    (Stmt.compound site head blocks).site = site := rfl

@[simp] theorem fresh_nil : Fresh [] := by simp [Fresh]

@[simp] theorem fresh_cons {stmt : Stmt} {nodes : List Stmt} :
    Fresh (stmt :: nodes) ↔ stmt.site.recorded = false ∧ Fresh nodes := by
  simp [Fresh]

@[simp] theorem fresh_append {as bs : List Stmt} : Fresh (as ++ bs) ↔ Fresh as ∧ Fresh bs := by
  simp only [Fresh, List.mem_append]
  exact ⟨fun h => ⟨fun s hs => h s (.inl hs), fun s hs => h s (.inr hs)⟩,
    fun h s hs => hs.elim (h.1 s) (h.2 s)⟩

end DocSuite.Syntax
