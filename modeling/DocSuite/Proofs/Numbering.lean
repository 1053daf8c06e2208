import DocSuite.Proofs.Shape
import DocSuite.Sample.Trailing

/-!
Numbers of statements. Main statement: giving comments to the statements of a body changes nothing
else about them, and each gets the comments that are found under its number in the order of the
text.
-/
namespace DocSuite.Syntax

/-- The label of a block, and whether it holds nothing. -/
def Block.outline (block : Block) : Label × Bool := (block.label, block.body.isEmpty)

namespace Stmt

/-- A statement less its site and what is inside its blocks. -/
def root : Stmt → Simple ⊕ (Head × List (Label × Bool))
  | .simple _ form => .inl form
  | .compound _ head blocks => .inr (head, blocks.map Block.outline)

@[simp] theorem root_simple (site : Site) (form : Simple) :
    (Stmt.simple site form).root = .inl form := rfl

@[simp] theorem root_compound (site : Site) (head : Head) (blocks : List Block) :
    (Stmt.compound site head blocks).root = .inr (head, blocks.map Block.outline) := rfl

theorem isWhole_of_root {a b : Stmt} (h : a.root = b.root) (ha : a.IsWhole) : b.IsWhole := by
  cases a with
  | simple =>
    cases b with
    | simple => trivial
    | compound => simp at h
  | compound site head blocks =>
    cases b with
    | simple => simp at h
    | compound site' head' blocks' =>
      simp only [root_compound, Sum.inr.injEq, Prod.mk.injEq] at h
      obtain ⟨rfl, hb⟩ := h
      have hl : blocks.map Block.label = blocks'.map Block.label := by
        have := congrArg (List.map Prod.fst) hb
        rwa [List.map_map, List.map_map] at this
      refine ⟨hl ▸ ha.1, fun block hm hempty => ?_⟩
      have hin : block.outline ∈ blocks'.map Block.outline := List.mem_map_of_mem hm
      rw [← hb] at hin
      obtain ⟨block', hm', hout⟩ := List.mem_map.mp hin
      have he : block'.body.isEmpty = block.body.isEmpty := congrArg Prod.snd hout
      rw [hempty] at he
      exact ha.2 block' hm' (by simpa using he)

/-- The site of a statement, and the rest of it less what is inside its blocks. -/
def core (stmt : Stmt) : Site × (Simple ⊕ (Head × List (Label × Bool))) := (stmt.site, stmt.root)

/-- What is kept of a statement with a number. -/
def numbered (table : Nat → List Comment) (entry : Stmt × Nat) :
    Site × (Simple ⊕ (Head × List (Label × Bool))) :=
  ({ entry.1.site with comments := table entry.2 }, entry.1.root)

section

variable (table : Nat → List Comment)

theorem isEmpty_bodyWithComments (number : Nat) (body : List Stmt) :
    (bodyWithComments table number body).1.isEmpty = body.isEmpty := by
  cases body <;> simp [bodyWithComments]

theorem outline_blocksWithComments (number : Nat) (blocks : List Block) :
    (blocksWithComments table number blocks).1.map Block.outline = blocks.map Block.outline := by
  induction blocks generalizing number with
  | nil => rfl
  | cons block rest ih =>
    obtain ⟨label, body⟩ := block
    simp only [blocksWithComments, List.map_cons, ih, Block.outline, Block.label,
      Block.body, isEmpty_bodyWithComments]

mutual

theorem nodes_withComments (number : Nat) (stmt : Stmt) :
    (withComments table number stmt).1.nodes.map core =
        (stmt.nodes.zipIdx number).map (numbered table) ∧
      (withComments table number stmt).2 = number + stmt.nodes.length := by
  cases stmt with
  | simple site form => simp [withComments, nodes, numbered, core]
  | compound site head blocks =>
    obtain ⟨h1, h2⟩ := nodes_blocksWithComments (number + 1) blocks
    refine ⟨?_, ?_⟩
    · simp only [withComments, nodes, List.map_cons, List.zipIdx_cons, h1, core, numbered,
        site_compound, root_compound, outline_blocksWithComments]
    · simp only [withComments, nodes, h2, List.length_cons]
      omega

theorem nodes_blocksWithComments (number : Nat) (blocks : List Block) :
    (nodesOfBlocks (blocksWithComments table number blocks).1).map core =
        ((nodesOfBlocks blocks).zipIdx number).map (numbered table) ∧
      (blocksWithComments table number blocks).2 = number + (nodesOfBlocks blocks).length := by
  cases blocks with
  | nil => exact ⟨rfl, rfl⟩
  | cons block rest =>
    obtain ⟨label, body⟩ := block
    obtain ⟨h1, h2⟩ := nodes_bodyWithComments number body
    obtain ⟨h3, h4⟩ := nodes_blocksWithComments (number + (nodesOf body).length) rest
    refine ⟨?_, ?_⟩
    · simp only [blocksWithComments, nodesOfBlocks, List.map_append, List.zipIdx_append, h1, h2,
        h3]
    · simp only [blocksWithComments, nodesOfBlocks, h2, h4, List.length_append]
      omega

theorem nodes_bodyWithComments (number : Nat) (body : List Stmt) :
    (nodesOf (bodyWithComments table number body).1).map core =
        ((nodesOf body).zipIdx number).map (numbered table) ∧
      (bodyWithComments table number body).2 = number + (nodesOf body).length := by
  cases body with
  | nil => exact ⟨rfl, rfl⟩
  | cons stmt rest =>
    obtain ⟨h1, h2⟩ := nodes_withComments number stmt
    obtain ⟨h3, h4⟩ := nodes_bodyWithComments (number + stmt.nodes.length) rest
    refine ⟨?_, ?_⟩
    · simp only [bodyWithComments, nodesOf, List.map_append, List.zipIdx_append, h1, h2, h3]
    · simp only [bodyWithComments, nodesOf, h2, h4, List.length_append]
      omega

end

/-- Statements keep their numbers. -/
theorem getElem?_nodes_bodyWithComments (body : List Stmt) (number : Nat) :
    (nodesOf (bodyWithComments table 0 body).1)[number]?.map core =
      (nodesOf body)[number]?.map fun stmt => numbered table (stmt, number) := by
  rw [← List.getElem?_map, (nodes_bodyWithComments table 0 body).1, List.getElem?_map,
    List.getElem?_zipIdx, Option.map_map]
  simp [Function.comp_def]

theorem exists_of_mem_bodyWithComments {body : List Stmt} {stmt : Stmt}
    (h : stmt ∈ nodesOf (bodyWithComments table 0 body).1) : ∃ (number : Nat)
      (original : Stmt), (nodesOf body)[number]? = some original ∧
        stmt.site = { original.site with comments := table number } ∧
        stmt.root = original.root := by
  obtain ⟨number, hn⟩ := List.getElem?_of_mem h
  have he := getElem?_nodes_bodyWithComments table body number
  rw [hn, Option.map_some, eq_comm, Option.map_eq_some_iff] at he
  obtain ⟨original, ho, he⟩ := he
  simp only [core, numbered, Prod.mk.injEq] at he
  exact ⟨number, original, ho, he.1.symm, he.2.symm⟩

theorem spans_bodyWithComments (body : List Stmt) :
    (nodesOf (bodyWithComments table 0 body).1).map (fun stmt => stmt.site.span) =
      (nodesOf body).map fun stmt => stmt.site.span := by
  have h := congrArg (List.map fun kept => kept.1.span) (nodes_bodyWithComments table 0 body).1
  simp only [List.map_map, Function.comp_def, core, numbered] at h
  have hfst := congrArg (List.map fun stmt => stmt.site.span) (List.zipIdx_map_fst 0 (nodesOf body))
  rw [List.map_map] at hfst
  exact h.trans hfst

end

/-! ### The walk through a body -/

mutual

theorem walk_nodes (depth : Nat) (stmt : Stmt) : (walk depth stmt).map Prod.snd = stmt.nodes := by
  cases stmt with
  | simple site form => rfl
  | compound site head blocks =>
    simp only [walk, List.map_cons, walkBlocks_nodes depth blocks, nodes]

theorem walkBlocks_nodes (depth : Nat) (blocks : List Block) :
    (walkBlocks depth blocks).map Prod.snd = nodesOfBlocks blocks := by
  cases blocks with
  | nil => rfl
  | cons block rest =>
    obtain ⟨label, body⟩ := block
    simp only [walkBlocks, List.map_append, walkAll_nodes, walkBlocks_nodes depth rest,
      nodesOfBlocks]

theorem walkAll_nodes (depth : Nat) (body : List Stmt) :
    (walkAll depth body).map Prod.snd = nodesOf body := by
  cases body with
  | nil => rfl
  | cons stmt rest =>
    simp only [walkAll, List.map_append, walk_nodes depth stmt, walkAll_nodes depth rest, nodesOf]

end

theorem head?_walkAll (depth : Nat) (body : List Stmt) :
    ∀ entry ∈ (walkAll depth body).head?, entry.1 = depth := by
  cases body with
  | nil => simp [walkAll]
  | cons stmt rest => cases stmt <;> simp [walkAll, walk]

end Stmt

end DocSuite.Syntax
