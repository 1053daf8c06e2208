import DocSuite.Sample.Scan

/-!
Addresses of fences. An address leads from the blocks of a document to a fence: it counts the blocks
before a fence, a quote or a list among their siblings, and behind a list the items before the one
that it goes on into. Main statement: the fences of a document are those at its addresses, each of
them once and in the order of the addresses.
-/
namespace DocSuite.Markdown

/-- The block in front of the block with a number, if `first` is in front of all. -/
def blockBefore (first : Option Block) (blocks : List Block) : Nat → Option Block
  | 0 => first
  | i + 1 => blocks[i]?

/-- The fence at an address. -/
def fenceAt? (first : Option Block) (blocks : List Block) : List Nat → Option Fence
  | [] => none
  | [i] =>
      match blocks[i]? with
      | some (.fence info content line) => some ⟨blockBefore first blocks i, info, content, line⟩
      | _ => none
  | i :: j :: address =>
      match blocks[i]? with
      | some (.quote children) => fenceAt? none children (j :: address)
      | some (.list items) => items[j]?.bind fun item => fenceAt? none item address
      | _ => none

/-- A fence and its address. -/
structure FenceNode where
  address : List Nat
  fence : Fence

/-- The node among blocks that are inside others. -/
def FenceNode.inside (i : Nat) (node : FenceNode) : FenceNode :=
  { node with address := i :: node.address }

mutual

/-- The fences in a block that others are in front of, with their addresses. -/
def Block.nodesAt (before : Option Block) (i : Nat) : Block → List FenceNode
  | .fence info content line => [⟨[i], before, info, content, line⟩]
  | .quote children => (nodesFrom none 0 children).map (FenceNode.inside i)
  | .list items => (nodesFromItems 0 items).map (FenceNode.inside i)
  | _ => []

def nodesFrom (before : Option Block) (i : Nat) : List Block → List FenceNode
  | [] => []
  | block :: rest => block.nodesAt before i ++ nodesFrom (some block) (i + 1) rest

def nodesFromItems (i : Nat) : List (List Block) → List FenceNode
  | [] => []
  | item :: rest => (nodesFrom none 0 item).map (FenceNode.inside i) ++ nodesFromItems (i + 1) rest

end

/-! ### The fences of the nodes -/

theorem map_fence_inside (i : Nat) (nodes : List FenceNode) :
    (nodes.map (FenceNode.inside i)).map FenceNode.fence = nodes.map FenceNode.fence := by
  rw [List.map_map]
  rfl

mutual

theorem Block.map_fence_nodesAt (block : Block) (before : Option Block) (i : Nat) :
    (block.nodesAt before i).map FenceNode.fence = block.fences before := by
  cases block with
  | quote children =>
    rw [Block.nodesAt, Block.fences, map_fence_inside, map_fence_nodesFrom children none 0]
  | list items =>
    rw [Block.nodesAt, Block.fences, map_fence_inside, map_fence_nodesFromItems items 0]
  | _ => rfl

theorem map_fence_nodesFrom (blocks : List Block) (before : Option Block) (i : Nat) :
    (nodesFrom before i blocks).map FenceNode.fence = fencesOf before blocks := by
  cases blocks with
  | nil => rfl
  | cons block rest =>
    rw [nodesFrom, fencesOf, List.map_append, block.map_fence_nodesAt before i,
      map_fence_nodesFrom rest (some block) (i + 1)]

theorem map_fence_nodesFromItems (items : List (List Block)) (i : Nat) :
    (nodesFromItems i items).map FenceNode.fence = fencesOfItems items := by
  cases items with
  | nil => rfl
  | cons item rest =>
    rw [nodesFromItems, fencesOfItems, List.map_append, map_fence_inside,
      map_fence_nodesFrom item none 0, map_fence_nodesFromItems rest (i + 1)]

end

/-! ### The order of the nodes -/

/-- The nodes are in the order of their addresses, which start from a number on. -/
structure Ascending (start : Nat) (nodes : List FenceNode) : Prop where
  ordered : nodes.Pairwise fun a b => a.address < b.address
  starts : ∀ node ∈ nodes, ∃ i rest, node.address = i :: rest ∧ start ≤ i

namespace Ascending

variable {i : Nat} {nodes others : List FenceNode}

theorem nil (i : Nat) : Ascending i [] := ⟨.nil, by simp⟩

/-- Nodes that start with one number are in front of those that start with later ones. -/
theorem append (h : ∀ node ∈ nodes, ∃ rest, node.address = i :: rest)
    (ho : nodes.Pairwise fun a b => a.address < b.address) (h' : Ascending (i + 1) others) :
    Ascending i (nodes ++ others) := by
  constructor
  · apply List.pairwise_append.mpr
    refine ⟨ho, h'.ordered, ?_⟩
    intro a ha b hb
    obtain ⟨rest, hrest⟩ := h a ha
    obtain ⟨j, rest', hrest', hj⟩ := h'.starts b hb
    rw [hrest, hrest', List.cons_lt_cons_iff]
    exact .inl hj
  · intro node hn
    rcases List.mem_append.mp hn with hnode | hother
    · obtain ⟨rest, hrest⟩ := h node hnode
      exact ⟨i, rest, hrest, Nat.le_refl i⟩
    · obtain ⟨j, rest, hrest, hj⟩ := h'.starts node hother
      exact ⟨j, rest, hrest, by omega⟩

end Ascending

theorem pairwise_inside (i : Nat) {nodes : List FenceNode}
    (h : nodes.Pairwise fun a b => a.address < b.address) :
    (nodes.map (FenceNode.inside i)).Pairwise fun a b => a.address < b.address := by
  apply List.pairwise_map.mpr
  apply h.imp
  intro a b hab
  exact List.cons_lt_cons_iff.mpr (.inr ⟨rfl, hab⟩)

theorem starts_inside (i : Nat) (nodes : List FenceNode) :
    ∀ node ∈ nodes.map (FenceNode.inside i), ∃ rest, node.address = i :: rest := by
  intro node hn
  obtain ⟨inner, -, rfl⟩ := List.mem_map.mp hn
  exact ⟨inner.address, rfl⟩

mutual

theorem Block.ascending_nodesAt (block : Block) (before : Option Block) (i : Nat) :
    (block.nodesAt before i).Pairwise (fun a b => a.address < b.address) ∧
      ∀ node ∈ block.nodesAt before i, ∃ rest, node.address = i :: rest := by
  cases block with
  | fence info content line =>
    simp [Block.nodesAt]
  | quote children =>
    exact ⟨pairwise_inside i (ascending_nodesFrom children none 0).ordered, starts_inside i _⟩
  | list items =>
    exact ⟨pairwise_inside i (ascending_nodesFromItems items 0).ordered, starts_inside i _⟩
  | _ => simp [Block.nodesAt]

theorem ascending_nodesFrom (blocks : List Block) (before : Option Block) (i : Nat) :
    Ascending i (nodesFrom before i blocks) := by
  cases blocks with
  | nil => exact .nil i
  | cons block rest =>
    obtain ⟨hordered, hstarts⟩ := block.ascending_nodesAt before i
    exact .append hstarts hordered (ascending_nodesFrom rest (some block) (i + 1))

theorem ascending_nodesFromItems (items : List (List Block)) (i : Nat) :
    Ascending i (nodesFromItems i items) := by
  cases items with
  | nil => exact .nil i
  | cons item rest =>
    have hordered := pairwise_inside i (ascending_nodesFrom item none 0).ordered
    exact .append (starts_inside i _) hordered (ascending_nodesFromItems rest (i + 1))

end

/-! ### The addresses of the nodes -/

theorem mem_inside {i j : Nat} {address : List Nat} {fence : Fence} {nodes : List FenceNode} :
    ⟨i :: address, fence⟩ ∈ nodes.map (FenceNode.inside j) ↔ i = j ∧ ⟨address, fence⟩ ∈ nodes := by
  constructor
  · intro h
    obtain ⟨node, hn, heq⟩ := List.mem_map.mp h
    cases heq
    exact ⟨rfl, hn⟩
  · rintro ⟨rfl, hn⟩
    exact List.mem_map.mpr ⟨_, hn, rfl⟩

section

variable (before : Option Block) (rest : List Block)

theorem fenceAt?_quote (children : List Block) (address : List Nat) :
    fenceAt? before (.quote children :: rest) (0 :: address) = fenceAt? none children address := by
  cases address with
  | nil => rfl
  | cons j address => rfl

/-- Behind the first block, its siblings have the addresses that they have without it. -/
theorem fenceAt?_succ (block : Block) (k : Nat) (address : List Nat) :
    fenceAt? before (block :: rest) ((k + 1) :: address) =
      fenceAt? (some block) rest (k :: address) := by
  have hbefore : blockBefore before (block :: rest) (k + 1) = blockBefore (some block) rest k := by
    cases k with
    | zero => rfl
    | succ k => rfl
  cases address with
  | nil =>
    simp only [fenceAt?, hbefore, List.getElem?_cons_succ]
  | cons j address =>
    simp only [fenceAt?, List.getElem?_cons_succ]

end

theorem Ascending.not_mem_nil {i : Nat} {nodes : List FenceNode} (h : Ascending i nodes)
    (fence : Fence) : ⟨[], fence⟩ ∉ nodes := by
  intro hmem
  obtain ⟨j, rest, heq, -⟩ := h.starts _ hmem
  cases heq

/-- What holds of the addresses that start with a number holds of all, since none is empty. -/
theorem mem_nodesFrom_zero {blocks : List Block} {fence : Fence}
    (h : ∀ k address, ⟨(0 + k) :: address, fence⟩ ∈ nodesFrom none 0 blocks ↔
      fenceAt? none blocks (k :: address) = some fence) (address : List Nat) :
    ⟨address, fence⟩ ∈ nodesFrom none 0 blocks ↔ fenceAt? none blocks address = some fence := by
  cases address with
  | nil => simp [(ascending_nodesFrom blocks none 0).not_mem_nil, fenceAt?]
  | cons k address =>
    rw [← h k address, Nat.zero_add]

mutual

theorem Block.mem_nodesAt (block : Block) (before : Option Block) (i : Nat) (rest : List Block)
    (address : List Nat) (fence : Fence) :
    ⟨i :: address, fence⟩ ∈ block.nodesAt before i ↔
      fenceAt? before (block :: rest) (0 :: address) = some fence := by
  cases block with
  | fence info content line =>
    cases address with
    | nil =>
      simp only [Block.nodesAt, fenceAt?, List.mem_singleton, List.getElem?_cons_zero, blockBefore,
        Option.some.injEq, FenceNode.mk.injEq, true_and]
      exact eq_comm
    | cons j address => simp [Block.nodesAt, fenceAt?]
  | quote children =>
    have hmem := mem_nodesFrom_zero fun k address =>
      mem_nodesFrom children none 0 k address fence
    rw [Block.nodesAt, mem_inside, fenceAt?_quote, hmem]
    exact and_iff_right rfl
  | list items =>
    rw [Block.nodesAt, mem_inside]
    cases address with
    | nil => simp [(ascending_nodesFromItems items 0).not_mem_nil, fenceAt?]
    | cons j address =>
      have hmem := mem_nodesFromItems items 0 j address fence
      rw [Nat.zero_add] at hmem
      rw [hmem]
      exact and_iff_right rfl
  | _ => cases address <;> simp [Block.nodesAt, fenceAt?]

theorem mem_nodesFrom (blocks : List Block) (before : Option Block) (i k : Nat)
    (address : List Nat) (fence : Fence) :
    ⟨(i + k) :: address, fence⟩ ∈ nodesFrom before i blocks ↔
      fenceAt? before blocks (k :: address) = some fence := by
  cases blocks with
  | nil => cases address <;> simp [nodesFrom, fenceAt?]
  | cons block rest =>
    rw [nodesFrom, List.mem_append]
    cases k with
    | zero =>
      have hlater : ⟨i :: address, fence⟩ ∉ nodesFrom (some block) (i + 1) rest := by
        intro hmem
        obtain ⟨j, others, heq, hj⟩ :=
          (ascending_nodesFrom rest (some block) (i + 1)).starts _ hmem
        cases heq
        omega
      rw [Nat.add_zero, ← block.mem_nodesAt before i rest address fence]
      exact or_iff_left hlater
    | succ k =>
      have hearlier : ⟨(i + (k + 1)) :: address, fence⟩ ∉ block.nodesAt before i := by
        intro hmem
        obtain ⟨others, heq⟩ := (block.ascending_nodesAt before i).2 _ hmem
        simp only [List.cons.injEq] at heq
        omega
      have hmem := mem_nodesFrom rest (some block) (i + 1) k address fence
      rw [Nat.add_right_comm] at hmem
      rw [fenceAt?_succ, ← hmem]
      exact or_iff_right hearlier

theorem mem_nodesFromItems (items : List (List Block)) (i k : Nat) (address : List Nat)
    (fence : Fence) :
    ⟨(i + k) :: address, fence⟩ ∈ nodesFromItems i items ↔
      (items[k]?.bind fun item => fenceAt? none item address) = some fence := by
  cases items with
  | nil => simp [nodesFromItems]
  | cons item rest =>
    rw [nodesFromItems, List.mem_append]
    cases k with
    | zero =>
      have hlater : ⟨i :: address, fence⟩ ∉ nodesFromItems (i + 1) rest := by
        intro hmem
        obtain ⟨j, others, heq, hj⟩ := (ascending_nodesFromItems rest (i + 1)).starts _ hmem
        cases heq
        omega
      have hmem := mem_nodesFrom_zero fun k address => mem_nodesFrom item none 0 k address fence
      rw [Nat.add_zero, mem_inside, List.getElem?_cons_zero, Option.bind_some, ← hmem]
      simp [hlater]
    | succ k =>
      have hmem := mem_nodesFromItems rest (i + 1) k address fence
      have hne : i + (k + 1) ≠ i := by omega
      rw [Nat.add_right_comm] at hmem
      rw [mem_inside, List.getElem?_cons_succ, ← hmem]
      exact or_iff_right fun h => hne h.1

end

theorem mem_nodes {blocks : List Block} {node : FenceNode} :
    node ∈ nodesFrom none 0 blocks ↔ fenceAt? none blocks node.address = some node.fence :=
  mem_nodesFrom_zero (fun k address => mem_nodesFrom blocks none 0 k address node.fence)
    node.address

end DocSuite.Markdown
