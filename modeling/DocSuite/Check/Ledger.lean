import DocSuite.Value

/-!
The ledger of the checks of a document: their statements in the order in which they were written,
and the number of functions named for them. Main statement: the size of a ledger is the number of
statements recorded, the names of functions are numbered from one.
-/
namespace DocSuite

structure Ledger (α : Type) where
  nodes : List α := []
  thunkCount : Nat := 0
  deriving Repr

namespace Ledger

variable {α : Type}

def record (ledger : Ledger α) (nodes : List α) : Ledger α :=
  { ledger with nodes := ledger.nodes ++ nodes }

def contains [DecidableEq α] (ledger : Ledger α) (node : α) : Bool := decide (node ∈ ledger.nodes)

def size (ledger : Ledger α) : Nat := ledger.nodes.length

def thunkName (number : Nat) : String := "__mddoctest_thunk_" ++ Value.intText number ++ "__"

/-- The name of the next function, and the ledger that counts it. -/
def nextThunk (ledger : Ledger α) : String × Ledger α :=
  (thunkName (ledger.thunkCount + 1), { ledger with thunkCount := ledger.thunkCount + 1 })

theorem size_record (ledger : Ledger α) (nodes : List α) :
    (ledger.record nodes).size = ledger.size + nodes.length := by
  simp [size, record]

end Ledger

end DocSuite
