/-!
Sorting by a test of order. Main statement: elements of which none comes before the other keep
their order.
-/
namespace DocSuite

/-- Inserts behind the elements that are not greater. -/
def insertBy {α : Type} (less : α → α → Bool) (a : α) : List α → List α
  | [] => [a]
  | b :: bs => if less a b then a :: b :: bs else b :: insertBy less a bs

/-- Sorts without changing the order of equal elements. -/
def sortBy {α : Type} (less : α → α → Bool) (as : List α) : List α :=
  as.foldl (fun sorted a => insertBy less a sorted) []

/-- The order of texts by their code points. -/
def comesBefore : List Char → List Char → Bool
  | [], [] => false
  | [], _ :: _ => true
  | _ :: _, [] => false
  | a :: as, b :: bs => a < b || (a == b && comesBefore as bs)

/-- Sorts by a text that each element has. -/
def sortByText {α : Type} (text : α → String) (as : List α) : List α :=
  sortBy (fun a b => comesBefore (text a).toList (text b).toList) as

end DocSuite
