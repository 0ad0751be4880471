import SchemaToSwift.Json.Basic
import SchemaToSwift.Sorting

/-!
# Lists in the order of values

`Json.sortBy` puts a list in the order of a value that belongs to each element. Numbers and strings
are each in a total order, which insertion finds. A NaN is neither below nor above any number, and
with one among the values the steps of the sort decide where the elements come to stand.
-/

namespace SchemaToSwift.Json

/-- The list in the order of a value of each element. Values that cannot be compared cannot be put
in order. -/
def sortBy {α : Type} (value : α → Json) (xs : List α) : Except Fault (List α) :=
  let less (a b : α) : Except Fault Bool := (value a).less (value b)
  if xs.any fun x => (value x).isNan then Sorting.sort less xs else Sorting.insertAll less xs

end SchemaToSwift.Json
