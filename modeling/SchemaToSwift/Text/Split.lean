/-!
# Cutting a text at a separator

`splitAt` gives the parts of a list of characters between the occurrences of a separator, one more
part than there are separators; `cut` and `cutLast` cut at the first and at the last one only.
-/

namespace SchemaToSwift.Text

/-- The parts between the separators. -/
def splitAt (sep : Char) : List Char → List (List Char)
  | [] => [[]]
  | c :: rest =>
    if c = sep then [] :: splitAt sep rest
    else match splitAt sep rest with
      | [] => [[c]]
      | part :: parts => (c :: part) :: parts

/-- There is always a part, even in a text without characters. -/
theorem splitAt_ne_nil (sep : Char) (cs : List Char) : splitAt sep cs ≠ [] := by
  cases cs with
  | nil => simp [splitAt]
  | cons c rest =>
    rw [splitAt]
    split
    · simp
    · split <;> simp

/-- The parts of a text. -/
def parts (sep : Char) (s : String) : List String :=
  (splitAt sep s.toList).map String.ofList

/-- The list up to the first separator and, if there is one, the list after it. -/
def cut (sep : Char) (cs : List Char) : List Char × Option (List Char) :=
  match cs.span (· != sep) with
  | (before, _ :: after) => (before, some after)
  | (before, []) => (before, none)

/-- The list up to the last separator, if there is one, and the list after it. -/
def cutLast (sep : Char) (cs : List Char) : Option (List Char) × List Char :=
  match cut sep cs.reverse with
  | (after, some before) => (some before.reverse, after.reverse)
  | (all, none) => (none, all.reverse)

/-- The text without the given character at its start. -/
def dropLeading (c : Char) (s : String) : String := String.ofList (s.toList.dropWhile (· == c))

/-- The text without the given character at its end. -/
def dropTrailing (c : Char) (s : String) : String :=
  String.ofList (s.toList.reverse.dropWhile (· == c)).reverse

/-- The part of a dotted name after its last dot. -/
def lastComponent (s : String) : String := String.ofList (cutLast '.' s.toList).2

/-- The part of a dotted name before its last dot, empty if it has none. -/
def scopeOf (s : String) : String := String.ofList ((cutLast '.' s.toList).1.getD [])

end SchemaToSwift.Text
