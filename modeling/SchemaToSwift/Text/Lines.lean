/-!
# Lines

A text is cut into lines after each line separator, and every line keeps its separator. Carriage
return and line feed together are one separator. `flatten_lines` says that nothing is lost.
-/

namespace SchemaToSwift.Text

/-- A character that ends a line. -/
def isLineEnd (c : Char) : Bool :=
  let n := c.toNat
  (10 ≤ n && n ≤ 13) || (28 ≤ n && n ≤ 30) || n == 0x85 || n == 0x2028 || n == 0x2029

/-- The lines of a text whose first line has already begun with `current`, held in reverse. -/
def linesFrom (current : List Char) : List Char → List (List Char)
  | [] => if current.isEmpty then [] else [current.reverse]
  | '\r' :: '\n' :: rest => ('\n' :: '\r' :: current).reverse :: linesFrom [] rest
  | c :: rest =>
    if isLineEnd c then (c :: current).reverse :: linesFrom [] rest
    else linesFrom (c :: current) rest

/-- The lines of a text, each with its separator. -/
def lines (cs : List Char) : List (List Char) := linesFrom [] cs

/-- The lines from a point on, with what stands before it on its line, are the text. -/
theorem flatten_linesFrom (current cs : List Char) :
    (linesFrom current cs).flatten = current.reverse ++ cs := by
  fun_induction linesFrom current cs with
  | case1 current h => simp_all
  | case2 current h => simp
  | case3 current rest ih => simp [ih]
  | case4 current c rest _ h ih => simp [ih]
  | case5 current c rest _ h ih => simp [ih]

/-- The lines of a text make it up. -/
theorem flatten_lines (cs : List Char) : (lines cs).flatten = cs := flatten_linesFrom [] cs

end SchemaToSwift.Text
