import SchemaToSwift.Text.CaseTable

/-!
# Letter case

The case of a character and the case mappings of a text. The mappings are the full ones: a
character may become several (`ß` becomes `SS`), and a capital sigma becomes the final form where
it ends a word. Below code point 128 all rules are the ASCII ones, without a table.
-/

namespace SchemaToSwift.Text

/-- The code points that need no table. -/
def isAscii (c : Char) : Bool := c.toNat < 128

/-- An upper-case character. -/
def isUpper (c : Char) : Bool :=
  if isAscii c then c.isUpper else inRuns CaseTable.upperRuns c.toNat

/-- A lower-case character. -/
def isLower (c : Char) : Bool :=
  if isAscii c then c.isLower else inRuns CaseTable.lowerRuns c.toNat

/-- A title-case character, such as a digraph with a capital first letter. -/
def isTitle (c : Char) : Bool :=
  !isAscii c && inRuns CaseTable.titleRuns c.toNat

/-- A character that has case. -/
def isCased (c : Char) : Bool := isUpper c || isLower c || isTitle c

/-- A character that does not end a word for the rule of the final sigma. -/
def isCaseIgnorable (c : Char) : Bool :=
  if isAscii c then c == '\'' || c == '.' || c == ':' || c == '^' || c == '\x60'
  else inRuns CaseTable.ignorableRuns c.toNat

/-- The upper-case form of a character. -/
def upperChar (c : Char) : List Char :=
  if isAscii c then [c.toUpper]
  else match CaseTable.upperSequences.lookup c.toNat with
    | some codes => codes.map Char.ofNat
    | none => match shifted? CaseTable.upperShifts c.toNat with
      | some n => [Char.ofNat n]
      | none => [c]

/-- The lower-case form of a character that is no capital sigma. -/
def lowerChar (c : Char) : List Char :=
  if isAscii c then [c.toLower]
  else if c == 'İ' then ['i', '\u0307']
  else match shifted? CaseTable.lowerShifts c.toNat with
    | some n => [Char.ofNat n]
    | none => [c]

/-- Whether a cased character comes next, up to characters that do not end a word. -/
def casedNext (cs : List Char) : Bool :=
  match cs.dropWhile isCaseIgnorable with
  | [] => false
  | c :: _ => isCased c

/-- The lower-case form of a text whose preceding part ends, up to characters that do not end a
word, with a cased character or not. -/
def lowerFrom (afterCased : Bool) : List Char → List Char
  | [] => []
  | c :: rest =>
    (if c == 'Σ' then [if afterCased && !casedNext rest then 'ς' else 'σ'] else lowerChar c) ++
      lowerFrom (if isCaseIgnorable c then afterCased else isCased c) rest

/-- The upper-case form of a list of characters. -/
def upperChars (cs : List Char) : List Char := cs.flatMap upperChar

/-- The lower-case form of a list of characters. -/
def lowerChars (cs : List Char) : List Char := lowerFrom false cs

/-- The upper-case form of a text. -/
def upper (s : String) : String := String.ofList (upperChars s.toList)

/-- The lower-case form of a text. -/
def lower (s : String) : String := String.ofList (lowerChars s.toList)

/-- Whether a list of characters has a cased character and all its cased characters are upper
case. -/
def allUpper (cs : List Char) : Bool :=
  cs.any isUpper && cs.all fun c => !isLower c && !isTitle c

end SchemaToSwift.Text
