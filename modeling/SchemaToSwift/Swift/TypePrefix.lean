import SchemaToSwift.Json.Basic
import SchemaToSwift.Text.Case

/-!
# Prefixes of type names

The top-level types of a file have a prefix: the one that the file asks for, or else one made of its
package, whose components are put in upper camel case, joined by underscores and ended by one.
-/

namespace SchemaToSwift.Swift

/-- The prefix letters of a package. A character after a dot or an underscore, or at the start if
`capital` is set, is put in upper case; dots become underscores, and underscores are dropped. -/
def prefixChars (capital : Bool) : List Char → List Char
  | [] => []
  | c :: rest =>
    if c = '_' then prefixChars true rest
    else if c = '.' then '_' :: prefixChars true rest
    else if capital then Text.upperChar c ++ prefixChars false rest
    else c :: prefixChars false rest

/-- The prefix that a package gives. -/
def packagePrefix (package : String) : String :=
  if package = "" then "" else String.ofList (prefixChars true package.toList ++ ['_'])

/-- The prefix of a file's top-level types. -/
def typePrefix (package swiftPrefix : String) : String :=
  if swiftPrefix = "" then packagePrefix package else swiftPrefix

/-- The pieces that the elements of a package that is no string give to the prefix. -/
def prefixPieces (capital : Bool) : List Json → Except Fault (List Json)
  | [] => .ok []
  | e :: rest =>
    if e.same (.str "_") then prefixPieces true rest
    else if e.same (.str ".") then (.str "_" :: ·) <$> prefixPieces true rest
    else if capital then do
      let s ← e.asText .noOperation
      (.str (Text.upper s) :: ·) <$> prefixPieces false rest
    else (e :: ·) <$> prefixPieces false rest

/-- The prefix that a package of any kind gives: its elements count like the characters of a
string. -/
def packagePrefixOf (package : Json) : Except Fault String :=
  match package with
  | .str s => .ok (packagePrefix s)
  | v =>
    if v.truthy then do
      let pieces ← prefixPieces true (← v.elements)
      let texts ← pieces.mapM (·.asText .wrongType)
      return String.join texts ++ "_"
    else .ok ""

/-- The prefix of a file's top-level types, which is of any kind if the file asks for one. -/
def typePrefixOf (package swiftPrefix : Json) : Except Fault Json :=
  if swiftPrefix.truthy then .ok swiftPrefix else Json.str <$> packagePrefixOf package

end SchemaToSwift.Swift
