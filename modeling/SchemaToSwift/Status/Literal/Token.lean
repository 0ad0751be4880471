import SchemaToSwift.Number.Double
import SchemaToSwift.Number.Numeral

/-!
# Tokens of literals

A literal is cut into numbers, quoted texts, words and signs, with blanks and comments between them.
A backslash at the end of a line joins it to the next one. A literal takes one line, or goes on over
several where a bracket is open; before it and after it there may be lines without a token, and the
line that it begins on is not indented.
-/

namespace SchemaToSwift.Status.Literal

/-- What a number is. -/
inductive NumberKind
  /-- An integer, and whether a number of binary64 comes near it. -/
  | whole (fits : Bool)
  | real
  | imaginary
deriving Repr, DecidableEq

/-- A token. -/
inductive Token
  | number (kind : NumberKind)
  /-- A quoted text of characters or of bytes. -/
  | quoted (bytes : Bool)
  | word (name : String)
  | sign (c : Char)
deriving Repr, DecidableEq

/-- A character of a word. Beyond ASCII every one counts, as a number cannot end before it. -/
def isWordChar (c : Char) : Bool := c.isAlphanum || c == '_' || 128 ≤ c.toNat

/-- The input after digits with single underscores between them, if it begins with a digit. -/
def digits? (isDigit : Char → Bool) : List Char → Option (List Char)
  | [] => none
  | [c] => if isDigit c then some [] else none
  | c :: d :: rest =>
    if !isDigit c then none
    else if d == '_' then digits? isDigit rest
    else if isDigit d then digits? isDigit (d :: rest)
    else some (d :: rest)

/-- The input after an exponent, if one begins there. -/
def exponent? : List Char → Option (List Char)
  | e :: rest =>
    if e == 'e' || e == 'E' then
      match rest with
      | '+' :: rest | '-' :: rest => digits? Char.isDigit rest
      | rest => digits? Char.isDigit rest
    else none
  | [] => none

/-- The input after the letter of an imaginary number, and whether it was there. -/
def imaginary : List Char → Bool × List Char
  | 'j' :: rest | 'J' :: rest => (true, rest)
  | rest => (false, rest)

/-- A digit of a base. -/
def isDigitOf (base : Char) (c : Char) : Bool :=
  match base.toLower with
  | 'x' => c.isDigit || ('a' ≤ c.toLower && c.toLower ≤ 'f')
  | 'o' => '0' ≤ c && c ≤ '7'
  | _ => c == '0' || c == '1'

/-- The number of digits of a base. -/
def radix (base : Char) : Nat :=
  match base.toLower with
  | 'x' => 16
  | 'o' => 8
  | _ => 2

/-- The value of a digit. -/
def digitValue (c : Char) : Nat := if c.isDigit then c.toNat - 48 else c.toLower.toNat - 87

/-- The integer that digits with underscores between them denote. -/
def integerOf (radix : Nat) (cs : List Char) : Nat :=
  (cs.filter (· != '_')).foldl (fun n c => radix * n + digitValue c) 0

/-- The kind of an integer. -/
def wholeOf (n : Nat) : NumberKind :=
  .whole (match Double.ofInt n with
    | .infinite _ => false
    | _ => true)

/-- The kind of a decimal integer, which is no numeral if it has a needless zero or too many
digits. -/
def decimal? (cs : List Char) : Option NumberKind :=
  let digits := cs.filter (· != '_')
  match digits with
  | '0' :: _ => if digits.all (· == '0') then some (wholeOf 0) else none
  | _ => if Numeral.maxDigits < digits.length then none else some (wholeOf (integerOf 10 digits))

/-- An integer in another base at the start of the input, and the input after it. -/
def based? : List Char → Option (NumberKind × List Char)
  | '0' :: base :: rest => do
    if !(['x', 'o', 'b'].contains base.toLower) then none
    let start := match rest with
      | '_' :: rest => rest
      | rest => rest
    let after ← digits? (isDigitOf base) start
    some (wholeOf (integerOf (radix base) (start.take (start.length - after.length))), after)
  | _ => none

/-- A number at the start of the input, and the input after it. -/
def number? (cs : List Char) : Option (Token × List Char) := do
  let (kind, rest) ← match based? cs with
    | some found => some found
    | none => do
      let whole := digits? Char.isDigit cs
      let afterWhole := whole.getD cs
      let (point, afterPoint) := match afterWhole with
        | '.' :: rest => (true, (digits? Char.isDigit rest).getD rest)
        | rest => (false, rest)
      if whole.isNone && (digits? Char.isDigit (afterWhole.drop 1)).isNone then none
      let (power, afterPower) := match exponent? afterPoint with
        | some rest => (true, rest)
        | none => (false, afterPoint)
      let (isImaginary, rest) := imaginary afterPower
      if isImaginary then some (NumberKind.imaginary, rest)
      else if point || power then some (NumberKind.real, rest)
      else (decimal? (cs.take (cs.length - rest.length))).map (·, rest)
  if rest.head?.any isWordChar then none else some (.number kind, rest)

/-- Whether the escape of a code point after its backslash is whole. -/
def isEscape (bytes : Bool) (cs : List Char) : Bool :=
  let areHex (n : Nat) (cs : List Char) : Bool :=
    (cs.take n).length == n && (cs.take n).all (isDigitOf 'x')
  match bytes, cs with
  | _, 'x' :: rest => areHex 2 rest
  | false, 'u' :: rest => areHex 4 rest
  | false, 'U' :: '0' :: '0' :: '0' :: rest => areHex 5 rest
  | false, 'U' :: '0' :: '0' :: '1' :: '0' :: rest => areHex 4 rest
  | false, 'U' :: _ | false, 'N' :: _ => false
  | _, _ => true

/-- The input after a quoted text whose opening quotes have been read. -/
def quotedRest (raw bytes : Bool) (quote : Char) (triple : Bool) : List Char → Option (List Char)
  | [] => none
  | '\\' :: c :: rest =>
    if !raw && !isEscape bytes (c :: rest) || bytes && c.toNat ≥ 128 then none
    else quotedRest raw bytes quote triple rest
  | c :: rest =>
    if c == quote then
      if !triple then some rest
      else if rest.take 2 == [quote, quote] then some (rest.drop 2)
      else quotedRest raw bytes quote triple rest
    else if !triple && c == '\n' || bytes && c.toNat ≥ 128 then none
    else quotedRest raw bytes quote triple rest

/-- A quoted text at the start of the input, after the letters that say how to read it. -/
def quoted? (letters : String) (cs : List Char) : Option (Token × List Char) := do
  let letters := letters.toLower
  if !(["", "r", "u", "b", "br", "rb"].contains letters) then none
  let raw := letters.contains 'r'
  let bytes := letters.contains 'b'
  match cs with
  | q :: rest =>
    if q != '"' && q != '\'' then none
    let triple := rest.take 2 == [q, q]
    let rest ← quotedRest raw bytes q triple (if triple then rest.drop 2 else rest)
    some (.quoted bytes, rest)
  | [] => none

/-- A blank between tokens. -/
def isGap (c : Char) : Bool := c == ' ' || c == '\t' || c == '\x0c'

/-- The greatest number of brackets that are open at one time. -/
def maxOpen : Nat := 200

/-- The tokens of the input up to the end of a line where no bracket is open, and the input from
there on. The fuel bounds the number of tokens and blanks. -/
def tokens : Nat → Nat → List Char → Option (List Token × List Char)
  | _, _, [] => some ([], [])
  | 0, _, _ => none
  | fuel + 1, depth, c :: rest =>
    let after (token : Token) (depth : Nat) (rest : List Char) : Option (List Token × List Char) :=
      (tokens fuel depth rest).map fun (more, left) => (token :: more, left)
    if isGap c || c == '\n' && 0 < depth then tokens fuel depth rest
    else if c == '\n' then some ([], c :: rest)
    else if c == '#' then tokens fuel depth (rest.dropWhile (· != '\n'))
    else if c == '\\' then
      match rest with
      | '\n' :: d :: rest => tokens fuel depth (d :: rest)
      | _ => none
    else if ['(', '\x7b'].contains c then
      if depth < maxOpen then after (.sign c) (depth + 1) rest else none
    else if [')', '\x7d'].contains c then after (.sign c) (depth - 1) rest
    else if [',', ':', '+', '-'].contains c then after (.sign c) depth rest
    else match c, rest with
      | '.', '.' :: '.' :: rest => after (.word "...") depth rest
      | _, _ =>
        if c.isDigit || c == '.' then do
          let (token, rest) ← number? (c :: rest)
          after token depth rest
        else do
          let name := String.ofList ((c :: rest).takeWhile isWordChar)
          let left := (c :: rest).dropWhile isWordChar
          match quoted? name left with
          | some (token, rest) => after token depth rest
          | none => if name = "" then none else after (.word name) depth left

/-- The column at which a line begins and the input from there on. Joined lines begin at the column
of the first of them that is indented, and a form feed begins at the first column again. -/
def indentation (joined column : Nat) : List Char → Option (Nat × List Char)
  | ' ' :: rest => indentation joined (column + 1) rest
  | '\t' :: rest => indentation joined (8 * (column / 8 + 1)) rest
  | '\x0c' :: rest => indentation joined 0 rest
  | '\\' :: '\n' :: c :: rest =>
    indentation (if joined = 0 then column else joined) column (c :: rest)
  | '\\' :: _ => none
  | rest => some (if joined = 0 then column else joined, rest)

/-- The input after lines without a token. The line after them is not indented. The fuel bounds the
number of lines. -/
def afterBlankLines : Nat → List Char → Option (List Char)
  | 0, _ => none
  | fuel + 1, cs => do
    let (column, rest) ← indentation 0 0 cs
    let left := match rest with
      | '#' :: more => more.dropWhile (· != '\n')
      | rest => rest
    match left with
    | '\n' :: more => afterBlankLines fuel more
    | [] => some []
    | _ => if column = 0 then some left else none

/-- The input with every kind of line end as a line feed. -/
def lineFeeds : List Char → List Char
  | '\r' :: '\n' :: rest | '\r' :: rest => '\n' :: lineFeeds rest
  | c :: rest => c :: lineFeeds rest
  | [] => []

/-- The tokens of a text, if they stand on one line or in brackets that are open. -/
def tokensOf? (s : String) : Option (List Token) := do
  let cs := lineFeeds s.toList
  let start ← afterBlankLines (cs.length + 1) cs
  let (found, left) ← tokens (start.length + 1) 0 start
  let [] ← afterBlankLines (left.length + 1) left | none
  some found

end SchemaToSwift.Status.Literal
