import SchemaToSwift.Json.Basic

/-!
# Reading JSON

`Json.parse` reads one JSON document. It admits the words `NaN`, `Infinity` and `-Infinity` and
blanks around every token; a byte order mark, a control character in a string and anything after the
document are malformed. An integer numeral may have at most `maxDigits` digits, and arrays and
objects may be nested `maxDepth` deep.
-/

namespace SchemaToSwift.Json

/-- Why a text is no document. -/
inductive ParseError
  | malformed
  /-- An integer numeral is too long. -/
  | tooManyDigits
  | tooDeep
deriving Repr, DecidableEq

namespace Parser

/-- The greatest number of digits of an integer. -/
def maxDigits : Nat := 4300

/-- How deep arrays and objects may be nested. -/
def maxDepth : Nat := 988

/-- What was read, and the input after it. -/
abbrev Taken (α : Type) := α × List Char

/-- The input after the blanks at its start. -/
def skipBlanks (cs : List Char) : List Char :=
  cs.dropWhile fun c => c == ' ' || c == '\t' || c == '\n' || c == '\r'

/-- The value of a hexadecimal digit. -/
def hexValue? (c : Char) : Option Nat :=
  if c.isDigit then some (c.toNat - 48)
  else if 'a' ≤ c ∧ c ≤ 'f' then some (c.toNat - 87)
  else if 'A' ≤ c ∧ c ≤ 'F' then some (c.toNat - 55)
  else none

/-- The number of four hexadecimal digits at the start of the input. -/
def hex4? : List Char → Option (Nat × List Char)
  | a :: b :: c :: d :: rest => do
    let a ← hexValue? a
    let b ← hexValue? b
    let c ← hexValue? c
    let d ← hexValue? d
    return (((a * 16 + b) * 16 + c) * 16 + d, rest)
  | _ => none

/-- The character of a one-letter escape. -/
def escaped? (c : Char) : Option Char :=
  match c with
  | '"' => some '"'
  | '\\' => some '\\'
  | '/' => some '/'
  | 'b' => some '\x08'
  | 'f' => some '\x0c'
  | 'n' => some '\n'
  | 'r' => some '\r'
  | 't' => some '\t'
  | _ => none

/-- The code point of a code unit, joined with the low surrogate that follows a high one. -/
def unitPoint (unit : Nat) (rest : List Char) : Text.Point × List Char :=
  let alone := (Text.Point.ofUnit unit, rest)
  if 0xd800 ≤ unit ∧ unit < 0xdc00 then
    match rest with
    | '\\' :: 'u' :: after =>
      match hex4? after with
      | some (low, after) =>
        if 0xdc00 ≤ low ∧ low < 0xe000 then
          (.char (Char.ofNat (0x10000 + (unit - 0xd800) * 1024 + (low - 0xdc00))), after)
        else alone
      | none => alone
    | _ => alone
  else alone

/-- The rest of a string after its opening quote; `done` holds what was read, in reverse. The fuel
bounds the number of characters and escapes. -/
def stringRest : Nat → List Char → List Char → Except ParseError (Taken String)
  | 0, _, _ | _, _, [] => .error .malformed
  | fuel + 1, done, c :: rest =>
    if c == '"' then .ok (String.ofList done.reverse, rest)
    else if c == '\\' then
      match rest with
      | 'u' :: after =>
        match hex4? after with
        | some (unit, after) =>
          let (p, after) := unitPoint unit after
          stringRest fuel (p.chars.reverse ++ done) after
        | none => .error .malformed
      | e :: after =>
        match escaped? e with
        | some d => stringRest fuel (d :: done) after
        | none => .error .malformed
      | [] => .error .malformed
    else if c.toNat < 32 then .error .malformed
    else stringRest fuel (c :: done) rest

/-- The number that decimal digits denote. -/
def digitsValue (cs : List Char) : Nat := cs.foldl (fun n c => 10 * n + (c.toNat - 48)) 0

/-- The digits of a fraction after the point, if there are any. -/
def fraction (cs : List Char) : List Char × List Char :=
  match cs with
  | '.' :: rest =>
    match rest.span Char.isDigit with
    | ([], _) => ([], cs)
    | (ds, after) => (ds, after)
  | _ => ([], cs)

/-- The exponent after its letter, if it has digits. -/
def exponent? (cs : List Char) : Option (Int × List Char) :=
  match cs with
  | e :: rest =>
    if e == 'e' || e == 'E' then
      let (negative, rest) := match rest with
        | '-' :: rest => (true, rest)
        | '+' :: rest => (false, rest)
        | rest => (false, rest)
      match rest.span Char.isDigit with
      | ([], _) => none
      | (ds, after) =>
        let n : Int := digitsValue ds
        some (if negative then -n else n, after)
    else none
  | [] => none

/-- A number whose sign has been read: an integer, unless a fraction or an exponent follows. -/
def number (negative : Bool) (cs : List Char) : Except ParseError (Taken Json) :=
  let (whole, rest) := match cs with
    | '0' :: rest => (['0'], rest)
    | _ => cs.span Char.isDigit
  if whole.isEmpty then .error .malformed
  else
    let (places, rest) := fraction rest
    match exponent? rest with
    | some (e, rest) =>
      .ok (.double (.ofDecimal negative (digitsValue (whole ++ places)) (e - places.length)), rest)
    | none =>
      if !places.isEmpty then
        .ok (.double (.ofDecimal negative (digitsValue (whole ++ places)) (-places.length)), rest)
      else if maxDigits < whole.length then .error .tooManyDigits
      else
        let n : Int := digitsValue whole
        .ok (.int (if negative then -n else n), rest)

/-- The input after a word. -/
def word? (w : List Char) (cs : List Char) : Option (List Char) :=
  if w.isPrefixOf cs then some (cs.drop w.length) else none

/-- A value that is neither a string nor a container. -/
def scalar (cs : List Char) : Except ParseError (Taken Json) :=
  let words : List (List Char × Json) :=
    [("null".toList, .null), ("true".toList, .bool true), ("false".toList, .bool false),
      ("NaN".toList, .double .nan), ("Infinity".toList, .double (.infinite false)),
      ("-Infinity".toList, .double (.infinite true))]
  match words.findSome? fun (w, v) => (word? w cs).map fun rest => (v, rest) with
  | some reading => .ok reading
  | none =>
    match cs with
    | '-' :: rest => number true rest
    | _ => number false cs

mutual

/-- A value at the start of the input, nested at most `depth` deep. The fuel bounds the nesting of
calls; it is enough if it is more than twice the length of the input, as every other call takes a
character. -/
def value : Nat → Nat → List Char → Except ParseError (Taken Json)
  | 0, _, _ => .error .malformed
  | fuel + 1, depth, cs =>
    match cs with
    | '"' :: rest => do
      let (s, rest) ← stringRest fuel [] rest
      return (.str s, rest)
    | '[' :: rest =>
      if depth = 0 then .error .tooDeep
      else match skipBlanks rest with
        | ']' :: rest => .ok (.arr [], rest)
        | rest => do
          let (items, rest) ← items fuel (depth - 1) rest
          return (.arr items, rest)
    | '{' :: rest =>
      if depth = 0 then .error .tooDeep
      else match skipBlanks rest with
        | '}' :: rest => .ok (.obj [], rest)
        | rest => do
          let (ms, rest) ← members fuel (depth - 1) rest
          return (.obj (ofMembers ms), rest)
    | _ => scalar cs

/-- The items of an array up to its end. -/
def items : Nat → Nat → List Char → Except ParseError (Taken (List Json))
  | 0, _, _ => .error .malformed
  | fuel + 1, depth, cs => do
    let (v, rest) ← value fuel depth cs
    match skipBlanks rest with
    | ']' :: rest => return ([v], rest)
    | ',' :: rest =>
      let (vs, rest) ← items fuel depth (skipBlanks rest)
      return (v :: vs, rest)
    | _ => .error .malformed

/-- The members of an object up to its end. -/
def members : Nat → Nat → List Char → Except ParseError (Taken (List (String × Json)))
  | 0, _, _ => .error .malformed
  | fuel + 1, depth, cs =>
    match cs with
    | '"' :: rest => do
      let (name, rest) ← stringRest fuel [] rest
      match skipBlanks rest with
      | ':' :: rest =>
        let (v, rest) ← value fuel depth (skipBlanks rest)
        match skipBlanks rest with
        | '}' :: rest => return ([(name, v)], rest)
        | ',' :: rest =>
          let (ms, rest) ← members fuel depth (skipBlanks rest)
          return ((name, v) :: ms, rest)
        | _ => .error .malformed
      | _ => .error .malformed
    | _ => .error .malformed

end

end Parser

/-- What becomes of a text that is no document: it is malformed, or a fault that escapes. -/
def ParseError.failure {ε : Type} (badJson : ε) : ParseError → Failure ε
  | .malformed => .reported badJson
  | .tooManyDigits => .escaped .badValue
  | .tooDeep => .escaped .tooDeep

/-- The document that a text is. -/
def parse (s : String) : Except ParseError Json := do
  let cs := Parser.skipBlanks s.toList
  let (v, rest) ← Parser.value (2 * cs.length + 2) Parser.maxDepth cs
  if (Parser.skipBlanks rest).isEmpty then return v else .error .malformed

end SchemaToSwift.Json
