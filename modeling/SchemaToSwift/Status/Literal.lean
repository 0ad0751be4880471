import SchemaToSwift.Status.Literal.Token
import SchemaToSwift.Text.Point
import SchemaToSwift.Text.Run

/-!
# Literals

The arguments of a handler in a status line are a literal: a number, a quoted text, one of a few
words, or a tuple, a set or a table of literals. `isLiteral` recognises them: the text is cut into
tokens, and the tokens have to make up one literal, or several between commas. There is room for
nesting only up to a depth that depends on where in its brackets each literal stands.
-/

namespace SchemaToSwift.Status

namespace Literal

/-- What a literal is, as far as it decides where it may stand. -/
inductive Shape
  | number (kind : NumberKind)
  /-- A number with a sign before it. -/
  | signed (kind : NumberKind)
  | fixed
  /-- A set or a table, which no set and no table can look up. -/
  | changeable
  /-- The word that makes an empty set when it is called, and no literal by itself. -/
  | setWord
deriving Repr, DecidableEq

/-- The words that are literals. -/
def fixedWords : List String := ["True", "False", "None", "..."]

/-- The letters that are read as a letter of the word for a set. -/
def lettersRead : List (Char × List Text.Run) := [
  ('s', [⟨383, 383, 1⟩, ⟨738, 738, 1⟩, ⟨8347, 8347, 1⟩, ⟨65363, 65363, 1⟩,
    ⟨119852, 120476, 52⟩]),
  ('e', [⟨7497, 7497, 1⟩, ⟨8337, 8337, 1⟩, ⟨8495, 8495, 1⟩, ⟨8519, 8519, 1⟩, ⟨65349, 65349, 1⟩,
    ⟨119838, 119942, 52⟩, ⟨120046, 120462, 52⟩]),
  ('t', [⟨7511, 7511, 1⟩, ⟨8348, 8348, 1⟩, ⟨65364, 65364, 1⟩, ⟨119853, 120477, 52⟩])]

/-- Whether a letter is read as another. -/
def isReadAs (c letter : Char) : Bool :=
  c == letter || ((lettersRead.lookup letter).getD []).any (·.contains c.toNat)

/-- Whether a word is read as the word for a set. -/
def isSetWord (name : String) : Bool :=
  match name.toList with
  | [a, b, c] => isReadAs a 's' && isReadAs b 'e' && isReadAs c 't'
  | _ => false

/-- A sum of a real and an imaginary number. The real one has to come near a number of binary64. -/
def sum? : Shape → Shape → Option Shape
  | .number kind, .number .imaginary | .signed kind, .number .imaginary =>
    match kind with
    | .whole true | .real => some .fixed
    | _ => none
  | _, _ => none

/-- The shape of what holds a literal among others. -/
def holding? : Shape → Option Shape
  | .setWord => none
  | .changeable => some .changeable
  | _ => some .fixed

/-- The tokens after quoted texts that go on the one before them, all of the same kind. -/
def moreQuoted (bytes : Bool) : List Token → Option (List Token)
  | .quoted b :: rest => if b = bytes then moreQuoted bytes rest else none
  | rest => some rest

/-- What literals between commas stand in. -/
inductive Brackets
  | absent | round | curly
deriving Repr, DecidableEq

/-- The room that nesting takes from the place with the given number between brackets. A place after
a comma takes it even if nothing stands there. -/
def Brackets.place : Brackets → Nat → Nat
  | .absent, 0 => 0
  | .absent, _ => 2
  | .round, 0 => 28
  | .round, 1 => 30
  | .round, _ => 31
  | .curly, 0 => 29
  | .curly, _ => 30

/-- The room that a sign takes. -/
def signRoom : Nat := 1

/-- The room that a quoted text takes. -/
def quotedRoom : Nat := 2

/-- The room that the call of a set takes. -/
def callRoom : Nat := 24

/-- The room for nesting in a whole literal. -/
def wholeRoom : Nat := 5975

/-- What is left of the room after some of it is taken. -/
def take? (room taken : Nat) : Option Nat := if taken ≤ room then some (room - taken) else none

mutual

/-- A literal without a sum in it. -/
def atom : Nat → Nat → List Token → Option (Shape × List Token)
  | 0, _, _ => none
  | fuel + 1, room, ts => do
    let (shape, rest) ← match ts with
      | .number kind :: rest => some (Shape.number kind, rest)
      | .quoted b :: rest => do
        discard <| take? room quotedRoom
        (moreQuoted b rest).map (Shape.fixed, ·)
      | .word w :: rest =>
        if isSetWord w then some (Shape.setWord, rest)
        else if fixedWords.contains w then some (Shape.fixed, rest)
        else none
      | .sign '(' :: .sign ')' :: rest => do
        discard <| take? room (Brackets.round.place 0)
        some (Shape.fixed, rest)
      | .sign '(' :: rest => do
        let (shape, rest) ← list fuel .round 0 room rest
        match rest with
        | .sign ')' :: rest => some (shape, rest)
        | _ => none
      | .sign '\x7b' :: .sign '\x7d' :: rest => do
        discard <| take? room (Brackets.curly.place 0)
        some (Shape.changeable, rest)
      | .sign '\x7b' :: rest => do
        let rest ← entries fuel none 0 room rest
        some (Shape.changeable, rest)
      | _ => none
    match shape, rest with
    | .setWord, .sign '(' :: .sign ')' :: rest => do
      discard <| take? room callRoom
      some (.changeable, rest)
    | _, _ => some (shape, rest)

/-- A literal. -/
def literal : Nat → Nat → List Token → Option (Shape × List Token)
  | 0, _, _ => none
  | fuel + 1, room, ts => do
    let (left, rest) ← match ts with
      | .sign s :: rest =>
        if s == '+' || s == '-' then do
          match ← atom fuel (← take? room signRoom) rest with
          | (.number kind, rest) => some (Shape.signed kind, rest)
          | _ => none
        else atom fuel room ts
      | _ => atom fuel room ts
    match rest with
    | .sign s :: rest =>
      if s == '+' || s == '-' then do
        let (right, rest) ← atom fuel room rest
        let shape ← sum? left right
        some (shape, rest)
      else some (left, .sign s :: rest)
    | _ => some (left, rest)

/-- One literal, or a tuple of literals with commas between them, from the place with the given
number on. -/
def list : Nat → Brackets → Nat → Nat → List Token → Option (Shape × List Token)
  | 0, _, _, _, _ => none
  | fuel + 1, brackets, n, room, ts => do
    let (first, rest) ← literal fuel (← take? room (brackets.place n)) ts
    match rest with
    | .sign ',' :: rest => do
      discard <| take? room (brackets.place (n + 1))
      let shape ← holding? first
      match rest with
      | [] | .sign ')' :: _ => some (shape, rest)
      | _ => do
        let (others, rest) ← list fuel brackets (n + 1) room rest
        some (if (← holding? others) = .changeable then .changeable else shape, rest)
    | _ => some (first, rest)

/-- The entries of a set or of a table up to its end, from the place with the given number on: in a
table, each has a value after a colon. -/
def entries : Nat → Option Bool → Nat → Nat → List Token → Option (List Token)
  | 0, _, _, _, _ => none
  | fuel + 1, isTable, n, room, ts => do
    let inner ← take? room (Brackets.curly.place n)
    let (key, rest) ← literal fuel inner ts
    if (← holding? key) = .changeable then none
    let (hasValue, rest) ← match rest with
      | .sign ':' :: rest => do
        let (value, rest) ← literal fuel inner rest
        discard <| holding? value
        some (true, rest)
      | rest => some (false, rest)
    if isTable.any (· != hasValue) then none
    match rest with
    | .sign '\x7d' :: rest => some rest
    | .sign ',' :: rest => do
      discard <| take? room (Brackets.curly.place (n + 1))
      match rest with
      | .sign '\x7d' :: rest => some rest
      | rest => entries fuel (some hasValue) (n + 1) room rest
    | _ => none

end

/-- Whether tokens make up a literal, or several between commas. -/
def areLiteral (ts : List Token) : Bool :=
  match list (4 * ts.length + 4) .absent 0 wholeRoom ts with
  | some (shape, []) => (holding? shape).isSome
  | _ => false

end Literal

/-- Whether a text is a literal, or several between commas. -/
def isLiteral (s : String) : Bool :=
  !Text.hasHalf s && !s.toList.contains '\x00' && (Literal.tokensOf? s).any Literal.areLiteral

end SchemaToSwift.Status
