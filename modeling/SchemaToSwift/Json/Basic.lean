import SchemaToSwift.Fault
import SchemaToSwift.Number.Double
import SchemaToSwift.Text.Point

/-!
# JSON values

`Json` is a JSON document. Integers are unbounded and kept apart from the numbers written with a
fraction or an exponent, and the members of an object keep their order, each name once. The
operations are those that decoding and generation use: what is empty, what can be a key, which
values are the same, and what the elements of a value are.
-/

namespace SchemaToSwift

/-- A JSON value. -/
inductive Json
  | null
  | bool (b : Bool)
  | int (n : Int)
  | double (d : Double)
  | str (s : String)
  | arr (items : List Json)
  | obj (members : List (String × Json))
deriving Repr, Inhabited

namespace Json

/-- The value of a member. -/
def lookup? (name : String) (members : List (String × Json)) : Option Json := members.lookup name

/-- The members with one more; a name that is there already keeps its place and gets the value. -/
def insert (name : String) (value : Json) : List (String × Json) → List (String × Json)
  | [] => [(name, value)]
  | (n, v) :: rest => if n = name then (n, value) :: rest else (n, v) :: insert name value rest

/-- The object of a list of members, in which the last value of a name counts and stands in the
place of the first. -/
def ofMembers (members : List (String × Json)) : List (String × Json) :=
  members.foldl (fun acc m => insert m.1 m.2 acc) []

/-- Whether a value counts as present: not null, false, zero or empty. -/
def truthy : Json → Bool
  | .null => false
  | .bool b => b
  | .int n => n != 0
  | .double d => !d.isZero
  | .str s => s != ""
  | .arr items => !items.isEmpty
  | .obj members => !members.isEmpty

/-- Whether a value can be the key of a table; arrays and objects cannot. -/
def isKey : Json → Bool
  | .arr _ | .obj _ => false
  | _ => true

/-- The value if it can be a key. -/
def asKey (v : Json) : Except Fault Json := if v.isKey then .ok v else .error .wrongType

/-- The text of a string, and the given fault for anything else. -/
def asText (fault : Fault) : Json → Except Fault String
  | .str s => .ok s
  | _ => .error fault

/-- The elements that a value gives one after the other: those of an array, the code points of a
string, the names of an object. -/
def elements : Json → Except Fault (List Json)
  | .arr items => .ok items
  | .str s => .ok ((Text.points s.toList).map fun p => .str (String.ofList p.chars))
  | .obj members => .ok (members.map (.str ·.1))
  | _ => .error .wrongType

/-- The integer that a truth value or a number is equal to. -/
def integral? : Json → Option Int
  | .bool b => some (if b then 1 else 0)
  | .int n => some n
  | .double d => d.toInt?
  | _ => none

mutual

/-- Whether two values are the same: numbers by value, truth values as one and zero, objects
without regard to the order of their members. A NaN is the same as a NaN. -/
def same : Json → Json → Bool
  | .null, .null => true
  | .str a, .str b => a == b
  | .arr xs, .arr ys => sameItems xs ys
  | .obj ms, .obj ns => ms.length == ns.length && sameMembers ms ns
  | .double .nan, .double .nan => true
  | .double (.infinite a), .double (.infinite b) => a == b
  | a, b =>
    match a.integral?, b.integral? with
    | some m, some n => m == n
    | none, none =>
      match a, b with
      | .double d, .double e => d == e
      | _, _ => false
    | _, _ => false

/-- Whether two lists hold the same values in the same order. -/
def sameItems : List Json → List Json → Bool
  | [], [] => true
  | x :: xs, y :: ys => same x y && sameItems xs ys
  | _, _ => false

/-- Whether each of the first members has the same value among the second ones. -/
def sameMembers : List (String × Json) → List (String × Json) → Bool
  | [], _ => true
  | (name, v) :: ms, ns =>
    (match ns.lookup name with
      | some w => same v w
      | none => false) && sameMembers ms ns

end

/-- Whether a value is a NaN. -/
def isNan : Json → Bool
  | .double .nan => true
  | _ => false

/-- Whether two values are equal: the same, and not a NaN, which is equal to nothing. -/
def equal (a b : Json) : Bool := !a.isNan && same a b

/-- The number that a truth value or a number is, rounded to a finite one if it is a large
integer. -/
def number? : Json → Option Double
  | .bool b => some (.ofInt (if b then 1 else 0))
  | .int n => some (.clamped n)
  | .double d => some d
  | _ => none

/-- The order of numbers by value and of strings by code points; other pairs are not ordered. -/
def less? : Json → Json → Option Bool
  | .str a, .str b => some (Text.before a b)
  | a, b =>
    match a.integral?, b.integral? with
    | some m, some n => some (m < n)
    | _, _ => do return (← a.number?).lt (← b.number?)

/-- The number that a truth value or a number is, which a large integer is too far out for. -/
def asDouble : Json → Except Fault Double
  | .bool b => .ok (.ofInt (if b then 1 else 0))
  | .int n =>
    match Double.ofInt n with
    | .infinite _ => .error .tooLarge
    | d => .ok d
  | .double d => .ok d
  | _ => .error .wrongType

/-- The sum of two truth values or numbers, an integer unless one of them has a fraction part. -/
def plus (a b : Json) : Except Fault Json :=
  let whole? : Json → Option Int
    | .bool b => some (if b then 1 else 0)
    | .int n => some n
    | _ => none
  match whole? a, whole? b with
  | some m, some n => .ok (.int (m + n))
  | _, _ => do
    if a.number?.isNone || b.number?.isNone then throw .wrongType
    return .double ((← a.asDouble).add (← b.asDouble))

/-- Whether a value is below another; values that are not ordered cannot be compared. -/
def less (a b : Json) : Except Fault Bool :=
  match a.less? b with
  | some below => .ok below
  | none => .error .wrongType

mutual

/-- The depth of nesting; a value that holds no others has depth one. -/
def depth : Json → Nat
  | .arr items => depthItems items + 1
  | .obj members => depthMembers members + 1
  | _ => 1

/-- The greatest depth of the items of an array. -/
def depthItems : List Json → Nat
  | [] => 0
  | v :: vs => max (depth v) (depthItems vs)

/-- The greatest depth of the members of an object. -/
def depthMembers : List (String × Json) → Nat
  | [] => 0
  | (_, v) :: ms => max (depth v) (depthMembers ms)

end

@[simp] theorem asText_str (fault : Fault) (s : String) : asText fault (.str s) = .ok s := rfl

/-- Texts are the same if they are equal. -/
@[simp] theorem same_str (a b : String) : same (.str a) (.str b) = (a == b) := by
  simp [same]

@[simp] theorem truthy_str (s : String) : truthy (.str s) = (s != "") := rfl

end Json

end SchemaToSwift
