import SchemaToSwift.Number.Numeral
import SchemaToSwift.Schema.Error
import SchemaToSwift.Text.Case
import SchemaToSwift.Text.Split

/-!
# Schema files from JSON

`Schema.ofJson` builds a schema file from its description. A member that is missing where it is
needed, or a type or label that does not exist, is a problem with a sentence of its own; a value of
the wrong kind is a fault, reported with the name of the file unless it is a number too large to be
an integer, which escapes.
-/

namespace SchemaToSwift.Schema

/-- A step of decoding: it finds a problem, meets a fault, or gives a value. -/
abbrev Decode := Except (Failure SchemaProblem)

namespace Decode

/-- Stops with a fault. -/
def fault {α : Type} (f : Fault) : Decode α := .error (.escaped f)

/-- Stops with a problem. -/
def problem {α : Type} (p : SchemaProblem) : Decode α := .error (.reported p)

/-- The members of an object; nothing else has members to ask for. -/
def membersOf : Json → Decode (List (String × Json))
  | .obj members => return members
  | _ => fault .noOperation

/-- A member, or its default. -/
def memberOr (key : String) (default : Json) (members : List (String × Json)) : Json :=
  (members.lookup key).getD default

/-- A member that has to be there, and the members of the value that holds it. An array or a string
that contains the key has no members all the same. -/
def require (v : Json) (key : String) (place : SchemaPlace) : Decode Json :=
  match v with
  | .obj members =>
    match members.lookup key with
    | some value => return value
    | none => problem (.missing place key)
  | .arr items =>
    if items.any (·.same (.str key)) then fault .wrongType else problem (.missing place key)
  | .str s =>
    if Text.contains s key then fault .wrongType else problem (.missing place key)
  | _ => fault .wrongType

/-- The elements of a member that holds a sequence, none if it is missing. -/
def elementsOf (key : String) (members : List (String × Json)) : Decode (List Json) :=
  Failure.escape (memberOr key (.arr []) members).elements

/-- The integer of a value: a number without its fraction, a truth value or a numeral. -/
def integer : Json → Except Fault Int
  | .bool b => .ok (if b then 1 else 0)
  | .int n => .ok n
  | .double d =>
    match d with
    | .nan => .error .badValue
    | .infinite _ => .error .tooLarge
    | .finite .. => .ok (d.truncate.getD 0)
  | .str s =>
    match Numeral.integer? s with
    | some n => .ok n
    | none => .error (.badNumeral s)
  | _ => .error .wrongType

/-- The type of a name, in any case of letters. -/
def fieldType (v : Json) : Decode FieldType := do
  let name ← Failure.escape (v.asText .noOperation)
  match FieldType.ofName? (Text.lower name) with
  | some t => return t
  | none => problem (.unknownType name)

/-- The label of a name, in any case of letters. -/
def label (v : Json) : Decode Label := do
  let name ← Failure.escape (v.asText .noOperation)
  match Label.ofName? (Text.lower name) with
  | some l => return l
  | none => problem (.unknownLabel name)

/-- A full name without the dots at its start. -/
def typeName (v : Json) : Decode String := do
  let name ← Failure.escape (v.asText .noOperation)
  return Text.dropLeading '.' name

/-- A name inside a scope. -/
def qualify (scope name : Json) : Json :=
  if scope.truthy then .str (scope.display ++ "." ++ name.display) else name

/-- The full name that a declaration gives itself, or else its name inside the scope. -/
def fullName (members : List (String × Json)) (scope name : Json) : Json :=
  let given := memberOr "full_name" .null members
  if given.truthy then given else qualify scope name

/-- The value of an enum. -/
def enumValue (enum : Json) (v : Json) : Decode EnumValue := do
  let name ← require v "name" (.enumValue enum)
  let number ← require v "number" (.enumValue enum)
  return { name, number := ← Failure.escape (integer number) }

/-- An enum declared in a scope. -/
def enumType (scope : Json) (v : Json) : Decode EnumType := do
  let name ← require v "name" .enum
  let members ← membersOf v
  let values ← elementsOf "values" members
  return { name, fullName := fullName members scope name, values := ← values.mapM (enumValue name) }

/-- An extension declared in a scope. -/
def extensionField (scope : Json) (v : Json) : Decode ExtensionField := do
  let name ← require v "name" .extension
  let members ← membersOf v
  let place := SchemaPlace.extensionNamed name
  let number ← Failure.escape (integer (← require v "number" place))
  let type ← fieldType (← require v "type" place)
  let extendee ← typeName (← require v "extendee" place)
  let label ← label (memberOr "label" (.str "optional") members)
  let typeName ← typeName (memberOr "type_name" (.str "") members)
  return { name, fullName := fullName members scope name, number, type, extendee, label, typeName }

/-- A field of a message. -/
def field (message : Json) (v : Json) : Decode Field := do
  let name ← require v "name" (.fieldOf message)
  let members ← membersOf v
  let place := SchemaPlace.field message name
  let number ← Failure.escape (integer (← require v "number" place))
  let type ← fieldType (← require v "type" place)
  let label ← label (memberOr "label" (.str "optional") members)
  let typeName ← typeName (memberOr "type_name" (.str "") members)
  return { name, number, type, label, typeName, jsonName := memberOr "json_name" (.str "") members }

/-- A message declared in a scope. The fuel bounds the depth of nesting. -/
def messageType : Nat → Json → Json → Decode MessageType
  | 0, _, _ => fault .badValue
  | fuel + 1, scope, v => do
    let name ← require v "name" .message
    let members ← membersOf v
    let full := fullName members scope name
    let fields ← (← elementsOf "fields" members).mapM (field name)
    let messages ← (← elementsOf "messages" members).mapM (messageType fuel full)
    let enums ← (← elementsOf "enums" members).mapM (enumType full)
    let extensions ← (← elementsOf "extensions" members).mapM (extensionField full)
    return { name, fullName := full, fields, messages, enums, extensions }

/-- A dependency: a name, or an object with one. The fuel bounds the depth of nesting. -/
def dependency : Nat → Json → Decode Dependency
  | 0, _ => fault .badValue
  | _ + 1, .str name => return { name := .str name, isPublic := false, reexports := [] }
  | fuel + 1, v => do
    let name ← require v "name" .dependency
    let members ← membersOf v
    let reexports ← (← elementsOf "public_dependencies" members).mapM (dependency fuel)
    return { name, isPublic := (memberOr "public" (.bool false) members).truthy, reexports }

/-- The comments at a path. -/
def placedComments (v : Json) : Decode (List Json × Comments) := do
  match v with
  | .obj members =>
    match members.lookup "path" with
    | none => fault .noMember
    | some path =>
      let path ← Failure.escape path.elements
      let detached ← elementsOf "leading_detached_comments" members
      discard <| Failure.escape (path.mapM Json.asKey)
      return (path, {
        leading := memberOr "leading_comments" (.str "") members
        trailing := memberOr "trailing_comments" (.str "") members
        detached })
  | _ => fault .wrongType

/-- The comments with those at one more path; a path that is there already gets the new ones. -/
def putComments (entry : List Json × Comments) :
    List (List Json × Comments) → List (List Json × Comments)
  | [] => [entry]
  | e :: rest =>
    if Json.sameItems e.1 entry.1 then (e.1, entry.2) :: rest else e :: putComments entry rest

end Decode

open Decode in
/-- The schema file of a description with the given name. -/
def ofMembers (name : String) (members : List (String × Json)) (fuel : Nat) : Decode Schema := do
  let package := memberOr "package" (.str "") members
  let options := memberOr "options" .null members
  let options ← if options.truthy then membersOf options else pure []
  let enums ← (← elementsOf "enums" members).mapM (enumType package)
  let messages ← (← elementsOf "messages" members).mapM (messageType fuel package)
  let extensions ← (← elementsOf "extensions" members).mapM (extensionField package)
  let dependencies ← (← elementsOf "dependencies" members).mapM (dependency fuel)
  let places ← (← elementsOf "source_locations" members).mapM placedComments
  return {
    name, package
    dialect := memberOr "syntax" (.str "proto3") members
    edition := memberOr "edition" (.str "") members
    swiftPrefix := memberOr "swift_prefix" (.str "") options
    enums, messages, extensions, dependencies
    comments := places.foldl (fun acc e => putComments e acc) [] }

/-- The schema file of a description. -/
def ofJson (v : Json) : Except (Failure SchemaError) Schema :=
  match v with
  | .obj members =>
    match members.lookup "name" with
    | some (.str name) =>
      if name = "" then .error (.reported .nameless)
      else match ofMembers name members v.depth with
        | .ok file => .ok file
        | .error (.reported p) => .error (.reported (.problem name p))
        | .error (.escaped .tooLarge) => .error (.escaped .tooLarge)
        | .error (.escaped fault) => .error (.reported (.malformed name fault))
    | _ => .error (.reported .nameless)
  | _ => .error (.reported .notObject)

end SchemaToSwift.Schema
