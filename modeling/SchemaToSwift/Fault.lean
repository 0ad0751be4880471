/-!
# Faults

A descriptor or a configuration may hold values of the wrong kind. Decoding reports some of them;
the others reach an operation that does not take them, and what comes of that is a `Fault`. A
`Failure` separates the two: an error that the library reports as such, or a fault that escapes it.
-/

namespace SchemaToSwift

/-- What an operation does with a value that it does not take. -/
inductive Fault
  /-- The value is of the wrong kind. -/
  | wrongType
  /-- The value has no such operation. -/
  | noOperation
  /-- A sequence has no such element. -/
  | noElement
  /-- An object has no such member. -/
  | noMember
  /-- The value is of the right kind and makes no sense. -/
  | badValue
  /-- A text is no numeral. -/
  | badNumeral (text : String)
  /-- A number is too large to become an integer. -/
  | tooLarge
  /-- A file is not text in UTF-8. -/
  | badEncoding
  /-- A text holds half of a surrogate pair, which has no bytes. -/
  | unencodable
  /-- A document is nested too deep. -/
  | tooDeep
  /-- A status line closes a tag that is not open, or one that cannot be read. -/
  | badMarkup
  /-- There is no file of that name. -/
  | noFile
  /-- A folder stands where a file is needed. -/
  | isFolder
  /-- A file stands where a folder is needed. -/
  | notFolder
  /-- Something stands already where a folder is to be made. -/
  | fileExists
  /-- The name cannot be the name of a file. -/
  | badName
deriving Repr, DecidableEq, Inhabited

/-- A reported error, or a fault that escapes. -/
inductive Failure (ε : Type)
  | reported (error : ε)
  | escaped (fault : Fault)
deriving Repr, DecidableEq

namespace Failure

variable {ε δ α : Type}

/-- The failure with its reported error in the terms of another layer. -/
def map (f : ε → δ) : Failure ε → Failure δ
  | .reported e => .reported (f e)
  | .escaped fault => .escaped fault

/-- A result whose reported error is put in the terms of another layer. -/
def lift (f : ε → δ) : Except (Failure ε) α → Except (Failure δ) α := Except.mapError (map f)

/-- A result whose faults escape. -/
def escape : Except Fault α → Except (Failure ε) α := Except.mapError .escaped

/-- A result whose errors are all reported. -/
def report : Except ε α → Except (Failure ε) α := Except.mapError .reported

end Failure

end SchemaToSwift
