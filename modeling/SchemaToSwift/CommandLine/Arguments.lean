import SchemaToSwift.Settings.Load
import SchemaToSwift.Text.Digit

/-!
# Command line arguments

The command takes one descriptor set and options. A long option may be shortened as long as it is
clear which one is meant, its value may follow after an equals sign, and one-letter options may be
joined. After a double dash nothing is an option. Reading goes in two steps: every argument is first
classified on its own, and then the classified arguments are consumed in order.
-/

namespace SchemaToSwift.CommandLine

/-- The options of the command. -/
inductive Opt
  | help | outputDir | stdout | version | config | parameter | moduleMappings | fileNaming
  | visibility | lite | saveConfig | verbose | logFile
deriving Repr, DecidableEq

namespace Opt

/-- The ways to write the options. -/
def spellings : List (String × Opt) := [
  ("-h", help), ("--help", help), ("--output-dir", outputDir), ("-o", outputDir),
  ("--stdout", stdout), ("--version", version), ("--config", config), ("--parameter", parameter),
  ("--module-mappings", moduleMappings), ("--file-naming", fileNaming),
  ("--visibility", visibility), ("--lite", lite), ("--save-config", saveConfig),
  ("--verbose", verbose), ("-v", verbose), ("--log-file", logFile)]

/-- Whether an option takes a value. -/
def takesValue : Opt → Bool
  | help | stdout | version | lite | verbose => false
  | _ => true

/-- The values that an option takes, if it does not take any. -/
def choices? : Opt → Option (List String)
  | fileNaming => some (Choice.naming.names.map (·.2))
  | visibility => some (Choice.access.names.map (·.2))
  | _ => none

end Opt

/-- What an option that takes a value was given. -/
inductive Given (α : Type)
  /-- The option does not occur. -/
  | nothing
  /-- A double dash stands in the place of the value, which there is none of. -/
  | blank
  | value (a : α)
deriving Repr, DecidableEq

namespace Given

variable {α β : Type}

/-- The value, if there is one. -/
def value? : Given α → Option α
  | value a => some a
  | nothing | blank => none

/-- The value in another form. -/
def map (f : α → β) : Given α → Given β
  | nothing => nothing
  | blank => blank
  | value a => value (f a)

end Given

/-- What the arguments say. -/
structure Arguments where
  descriptorSet : Option String
  outputDir : Given String
  stdout : Bool
  config : Given String
  parameter : Given String
  moduleMappings : Given String
  fileNaming : Given String
  visibility : Given String
  lite : Bool
  saveConfig : Given FilePath
  verbose : Bool
  logFile : Given FilePath
deriving Repr

/-- What the arguments say when there are none. -/
def Arguments.initial : Arguments where
  descriptorSet := none
  outputDir := .value "."
  stdout := false
  config := .nothing
  parameter := .nothing
  moduleMappings := .nothing
  fileNaming := .nothing
  visibility := .nothing
  lite := false
  saveConfig := .nothing
  verbose := false
  logFile := .nothing

/-- Why the command ends before it starts. -/
inductive Stop
  | usage
  | showHelp
  | showVersion
deriving Repr, DecidableEq

/-- What an argument is. -/
inductive Token
  | plain (value : String)
  /-- The double dash after which there are no options. -/
  | separator
  /-- An option, whether it is written with one letter, and the text attached to it: what follows
  an equals sign, or what follows a one-letter option directly. -/
  | option (opt : Opt) (short : Bool) (attached : Option (List Char))
  | unknown
deriving Repr, DecidableEq

/-- A negative number in decimal digits: these are no options. -/
def isNegativeNumber (cs : List Char) : Bool :=
  let isDecimal (c : Char) : Bool := (Text.decimalValue? c).isSome
  match cs with
  | '-' :: rest =>
    let rest := if rest.getLast? == some '\n' then rest.dropLast else rest
    match rest.span isDecimal with
    | (whole, []) => !whole.isEmpty
    | (_, '.' :: places) => !places.isEmpty && places.all isDecimal
    | _ => false
  | _ => false

/-- The options that a long argument can be short for. -/
def abbreviated (arg : List Char) : List Token :=
  let (name, attached) := Text.cut '=' arg
  (Opt.spellings.filter fun (s, _) => name.isPrefixOf s.toList).map fun (_, opt) =>
    .option opt false attached

/-- The options that an argument with one dash can be: its first letter with what follows. -/
def lettered (arg : List Char) : List Token :=
  Opt.spellings.filterMap fun (s, opt) =>
    if s.toList = arg.take 2 then some (.option opt true (some (arg.drop 2))) else none

/-- Whether the option is written with one letter. -/
def isShort (spelling : List Char) : Bool := !(['-', '-'].isPrefixOf spelling)

/-- The kind of an argument that comes before a double dash; an argument that can be short for
several options is refused. -/
def classify (arg : String) : Except Stop Token :=
  match arg.toList with
  | '-' :: next :: rest =>
    let cs := '-' :: next :: rest
    match Opt.spellings.lookup arg with
    | some opt => .ok (.option opt (isShort cs) none)
    | none =>
      let (name, value) := Text.cut '=' cs
      match value, Opt.spellings.lookup (String.ofList name) with
      | some v, some opt => .ok (.option opt (isShort name) (some v))
      | _, _ =>
        match if next = '-' then abbreviated cs else lettered cs with
        | [token] => .ok token
        | _ :: _ :: _ => .error .usage
        | [] =>
          if isNegativeNumber cs || cs.contains ' ' then .ok (.plain arg) else .ok .unknown
  | _ => .ok (.plain arg)

/-- The kinds of the arguments. -/
def tokens : List String → Except Stop (List Token)
  | [] => .ok []
  | "--" :: rest => .ok (.separator :: rest.map .plain)
  | arg :: rest => do
    let token ← classify arg
    return token :: (← tokens rest)

namespace Arguments

/-- What the arguments say after an option without a value. -/
def set (a : Arguments) : Opt → Except Stop Arguments
  | .help => .error .showHelp
  | .version => .error .showVersion
  | .stdout => .ok { a with stdout := true }
  | .lite => .ok { a with lite := true }
  | .verbose => .ok { a with verbose := true }
  | _ => .error .usage

/-- What the arguments say after an option was given something. -/
def put (a : Arguments) (opt : Opt) (given : Given String) : Except Stop Arguments :=
  match opt with
  | .outputDir => .ok { a with outputDir := given }
  | .config => .ok { a with config := given }
  | .parameter => .ok { a with parameter := given }
  | .moduleMappings => .ok { a with moduleMappings := given }
  | .fileNaming => .ok { a with fileNaming := given }
  | .visibility => .ok { a with visibility := given }
  | .saveConfig => .ok { a with saveConfig := given.map .ofText }
  | .logFile => .ok { a with logFile := given.map .ofText }
  | _ => .error .usage

/-- What the arguments say after an option with a value, which has to be one of its choices. A
double dash is no value. -/
def setValue (a : Arguments) (opt : Opt) (value : String) : Except Stop Arguments :=
  if value = "--" then a.put opt .blank
  else if opt.choices?.any fun cs => !cs.contains value then .error .usage
  else a.put opt (.value value)

/-- What joined one-letter options come to: the options without a value, in order, and at the end
perhaps one with a value. -/
structure Cluster where
  flags : List Opt
  /-- An option that takes a value, and the value if it stands in the same argument. -/
  last : Option (Opt × Option (List Char))

/-- The options of an argument that begins with an option and the text attached to it. Only a
one-letter option may have others joined to it. -/
def cluster (opt : Opt) (short : Bool) : Option (List Char) → Except Stop Cluster
  | none => .ok (if opt.takesValue then ⟨[], some (opt, none)⟩ else ⟨[opt], none⟩)
  | some [] => if opt.takesValue then .ok ⟨[], some (opt, some [])⟩ else .error .usage
  | some (c :: rest) =>
    if opt.takesValue then .ok ⟨[], some (opt, some (c :: rest))⟩
    else if !short then .error .usage
    else match Opt.spellings.lookup (String.ofList ['-', c]) with
      | none => .error .usage
      | some next => do
        let k ← match rest with
          | [] => cluster next true none
          | d :: more => cluster next true (some (d :: more))
        return { k with flags := opt :: k.flags }

/-- What has been read of the arguments. -/
structure State where
  args : Arguments
  /-- Whether there was an argument that nothing takes. -/
  extra : Bool

/-- Consumes the arguments in order. A descriptor set takes along a double dash next to it; an
option that needs a value takes the next argument if that is no option. -/
def consume (s : State) : List Token → Except Stop State
  | [] => .ok s
  | .plain value :: rest =>
    if s.args.descriptorSet.isSome then consume { s with extra := true } rest
    else
      let s := { s with args := { s.args with descriptorSet := some value } }
      match rest with
      | .separator :: rest => consume s rest
      | rest => consume s rest
  | .separator :: rest =>
    match s.args.descriptorSet, rest with
    | none, .plain value :: rest =>
      consume { s with args := { s.args with descriptorSet := some value } } rest
    | _, rest => consume { s with extra := true } rest
  | .unknown :: rest => consume { s with extra := true } rest
  | .option opt short attached :: rest => do
    let k ← cluster opt short attached
    match k.last with
    | none => consume { s with args := ← k.flags.foldlM set s.args } rest
    | some (last, some value) =>
      let args ← k.flags.foldlM set s.args
      consume { s with args := ← args.setValue last (String.ofList value) } rest
    | some (last, none) =>
      match rest with
      | .plain value :: rest =>
        let args ← k.flags.foldlM set s.args
        consume { s with args := ← args.setValue last value } rest
      | _ => .error .usage

/-- What the arguments of the command say. There has to be a descriptor set, and nothing more than
the command takes. -/
def parse (argv : List String) : Except Stop Arguments := do
  let s ← consume ⟨Arguments.initial, false⟩ (← tokens argv)
  if s.args.descriptorSet.isNone || s.extra then .error .usage else return s.args

/-- The settings that are overridden by options, in the order of their keys. -/
def overrides (a : Arguments) : List (String × Json) :=
  let given (key : String) (value : Given String) : List (String × Json) :=
    match value.value? with
    | some v => if v = "" then [] else [(key, .str v)]
    | none => []
  given "module_mappings_file" a.moduleMappings ++ given Choice.naming.key a.fileNaming ++
    given Choice.access.key a.visibility ++
    if a.lite then [(Choice.profile.key, .str (Choice.profile.nameOf .lite))] else []

/-- The sources of the settings. -/
def sources (a : Arguments) : Settings.Sources where
  configFile := a.config.value?
  parameter := a.parameter.value?
  overrides := a.overrides

end Arguments

end SchemaToSwift.CommandLine
