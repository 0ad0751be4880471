import SchemaToSwift.Proofs.FileTree
import SchemaToSwift.Proofs.Settings.ModuleFile
import SchemaToSwift.Proofs.Settings.Parameter

/-!
# What escapes from reading settings

Reading the pairs of a configuration, and all sources of settings, lets a fault escape where it
escapes from a file (`SettingsFile.Escapes`, `ModuleMap.Escapes`) or a value is of the wrong kind
where a path or a sequence is needed (`PairEscapes`). Everything that comes before is read without
an error, as the first error decides (`Escapes`, `Sources.Escapes`). The base that a configuration
changes has no part in it, and of a parameter string nothing but the file of modules that it names
(`escapes_of_parameter`). Everything else is settled (`load_escapes`).
-/

namespace SchemaToSwift

/-! ## Pairs of a configuration -/

/-- A value that names no choice is reported. -/
theorem Choice.read_ne_escaped {α : Type} [DecidableEq α] (c : Choice α) (value : Json)
    (f : Fault) : c.read value ≠ .error (.escaped f) := by
  unfold Choice.read
  split
  · exact nofun
  · exact nofun

namespace Settings

/-- What escapes from reading a pair of a configuration. -/
inductive PairEscapes (tree : FileTree) : String × Json → Fault → Prop
  | notPath {value : Json} (htruthy : value.truthy = true) (hvalue : ∀ path, value ≠ .str path) :
    PairEscapes tree ("module_mappings_file", value) .wrongType
  | moduleFile {path : String} {f : Fault} (hpath : path ≠ "") (h : ModuleMap.Escapes tree path f) :
    PairEscapes tree ("module_mappings_file", .str path) f
  | notSequence {value : Json} (h : value.IsAtom) :
    PairEscapes tree ("shorten_type_naming_files", value) .wrongType

/-- What escapes from reading the pairs of a configuration: all pairs before one of them are
read. -/
def Escapes (tree : FileTree) (pairs : List (String × Json)) (f : Fault) : Prop :=
  Result.StopsAt (fun p => readPair tree p.1 p.2) (PairEscapes tree · f) pairs

/-- A fault escapes from reading a pair exactly if it is one of those. -/
theorem readPair_eq_escaped_iff {tree : FileTree} {p : String × Json} {f : Fault} :
    readPair tree p.1 p.2 = .error (.escaped f) ↔ PairEscapes tree p f := by
  constructor
  · obtain ⟨key, value⟩ := p
    intro h
    unfold readPair at h
    dsimp only at h
    split at h
    case h_1 | h_2 | h_3 | h_4 =>
      exact absurd (Result.map_eq_error_iff.1 h) (Choice.read_ne_escaped _ value f)
    case h_5 => split at h <;> cases h
    case h_6 =>
      split at h
      · cases h
      · next htruthy =>
        rw [Bool.not_eq_true', Bool.not_eq_false] at htruthy
        split at h
        · next path =>
          have hpath : path ≠ "" := by simpa using htruthy
          exact .moduleFile hpath (ModuleMap.load_eq_escaped_iff.1 (Result.map_eq_error_iff.1 h))
        · next hvalue =>
          cases h
          exact .notPath htruthy hvalue
    case h_7 =>
      split at h
      · cases h
      · have helements := Failure.escape_eq_escaped_iff.1 (Result.map_eq_error_iff.1 h)
        obtain ⟨rfl, hatom⟩ := Json.elements_eq_error_iff.1 helements
        exact .notSequence hatom
    case h_8 => split at h <;> cases h
    case h_9 => cases h
  · intro h
    cases h with
    | @notPath value htruthy hvalue =>
      cases value with
      | str path => exact absurd rfl (hvalue path)
      | _ => simp [readPair, htruthy]
    | moduleFile hpath h =>
      have hload := ModuleMap.load_eq_escaped_iff.2 h
      simp [readPair, hpath, hload]
    | @notSequence value hatom =>
      have helements := Json.elements_eq_error_iff.2 ⟨rfl, hatom⟩
      cases value with
      | str s => cases hatom
      | _ => simp [readPair, helements, Failure.escape, Except.mapError]

/-- It escapes from reading several pairs exactly if it escapes from one and those before are read.
-/
theorem mapM_readPair_eq_escaped_iff {tree : FileTree} {pairs : List (String × Json)} {f : Fault} :
    (pairs.mapM fun p => readPair tree p.1 p.2) = .error (.escaped f) ↔ Escapes tree pairs f := by
  rw [Result.mapM_eq_error_iff, Escapes]
  simp only [readPair_eq_escaped_iff]

/-- So it does from an update. -/
theorem update_eq_escaped_iff {tree : FileTree} {pairs : List (String × Json)} {base : Settings}
    {f : Fault} : update tree pairs base = .error (.escaped f) ↔ Escapes tree pairs f := by
  rw [update, updateIn_eq rfl]
  exact Result.map_eq_error_iff.trans mapM_readPair_eq_escaped_iff

/-! ## Parameter strings -/

/-- A parameter string itself is read or reported. -/
theorem parameterPairs_ne_escaped (parameter? : Option String) (f : Fault) :
    parameterPairs parameter? ≠ .error (.escaped f) := by
  unfold parameterPairs
  dsimp only
  split
  · exact nofun
  · cases Parameter.parse (parameter?.getD "") <;> exact nofun

/-- The values that a parameter string sets are of the right kind, so nothing escapes from reading
them but what does from the file of modules that one of them names. -/
theorem escapes_of_parameter {parameter? : Option String} {given : List (String × Json)}
    (h : parameterPairs parameter? = .ok given) {p : String × Json} (hp : p ∈ given)
    {tree : FileTree} {f : Fault} (hescapes : PairEscapes tree p f) :
    ∃ path, p = ("module_mappings_file", .str path) ∧ path ≠ "" ∧
      ModuleMap.Escapes tree path f := by
  have hvalue : (∃ s, p.2 = .str s) ∨
      p.1 = "shorten_type_naming_files" ∧ ∃ items, p.2 = .arr items := by
    unfold parameterPairs at h
    dsimp only at h
    split at h
    · cases h
      cases hp
    · cases hparse : Parameter.parse (parameter?.getD "") with
      | error e =>
        rw [hparse] at h
        cases h
      | ok pairs =>
        rw [hparse] at h
        cases h
        exact ((Parameter.parse_sets hparse).2 p hp).2
  cases hescapes with
  | notPath _ hnot =>
    obtain ⟨s, hs⟩ | ⟨hkey, -⟩ := hvalue
    · exact absurd hs (hnot s)
    · simp at hkey
  | moduleFile hpath hfile => exact ⟨_, rfl, hpath, hfile⟩
  | notSequence hatom =>
    obtain ⟨s, rfl⟩ | ⟨-, items, rfl⟩ := hvalue
    all_goals cases hatom

/-! ## All sources -/

/-- All pairs of a configuration are read. -/
def Readable (tree : FileTree) (pairs : List (String × Json)) : Prop :=
  ∀ p ∈ pairs, ∃ u, readPair tree p.1 p.2 = .ok u

/-- What escapes from loading settings: the configuration file, a pair of it, or, where the sources
before it are read, a pair of the parameter string or an override. -/
inductive Sources.Escapes (tree : FileTree) (src : Sources) : Fault → Prop
  | file {path : String} {f : Fault} (hfile : src.configFile = some path) (hpath : path ≠ "")
    (h : SettingsFile.Escapes tree path f) : Escapes tree src f
  | configured {configured : List (String × Json)} {f : Fault}
    (hconfigured : configPairs tree src.configFile = .ok configured)
    (h : Settings.Escapes tree configured f) : Escapes tree src f
  | given {configured given : List (String × Json)} {f : Fault}
    (hconfigured : configPairs tree src.configFile = .ok configured)
    (hread : Readable tree configured) (hgiven : parameterPairs src.parameter = .ok given)
    (h : Settings.Escapes tree given f) : Escapes tree src f
  | overrides {configured given : List (String × Json)} {f : Fault}
    (hconfigured : configPairs tree src.configFile = .ok configured)
    (hread : Readable tree configured) (hgiven : parameterPairs src.parameter = .ok given)
    (hreadGiven : Readable tree given) (h : Settings.Escapes tree src.overrides f) :
    Escapes tree src f

/-- A configuration file that is named lets the faults of its file escape. -/
theorem configPairs_eq_escaped_iff {tree : FileTree} {file? : Option String} {f : Fault} :
    configPairs tree file? = .error (.escaped f) ↔
      ∃ path, file? = some path ∧ path ≠ "" ∧ SettingsFile.Escapes tree path f := by
  unfold configPairs
  dsimp only
  split
  · next hempty =>
    refine iff_of_false nofun ?_
    rintro ⟨path, rfl, hpath, -⟩
    exact hpath hempty
  · next hpath =>
    rw [SettingsFile.readObject_eq_escaped_iff]
    cases file? with
    | none => exact absurd rfl hpath
    | some path => simpa using fun _ => hpath

variable {tree : FileTree} {source : Except (Failure SettingsError) (List (String × Json))}

/-- The readings of a source fail with its own fault, or with that of one of its pairs. -/
theorem readings_eq_escaped_iff {f : Fault} :
    (readings tree source).mapM id = .error (.escaped f) ↔
      source = .error (.escaped f) ∨ ∃ pairs, source = .ok pairs ∧ Escapes tree pairs f := by
  cases source with
  | error e => simp [readings]
  | ok pairs =>
    rw [readings, List.mapM_map]
    simpa using mapM_readPair_eq_escaped_iff

/-- All readings of a source succeed exactly if it has pairs and all of these are read. -/
theorem readings_eq_ok_iff :
    (∃ updates, (readings tree source).mapM id = .ok updates) ↔
      ∃ pairs, source = .ok pairs ∧ Readable tree pairs := by
  constructor
  · rintro ⟨updates, h⟩
    obtain ⟨pairs, rfl, hread⟩ := exists_pairs_of_readings h
    exact ⟨pairs, rfl, fun p hp => Result.ok_of_mem_mapM hread hp⟩
  · rintro ⟨pairs, rfl, hread⟩
    rw [readings, List.mapM_map]
    exact Result.mapM_of_ok hread

/-- A fault escapes from loading exactly if it is one of those of the sources. -/
theorem load_eq_escaped_iff {src : Sources} {f : Fault} :
    load tree src = .error (.escaped f) ↔ src.Escapes tree f := by
  rw [load_eq]
  refine Result.map_eq_error_iff.trans ?_
  rw [Sources.attempts, List.append_assoc]
  simp only [Result.mapM_append_eq_error_iff, readings_eq_escaped_iff, readings_eq_ok_iff,
    configPairs_eq_escaped_iff, parameterPairs_ne_escaped, false_or]
  constructor
  · rintro ((⟨path, hfile, hpath, h⟩ | ⟨configured, hconfigured, h⟩) |
      ⟨⟨configured, hconfigured, hread⟩, ⟨given, hgiven, h⟩ |
        ⟨⟨given, hgiven, hreadGiven⟩, h | ⟨_, ⟨⟩, h⟩⟩⟩)
    · exact .file hfile hpath h
    · exact .configured hconfigured h
    · exact .given hconfigured hread hgiven h
    · cases h
    · exact .overrides hconfigured hread hgiven hreadGiven h
  · intro h
    cases h with
    | file hfile hpath h => exact .inl (.inl ⟨_, hfile, hpath, h⟩)
    | configured hconfigured h => exact .inl (.inr ⟨_, hconfigured, h⟩)
    | given hconfigured hread hgiven h =>
      exact .inr ⟨⟨_, hconfigured, hread⟩, .inl ⟨_, hgiven, h⟩⟩
    | overrides hconfigured hread hgiven hreadGiven h =>
      exact .inr ⟨⟨_, hconfigured, hread⟩, .inr ⟨⟨_, hgiven, hreadGiven⟩, .inr ⟨_, rfl, h⟩⟩⟩

end Settings

/-! ## What escapes -/

/-- The fault of values of the wrong kind, and those of files that cannot be named or hold no
document. -/
def Fault.IsOfSettings : Fault → Prop
  | .wrongType | .badName | .badEncoding | .badValue | .tooDeep => True
  | _ => False

/-- What escapes from reading a file is a fault of settings. -/
theorem SettingsFile.Escapes.isOfSettings {tree : FileTree} {path : String} {f : Fault}
    (h : SettingsFile.Escapes tree path f) : f.IsOfSettings := by
  cases h <;> trivial

/-- So is what escapes from reading a table of modules. -/
theorem ModuleMap.Escapes.isOfSettings {tree : FileTree} {path : String} {f : Fault}
    (h : ModuleMap.Escapes tree path f) : f.IsOfSettings := by
  cases h with
  | file h => exact h.isOfSettings
  | entry => trivial

namespace Settings

variable {tree : FileTree} {f : Fault}

/-- So is what escapes from a pair. -/
theorem PairEscapes.isOfSettings {p : String × Json} (h : PairEscapes tree p f) :
    f.IsOfSettings := by
  cases h with
  | moduleFile _ h => exact h.isOfSettings
  | notPath | notSequence => trivial

/-- So is what escapes from several pairs. -/
theorem Escapes.isOfSettings {pairs : List (String × Json)} (h : Escapes tree pairs f) :
    f.IsOfSettings := by
  obtain ⟨before, p, after, -, -, h⟩ := h
  exact h.isOfSettings

/-- So is what escapes from the sources. -/
theorem Sources.Escapes.isOfSettings {src : Sources} (h : src.Escapes tree f) :
    f.IsOfSettings := by
  cases h with
  | file _ _ h => exact h.isOfSettings
  | configured _ h | given _ _ _ h | overrides _ _ _ _ h => exact h.isOfSettings

/-- A result that lets some faults escape, all of them faults of settings. Otherwise it is a value
or a reported error. -/
structure LetsEscape {α : Type} (r : Except (Failure SettingsError) α) (escapes : Fault → Prop) :
    Prop where
  escaped_iff : ∀ f, r = .error (.escaped f) ↔ escapes f
  isOfSettings : ∀ f, escapes f → f.IsOfSettings
  settled : (∀ f, ¬ escapes f) → (∃ a, r = .ok a) ∨ ∃ e, r = .error (.reported e)

/-- A result of which it is known exactly what escapes lets that escape. -/
theorem letsEscape {α : Type} {r : Except (Failure SettingsError) α} {escapes : Fault → Prop}
    (h : ∀ f, r = .error (.escaped f) ↔ escapes f)
    (hsettings : ∀ f, escapes f → f.IsOfSettings) : LetsEscape r escapes := by
  refine ⟨h, hsettings, fun hnone => ?_⟩
  rcases r with (e | f) | a
  · exact .inr ⟨e, rfl⟩
  · exact absurd ((h f).1 rfl) (hnone f)
  · exact .inl ⟨a, rfl⟩

/-- Whatever stands in the files, and whatever the pairs, the base, the path and the sources are: a
configuration, a table of modules and all sources of settings give a value or an error of settings,
but where something escapes from reading them. Parameter strings let nothing escape but what does
from a file of modules that they name. -/
theorem load_escapes (tree : FileTree) (pairs : List (String × Json)) (base : Settings)
    (path : String) (src : Sources) :
    LetsEscape (update tree pairs base) (Escapes tree pairs) ∧
    LetsEscape (ModuleMap.load tree path) (ModuleMap.Escapes tree path) ∧
    LetsEscape (load tree src) (src.Escapes tree) ∧
    ∀ given, parameterPairs src.parameter = .ok given →
      ∀ p ∈ given, ∀ f, PairEscapes tree p f →
        ∃ named, p = ("module_mappings_file", .str named) ∧ named ≠ "" ∧
          ModuleMap.Escapes tree named f := by
  refine ⟨letsEscape (fun _ => update_eq_escaped_iff) fun _ => Escapes.isOfSettings,
    letsEscape (fun _ => ModuleMap.load_eq_escaped_iff) fun _ => ModuleMap.Escapes.isOfSettings,
    letsEscape (fun _ => load_eq_escaped_iff) fun _ => Sources.Escapes.isOfSettings, ?_⟩
  intro given hgiven p hp f
  exact escapes_of_parameter hgiven hp

/-- A working folder with one file, which is no text. -/
def binaryFile : FileTree := (FileTree.empty []).put [FilePath.nameOf "m.json"] .binary

/-- The file is found under its name. -/
theorem holds_binaryFile : binaryFile.Holds "m.json" .binary := by
  have hentry : binaryFile.entry? [FilePath.nameOf "m.json"] = some .binary := by
    rw [binaryFile, FileTree.entry_put _ (List.cons_ne_nil _ _), if_pos rfl]
  have hleads : FileTree.Leads binaryFile [] ["m.json"] [FilePath.nameOf "m.json"] :=
    .down rfl (by decide) (by decide) (by decide) (congrArg Option.isSome hentry) (.here _)
  exact ⟨_, FileTree.follow_ok_iff.2 hleads, hentry⟩

/-- A parameter string that names the file as a file of modules. -/
def namesBinary : Sources where
  configFile := none
  parameter := some "ProtoPathModuleMappings=m.json"
  overrides := []

/-- The bytes of the file escape from loading it, and a number from a configuration where there
should be a list of patterns. -/
theorem load_escapes_binaryFile :
    ModuleMap.load binaryFile "m.json" = .error (.escaped .badEncoding) ∧
      load binaryFile namesBinary = .error (.escaped .badEncoding) ∧
      update binaryFile [("shorten_type_naming_files", .int 5)] default =
        .error (.escaped .wrongType) := by
  obtain ⟨hupdate, htable, hload, -⟩ := load_escapes binaryFile
    [("shorten_type_naming_files", .int 5)] default "m.json" namesBinary
  have hfile : ModuleMap.Escapes binaryFile "m.json" .badEncoding :=
    .file (.notText holds_binaryFile)
  have hgiven : parameterPairs namesBinary.parameter =
      .ok [("module_mappings_file", .str "m.json")] := rfl
  refine ⟨(htable.escaped_iff _).2 hfile, (hload.escaped_iff _).2 ?_, (hupdate.escaped_iff _).2 ?_⟩
  · exact .given rfl (by simp [Readable]) hgiven
      ⟨[], _, [], rfl, by simp, .moduleFile (by decide) hfile⟩
  · exact ⟨[], _, [], rfl, by simp, .notSequence trivial⟩

end Settings

end SchemaToSwift
