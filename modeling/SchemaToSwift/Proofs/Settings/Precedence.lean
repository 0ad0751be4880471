import SchemaToSwift.Proofs.Result
import SchemaToSwift.Settings.Load

/-!
# Which source of settings wins

The pairs of all sources are read in one order: those of the configuration file, those of the
parameter string, the overrides. `Sources.attempts` lists what reading comes to, a source that
cannot be read at all in the place of its pairs, and loading works through that list (`load_eq`). So
the first attempt that fails decides the error, while each setting, one by one (`Setting`), is what
the last pair that writes it says: an update leaves the other settings alone (`get_apply`), and a
run of updates leaves the last value (`lastWins_of_mapM`).
-/

namespace SchemaToSwift

/-! ## Settings one by one -/

/-- The name of a setting. -/
inductive Setting
  | naming | importForm | access | profile | modules | shortened | runtimeModule
deriving Repr, DecidableEq

namespace Setting

/-- What a setting can be. -/
def Value : Setting → Type
  | .naming => FileNaming
  | .importForm => ImportForm
  | .access => Access
  | .profile => Profile
  | .modules => ModuleMap
  | .shortened => List Json
  | .runtimeModule => String

/-- Whether a pair of a configuration writes a setting. Two keys write the modules, a file of
modules only if it is named. -/
def WrittenBy : Setting → String × Json → Prop
  | .naming, p => p.1 = "output_naming"
  | .importForm, p => p.1 = "import_directive"
  | .access, p => p.1 = "visibility"
  | .profile, p => p.1 = "generation_mode"
  | .modules, p =>
    p.1 = "proto_to_module_mappings" ∨ p.1 = "module_mappings_file" ∧ p.2.truthy = true
  | .shortened, p => p.1 = "shorten_type_naming_files"
  | .runtimeModule, p => p.1 = "runtime_module_name"

end Setting

namespace Settings

/-- A setting. -/
def get (s : Settings) : (x : Setting) → x.Value
  | .naming => s.naming
  | .importForm => s.importForm
  | .access => s.access
  | .profile => s.profile
  | .modules => s.modules
  | .shortened => s.shortened
  | .runtimeModule => s.runtimeModule

/-- What an update writes to a setting, if it writes to it. -/
def Update.value? : Update → (x : Setting) → Option x.Value
  | .naming v, .naming => some v
  | .importForm v, .importForm => some v
  | .access v, .access => some v
  | .profile v, .profile => some v
  | .modules v, .modules | .moduleFile _ v, .modules => some v
  | .shortened v, .shortened => some v
  | .runtimeModule v, .runtimeModule => some v
  | _, _ => none

/-- The setting that an update writes. -/
def Update.setting? : Update → Option Setting
  | .naming _ => some .naming
  | .importForm _ => some .importForm
  | .access _ => some .access
  | .profile _ => some .profile
  | .modules _ | .moduleFile _ _ => some .modules
  | .noModuleFile => none
  | .shortened _ => some .shortened
  | .runtimeModule _ => some .runtimeModule

theorem Update.isSome_value? (u : Update) (x : Setting) :
    (u.value? x).isSome = (u.setting? == some x) := by
  cases u <;> cases x <;> rfl

/-- An update writes one setting and leaves the others. -/
theorem get_apply (s : Settings) (u : Update) (x : Setting) :
    (s.apply u).get x = (u.value? x).getD (s.get x) := by
  cases u <;> cases x <;> rfl

/-- Updates leave a setting that none of them writes. -/
theorem get_foldl_of_none {updates : List Update} {x : Setting}
    (h : ∀ u ∈ updates, u.value? x = none) (base : Settings) :
    (updates.foldl apply base).get x = base.get x := by
  induction updates generalizing base with
  | nil => rfl
  | cons u rest ih =>
    obtain ⟨hu, hrest⟩ := List.forall_mem_cons.1 h
    rw [List.foldl_cons, ih hrest, get_apply, hu, Option.getD_none]

/-- A pair writes what its update writes. -/
theorem setting?_eq_some_iff {tree : FileTree} {p : String × Json} {u : Update}
    (h : readPair tree p.1 p.2 = .ok u) (x : Setting) : u.setting? = some x ↔ x.WrittenBy p := by
  obtain ⟨key, value⟩ := p
  unfold readPair at h
  dsimp only at h
  split at h
  case h_1 | h_2 | h_3 | h_4 =>
    obtain ⟨v, -, rfl⟩ := Result.map_eq_ok_iff.1 h
    cases x <;> simp [Setting.WrittenBy, Update.setting?]
  case h_5 =>
    split at h
    · cases h
      cases x <;> simp [Setting.WrittenBy, Update.setting?]
    · cases h
  case h_6 =>
    split at h
    · next hfalsy =>
      cases h
      rw [Bool.not_eq_true'] at hfalsy
      cases x <;> simp [Setting.WrittenBy, Update.setting?, hfalsy]
    · next htruthy =>
      rw [Bool.not_eq_true', Bool.not_eq_false] at htruthy
      split at h
      · obtain ⟨m, -, rfl⟩ := Result.map_eq_ok_iff.1 h
        cases x <;> simp [Setting.WrittenBy, Update.setting?, -Json.truthy_str, htruthy]
      · cases h
  case h_7 =>
    split at h
    · cases h
      cases x <;> simp [Setting.WrittenBy, Update.setting?]
    · obtain ⟨v, -, rfl⟩ := Result.map_eq_ok_iff.1 h
      cases x <;> simp [Setting.WrittenBy, Update.setting?]
  case h_8 =>
    split at h
    · cases h
      cases x <;> simp [Setting.WrittenBy, Update.setting?]
    · cases h
  case h_9 => cases h

/-! ## The pairs of all sources -/

/-- A run of updates, as the pairs of a configuration ask for them, settles each setting: nothing
but the last pair that writes it matters. -/
structure LastWins (tree : FileTree) (pairs : List (String × Json)) (s : Settings) : Prop where
  unwritten : ∀ x : Setting, (∀ p ∈ pairs, ¬ x.WrittenBy p) → s.get x = Settings.default.get x
  written : ∀ (x : Setting) (before : List (String × Json)) (p : String × Json)
    (after : List (String × Json)), pairs = before ++ p :: after → x.WrittenBy p →
      (∀ q ∈ after, ¬ x.WrittenBy q) →
        ∃ u, readPair tree p.1 p.2 = .ok u ∧ u.value? x = some (s.get x)

/-- Pairs that do not write a setting ask for updates that do not. -/
theorem value?_eq_none_of_mapM {tree : FileTree} {pairs : List (String × Json)}
    {updates : List Update} (h : (pairs.mapM fun p => readPair tree p.1 p.2) = .ok updates)
    {x : Setting} (hx : ∀ p ∈ pairs, ¬ x.WrittenBy p) : ∀ u ∈ updates, u.value? x = none := by
  intro u hu
  obtain ⟨p, hp, hread⟩ := Result.exists_of_mem_mapM h hu
  rw [← Option.not_isSome_iff_eq_none, u.isSome_value?, beq_iff_eq, setting?_eq_some_iff hread]
  exact hx p hp

/-- A setting is what the last pair that writes it says. -/
theorem get_of_last {tree : FileTree} {before after : List (String × Json)} {p : String × Json}
    {updates : List Update}
    (h : ((before ++ p :: after).mapM fun p => readPair tree p.1 p.2) = .ok updates) {x : Setting}
    (hp : x.WrittenBy p) (hafter : ∀ q ∈ after, ¬ x.WrittenBy q) (base : Settings) :
    ∃ u, readPair tree p.1 p.2 = .ok u ∧ u.value? x = some ((updates.foldl apply base).get x) := by
  rw [List.mapM_append] at h
  obtain ⟨earlier, -, h⟩ := Result.bind_eq_ok_iff.1 h
  rw [List.mapM_cons] at h
  obtain ⟨rest, hrest, h⟩ := Result.bind_eq_ok_iff.1 h
  obtain ⟨u, hread, hrest⟩ := Result.bind_eq_ok_iff.1 hrest
  obtain ⟨later, hlater, hrest⟩ := Result.bind_eq_ok_iff.1 hrest
  cases hrest
  cases h
  refine ⟨u, hread, ?_⟩
  -- The updates after that of the pair do not reach the setting.
  rw [List.foldl_append, List.foldl_cons,
    get_foldl_of_none (value?_eq_none_of_mapM hlater hafter), get_apply]
  have hsome : (u.value? x).isSome = true := by
    rw [u.isSome_value?, beq_iff_eq]
    exact (setting?_eq_some_iff hread x).2 hp
  obtain ⟨v, hv⟩ := Option.isSome_iff_exists.1 hsome
  rw [hv, Option.getD_some]

/-- The updates that pairs ask for leave what the last pairs wrote. -/
theorem lastWins_of_mapM {tree : FileTree} {pairs : List (String × Json)}
    {updates : List Update} (h : (pairs.mapM fun p => readPair tree p.1 p.2) = .ok updates) :
    LastWins tree pairs (updates.foldl apply default) := by
  constructor
  case unwritten =>
    intro x hx
    exact get_foldl_of_none (value?_eq_none_of_mapM h hx) default
  case written =>
    rintro x before p after rfl hp hafter
    exact get_of_last h hp hafter default

/-- The pairs of a configuration file. No name and the empty name stand for no file. -/
def configPairs (tree : FileTree) (file? : Option String) :
    Except (Failure SettingsError) (List (String × Json)) :=
  let path := file?.getD ""
  if path = "" then .ok [] else SettingsFile.configuration.readObject tree path

/-- The pairs of a parameter string. -/
def parameterPairs (parameter? : Option String) :
    Except (Failure SettingsError) (List (String × Json)) :=
  let parameter := parameter?.getD ""
  if parameter = "" then .ok [] else Failure.report (Parameter.parse parameter)

/-- What reading the pairs of a source comes to, one after the other, or what keeps the source from
being read at all. -/
def readings (tree : FileTree) :
    Except (Failure SettingsError) (List (String × Json)) →
      List (Except (Failure SettingsError) Update)
  | .error e => [.error e]
  | .ok pairs => pairs.map fun p => readPair tree p.1 p.2

/-- What reading all sources comes to, in order. -/
def Sources.attempts (tree : FileTree) (src : Sources) :
    List (Except (Failure SettingsError) Update) :=
  readings tree (configPairs tree src.configFile) ++ readings tree (parameterPairs src.parameter) ++
    readings tree (.ok src.overrides)

/-! ## Loading -/

/-- Without a log file, reading pairs leaves the tree alone. -/
theorem updateIn_of_noLog {s : Session} (h : s.logFile = none) (base : Settings)
    (pairs : List (String × Json)) :
    (updateIn s base pairs).1.tree = s.tree ∧ (updateIn s base pairs).1.logFile = none := by
  induction pairs generalizing s base with
  | nil => exact ⟨rfl, h⟩
  | cons p rest ih =>
    obtain ⟨key, value⟩ := p
    unfold updateIn
    cases readPair s.tree key value with
    | error e => exact ⟨rfl, h⟩
    | ok u =>
      obtain ⟨htree, hlog⟩ := tellAll_event? h u
      rw [← htree]
      exact ih hlog (base.apply u)

/-- A stage of loading that comes to some attempts, which change its base. -/
structure Applies (s : Session) (base : Settings)
    (attempts : List (Except (Failure SettingsError) Update))
    (stage : Session × Except (Failure SettingsError) Settings) : Prop where
  tree : stage.1.tree = s.tree
  logFile : stage.1.logFile = none
  result : stage.2 = (attempts.mapM id).map (·.foldl apply base)

theorem applies_updateIn {s : Session} (h : s.logFile = none) (base : Settings)
    (pairs : List (String × Json)) :
    Applies s base (readings s.tree (.ok pairs)) (updateIn s base pairs) := by
  obtain ⟨htree, hlog⟩ := updateIn_of_noLog h base pairs
  refine ⟨htree, hlog, ?_⟩
  rw [updateIn_eq h, readings, List.mapM_map]
  rfl

theorem applyFile_of_ne_empty (s : Session) (base : Settings) {path : String}
    (hpath : path ≠ "") : applyFile s base (some path) =
      match SettingsFile.configuration.readObject s.tree path with
      | .error e => (s, .error e)
      | .ok members =>
        match updateIn s base members with
        | (s, .error e) => (s, .error e)
        | (s, .ok settings) => (s.tell (.configApplied path), .ok settings) := by
  unfold applyFile
  split
  · next hnone => cases hnone
  · next hempty => exact absurd (Option.some.inj hempty) hpath
  · next other hother =>
    obtain rfl := Option.some.inj hother
    rfl

theorem applies_applyFile {s : Session} (h : s.logFile = none) (base : Settings)
    (file? : Option String) :
    Applies s base (readings s.tree (configPairs s.tree file?)) (applyFile s base file?) := by
  cases file? with
  | none => exact ⟨rfl, h, rfl⟩
  | some path =>
    by_cases hpath : path = ""
    · subst hpath
      exact ⟨rfl, h, rfl⟩
    · rw [applyFile_of_ne_empty s base hpath, configPairs, Option.getD_some, if_neg hpath]
      cases SettingsFile.configuration.readObject s.tree path with
      | error e => exact ⟨rfl, h, rfl⟩
      | ok members =>
        have happlies := applies_updateIn h base members
        dsimp only
        rcases hstage : updateIn s base members with ⟨s', result⟩
        rw [hstage] at happlies
        cases result with
        | error e => exact happlies
        | ok settings =>
          have htold : (s'.tell (.configApplied path)).tree = s'.tree :=
            Session.tree_tell happlies.logFile _
          exact ⟨htold.trans happlies.tree, happlies.logFile, happlies.result⟩

theorem applies_applyParameter {s : Session} (h : s.logFile = none) (base : Settings)
    (parameter? : Option String) :
    Applies s base (readings s.tree (parameterPairs parameter?))
      (applyParameter s base parameter?) := by
  match parameter? with
  | none => exact ⟨rfl, h, rfl⟩
  | some parameter =>
    by_cases hparameter : parameter = ""
    · subst hparameter
      exact ⟨rfl, h, rfl⟩
    · rw [applyParameter.eq_3 _ _ _ hparameter, parameterPairs, Option.getD_some,
        if_neg hparameter]
      cases Parameter.parse parameter with
      | error e => exact ⟨rfl, h, rfl⟩
      | ok pairs => exact applies_updateIn h base pairs

/-- A stage that goes on with what the one before it left. -/
theorem Applies.append {s s' : Session} {base settings : Settings}
    {attempts more : List (Except (Failure SettingsError) Update)}
    {next : Session × Except (Failure SettingsError) Settings}
    (h : Applies s base attempts (s', .ok settings)) (hnext : Applies s' settings more next) :
    Applies s base (attempts ++ more) next := by
  refine ⟨hnext.tree.trans h.tree, hnext.logFile, ?_⟩
  have hresult := h.result
  rw [hnext.result, List.mapM_append]
  cases hattempts : attempts.mapM id with
  | error e =>
    rw [hattempts] at hresult
    cases hresult
  | ok updates =>
    rw [hattempts] at hresult
    cases hresult
    cases more.mapM id with
    | error e => rfl
    | ok later => simp [Except.map, List.foldl_append]

/-- After a stage that fails nothing is read. -/
theorem Applies.append_error {s s' : Session} {base : Settings} {e : Failure SettingsError}
    {attempts : List (Except (Failure SettingsError) Update)}
    (h : Applies s base attempts (s', .error e))
    (more : List (Except (Failure SettingsError) Update)) :
    Applies s base (attempts ++ more) (s', .error e) := by
  refine ⟨h.tree, h.logFile, ?_⟩
  have hresult := h.result
  rw [List.mapM_append]
  cases hattempts : attempts.mapM id with
  | error e' =>
    rw [hattempts] at hresult
    cases hresult
    rfl
  | ok updates =>
    rw [hattempts] at hresult
    cases hresult

/-- Loading works through the attempts. -/
theorem load_eq (tree : FileTree) (src : Sources) :
    load tree src = ((src.attempts tree).mapM id).map (·.foldl apply default) := by
  suffices h : Applies (.start tree) default (src.attempts tree) (loadIn (.start tree) src) from
    h.result
  unfold loadIn Sources.attempts
  have hfile := applies_applyFile (s := .start tree) rfl default src.configFile
  rcases hstage : applyFile (.start tree) default src.configFile with ⟨s, e | settings⟩
  · rw [hstage] at hfile
    exact (hfile.append_error _).append_error _
  · rw [hstage] at hfile
    dsimp only
    have hparameter := applies_applyParameter hfile.logFile settings src.parameter
    rw [hfile.tree] at hparameter
    rcases hstage' : applyParameter s settings src.parameter with ⟨s', e | settings'⟩
    · rw [hstage'] at hparameter
      exact (hfile.append hparameter).append_error _
    · rw [hstage'] at hparameter
      have hboth := hfile.append hparameter
      have hoverrides := applies_updateIn hparameter.logFile settings' src.overrides
      rw [hboth.tree] at hoverrides
      exact hboth.append hoverrides

/-! ## What loading comes to -/

/-- A source whose readings all succeed has pairs, which ask for the updates. -/
theorem exists_pairs_of_readings {tree : FileTree}
    {source : Except (Failure SettingsError) (List (String × Json))} {updates : List Update}
    (h : (readings tree source).mapM id = .ok updates) :
    ∃ pairs, source = .ok pairs ∧
      (pairs.mapM fun p => readPair tree p.1 p.2) = .ok updates := by
  cases source with
  | error e => cases h
  | ok pairs =>
    rw [readings, List.mapM_map] at h
    exact ⟨pairs, rfl, h⟩

/-- If all attempts succeed, the last pairs win. -/
theorem lastWins_of_attempts {tree : FileTree} {src : Sources} {updates : List Update}
    (h : (src.attempts tree).mapM id = .ok updates) :
    ∃ configured given, configPairs tree src.configFile = .ok configured ∧
      parameterPairs src.parameter = .ok given ∧
      LastWins tree (configured ++ given ++ src.overrides) (updates.foldl apply default) := by
  rw [Sources.attempts, List.mapM_append] at h
  obtain ⟨first, hfirst, h⟩ := Result.bind_eq_ok_iff.1 h
  rw [List.mapM_append] at hfirst
  obtain ⟨configUpdates, hconfig, hfirst⟩ := Result.bind_eq_ok_iff.1 hfirst
  obtain ⟨parameterUpdates, hparameter, hfirst⟩ := Result.bind_eq_ok_iff.1 hfirst
  obtain ⟨overrideUpdates, hoverrides, h⟩ := Result.bind_eq_ok_iff.1 h
  cases hfirst
  cases h
  obtain ⟨configured, hconfigured, hconfig⟩ := exists_pairs_of_readings hconfig
  obtain ⟨given, hgiven, hparameter⟩ := exists_pairs_of_readings hparameter
  obtain ⟨overrides, hsame, hoverrides⟩ := exists_pairs_of_readings hoverrides
  obtain rfl := Except.ok.inj hsame
  refine ⟨configured, given, hconfigured, hgiven, lastWins_of_mapM ?_⟩
  rw [List.mapM_append, List.mapM_append, hconfig, hparameter, hoverrides]
  rfl

/-- Loading fails if and only if a source or a pair cannot be read, with the error of the first one
in the order of the sources, whatever comes after it. Otherwise each setting is what the last pair
that writes it says, and the default if there is none. -/
theorem load_precedence (tree : FileTree) (src : Sources) :
    ((∃ e, load tree src = .error e) ↔ ∃ e, .error e ∈ src.attempts tree) ∧
      (∀ e, load tree src = .error e ↔ Result.StopsAt id (· = .error e) (src.attempts tree)) ∧
      ∀ settings, load tree src = .ok settings →
        ∃ configured given, configPairs tree src.configFile = .ok configured ∧
          parameterPairs src.parameter = .ok given ∧
          LastWins tree (configured ++ given ++ src.overrides) settings := by
  have hload := load_eq tree src
  have hstops (e : Failure SettingsError) :
      Result.StopsAt id (· = .error e) (src.attempts tree) ↔
        (src.attempts tree).mapM id = .error e :=
    Result.mapM_eq_error_iff.symm
  cases hall : (src.attempts tree).mapM id with
  | error e =>
    rw [hall] at hload
    have hfirst := Result.mapM_eq_error_iff.1 hall
    obtain ⟨before, x, after, hattempts, -, hx⟩ := hfirst
    have hmem : Except.error e ∈ src.attempts tree := by
      rw [hattempts]
      exact List.mem_append_right _ (hx ▸ .head _)
    refine ⟨⟨fun _ => ⟨e, hmem⟩, fun _ => ⟨e, hload⟩⟩, fun d => ?_, fun settings h => ?_⟩
    · rw [hload, hstops, hall]
      simp [Except.map]
    · rw [hload] at h
      cases h
  | ok updates =>
    rw [hall] at hload
    have hnone (e : Failure SettingsError) : load tree src ≠ .error e := by
      rw [hload]
      simp [Except.map]
    refine ⟨⟨fun ⟨e, he⟩ => absurd he (hnone e), fun ⟨e, he⟩ => ?_⟩, fun e => ?_,
      fun settings h => ?_⟩
    · obtain ⟨u, hu⟩ := Result.ok_of_mem_mapM hall he
      cases hu
    · rw [hstops, hall]
      simp [hnone e]
    · rw [hload] at h
      cases h
      exact lastWins_of_attempts hall

/-- A parameter that a later source overrides. -/
def overridden : Sources where
  configFile := none
  parameter := some "RuntimeModuleName=First"
  overrides := [("runtime_module_name", .str "Second")]

/-- The override wins, and the other settings keep their defaults. -/
theorem load_precedence_overridden :
    load (.empty []) overridden = .ok { default with runtimeModule := "Second" } ∧
      ∃ configured given, configPairs (.empty []) overridden.configFile = .ok configured ∧
        parameterPairs overridden.parameter = .ok given ∧
        LastWins (.empty []) (configured ++ given ++ overridden.overrides)
          { default with runtimeModule := "Second" } := by
  have hload : load (.empty []) overridden = .ok { default with runtimeModule := "Second" } := by
    rfl
  exact ⟨hload, (load_precedence (.empty []) overridden).2.2 _ hload⟩

end Settings

end SchemaToSwift
