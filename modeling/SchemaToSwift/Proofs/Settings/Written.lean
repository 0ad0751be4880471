import SchemaToSwift.Proofs.Settings.Parameter
import SchemaToSwift.Proofs.Text.Blank
import SchemaToSwift.Proofs.Text.Dotted

/-!
# Parameters in order

Two parameter strings with a comma between them come to the one after the other
(`Settings.updateByText_append`). A parameter may be written with its name in any case of letters
and with blanks around its name and its value (`Parameter.Written`). It sets what the pair of a
configuration sets (`Parameter.Written.Sets.chunk`), and many of them come to the pairs one after
the other (`Settings.updateByText_intercalate`).
-/

namespace SchemaToSwift

/-! ## Parameters as they are written -/

namespace Parameter

/-- The names of parameters and flags, in lower case. -/
def names : List String := keys.map (·.1) ++ flags.map (·.1)

/-- The characters that end a name. -/
def endsName (c : Char) : Bool := Text.isBlank c || c == ',' || c == '='

theorem any_endsName_names : ∀ name ∈ names, name.toList.any endsName = false := by decide

/-- A name of a parameter in any case of letters is of one piece. -/
theorem not_endsName_of_lower {name : String} (h : Text.lower name ∈ names) {c : Char}
    (hc : c ∈ name.toList) : endsName c = false := by
  have hkeeps (hlower : Text.lowerChar c = [c]) (hsigma : c ≠ 'Σ') : endsName c = false :=
    Bool.eq_false_iff.2 (List.any_eq_false.1 (any_endsName_names _ h) c
      (Text.mem_lower hlower hsigma hc))
  cases hends : endsName c with
  | false => rfl
  | true =>
    rw [← hends]
    simp only [endsName, Bool.or_eq_true, beq_iff_eq] at hends
    rcases hends with (hblank | rfl) | rfl
    · obtain ⟨hlower, hsigma⟩ := Text.lowerChar_of_isBlank hblank
      exact hkeeps hlower hsigma
    · exact hkeeps (by decide) (by decide)
    · exact hkeeps (by decide) (by decide)

/-- A parameter as it is written, with what stands around its name and its value. -/
structure Written where
  beforeName : String
  name : String
  afterName : String
  beforeValue : String
  value : String
  afterValue : String

namespace Written

/-- The chunk of the parameter. -/
def text (w : Written) : String :=
  w.beforeName ++ w.name ++ w.afterName ++ "=" ++ w.beforeValue ++ w.value ++ w.afterValue

/-- A parameter with blanks around its name, which may be in any case of letters, and around its
value, which has neither commas nor blanks at its ends. -/
structure Plain (w : Written) : Prop where
  name : Text.lower w.name ∈ names
  beforeName : ∀ c ∈ w.beforeName.toList, Text.isBlank c = true
  afterName : ∀ c ∈ w.afterName.toList, Text.isBlank c = true
  beforeValue : ∀ c ∈ w.beforeValue.toList, Text.isBlank c = true
  afterValue : ∀ c ∈ w.afterValue.toList, Text.isBlank c = true
  trimmed : Text.trim w.value = w.value
  noComma : ',' ∉ w.value.toList

/-- A flag that is off. -/
structure Off (w : Written) : Prop extends w.Plain where
  isFlag : (flags.lookup (Text.lower w.name)).isSome = true
  off : flag w.name w.value = .ok false

/-- A parameter whose name stands for the key of a pair, and whose value is the text of the pair.
The parameter for a file of modules names one. -/
structure Sets (w : Written) (p : String × Json) : Prop extends w.Plain where
  key : keys.lookup (Text.lower w.name) = some p.1
  value_eq : p.2 = .str w.value
  named : p.1 = "module_mappings_file" → w.value ≠ ""

variable (w : Written)

/-- The characters before the equals sign. -/
def nameChars : List Char := w.beforeName.toList ++ w.name.toList ++ w.afterName.toList

/-- The characters after the equals sign. -/
def valueChars : List Char := w.beforeValue.toList ++ w.value.toList ++ w.afterValue.toList

theorem toList_text : w.text.toList = w.nameChars ++ '=' :: w.valueChars := by
  simp [text, nameChars, valueChars]

/-- The equals sign is not blank. -/
theorem isEmpty_trimChars : (Text.trimChars w.text.toList).isEmpty = false := by
  rw [List.isEmpty_eq_false_iff]
  intro hnil
  have hblank := Text.trimWhere_eq_nil.1 hnil '=' (by simp [toList_text])
  exact absurd hblank (by decide)

variable {w}

section
variable (h : w.Plain)
include h

/-- A character that ends a name and is not blank does not stand before the equals sign. -/
theorem Plain.not_mem_nameChars {c : Char} (hends : endsName c = true)
    (hblank : Text.isBlank c = false) : c ∉ w.nameChars := by
  simp only [nameChars, List.mem_append, not_or]
  refine ⟨⟨fun hc => ?_, fun hc => ?_⟩, fun hc => ?_⟩
  · rw [h.beforeName c hc] at hblank
    cases hblank
  · rw [not_endsName_of_lower h.name hc] at hends
    cases hends
  · rw [h.afterName c hc] at hblank
    cases hblank

/-- A written parameter is read as its name and value. -/
theorem Plain.nameAndValue : nameAndValue w.text.toList = (w.name, w.value) := by
  have hequals : '=' ∉ w.nameChars := h.not_mem_nameChars (by decide) (by decide)
  have hname : Text.trimChars w.name.toList = w.name.toList :=
    Text.trimWhere_of_not fun c hc => by
      have hends := not_endsName_of_lower h.name hc
      simp only [endsName, Bool.or_eq_false_iff] at hends
      exact hends.1.1
  have hvalue : String.ofList (Text.trimChars w.value.toList) = w.value := h.trimmed
  rw [Parameter.nameAndValue, toList_text, Text.cut_append_cons hequals]
  simp only [Option.getD_some]
  rw [nameChars, valueChars, Text.trimChars, Text.trimChars,
    Text.trimWhere_append h.beforeName h.afterName,
    Text.trimWhere_append h.beforeValue h.afterValue, ← Text.trimChars, ← Text.trimChars, hname,
    hvalue, String.ofList_toList]

/-- It has no comma. -/
theorem Plain.comma_not_mem : ',' ∉ w.text.toList := by
  have hblank : Text.isBlank ',' = false := by decide
  rw [toList_text, List.mem_append, List.mem_cons, not_or, not_or]
  refine ⟨h.not_mem_nameChars (by decide) hblank, by decide, ?_⟩
  simp only [valueChars, List.mem_append, not_or]
  refine ⟨⟨fun hc => ?_, h.noComma⟩, fun hc => ?_⟩
  · rw [h.beforeValue _ hc] at hblank
    cases hblank
  · rw [h.afterValue _ hc] at hblank
    cases hblank

end

/-- A flag that is off sets nothing. -/
theorem Off.parse_text (h : w.Off) : parse w.text = .ok [] := by
  obtain ⟨form, hform⟩ := Option.isSome_iff_exists.1 h.isFlag
  have hchunk : chunk w.text.toList = .ok none := by
    rw [chunk, isEmpty_trimChars, if_neg Bool.false_ne_true]
    simp only [h.nameAndValue, hform, h.off]
    rfl
  rw [parse, Text.splitAt_of_not_mem h.comma_not_mem, List.mapM_cons, hchunk]
  rfl

theorem flags_lookup_of_keys : ∀ name ∈ keys.map (·.1), flags.lookup name = none := by decide

/-- A parameter sets what the pair of a configuration sets. -/
theorem Sets.chunk {p : String × Json} (h : w.Sets p) : ∃ value,
    chunk w.text.toList = .ok (some (p.1, value)) ∧ Settings.SetsParameter (p.1, value) ∧
      ∀ tree, Settings.readPair tree p.1 value = Settings.readPair tree p.1 p.2 := by
  obtain ⟨key, _⟩ := p
  obtain rfl := h.value_eq
  have hkey := h.key
  obtain ⟨before, after, hkeys, -⟩ := List.lookup_eq_some_iff.1 hkey
  have hname : Text.lower w.name ∈ keys.map (·.1) := by
    rw [hkeys]
    simp
  have hmem : key ∈ keys.map (·.2) := by
    rw [hkeys]
    simp
  have hchunk : Parameter.chunk w.text.toList =
      if key = "shorten_type_naming_files" then .ok (some (key, .arr (patterns w.value)))
      else .ok (some (key, .str w.value)) := by
    rw [Parameter.chunk, isEmpty_trimChars, if_neg Bool.false_ne_true]
    simp only [h.nameAndValue, flags_lookup_of_keys _ hname]
    split
    · next hpatterns =>
      obtain rfl := Option.some.inj (hkey.symm.trans hpatterns)
      rfl
    · next other hother hlookup =>
      obtain rfl := Option.some.inj (hkey.symm.trans hlookup)
      rw [if_neg hother]
    · next hnone =>
      rw [hkey] at hnone
      cases hnone
  rw [hchunk]
  split
  · next hpatterns =>
    subst hpatterns
    exact ⟨_, rfl, ⟨hmem, fun hfile => absurd hfile (by simp)⟩, fun tree => rfl⟩
  · exact ⟨_, rfl, ⟨hmem, fun hfile => by simpa using h.named hfile⟩, fun tree => rfl⟩

section
variable {ws : List Written} {pairs : List (String × Json)} (h : List.Forall₂ Sets ws pairs)
include h

/-- Each chunk of parameters is one of them. -/
theorem splitAt_intercalate (hne : ws ≠ []) :
    Text.splitAt ',' (",".intercalate (ws.map text)).toList = ws.map (·.text.toList) := by
  have hplain : ∀ w ∈ ws, w.Plain := by
    clear hne
    induction h with
    | nil => simp
    | cons hw _ ih => exact List.forall_mem_cons.2 ⟨hw.toPlain, ih⟩
  rw [String.toList_intercalate, List.map_map]
  refine Text.splitAt_intercalate (by simpa using hne) fun part hpart => ?_
  obtain ⟨w, hw, rfl⟩ := List.mem_map.1 hpart
  exact (hplain w hw).comma_not_mem

/-- The chunks of parameters set what the pairs of a configuration set. -/
theorem mapM_chunk : ∃ given : List (String × Json),
    (ws.map (·.text.toList)).mapM Parameter.chunk = .ok (given.map some) ∧
      (∀ p ∈ given, Settings.SetsParameter p) ∧
        ∀ tree, (given.mapM fun p => Settings.readPair tree p.1 p.2) =
          pairs.mapM fun p => Settings.readPair tree p.1 p.2 := by
  induction h with
  | nil => exact ⟨[], rfl, by simp, fun _ => rfl⟩
  | cons hw _ ih =>
    obtain ⟨value, hchunk, hfirst, hread⟩ := hw.chunk
    obtain ⟨given, hchunks, hsets, hreads⟩ := ih
    refine ⟨(_, value) :: given, ?_, List.forall_mem_cons.2 ⟨hfirst, hsets⟩, fun tree => ?_⟩
    · rw [List.map_cons, List.mapM_cons, hchunk, hchunks]
      rfl
    · rw [List.mapM_cons, List.mapM_cons, hread, hreads]

/-- So do parameters with commas between them, as far as they count. -/
theorem parse_intercalate : ∃ given,
    parse (",".intercalate (ws.map text)) = .ok (Json.ofMembers given) ∧
      (∀ p ∈ given, Settings.SetsParameter p) ∧
        ∀ tree base, Settings.update tree given base = Settings.update tree pairs base := by
  obtain ⟨given, hchunks, hsets, hreads⟩ := mapM_chunk h
  refine ⟨given, ?_, hsets, fun tree base => ?_⟩
  · by_cases hne : ws = []
    · subst hne
      obtain rfl : given = [] := List.map_eq_nil_iff.1 (Except.ok.inj hchunks).symm
      rfl
    · rw [parse, splitAt_intercalate h hne, hchunks]
      simp [List.filterMap_map]
  · rw [Settings.update_eq, Settings.update_eq, hreads]

end

end Written

end Parameter

/-! ## Parameter strings in order -/

namespace Settings

/-- The settings after what a parameter string sets. -/
def updateByText (tree : FileTree) (text : String) (base : Settings) :
    Except (Failure SettingsError) Settings := do
  let pairs ← Failure.report (Parameter.parse text)
  update tree pairs base

/-- A parameter string that names a file of modules, if it sets one at all. -/
def NamesModules (text : String) : Prop :=
  ∀ pairs, Parameter.parse text = .ok pairs → ("module_mappings_file", .str "") ∉ pairs

variable {tree : FileTree} {base s t : Settings} {a b : String}

/-- Settings are updated by a text exactly if it can be parsed and its pairs can be read. -/
theorem updateByText_eq_ok_iff : updateByText tree a base = .ok s ↔
    ∃ pairs, Parameter.parse a = .ok pairs ∧ update tree pairs base = .ok s := by
  rw [updateByText, Result.bind_eq_ok_iff]
  cases Parameter.parse a <;> simp [Failure.report, Except.mapError]

theorem setsParameter_of_parse {pairs : List (String × Json)} (h : Parameter.parse a = .ok pairs)
    (hnamed : NamesModules a) : ∀ p ∈ pairs, SetsParameter p := by
  rintro ⟨key, value⟩ hp
  obtain ⟨hkey, hvalue⟩ := (Parameter.parse_sets h).2 _ hp
  refine ⟨hkey, ?_⟩
  rintro rfl
  obtain ⟨text, rfl⟩ | ⟨hpatterns, -⟩ := hvalue
  · have hne : text ≠ "" := by
      rintro rfl
      exact hnamed pairs h hp
    simpa using hne
  · simp at hpatterns

/-- A parameter string after another one comes to both of them at once. -/
theorem updateByText_append (ha : NamesModules a) (hb : NamesModules b)
    (hs : updateByText tree a base = .ok s) (ht : updateByText tree b s = .ok t) :
    updateByText tree (a ++ "," ++ b) base = .ok t := by
  obtain ⟨x, hx, hs⟩ := updateByText_eq_ok_iff.1 hs
  obtain ⟨y, hy, ht⟩ := updateByText_eq_ok_iff.1 ht
  have hboth : update tree (x ++ y) base = .ok t := by
    rw [update_append, hs, Result.bind_ok, ht]
  have hsets : ∀ p ∈ x ++ y, SetsParameter p := fun p hp =>
    (List.mem_append.1 hp).elim (setsParameter_of_parse hx ha p) (setsParameter_of_parse hy hb p)
  have hobject : Json.ofMembers (x ++ y) = Json.override x y := by
    rw [Json.ofMembers_append, Json.ofMembers_of_nodup (Parameter.parse_sets hx).1]
  refine updateByText_eq_ok_iff.2 ⟨Json.override x y, ?_, hobject ▸ update_ofMembers hsets hboth⟩
  rw [Parameter.parse_append, hx, hy]
  rfl

/-- Parameters come to the pairs of a configuration, one after the other. -/
theorem updateByText_intercalate {ws : List Parameter.Written} {pairs : List (String × Json)}
    (h : List.Forall₂ Parameter.Written.Sets ws pairs)
    (ht : pairs.foldlM (fun s p => update tree [p] s) base = .ok t) :
    updateByText tree (",".intercalate (ws.map Parameter.Written.text)) base = .ok t := by
  obtain ⟨given, hparse, hsets, hupdate⟩ := Parameter.Written.parse_intercalate h
  rw [← update_eq_foldlM, ← hupdate] at ht
  exact updateByText_eq_ok_iff.2 ⟨_, hparse, update_ofMembers hsets ht⟩

/-- Two parameter strings with a comma between them fail as the first one, or else as the second
one, and set what the first one sets with the settings of the second one put in; a flag that is off
has no part in it. So they come to the one after the other, and parameters with commas between them
to the pairs of a configuration that they stand for, one after the other. -/
theorem updateByText_compose (tree : FileTree) (base : Settings) (a b : String) :
    (Parameter.parse (a ++ "," ++ b) = do
        let x ← Parameter.parse a
        let y ← Parameter.parse b
        return Json.override x y) ∧
      (∀ x y, Parameter.parse a = .ok x → Parameter.parse b = .ok y → ∀ key,
        (Json.override x y).lookup key = (y.lookup key).or (x.lookup key)) ∧
      (∀ w : Parameter.Written, w.Off →
        Parameter.parse (a ++ "," ++ w.text) = Parameter.parse a ∧
          Parameter.parse (a ++ "," ++ w.text ++ "," ++ b) = Parameter.parse (a ++ "," ++ b)) ∧
      (∀ s t, NamesModules a → NamesModules b → updateByText tree a base = .ok s →
        updateByText tree b s = .ok t → updateByText tree (a ++ "," ++ b) base = .ok t) ∧
      ∀ ws pairs t, List.Forall₂ Parameter.Written.Sets ws pairs →
        pairs.foldlM (fun s p => update tree [p] s) base = .ok t →
          updateByText tree (",".intercalate (ws.map Parameter.Written.text)) base = .ok t := by
  have hoff {w : Parameter.Written} (hw : w.Off) :
      Parameter.parse (a ++ "," ++ w.text) = Parameter.parse a := by
    rw [Parameter.parse_append, hw.parse_text]
    cases Parameter.parse a <;> rfl
  refine ⟨Parameter.parse_append a b,
    fun x y _ hy key => Parameter.lookup_override_of_parse hy x key,
    fun w hw => ⟨hoff hw, ?_⟩, fun s t ha hb hs ht => updateByText_append ha hb hs ht,
    fun ws pairs t h ht => updateByText_intercalate h ht⟩
  rw [Parameter.parse_append (a ++ "," ++ w.text) b, hoff hw, Parameter.parse_append a b]

/-- A flag that is off. -/
def offFlag : Parameter.Written where
  beforeName := ""
  name := "implementationOnlyImports"
  afterName := " "
  beforeValue := " "
  value := "No"
  afterValue := ""

/-- A parameter in another case of letters. -/
def otherRuntime : Parameter.Written where
  beforeName := " "
  name := "RUNTIMEMODULENAME"
  afterName := ""
  beforeValue := " "
  value := "Other"
  afterValue := " "

/-- The flag sets nothing, and the other parameters set what they name. -/
theorem updateByText_compose_runtimes :
    Parameter.parse ("FileNaming=DropPath" ++ "," ++ offFlag.text) =
        Parameter.parse "FileNaming=DropPath" ∧
      updateByText (.empty []) ("FileNaming=DropPath" ++ "," ++ "RuntimeModuleName=First")
          default =
        .ok { default with naming := .dropPath, runtimeModule := "First" } ∧
      updateByText (.empty []) (",".intercalate ([otherRuntime].map Parameter.Written.text))
          default =
        .ok { default with runtimeModule := "Other" } := by
  obtain ⟨-, -, hoff, happend, hpairs⟩ :=
    updateByText_compose (.empty []) default "FileNaming=DropPath" "RuntimeModuleName=First"
  have hnamed {text : String} (pairs : List (String × Json)) (h : Parameter.parse text = .ok pairs)
      (hpairs : ("module_mappings_file", .str "") ∉ pairs) : NamesModules text := by
    intro given hgiven
    rwa [Except.ok.inj (hgiven.symm.trans h)]
  have hflag : offFlag.Off := {
    name := by decide
    beforeName := List.all_eq_true.1 (by decide)
    afterName := List.all_eq_true.1 (by decide)
    beforeValue := List.all_eq_true.1 (by decide)
    afterValue := List.all_eq_true.1 (by decide)
    trimmed := by decide
    noComma := by decide
    isFlag := by decide
    off := by rfl }
  have hruntime : otherRuntime.Sets ("runtime_module_name", .str "Other") := {
    name := by decide
    beforeName := List.all_eq_true.1 (by decide)
    afterName := List.all_eq_true.1 (by decide)
    beforeValue := List.all_eq_true.1 (by decide)
    afterValue := List.all_eq_true.1 (by decide)
    trimmed := by decide
    noComma := by decide
    key := by rfl
    value_eq := rfl
    named := by simp }
  refine ⟨(hoff _ hflag).1, ?_, hpairs _ _ _ (.cons hruntime .nil) (by rfl)⟩
  exact happend { default with naming := .dropPath } _
    (hnamed [("output_naming", .str "DropPath")] (by rfl) (by simp))
    (hnamed [("runtime_module_name", .str "First")] (by rfl) (by simp)) (by rfl) (by rfl)

end Settings

end SchemaToSwift
