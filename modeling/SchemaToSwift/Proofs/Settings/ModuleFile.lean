import SchemaToSwift.Proofs.FileTree
import SchemaToSwift.Settings.ModuleFile

/-!
# What escapes from reading a table of modules

Reading an object from a file, and a table of modules from such an object, gives a value, reports an
error or lets a fault escape. `SettingsFile.Escapes` and `ModuleMap.Escapes` say when a fault
escapes and which one: the path of a file is too long, the file is no text, or its document is
nested too deep or has an integer of too many digits; the files of an entry are no sequence, or one
of them cannot be the key of a table. A table is made up entry by entry and file by file, and the
first error decides (`Result.FoldStopsAt`).
-/

namespace SchemaToSwift

namespace Json

/-- A value that has no elements to go through. -/
def IsAtom : Json → Prop
  | .null | .bool _ | .int _ | .double _ => True
  | _ => False

/-- A value that holds others, which cannot be the key of a table. -/
def IsContainer : Json → Prop
  | .arr _ | .obj _ => True
  | _ => False

/-- Going through elements fails exactly at what is not a sequence. -/
theorem elements_eq_error_iff {v : Json} {f : Fault} :
    v.elements = .error f ↔ f = .wrongType ∧ v.IsAtom := by
  cases v <;> simp [elements, IsAtom, eq_comm]

/-- A value can be a key unless it is a container. -/
theorem asKey_eq_error_iff {v : Json} {f : Fault} :
    v.asKey = .error f ↔ f = .wrongType ∧ v.IsContainer := by
  cases v <;> simp [asKey, isKey, IsContainer, eq_comm]

end Json

/-! ## Files -/

/-- What stands where a path leads to. -/
def FileTree.Holds (t : FileTree) (path : String) (e : FileEntry) : Prop :=
  ∃ loc, t.locate (.ofText path) = .ok loc ∧ t.entry? loc = some e

/-- A file that is put at a path is held at this path. -/
theorem FileTree.holds_put {t : FileTree} {path : String} {loc : Location}
    (h : t.fileOfText path = .ok loc) (content : String) :
    (t.put loc (.text content)).Holds path (.text content) := by
  refine ⟨loc, locate_put h content, ?_⟩
  rw [entry_put t (fileOfText_ok_iff.1 h).2.2.ne_nil, if_pos rfl]

namespace SettingsFile

/-- What escapes from reading an object from a file. -/
inductive Escapes (tree : FileTree) (path : String) : Fault → Prop
  | longName (h : tree.locate (.ofText path) = .error .badName) : Escapes tree path .badName
  | notText (h : tree.Holds path .binary) : Escapes tree path .badEncoding
  | longInteger {text : String} (h : tree.Holds path (.text text))
    (hparse : Json.parse text = .error .tooManyDigits) : Escapes tree path .badValue
  | deep {text : String} (h : tree.Holds path (.text text))
    (hparse : Json.parse text = .error .tooDeep) : Escapes tree path .tooDeep

/-- Where a path leads nowhere, nothing but a name that is too long escapes. -/
theorem readObject_of_locate_error (kind : SettingsFile) {tree : FileTree} {path : String}
    {fault : Fault} (h : tree.locate (.ofText path) = .error fault) :
    kind.readObject tree path = .error
      (if fault = .badName then .escaped .badName
        else .reported (.noSuchFile kind (FilePath.ofText path).text)) := by
  unfold readObject
  cases fault <;> simp [FileTree.has, h, Failure.escape, Except.mapError]

/-- Where a path leads somewhere, what stands there is read. -/
theorem readObject_of_locate_ok (kind : SettingsFile) {tree : FileTree} {path : String}
    {loc : Location} (h : tree.locate (.ofText path) = .ok loc) :
    kind.readObject tree path = match tree.entry? loc with
      | some (.text text) => match Json.parse text with
        | .ok (.obj members) => .ok members
        | .ok _ => .error (.reported (.notObject kind (FilePath.ofText path).text))
        | .error e => .error (e.failure (.badJson (FilePath.ofText path).text))
      | some .binary => .error (.escaped .badEncoding)
      | some .folder => .error (.reported (.unreadable (FilePath.ofText path).text .isFolder))
      | none => .error (.reported (.unreadable (FilePath.ofText path).text .noFile)) := by
  unfold readObject FileTree.has FileTree.read
  simp only [h, Failure.escape, Except.mapError, Result.bind_ok]
  rcases tree.entry? loc with _ | _ | text | _
  · rfl
  · rfl
  · cases hparse : Json.parse text with
    | error e => simp [hparse]
    | ok v => cases v <;> simp [hparse]
  · rfl

/-- A fault escapes from reading a file exactly if it is one of its faults. -/
theorem readObject_eq_escaped_iff {kind : SettingsFile} {tree : FileTree} {path : String}
    {f : Fault} : kind.readObject tree path = .error (.escaped f) ↔ Escapes tree path f := by
  constructor
  · intro h
    cases hloc : tree.locate (.ofText path) with
    | error fault =>
      rw [readObject_of_locate_error kind hloc, Except.error.injEq] at h
      split at h
      · next hname =>
        cases h
        exact .longName (hname ▸ hloc)
      · cases h
    | ok loc =>
      rw [readObject_of_locate_ok kind hloc] at h
      split at h
      · next text hentry =>
        split at h
        · cases h
        · cases h
        · next e hparse =>
          cases e
          all_goals cases h
          · exact .longInteger ⟨loc, hloc, hentry⟩ hparse
          · exact .deep ⟨loc, hloc, hentry⟩ hparse
      · next hentry =>
        cases h
        exact .notText ⟨loc, hloc, hentry⟩
      · cases h
      · cases h
  · intro h
    cases h with
    | longName h => rw [readObject_of_locate_error kind h, if_pos rfl]
    | notText h =>
      obtain ⟨loc, hloc, hentry⟩ := h
      rw [readObject_of_locate_ok kind hloc, hentry]
    | longInteger h hparse | deep h hparse =>
      obtain ⟨loc, hloc, hentry⟩ := h
      simp only [readObject_of_locate_ok kind hloc, hentry, hparse]
      rfl

end SettingsFile

/-! ## Tables of modules -/

namespace ModuleMap

/-- What escapes from an entry that is put into a table: what it lists is no sequence, or comes to a
file that cannot be a key of the table. -/
inductive EntryEscapes (path : String) (m : ModuleMap) : Json → Prop
  | notSequence {members : List (String × Json)} {module files : Json}
    (hname : members.lookup "module_name" = some module) (htruthy : module.truthy = true)
    (hfiles : members.lookup "proto_file_path" = some files) (hatom : files.IsAtom) :
    EntryEscapes path m (.obj members)
  | notKey {members : List (String × Json)} {module : Json} {files : List Json}
    (hname : members.lookup "module_name" = some module) (htruthy : module.truthy = true)
    (hfiles : members.lookup "proto_file_path" = some (.arr files))
    (hstops : Result.FoldStopsAt (claim path module) (fun _ file => file.IsContainer) m files) :
    EntryEscapes path m (.obj members)

/-- What escapes from reading a table of modules from a file: the file itself, or the first entry
that cannot be put into the table. -/
inductive Escapes (tree : FileTree) (path : String) : Fault → Prop
  | file {f : Fault} (h : SettingsFile.Escapes tree path f) : Escapes tree path f
  | entry {members : List (String × Json)} {entries : List Json}
    (hfile : SettingsFile.moduleMap.readObject tree path = .ok members)
    (hmapping : members.lookup "mapping" = some (.arr entries))
    (hstops : Result.FoldStopsAt (addEntry path) (EntryEscapes path) [] entries) :
    Escapes tree path .wrongType

/-- Putting a file under a module lets a container escape, and nothing else. -/
theorem claim_eq_escaped_iff {path : String} {module file : Json} {m : ModuleMap} {f : Fault} :
    claim path module m file = .error (.escaped f) ↔ f = .wrongType ∧ file.IsContainer := by
  unfold claim
  rw [Result.bind_eq_error_iff, Failure.escape_eq_escaped_iff, Json.asKey_eq_error_iff,
    or_iff_left]
  rintro ⟨key, -, h⟩
  split at h
  · split at h <;> cases h
  · cases h

/-- An entry lists its files unless it has a value that is no sequence for them. -/
theorem filesOf_eq_error_iff {members : List (String × Json)} {f : Fault} :
    filesOf members = .error f ↔
      f = .wrongType ∧ ∃ files, members.lookup "proto_file_path" = some files ∧ files.IsAtom := by
  unfold filesOf
  cases members.lookup "proto_file_path" with
  | none => simp [Json.elements]
  | some files => cases files <;> simp [Json.elements, Json.IsAtom, eq_comm]

/-- The files of an entry are texts unless they are the items of an array. -/
theorem filesOf_container {members : List (String × Json)} {files : List Json}
    (h : filesOf members = .ok files) {file : Json} (hmem : file ∈ files)
    (hfile : file.IsContainer) : members.lookup "proto_file_path" = some (.arr files) := by
  unfold filesOf at h
  cases hlookup : members.lookup "proto_file_path" with
  | none =>
    rw [hlookup] at h
    cases h
    cases hmem
  | some v =>
    rw [hlookup, Option.getD_some] at h
    cases v with
    | arr items =>
      cases h
      rfl
    | str s =>
      cases h
      obtain rfl := List.mem_singleton.1 hmem
      cases hfile
    | obj members =>
      cases h
      obtain ⟨m, -, rfl⟩ := List.mem_map.1 hmem
      cases hfile
    | null | bool | int | double => cases h

/-- Going through a list meets nothing but values of the wrong kind if its steps do. -/
theorem foldlM_eq_escaped_iff {α : Type} {step : ModuleMap → α → Except (Failure SettingsError) _}
    {p : ModuleMap → α → Prop} {f : Fault}
    (h : ∀ m x, step m x = .error (.escaped f) ↔ f = .wrongType ∧ p m x) {m : ModuleMap}
    {xs : List α} : xs.foldlM step m = .error (.escaped f) ↔
      f = .wrongType ∧ Result.FoldStopsAt step p m xs := by
  rw [Result.foldlM_eq_error_iff]
  simp only [h]
  constructor
  · rintro ⟨before, x, after, m', hxs, hbefore, hf, hx⟩
    exact ⟨hf, before, x, after, m', hxs, hbefore, hx⟩
  · rintro ⟨hf, before, x, after, m', hxs, hbefore, hx⟩
    exact ⟨before, x, after, m', hxs, hbefore, hf, hx⟩

/-- The files of an entry are put under the module that it names. -/
theorem addEntry_of_named {members : List (String × Json)} {module : Json}
    (hname : members.lookup "module_name" = some module) (htruthy : module.truthy = true)
    (path : String) (m : ModuleMap) : addEntry path m (.obj members) =
      Failure.escape (filesOf members) >>= fun files => files.foldlM (claim path module) m := by
  simp [addEntry, hname, htruthy]

/-- An entry that names no module is reported. -/
theorem addEntry_cases (path : String) (m : ModuleMap) (entry : Json) :
    addEntry path m entry = .error (.reported (.unnamedModule path)) ∨
      ∃ members module, entry = .obj members ∧ members.lookup "module_name" = some module ∧
        module.truthy = true := by
  cases entry with
  | obj members =>
    cases hname : members.lookup "module_name" with
    | none => exact .inl (by simp [addEntry, hname, Json.truthy])
    | some module =>
      cases htruthy : module.truthy with
      | false => exact .inl (by simp [addEntry, hname, htruthy])
      | true => exact .inr ⟨members, module, rfl, hname, htruthy⟩
  | _ => exact .inl rfl

/-- Putting the files of an entry under its module lets one of these faults escape, and nothing
else. -/
theorem addEntry_eq_escaped_iff {path : String} {m : ModuleMap} {entry : Json} {f : Fault} :
    addEntry path m entry = .error (.escaped f) ↔ f = .wrongType ∧ EntryEscapes path m entry := by
  have hclaims (module : Json) (files : List Json) :
      files.foldlM (claim path module) m = .error (.escaped f) ↔ f = .wrongType ∧
        Result.FoldStopsAt (claim path module) (fun _ file => file.IsContainer) m files :=
    foldlM_eq_escaped_iff fun _ _ => claim_eq_escaped_iff
  constructor
  · intro h
    obtain hreported | ⟨members, module, rfl, hname, htruthy⟩ := addEntry_cases path m entry
    · rw [hreported] at h
      cases h
    · rw [addEntry_of_named hname htruthy, Result.bind_eq_error_iff, Failure.escape_eq_escaped_iff,
        filesOf_eq_error_iff] at h
      obtain ⟨hf, files, hfiles, hatom⟩ | ⟨files, hfiles, hclaim⟩ := h
      · exact ⟨hf, .notSequence hname htruthy hfiles hatom⟩
      · obtain ⟨hf, hstops⟩ := (hclaims module files).1 hclaim
        have hfilesOf := Failure.escape_eq_ok hfiles
        -- A file that cannot be a key is no text, so the files are the items of an array.
        obtain ⟨before, file, after, m', rfl, -, hfile⟩ := id hstops
        have harray := filesOf_container hfilesOf (by simp) hfile
        exact ⟨hf, .notKey hname htruthy harray hstops⟩
  · rintro ⟨hf, hentry⟩
    cases hentry with
    | notSequence hname htruthy hfiles hatom =>
      rw [addEntry_of_named hname htruthy, filesOf_eq_error_iff.2 ⟨hf, _, hfiles, hatom⟩]
      rfl
    | @notKey members module files hname htruthy hfiles hstops =>
      have hfilesOf : filesOf members = .ok files := by
        rw [filesOf, hfiles]
        rfl
      rw [addEntry_of_named hname htruthy, hfilesOf]
      exact (hclaims module files).2 ⟨hf, hstops⟩

/-- A table is read from the file and made up to the first entry that cannot be put into it. -/
theorem load_eq_escaped_iff {tree : FileTree} {path : String} {f : Fault} :
    load tree path = .error (.escaped f) ↔ Escapes tree path f := by
  have hentries (entries : List Json) : ofEntries path entries = .error (.escaped f) ↔
      f = .wrongType ∧ Result.FoldStopsAt (addEntry path) (EntryEscapes path) [] entries :=
    foldlM_eq_escaped_iff fun _ _ => addEntry_eq_escaped_iff
  unfold load
  rw [Result.bind_eq_error_iff, SettingsFile.readObject_eq_escaped_iff]
  constructor
  · rintro (h | ⟨members, hfile, h⟩)
    · exact .file h
    · split at h
      · next entries hmapping =>
        obtain ⟨rfl, hstops⟩ := (hentries entries).1 h
        refine .entry hfile ?_ hstops
        cases hlookup : members.lookup "mapping" with
        | none =>
          -- Without a mapping there are no entries to stop at.
          rw [hlookup] at hmapping
          cases hmapping
          obtain ⟨before, entry, after, -, hnil, -⟩ := hstops
          simp at hnil
        | some v =>
          rw [hlookup] at hmapping
          exact congrArg some hmapping
      · cases h
  · rintro (h | ⟨hfile, hmapping, hstops⟩)
    · exact .inl h
    · refine .inr ⟨_, hfile, ?_⟩
      rw [hmapping]
      exact (hentries _).2 ⟨rfl, hstops⟩

end ModuleMap

end SchemaToSwift
