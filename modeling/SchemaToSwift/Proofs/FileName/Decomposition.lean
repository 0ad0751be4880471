import SchemaToSwift.Proofs.FileName

/-!
# The decomposition of a file name

`Decomposes` says which three texts the parts of a file name are, without saying how they are found.
There is one such decomposition of every name, the one that cutting at the last slash and then at
the last dot gives (`eq_split_iff`).
-/

namespace SchemaToSwift.FileName

/-- The parts make up the name. The folder is empty or ends with a slash, and there is no slash
after it. The suffix begins with the only dot in it and has something before it; there is none if no
dot comes after the first character of the base. -/
structure Decomposes (name : String) (n : FileName) : Prop where
  joined : n.folder ++ n.base ++ n.suffix = name
  folder : n.folder = "" ∨ n.folder.toList.getLast? = some '/'
  rest : '/' ∉ (n.base ++ n.suffix).toList
  suffix : n.suffix = "" ∧ '.' ∉ n.base.toList.drop 1 ∨
    n.base ≠ "" ∧ ∃ after, n.suffix.toList = '.' :: after ∧ '.' ∉ after

/-! ## The folder -/

/-- A name is cut after its last slash, or before its first character if it has none. -/
structure CutsFolder (name folder rest : List Char) : Prop where
  joined : folder ++ rest = name
  folder : folder = [] ∨ folder.getLast? = some '/'
  rest : '/' ∉ rest

/-- A name is cut at its last slash, if it has one. -/
theorem exists_cutsFolder (name : List Char) : ∃ folder rest, CutsFolder name folder rest := by
  rcases Text.cutLast_cases '/' name with ⟨hslash, -⟩ | ⟨before, rest, hslash, hname, -⟩
  · exact ⟨[], name, rfl, .inl rfl, hslash⟩
  · exact ⟨before ++ ['/'], rest, by simp [hname], .inr List.getLast?_concat, hslash⟩

/-- Wherever the folder of a name ends, it is the one that is cut off. -/
theorem CutsFolder.split_eq {name folder rest : List Char} (h : CutsFolder name folder rest) :
    split (String.ofList name) = ofRest folder rest := by
  rw [split, String.toList_ofList, ← h.joined]
  rcases h.folder with rfl | hlast
  · rw [List.nil_append, Text.cutLast_of_not_mem h.rest]
    rfl
  · obtain ⟨before, rfl⟩ := List.getLast?_eq_some_iff.1 hlast
    rw [List.append_assoc, List.singleton_append, Text.cutLast_append_cons before h.rest]
    rfl

/-! ## The suffix -/

/-- What comes after the folder is cut before its last dot, unless it has none or begins with it. -/
structure CutsSuffix (rest base suffix : List Char) : Prop where
  joined : base ++ suffix = rest
  suffix : suffix = [] ∧ '.' ∉ base.drop 1 ∨
    base ≠ [] ∧ ∃ after, suffix = '.' :: after ∧ '.' ∉ after

/-- What is left is cut at its last dot, if it has one. -/
theorem exists_cutsSuffix (rest : List Char) : ∃ base suffix, CutsSuffix rest base suffix := by
  rcases Text.cutLast_cases '.' rest with ⟨hdot, -⟩ | ⟨_ | ⟨c, base⟩, after, hdot, hrest, -⟩
  · exact ⟨rest, [], List.append_nil rest, .inl ⟨rfl, fun hmem => hdot (List.mem_of_mem_drop hmem)⟩⟩
  · exact ⟨rest, [], List.append_nil rest, .inl ⟨rfl, by simpa [hrest] using hdot⟩⟩
  · exact ⟨c :: base, '.' :: after, hrest.symm, .inr ⟨List.cons_ne_nil c base, after, rfl, hdot⟩⟩

/-- Wherever the suffix begins, it is the one that is cut off. -/
theorem CutsSuffix.ofRest_eq {rest base suffix : List Char} (h : CutsSuffix rest base suffix)
    (folder : List Char) :
    ofRest folder rest = ⟨String.ofList folder, String.ofList base, String.ofList suffix⟩ := by
  rw [ofRest, ← h.joined]
  rcases h.suffix with ⟨rfl, hdot⟩ | ⟨hbase, after, rfl, hdot⟩
  · rw [List.append_nil]
    -- A dot in the base is its first character, and then there is nothing before it to be a base.
    rcases base with _ | ⟨c, base⟩
    · rfl
    · rw [List.drop_one, List.tail_cons] at hdot
      by_cases hc : c = '.'
      · subst hc
        have hcut : Text.cutLast '.' ('.' :: base) = (some [], base) :=
          Text.cutLast_append_cons [] hdot
        rw [hcut]
      · have hnone : '.' ∉ c :: base := by simp [Ne.symm hc, hdot]
        rw [Text.cutLast_of_not_mem hnone]
  · obtain ⟨c, base, rfl⟩ := List.exists_cons_of_ne_nil hbase
    rw [Text.cutLast_append_cons (c :: base) hdot]

/-! ## Names -/

/-- The parts of a name decompose it, and nothing else does. -/
theorem eq_split_iff (name : String) (n : FileName) : n = split name ↔ Decomposes name n := by
  constructor
  · rintro rfl
    obtain ⟨folder, rest, hfolder⟩ := exists_cutsFolder name.toList
    obtain ⟨base, suffix, hsuffix⟩ := exists_cutsSuffix rest
    have hparts := hfolder.split_eq
    rw [String.ofList_toList, hsuffix.ofRest_eq] at hparts
    rw [hparts]
    constructor
    case joined =>
      rw [← String.ofList_append, ← String.ofList_append, List.append_assoc, hsuffix.joined,
        hfolder.joined, String.ofList_toList]
    case folder => simpa using hfolder.folder
    case rest => simpa [← hsuffix.joined] using hfolder.rest
    case suffix => simpa using hsuffix.suffix
  · intro h
    obtain ⟨folder, base, suffix⟩ := n
    have hfolder : CutsFolder name.toList folder.toList (base.toList ++ suffix.toList) :=
      ⟨by simp [← h.joined], by simpa using h.folder, by simpa using h.rest⟩
    have hsuffix : CutsSuffix (base.toList ++ suffix.toList) base.toList suffix.toList :=
      ⟨rfl, by simpa using h.suffix⟩
    have hparts := hfolder.split_eq
    rw [String.ofList_toList, hsuffix.ofRest_eq] at hparts
    simpa using hparts.symm

/-- The first dot of a hidden file begins no suffix, and a dot in a folder none either. -/
example : split "a.b/.c.d.e" = ⟨"a.b/", ".c.d", ".e"⟩ := by decide

end SchemaToSwift.FileName
