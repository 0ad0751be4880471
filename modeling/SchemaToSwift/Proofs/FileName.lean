import SchemaToSwift.FileName
import SchemaToSwift.Proofs.FileTree.Place
import SchemaToSwift.Proofs.Text.Dotted

/-!
# Names of output files

A file name is cut into its folder and the rest, where the folder is empty or ends with its slash
(`FileName.split_spec`). So the name of an output file is one component after those of the folder,
or one component alone if folders are not kept. That component is a name in any case, and the others
are those of the file: `FileNaming.isNormal_outputName`.
-/

namespace SchemaToSwift

/-- The parts of a file name: what comes after the folder has no slash and is one component. -/
structure FileName.Splits (name : String) (n : FileName) : Prop where
  joined : n.folder.toList ++ (n.base.toList ++ n.suffix.toList) = name.toList
  base : '/' ∉ n.base.toList
  suffix : '/' ∉ n.suffix.toList
  /-- The components of the folder are the same whatever comes after it. -/
  folder : ∃ before, ∀ last, '/' ∉ last →
    Text.splitAt '/' (n.folder.toList ++ last) = before ++ [last]

namespace FileName

/-- The parts of a name whose folder has been cut off. -/
def ofRest (folder rest : List Char) : FileName :=
  match Text.cutLast '.' rest with
  | (some (c :: base), after) =>
    ⟨String.ofList folder, String.ofList (c :: base), String.ofList ('.' :: after)⟩
  | _ => ⟨String.ofList folder, String.ofList rest, ""⟩

theorem splits_ofRest {name : String} {folder rest : List Char}
    (hname : folder ++ rest = name.toList) (hslash : '/' ∉ rest)
    (hfolder : ∃ before, ∀ last, '/' ∉ last →
      Text.splitAt '/' (folder ++ last) = before ++ [last]) : Splits name (ofRest folder rest) := by
  obtain ⟨base, suffix, hrest, hparts⟩ : ∃ base suffix, rest = base ++ suffix ∧
      ofRest folder rest = ⟨String.ofList folder, String.ofList base, String.ofList suffix⟩ := by
    unfold ofRest
    rcases Text.cutLast_cases '.' rest with ⟨-, hdot⟩ | ⟨_ | ⟨c, base⟩, after, -, hrest, hdot⟩
    · exact ⟨rest, [], (List.append_nil _).symm, by rw [hdot]⟩
    · exact ⟨rest, [], (List.append_nil _).symm, by rw [hdot]⟩
    · exact ⟨c :: base, '.' :: after, hrest, by rw [hdot]⟩
  rw [hparts]
  rw [hrest, List.mem_append, not_or] at hslash
  constructor
  · simp only [String.toList_ofList, ← hrest, hname]
  · simpa using hslash.1
  · simpa using hslash.2
  · simpa using hfolder

/-- A file name is split into its parts. -/
theorem split_spec (name : String) : Splits name (split name) := by
  unfold split
  rcases Text.cutLast_cases '/' name.toList with ⟨hno, hcut⟩ | ⟨xs, ys, hys, hname, hcut⟩
  · rw [hcut]
    exact splits_ofRest (List.nil_append _) hno ⟨[], fun _ => Text.splitAt_of_not_mem⟩
  · have hjoined : (xs ++ ['/']) ++ ys = name.toList := by
      rw [List.append_assoc, List.singleton_append, hname]
    rw [hcut]
    refine splits_ofRest hjoined hys ⟨Text.splitAt '/' xs, fun last hlast => ?_⟩
    rw [List.append_assoc, List.singleton_append, Text.splitAt_append_cons,
      Text.splitAt_of_not_mem hlast]

end FileName

namespace FileNaming

/-- The ending of generated files is longer than any component that leads nowhere or up. -/
theorem append_swiftEnding_ne (base : String) :
    base ++ swiftEnding ≠ "" ∧ base ++ swiftEnding ≠ "." ∧ base ++ swiftEnding ≠ ".." := by
  have hlong : 3 ≤ (base ++ swiftEnding).toList.length := by
    have hending : swiftEnding.toList.length = 9 := by decide
    rw [String.toList_append, List.length_append, hending]
    omega
  refine ⟨?_, ?_, ?_⟩
  all_goals
    intro h
    rw [h] at hlong
    exact absurd hlong (by decide)

/-- A component with the ending of generated files is a name. -/
theorem isName_append_swiftEnding {base : String} (hmark : Text.mark ∉ base.toList) :
    FilePath.IsName (base ++ swiftEnding) := by
  obtain ⟨hempty, hdot, hup⟩ := append_swiftEnding_ne base
  refine ⟨hempty, hdot, hup, FilePath.nameOf_of_noMark ?_⟩
  rw [String.toList_append, List.mem_append, not_or]
  exact ⟨hmark, by decide⟩

theorem slash_not_mem_append {base : String} (h : '/' ∉ base.toList) :
    '/' ∉ (base ++ swiftEnding).toList := by
  rw [String.toList_append, List.mem_append, not_or]
  exact ⟨h, by decide⟩

/-- One component with the ending of generated files is normal. -/
theorem isNormal_append_swiftEnding {base : String} (hslash : '/' ∉ base.toList)
    (hmark : Text.mark ∉ base.toList) : FilePath.IsNormal (base ++ swiftEnding) := by
  intro part hpart
  rw [Text.parts, Text.splitAt_of_not_mem (slash_not_mem_append hslash), List.map_singleton,
    String.ofList_toList, List.mem_singleton] at hpart
  exact hpart ▸ isName_append_swiftEnding hmark

/-- If folders are not kept, the name of an output file is one component with the ending, and has
no mark that the name of the file does not have. -/
theorem exists_outputName {naming : FileNaming} (hnaming : naming ≠ .fullPath) (name : String) :
    ∃ base : String, naming.outputName name swiftEnding = base ++ swiftEnding ∧
      '/' ∉ base.toList ∧ (Text.mark ∉ name.toList → Text.mark ∉ base.toList) := by
  obtain ⟨hjoined, hbase, -, -⟩ := FileName.split_spec name
  have hmarks (hmark : Text.mark ∉ name.toList) :
      Text.mark ∉ (FileName.split name).folder.toList ∧
        Text.mark ∉ (FileName.split name).base.toList := by
    rw [← hjoined, List.mem_append, List.mem_append, not_or, not_or] at hmark
    exact ⟨hmark.1, hmark.2.1⟩
  cases naming with
  | fullPath => exact absurd rfl hnaming
  | dropPath => exact ⟨_, rfl, hbase, fun hmark => (hmarks hmark).2⟩
  | pathToUnderscores =>
    have hfolded : ∀ c ∈ (FileName.split name).folder.toList.map fun c =>
        if c == '/' then '_' else c,
        c ≠ '/' ∧ (c = Text.mark → c ∈ (FileName.split name).folder.toList) := by
      intro c hc
      obtain ⟨d, hd, rfl⟩ := List.mem_map.1 hc
      by_cases hslash : d = '/'
      · rw [if_pos (beq_iff_eq.2 hslash)]
        exact ⟨by decide, fun hmark => absurd hmark (by decide)⟩
      · rw [if_neg (mt beq_iff_eq.1 hslash)]
        exact ⟨hslash, fun _ => hd⟩
    refine ⟨_, rfl, ?_, fun hmark => ?_⟩
    · rw [String.toList_append, String.toList_ofList, List.mem_append, not_or]
      exact ⟨fun h => (hfolded _ h).1 rfl, hbase⟩
    · rw [String.toList_append, String.toList_ofList, List.mem_append, not_or]
      exact ⟨fun h => (hmarks hmark).1 ((hfolded _ h).2 rfl), (hmarks hmark).2⟩

/-- If folders are kept, the name of an output file has the components of the folder before the last
one. -/
theorem parts_outputName (name : String) : ∃ before : List String,
    Text.parts '/' (FileName.split name).folder = before ++ [""] ∧
      (∃ last, Text.parts '/' name = before ++ [last]) ∧
      Text.parts '/' (FileNaming.fullPath.outputName name swiftEnding) =
        before ++ [(FileName.split name).base ++ swiftEnding] := by
  obtain ⟨hjoined, hbase, hsuffix, before, hfolder⟩ := FileName.split_spec name
  refine ⟨before.map String.ofList, ?_, ⟨(FileName.split name).withoutFolder, ?_⟩, ?_⟩
  · have hempty := hfolder [] (by simp)
    rw [List.append_nil] at hempty
    rw [Text.parts, hempty, List.map_append]
    rfl
  · have hrest : '/' ∉ (FileName.split name).withoutFolder.toList := by
      rw [FileName.withoutFolder, String.toList_append, List.mem_append, not_or]
      exact ⟨hbase, hsuffix⟩
    rw [Text.parts, ← hjoined, ← String.toList_append, ← FileName.withoutFolder, hfolder _ hrest,
      List.map_append, List.map_singleton, String.ofList_toList]
  · rw [Text.parts, outputName, String.append_assoc, String.toList_append,
      hfolder _ (slash_not_mem_append hbase), List.map_append, List.map_singleton,
      String.ofList_toList]

/-- What comes after the folder says nothing of where a path starts. -/
theorem start_append {last : String} (hlast : '/' ∉ last.toList) (folder : String) :
    PathStart.ofText (folder ++ last) = PathStart.ofText folder := by
  have hrest : last.toList.takeWhile (· == '/') = [] := by
    cases hchars : last.toList with
    | nil => rfl
    | cons c rest =>
      rw [hchars, List.mem_cons, not_or] at hlast
      rw [List.takeWhile_cons_of_neg (by simpa using Ne.symm hlast.1)]
  have hslashes (cs : List Char) :
      (cs ++ last.toList).takeWhile (· == '/') = cs.takeWhile (· == '/') := by
    induction cs with
    | nil => exact hrest
    | cons c rest ih => rw [List.cons_append, List.takeWhile_cons, List.takeWhile_cons, ih]
  rw [PathStart.ofText, PathStart.ofText, String.toList_append, hslashes]

/-- If folders are not kept, the path of an output file is one component. -/
theorem ofText_outputName {naming : FileNaming} (hnaming : naming ≠ .fullPath) (name : String) :
    FilePath.ofText (naming.outputName name swiftEnding) =
      ⟨.workingFolder, [naming.outputName name swiftEnding]⟩ := by
  obtain ⟨base, houtput, hslash, -⟩ := exists_outputName hnaming name
  obtain ⟨hempty, hdot, -⟩ := append_swiftEnding_ne base
  have hlast := slash_not_mem_append hslash
  have hstart : PathStart.ofText (base ++ swiftEnding) = .workingFolder := by
    rw [← String.empty_append (s := base ++ swiftEnding), start_append hlast]
    rfl
  rw [houtput, FilePath.ofText, hstart, Text.parts, Text.splitAt_of_not_mem hlast]
  simp [hempty, hdot]

/-- If folders are kept, the path of an output file goes one component down from the folder. -/
theorem ofText_outputName_fullPath (name : String) :
    FilePath.ofText (FileNaming.fullPath.outputName name swiftEnding) =
      ⟨(FilePath.ofText (FileName.split name).folder).start,
        (FilePath.ofText (FileName.split name).folder).parts ++
          [(FileName.split name).base ++ swiftEnding]⟩ := by
  obtain ⟨before, hfolder, -, houtput⟩ := parts_outputName name
  obtain ⟨hempty, hdot, -⟩ := append_swiftEnding_ne (FileName.split name).base
  have hbase := slash_not_mem_append (FileName.split_spec name).base
  rw [FilePath.ofText, FilePath.ofText, houtput, hfolder, outputName, String.append_assoc,
    start_append hbase]
  simp [List.filter_append, hempty, hdot]

/-- The name of an output file consists of names if that of the file does, or if folders are not
kept. -/
theorem isNormal_outputName (naming : FileNaming) {name : String} (hmark : Text.mark ∉ name.toList)
    (hname : naming = .fullPath → FilePath.IsNormal name) :
    FilePath.IsNormal (naming.outputName name swiftEnding) := by
  by_cases hnaming : naming = .fullPath
  · subst hnaming
    obtain ⟨before, -, ⟨last, hparts⟩, houtput⟩ := parts_outputName name
    have hmarkBase : Text.mark ∉ (FileName.split name).base.toList := by
      rw [← (FileName.split_spec name).joined] at hmark
      simp only [List.mem_append, not_or] at hmark
      exact hmark.2.1
    intro part hpart
    rw [houtput, List.mem_append, List.mem_singleton] at hpart
    rcases hpart with hpart | rfl
    · refine hname rfl part ?_
      rw [hparts]
      exact List.mem_append_left _ hpart
    · exact isName_append_swiftEnding hmarkBase
  · obtain ⟨base, houtput, hslash, hbase⟩ := exists_outputName hnaming name
    rw [houtput]
    exact isNormal_append_swiftEnding hslash (hbase hmark)

end FileNaming

end SchemaToSwift
