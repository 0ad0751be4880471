import SchemaToSwift.Proofs.CommandLine.Reports
import SchemaToSwift.Proofs.FileName
import SchemaToSwift.Proofs.FileTree.Route

/-!
# Where outputs go

The files that a run writes are its own and its outputs. Without their folders the names of outputs
are single components, so all outputs go directly into the folder for them. A name that keeps its
folder leads where that folder does: below the folder for outputs if it stays in it
(`below_output_iff`), which it does unless it starts at a root or goes up (`staysIn_of_up_eq_zero`).
-/

namespace SchemaToSwift.CommandLine

/-- An output is below the folder for outputs, unless its name keeps a folder that does not stay
there. -/
theorem below_output_iff (t : FileTree) (folder : FilePath) (naming : FileNaming) (name : String) :
    Below (t.place folder)
        (t.place (folder.join (.ofText (naming.outputName name FileNaming.swiftEnding)))) ↔
      (naming = .fullPath →
        (FilePath.ofText (FileName.split name).folder).StaysIn (t.place folder)) := by
  by_cases hnaming : naming = .fullPath
  · subst hnaming
    obtain ⟨-, hdot, hup⟩ := FileNaming.append_swiftEnding_ne (FileName.split name).base
    rw [FileNaming.ofText_outputName_fullPath, FileTree.place_join_concat t folder _ _ hdot hup,
      below_concat_iff, t.prefix_place_join_iff folder]
    simp only [true_imp_iff]
  · obtain ⟨base, houtput, -, -⟩ := FileNaming.exists_outputName hnaming name
    obtain ⟨-, hdot, hup⟩ := FileNaming.append_swiftEnding_ne base
    have hfolder : folder.join ⟨.workingFolder, []⟩ = folder := by
      simp [FilePath.join, FilePath.isAbsolute]
    have hplace : t.place (folder.join ⟨.workingFolder, [base ++ FileNaming.swiftEnding]⟩) =
        t.place folder ++ [FilePath.nameOf (base ++ FileNaming.swiftEnding)] := by
      have hconcat := t.place_join_concat folder .workingFolder [] hdot hup
      rwa [hfolder] at hconcat
    rw [FileNaming.ofText_outputName hnaming, houtput, hplace, below_concat_iff]
    simp only [hnaming, List.prefix_rfl, false_imp_iff]

/-- The folder that the name of a schema file begins with. -/
def folderOf (file : String) : FilePath := .ofText (FileName.split file).folder

/-- The place of an output below a folder. -/
def outputPlace (tree : FileTree) (folder output : String) : Location :=
  tree.place ((FilePath.ofText folder).join (.ofText output))

section
variable {tree : FileTree} {args : Arguments}

/-- What changes in a tree of which only the run's own files change. -/
theorem OwnChanges.entry {s : Session} (h : OwnChanges tree args s) (l : Location) :
    s.tree.entry? l = tree.entry? l ∨ OwnPlace tree args s.logFile l :=
  (FileTree.Changes.entry h l).imp_right fun ⟨_, _, hown, _⟩ => hown.1

/-- What changes in the tree of a run that gets through generation. -/
theorem Reports.entry {s : Session} {outcomes : List Outcome} {r : Report}
    (h : Reports tree args s outcomes r) (l : Location) :
    r.session.tree.entry? l = tree.entry? l ∨
      (tree.entry? l = none ∧ r.session.tree.entry? l = some .folder) ∨
      OwnPlace tree args r.session.logFile l ∨
      args.stdout = false ∧ ∃ folder, args.outputDir = .value folder ∧
        ∃ file output content, .generated file output content ∈ outcomes ∧
          outputPlace tree folder output = l := by
  cases hstdout : args.stdout with
  | true => exact ((h.prints hstdout).2.entry l).imp_right fun hown => .inr (.inl hown)
  | false =>
    rcases (h.writes hstdout).2.entry l with hsame | ⟨e, he, hmay, hnew⟩
    · exact .inl hsame
    · rcases hmay with hown | ⟨folder, hfolder, rfl | ⟨o, ho, hplace, -⟩⟩
      · exact .inr (.inr (.inl hown.1))
      · exact .inr (.inl ⟨hnew rfl, he⟩)
      · obtain ⟨file, output, hmem, hpath⟩ := mem_outputs.1 ho
        refine .inr (.inr (.inr ⟨rfl, folder, hfolder, file, output, _, hmem, ?_⟩))
        rw [outputPlace, hpath, hplace]

/-- The output of a file is below the folder for outputs if the folder of the file stays there. -/
theorem GetsThrough.below_iff {settings : Settings} {s : Session} {outcomes : List Outcome}
    (h : GetsThrough tree args settings s outcomes) (folder : String)
    {file output content : String} (hmem : .generated file output content ∈ outcomes) :
    Below (tree.place (.ofText folder)) (outputPlace tree folder output) ↔
      (settings.naming = .fullPath → (folderOf file).StaysIn (tree.place (.ofText folder))) := by
  obtain ⟨-, ⟨-, -, -, hgenerate⟩⟩ := h
  obtain ⟨-, rfl⟩ := Batch.exists_of_generated hgenerate hmem
  exact below_output_iff tree (.ofText folder) settings.naming file

end

/-- For all arguments that can be read and every tree, a run makes new folders and changes its own
files and its outputs alone. An output is below the folder for outputs unless the name of its file
keeps a folder that does not stay there; one that does not start at a root and never goes up from
where it starts stays in every folder. -/
theorem run_outputs_below (tree : FileTree) {argv : List String} {args : Arguments}
    (hargs : Arguments.parse argv = .ok args) :
    (∀ l, (run tree argv).session.tree.entry? l = tree.entry? l ∨
      (tree.entry? l = none ∧ (run tree argv).session.tree.entry? l = some .folder) ∨
      OwnPlace tree args (run tree argv).session.logFile l ∨
      ∃ settings s outcomes folder file output content,
        GetsThrough tree args settings s outcomes ∧ args.stdout = false ∧
        args.outputDir = .value folder ∧ .generated file output content ∈ outcomes ∧
        outputPlace tree folder output = l) ∧
    ∀ settings s outcomes folder file output content,
      GetsThrough tree args settings s outcomes → args.outputDir = .value folder →
      .generated file output content ∈ outcomes →
        (Below (tree.place (.ofText folder)) (outputPlace tree folder output) ↔
          (settings.naming = .fullPath → (folderOf file).StaysIn (tree.place (.ofText folder)))) ∧
        ((folderOf file).isAbsolute = false →
          (FilePath.Route.ofParts (folderOf file).parts).up = 0 →
          Below (tree.place (.ofText folder)) (outputPlace tree folder output)) := by
  constructor
  · intro l
    by_cases hget : ∃ settings s outcomes, GetsThrough tree args settings s outcomes
    · obtain ⟨settings, s, outcomes, hget⟩ := hget
      rcases (reports_of_getsThrough hargs hget).entry l with hsame | hmade | hown |
        ⟨hfiles, folder, hfolder, file, output, content, hmem, hplace⟩
      · exact .inl hsame
      · exact .inr (.inl hmade)
      · exact .inr (.inr (.inl hown))
      · exact .inr (.inr (.inr ⟨settings, s, outcomes, folder, file, output, content, hget, hfiles,
          hfolder, hmem, hplace⟩))
    · exact ((stops_of_not_getsThrough hargs hget).changes.entry l).imp_right fun hown =>
        .inr (.inl hown)
  · intro settings s outcomes folder file output content hget _ hmem
    have hiff := hget.below_iff folder hmem
    exact ⟨hiff, fun hstart hup =>
      hiff.2 fun _ => FilePath.staysIn_of_up_eq_zero hstart hup _⟩

/-! ## A file outside of the folder -/

/-- What the arguments say if they name a descriptor set and a folder. -/
def outArguments : Arguments := { plainArguments "set.json" with outputDir := .value "out" }

theorem parse_outArguments : Arguments.parse ["set.json", "-o", "out"] = .ok outArguments := by
  have htokens : tokens ["set.json", "-o", "out"] =
      .ok [.plain "set.json", .option .outputDir true none, .plain "out"] := rfl
  have hcluster : Arguments.cluster .outputDir true none = .ok ⟨[], some (.outputDir, none)⟩ := by
    simp [Arguments.cluster, Opt.takesValue]
  have hvalue (a : Arguments) :
      a.setValue .outputDir "out" = .ok { a with outputDir := .value "out" } := rfl
  rw [Arguments.parse, htokens]
  simp [Arguments.consume, hcluster, hvalue, Arguments.initial, outArguments, plainArguments]

section
attribute [local semireducible] Text.joinBytes

/-- The output of the file is written beside the folder. -/
theorem writeOutputs_outside {s : Session} (htree : s.tree = blankTree ["../x.proto"])
    (hlog : s.logFile = none) {content : String} (hcontent : Text.hasHalf content = false) :
    ∃ written, writeOutputs s (.ofText "out") [.generated "../x.proto" "../x.pb.swift" content] =
        (written, .ok ()) ∧
      written.tree.entry? ["work", "x.pb.swift"] = some (.text content) := by
  rcases s with ⟨tree, logFile, journal⟩
  obtain rfl : tree = blankTree ["../x.proto"] := htree
  obtain rfl : logFile = none := hlog
  unfold writeOutputs writeOutputs
  dsimp only
  rw [writeOutput_eq _ _ rfl rfl hcontent]
  exact ⟨_, rfl, rfl⟩

theorem place_outside : (blankTree ["../x.proto"]).place (.ofText "out") = ["work", "out"] ∧
    outputPlace (blankTree ["../x.proto"]) "out" "../x.pb.swift" = ["work", "x.pb.swift"] :=
  ⟨rfl, rfl⟩

end

/-- The file is written, though not below the folder: its name goes up a level and does not come
down again. -/
theorem run_outputs_below_outside :
    (run (blankTree ["../x.proto"]) ["set.json", "-o", "out"]).session.tree.entry?
        (outputPlace (blankTree ["../x.proto"]) "out" "../x.pb.swift") =
      some (.text (Schema.blankContent "../x.proto")) ∧
    ¬ Below ((blankTree ["../x.proto"]).place (.ofText "out"))
      (outputPlace (blankTree ["../x.proto"]) "out" "../x.pb.swift") := by
  have hnames : ∀ name ∈ ["../x.proto"], IsPlainName name := by decide
  have houtcomes : Batch.claimAll [] (["../x.proto"].map blankOutcome) =
      [.generated "../x.proto" "../x.pb.swift" (Schema.blankContent "../x.proto")] := rfl
  have hgenerated := generates_blankTree outArguments hnames rfl rfl rfl
  rw [houtcomes] at hgenerated
  obtain ⟨s, htree, hlog, hgenerates⟩ := hgenerated
  have hcontent : Text.hasHalf (Schema.blankContent "../x.proto") = false :=
    Schema.hasHalf_blankContent (by decide)
  obtain ⟨written, hwrite, hentry⟩ := writeOutputs_outside htree hlog hcontent
  have hget : GetsThrough (blankTree ["../x.proto"]) outArguments .default s
      [.generated "../x.proto" "../x.pb.swift" (Schema.blankContent "../x.proto")] :=
    .intro rfl hgenerates
  obtain ⟨hiff, -⟩ := (run_outputs_below (blankTree ["../x.proto"]) parse_outArguments).2
    _ _ _ "out" _ _ _ hget rfl (.head _)
  constructor
  · have hrun : run (blankTree ["../x.proto"]) ["set.json", "-o", "out"] =
        deliver outArguments s
          [.generated "../x.proto" "../x.pb.swift" (Schema.blankContent "../x.proto")] := by
      rw [run, parse_outArguments]
      exact hgenerates.runWith_eq
    rw [hrun, deliver_of_written rfl rfl hwrite, place_outside.2]
    exact hentry
  · rw [hiff, place_outside.1]
    intro hstays
    cases hstays rfl with
    | relative _ hdown => exact absurd hdown (by decide)
    | absolute hstart => cases hstart

end SchemaToSwift.CommandLine
