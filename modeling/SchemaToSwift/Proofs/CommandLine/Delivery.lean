import SchemaToSwift.Proofs.CommandLine.Blank
import SchemaToSwift.Proofs.CommandLine.Outputs
import SchemaToSwift.Proofs.FileName

/-!
# What a run delivers

A run that writes files and ends well has gone through all its stages (`Completes`). The files that
it leaves are found at the paths of its outputs, but an output whose place a later one has is
overwritten without a word: collisions are told by the texts of output names, and different texts
can be paths to one place. `Delivers` says when each output is found as it was generated, and that
it is if all output names consist of names.
-/

namespace SchemaToSwift.CommandLine

/-! ## The stages of a run -/

/-- The stages of a run that writes its files and ends well, and its report. -/
inductive Completes (args : Arguments) (s : Session) : Report → Prop
  | intro {loaded saved read written : Session} {settings : Settings} {set : SchemaSet}
    {outcomes : List Outcome} {folder : String}
    (hfiles : args.stdout = false) (hfolder : args.outputDir = .value folder)
    (hsettings : Settings.loadIn s args.sources = (loaded, .ok settings))
    (hsave : saveSettings args settings loaded = (saved, .ok ()))
    (hset : SchemaSet.loadIn saved (args.descriptorSet.getD "") = (read, .ok set))
    (hgenerate : Batch.generate settings set.wanted set.files = .ok outcomes)
    (hwrite : writeOutputs (read.tellAll (Batch.events settings set.wanted set.files))
      (.ofText folder) outcomes = (written, .ok ()))
    (hcode : exitCode outcomes = 0) (hshown : Status.Table.present (summary outcomes) = .ok ()) :
    Completes args s ⟨.exit 0, "", written, none, outcomes⟩

/-- A delivery that ends well has written all outputs and shown the table. -/
theorem exists_of_deliver {args : Arguments} {s : Session} {outcomes : List Outcome}
    (hfiles : args.stdout = false) (h : (deliver args s outcomes).ending = .exit 0) :
    ∃ folder written, args.outputDir = .value folder ∧
      writeOutputs s (.ofText folder) outcomes = (written, .ok ()) ∧ exitCode outcomes = 0 ∧
      Status.Table.present (summary outcomes) = .ok () ∧
      deliver args s outcomes = ⟨.exit 0, "", written, none, outcomes⟩ := by
  unfold deliver at h ⊢
  rw [hfiles] at h ⊢
  simp only [Bool.false_eq_true, if_false] at h ⊢
  cases hfolder : args.outputDir with
  | nothing | blank => simp [hfolder, Report.finish] at h
  | value folder =>
    rw [hfolder] at h
    dsimp only at h ⊢
    rcases hwrite : writeOutputs s (.ofText folder) outcomes with ⟨written, result⟩
    rw [hwrite] at h
    cases result with
    | error e =>
      exfalso
      dsimp only at h
      split at h
      · cases h
      · cases h
      · exact absurd (code_of_after h) (by decide)
    | ok u =>
      dsimp only [Report.finish, Ending.after] at h ⊢
      cases hshown : Status.Table.present (summary outcomes) with
      | error f => simp [hshown] at h
      | ok u =>
        rw [hshown] at h
        have hcode : exitCode outcomes = 0 := by simpa using h
        exact ⟨folder, written, rfl, hwrite, hcode, rfl, by rw [hcode]⟩

/-- A run that ends well has gone through all stages. -/
theorem completes_of_exit {args : Arguments} {s : Session} (hfiles : args.stdout = false)
    (h : (runWith args s).ending = .exit 0) : Completes args s (runWith args s) := by
  have hown : OwnChanges s.tree args s := .refl _
  rcases generates_or_stops hown with ⟨settings, s', outcomes, hgenerates, hrun⟩ | hstops
  · rw [hrun] at h ⊢
    obtain ⟨folder, written, hfolder, hwrite, hcode, hshown, hreport⟩ := exists_of_deliver hfiles h
    rw [hreport]
    cases hgenerates with
    | intro hsettings hsave hset hgenerate =>
      exact .intro hfiles hfolder hsettings hsave hset hgenerate hwrite hcode hshown
  · exact absurd (hstops.code 0 h) (by decide)

/-- A run that goes through all stages ends well. -/
theorem Completes.runWith_eq {args : Arguments} {s : Session} {r : Report}
    (h : Completes args s r) : runWith args s = r := by
  cases h with
  | intro hfiles hfolder hsettings hsave hset hgenerate hwrite hcode hshown =>
    simp [runWith, loadSet, generate, deliver, Report.finish, Ending.after, *]

theorem Completes.exists_folder {args : Arguments} {s : Session} {r : Report}
    (h : Completes args s r) : ∃ folder, args.outputDir = .value folder := by
  cases h with
  | intro _ hfolder => exact ⟨_, hfolder⟩

/-- With the arguments read, a run opens its log, or the fault of that ends it. -/
theorem run_of_parse (tree : FileTree) {argv : List String} {args : Arguments}
    (h : Arguments.parse argv = .ok args) :
    (∃ fault, (run tree argv).ending = .fault fault) ∨ ∃ s, run tree argv = runWith args s := by
  unfold run
  rw [h]
  dsimp only
  cases openLog tree args.logFile with
  | error fault => exact .inl ⟨fault, rfl⟩
  | ok opened => exact .inr ⟨_, rfl⟩

/-! ## What is delivered -/

/-- The folder for output files that arguments name. -/
def outputFolder (argv : List String) : FilePath :=
  match Arguments.parse argv with
  | .ok args => .ofText (args.outputDir.value?.getD "")
  | .error _ => .ofText ""

namespace Report

/-- The outputs of a run below a folder. -/
def outputs (r : Report) (folder : FilePath) : List (FilePath × String) :=
  CommandLine.outputs folder r.outcomes

/-- Whether an output is found as it was generated. -/
def Keeps (r : Report) (o : FilePath × String) : Prop := r.session.tree.read o.1 = .ok o.2

/-- What a run leaves of its outputs. -/
structure Delivers (r : Report) (folder : FilePath) : Prop where
  generated : ∀ o ∈ r.outcomes, o.isGenerated = true
  /-- At the path of an output stands the last one that has its place. -/
  last : ∀ o ∈ r.outputs folder, ∃ content,
    lastTo r.session.tree (r.outputs folder) (r.session.tree.place o.1) = some content ∧
      r.session.tree.read o.1 = .ok content
  /-- So all outputs are found if and only if those of one place are the same. -/
  keeps_iff : (∀ o ∈ r.outputs folder, r.Keeps o) ↔
    ∀ a ∈ r.outputs folder, ∀ b ∈ r.outputs folder,
      r.session.tree.place a.1 = r.session.tree.place b.1 → a.2 = b.2
  /-- All are found if the output names consist of names. -/
  keeps_of_isNormal : (∀ file output content, .generated file output content ∈ r.outcomes →
    FilePath.IsNormal output) → ∀ o ∈ r.outputs folder, r.Keeps o

end Report

/-- A run that goes through all stages delivers its outputs, apart from the log file. -/
theorem Completes.delivers {args : Arguments} {s : Session} {r : Report} {folder : String}
    (h : Completes args s r) (hfolder : args.outputDir = .value folder)
    (hlog : ∀ o ∈ r.outputs (.ofText folder), r.session.logFile ≠ some (r.session.tree.place o.1)) :
    r.Delivers (.ofText folder) := by
  cases h with
  | intro hfiles hfolder' _ _ _ hgenerate hwrite hcode =>
    obtain rfl := Given.value.inj (hfolder'.symm.trans hfolder)
    have hwrote := wrote_of_writeOutputs hwrite
    have hplace := funext hwrote.grows.place
    simp only [hwrote.logFile, hplace] at hlog
    have hiff := hwrote.read_iff hlog
    constructor
    case generated => simpa [exitCode] using hcode
    case last =>
      intro o ho
      obtain ⟨last, -, -, hlast, hread⟩ := hwrote.read hlog ho
      refine ⟨last.2, ?_, hread⟩
      dsimp only
      rwa [lastTo_congr hwrote.grows.place, hplace]
    case keeps_iff =>
      dsimp only [Report.Keeps]
      rwa [hplace]
    case keeps_of_isNormal =>
      intro hnormal
      refine hiff.2 fun a ha b hb hab => ?_
      obtain ⟨file, output, hmem, hpath⟩ := mem_outputs.1 ha
      obtain ⟨file', output', hmem', hpath'⟩ := mem_outputs.1 hb
      rw [← hpath, ← hpath'] at hab
      obtain rfl := FileTree.place_join_inj _ (hnormal _ _ _ hmem) (hnormal _ _ _ hmem') hab
      have heq := Batch.eq_of_output?_eq hgenerate hmem hmem' rfl rfl
      exact (Outcome.generated.inj heq).2.2

/-- A run without outputs delivers them. -/
theorem Report.delivers_of_nil {r : Report} (h : r.outcomes = []) (folder : FilePath) :
    r.Delivers folder := by
  have hnone : r.outputs folder = [] := by rw [outputs, h]; rfl
  constructor <;> simp [hnone, h]

/-- The output name of a generated file consists of names if the name of the file does. -/
theorem isNormal_of_generated {settings : Settings} {wanted : Option (List String)}
    {files : List Schema} {outcomes : List Outcome}
    (h : Batch.generate settings wanted files = .ok outcomes)
    {file output content : String} (hmem : .generated file output content ∈ outcomes)
    (hmark : Text.mark ∉ file.toList) (hfile : FilePath.IsNormal file) :
    FilePath.IsNormal output := by
  obtain ⟨-, rfl⟩ := Batch.exists_of_generated h hmem
  exact FileNaming.isNormal_outputName _ hmark fun _ => hfile

/-- A run that goes through all stages keeps its outputs if the names of its files consist of
names. -/
theorem Completes.keeps {args : Arguments} {s : Session} {r : Report} {folder : FilePath}
    (h : Completes args s r) (hdelivers : r.Delivers folder)
    (hfiles : ∀ o ∈ r.outcomes, Text.mark ∉ o.file.toList ∧ FilePath.IsNormal o.file) :
    ∀ o ∈ r.outputs folder, r.Keeps o := by
  refine hdelivers.keeps_of_isNormal fun file output content hmem => ?_
  obtain ⟨hmark, hnormal⟩ := hfiles _ hmem
  cases h with
  | intro _ _ _ _ _ hgenerate _ _ => exact isNormal_of_generated hgenerate hmem hmark hnormal

/-! ## Two files with one place -/

/-- A descriptor set of two files whose names differ by a slash. -/
def slashSet : Json := .arr [.obj [("name", .str "a//b.proto")], .obj [("name", .str "a/b.proto")]]

/-- A tree with that descriptor set in its working folder. -/
def slashTree : FileTree :=
  (FileTree.empty ["work"]).put ["work", "set.json"] (.text (slashSet.write .compact))

/-- The outcomes of the two files with some contents. -/
def slashOutcomes (first second : String) : List Outcome :=
  [.generated "a//b.proto" "a//b.pb.swift" first, .generated "a/b.proto" "a/b.pb.swift" second]

theorem slashTree_eq : slashTree = blankTree ["a//b.proto", "a/b.proto"] := rfl

section
attribute [local semireducible] Text.joinBytes

/-- Both outputs are written, whatever they hold. -/
theorem writeOutputs_slashTree {s : Session} (htree : s.tree = slashTree) (hlog : s.logFile = none)
    {first second : String} (hfirst : Text.hasHalf first = false)
    (hsecond : Text.hasHalf second = false) :
    ∃ written, writeOutputs s (.ofText ".") (slashOutcomes first second) = (written, .ok ()) ∧
      written.logFile = none := by
  rcases s with ⟨tree, logFile, journal⟩
  obtain rfl : tree = slashTree := htree
  obtain rfl : logFile = none := hlog
  unfold slashOutcomes writeOutputs writeOutputs writeOutputs
  dsimp only
  rw [writeOutput_eq _ _ rfl rfl hfirst]
  dsimp only
  rw [writeOutput_eq _ _ rfl rfl hsecond]
  exact ⟨_, rfl, rfl⟩

end

/-- Runs on the descriptor set with plain settings get through generation. -/
theorem generates_slashTree (args : Arguments)
    (hsources : args.sources = (plainArguments "set.json").sources)
    (hsave : args.saveConfig = .nothing) (hset : args.descriptorSet = some "set.json") :
    ∃ s : Session, s.tree = slashTree ∧ s.logFile = none ∧
      Generates args (.start slashTree) .default s
        (slashOutcomes (Schema.blankContent "a//b.proto") (Schema.blankContent "a/b.proto")) := by
  have hnames : ∀ name ∈ ["a//b.proto", "a/b.proto"], IsPlainName name := by decide
  have houtcomes : ["a//b.proto", "a/b.proto"].map blankOutcome =
      slashOutcomes (Schema.blankContent "a//b.proto") (Schema.blankContent "a/b.proto") := rfl
  have hclaimed (first second : String) :
      Batch.claimAll [] (slashOutcomes first second) = slashOutcomes first second := rfl
  have hgenerates := generates_blankTree args hnames hsources hsave hset
  rwa [← slashTree_eq, houtcomes, hclaimed] at hgenerates

/-- The run on the descriptor set ends well. -/
theorem completes_slashTree : ∃ written, written.logFile = none ∧
    Completes (plainArguments "set.json") (.start slashTree) ⟨.exit 0, "", written, none,
      slashOutcomes (Schema.blankContent "a//b.proto") (Schema.blankContent "a/b.proto")⟩ := by
  obtain ⟨s, htree, hlog, hgenerates⟩ :=
    generates_slashTree (plainArguments "set.json") rfl rfl rfl
  have hfirst : Text.hasHalf (Schema.blankContent "a//b.proto") = false :=
    Schema.hasHalf_blankContent (by decide)
  have hsecond : Text.hasHalf (Schema.blankContent "a/b.proto") = false :=
    Schema.hasHalf_blankContent (by decide)
  obtain ⟨written, hwrite, hwritten⟩ := writeOutputs_slashTree htree hlog hfirst hsecond
  have hshown (first second : String) :
      Status.Table.present (summary (slashOutcomes first second)) =
        Status.Table.present (summary (slashOutcomes "" "")) := rfl
  cases hgenerates with
  | intro hsettings hsave hset hgenerate =>
    refine ⟨written, hwritten,
      .intro rfl rfl hsettings hsave hset hgenerate hwrite rfl ((hshown _ _).trans ?_)⟩
    decide +kernel

/-! ## What every run delivers -/

/-- A run that writes files and ends well delivers its outputs, unless one of them has the place of
the log file, and it keeps all of them if the names of its files consist of names. -/
theorem delivers_of_exit (tree : FileTree) (argv : List String)
    (hfiles : ∀ args, Arguments.parse argv = .ok args → args.stdout = false)
    (hexit : (run tree argv).ending = .exit 0)
    (hlog : ∀ o ∈ (run tree argv).outputs (outputFolder argv),
      (run tree argv).session.logFile ≠ some ((run tree argv).session.tree.place o.1)) :
    (run tree argv).Delivers (outputFolder argv) ∧
      ((∀ o ∈ (run tree argv).outcomes, Text.mark ∉ o.file.toList ∧ FilePath.IsNormal o.file) →
        ∀ o ∈ (run tree argv).outputs (outputFolder argv), (run tree argv).Keeps o) := by
  cases hparse : Arguments.parse argv with
  | error stop =>
    have hnone : (run tree argv).outcomes = [] := by
      rw [run, hparse]
      cases stop <;> rfl
    have hdelivers := Report.delivers_of_nil hnone (outputFolder argv)
    exact ⟨hdelivers, fun _ => hdelivers.keeps_of_isNormal (by simp [hnone])⟩
  | ok args =>
    rcases run_of_parse tree hparse with ⟨fault, hfault⟩ | ⟨s, hrun⟩
    · rw [hfault] at hexit
      cases hexit
    · rw [hrun] at hexit hlog ⊢
      have hcompletes := completes_of_exit (hfiles args hparse) hexit
      obtain ⟨folder, hfolder⟩ := hcompletes.exists_folder
      have houtput : outputFolder argv = .ofText folder := by
        rw [outputFolder, hparse]
        dsimp only
        rw [hfolder]
        rfl
      rw [houtput] at hlog ⊢
      have hdelivers := hcompletes.delivers hfolder hlog
      exact ⟨hdelivers, hcompletes.keeps hdelivers⟩

/-- The second of two files with one place overwrites the first one. -/
theorem delivers_of_exit_slashTree :
    (run slashTree ["set.json"]).ending = .exit 0 ∧
      (run slashTree ["set.json"]).Delivers (outputFolder ["set.json"]) ∧
      ∃ o ∈ (run slashTree ["set.json"]).outputs (outputFolder ["set.json"]),
        ¬ (run slashTree ["set.json"]).Keeps o := by
  obtain ⟨written, hlog, hcompletes⟩ := completes_slashTree
  have hparse : Arguments.parse ["set.json"] = .ok (plainArguments "set.json") := rfl
  have hrun : run slashTree ["set.json"] = ⟨.exit 0, "", written, none,
      slashOutcomes (Schema.blankContent "a//b.proto") (Schema.blankContent "a/b.proto")⟩ := by
    rw [run, hparse]
    exact hcompletes.runWith_eq
  have hexit : (run slashTree ["set.json"]).ending = .exit 0 := by rw [hrun]
  obtain ⟨hdelivers, -⟩ := delivers_of_exit slashTree ["set.json"]
    (fun args hargs => by rw [hparse] at hargs; cases hargs; rfl) hexit
    (fun o _ => by rw [hrun]; simp [hlog])
  refine ⟨hexit, hdelivers, ?_⟩
  by_contra hall
  push Not at hall
  have hsame := hdelivers.keeps_iff.1 hall
  rw [hrun] at hsame
  have hcontents := hsame _ (.head _) _ (.tail _ (.head _)) rfl
  exact absurd (Schema.blankContent_injective hcontents) (by decide)

end SchemaToSwift.CommandLine
