import SchemaToSwift.Proofs.CommandLine.Delivery

/-!
# What a run reports

A run that does not get through generation leaves no output (`Stops`), and one that does reports its
outcomes: `Reports` says what it prints, what it writes and how it ends. It writes outputs only, and
only without `--stdout` (`changes_writeOutputs`). Unless a file cannot be written or the status
cannot be shown its exit code tells whether all files were generated, but for one case: a run that
is to write files has to know a folder for them, and a double dash in the place of the folder is
noticed only when the outcomes are there.
-/

namespace SchemaToSwift

/-- The content that an outcome gives, if there is one. -/
def Outcome.content? : Outcome → Option String
  | .generated _ _ content => some content
  | .rejected .. => none

namespace CommandLine

/-! ## Writing outputs -/

/-- What writing outputs below a folder may leave: folders and, at the places of the outputs, their
contents. A content that has no bytes leaves the file empty. -/
def OutputEntry (tree : FileTree) (folder : FilePath) (outcomes : List Outcome) :
    FileTree.MayHold := fun l e =>
  e = .folder ∨ ∃ o ∈ outputs folder outcomes, tree.place o.1 = l ∧
    (e = .text o.2 ∨ Text.hasHalf o.2 = true ∧ e = .text "")

section
variable {may : FileTree.MayHold} {s : Session}

/-- Writing one output changes the log, makes folders, and leaves a text at the place of the
output. -/
theorem changes_writeOutput (hlog : ∀ loc text, s.logFile = some loc → may loc (.text text))
    (hfolder : ∀ l, may l .folder) {target : FilePath} {content : String}
    (hcontent : may (s.tree.place target) (.text content))
    (hempty : Text.hasHalf content = true → may (s.tree.place target) (.text "")) :
    s.tree.Changes may (writeOutput s target content).1.tree ∧
      (writeOutput s target content).1.logFile = s.logFile := by
  have hmade := (FileTree.folderSteps_makeFolders s.tree target.parent).changes hfolder
  unfold writeOutput
  rcases hfolders : s.tree.makeFolders target.parent with ⟨made, _ | _⟩ <;> rw [hfolders] at hmade
  · exact ⟨hmade, rfl⟩
  dsimp only
  cases hloc : made.fileOf target with
  | error fault => exact ⟨hmade, rfl⟩
  | ok loc =>
    obtain ⟨u, -, hfile⟩ := Result.bind_eq_ok_iff.1 hloc
    obtain rfl : s.tree.place target = loc := by
      rw [← hmade.place, FileTree.place_of_fileOf hloc]
    have hne := (FileTree.fileAt_ok_iff.1 hfile).ne_nil
    have hwritten := hmade.trans (FileTree.changes_write hne hcontent hempty)
    dsimp only
    rcases hwrite : made.write (s.tree.place target) content with ⟨written, _ | _⟩ <;>
      rw [hwrite] at hwritten
    · exact ⟨hwritten, rfl⟩
    · have htold := Session.changes_tell (s := { s with tree := written }) hlog (.wrote target.text)
      exact ⟨hwritten.trans htold, rfl⟩

/-- Writing outputs leaves nothing but them, whether all can be written or not. -/
theorem changes_writeOutputs {folder : FilePath} {outcomes : List Outcome}
    (hlog : ∀ loc text, s.logFile = some loc → may loc (.text text))
    (houtputs : ∀ l e, OutputEntry s.tree folder outcomes l e → may l e) :
    s.tree.Changes may (writeOutputs s folder outcomes).1.tree ∧
      (writeOutputs s folder outcomes).1.logFile = s.logFile := by
  induction outcomes generalizing s with
  | nil => exact ⟨.refl _, rfl⟩
  | cons outcome rest ih =>
    cases outcome with
    | rejected file reason => exact ih hlog houtputs
    | generated file output content =>
      have hmem : (folder.join (.ofText output), content) ∈
          outputs folder (.generated file output content :: rest) := .head _
      have hfirst := changes_writeOutput hlog (fun l => houtputs l _ (.inl rfl))
        (houtputs _ _ (.inr ⟨_, hmem, rfl, .inl rfl⟩))
        fun hhalf => houtputs _ _ (.inr ⟨_, hmem, rfl, .inr ⟨hhalf, rfl⟩⟩)
      unfold writeOutputs
      dsimp only at hfirst ⊢
      rcases hwrite : writeOutput s (folder.join (.ofText output)) content with ⟨s₁, _ | _⟩ <;>
        rw [hwrite] at hfirst
      · exact hfirst
      · obtain ⟨hchanges, hsame⟩ := hfirst
        have hrest := ih (s := s₁) (fun loc text h => hlog loc text (hsame.symm.trans h)) ?_
        · exact ⟨hchanges.trans hrest.1, hrest.2.trans hsame⟩
        · rintro l e (hfolder | ⟨o, ho, hplace, he⟩)
          · exact houtputs l e (.inl hfolder)
          · refine houtputs l e (.inr ⟨o, List.mem_cons_of_mem _ ho, ?_, he⟩)
            rw [← hplace, hchanges.place]

end

/-! ## Reports of outcomes -/

/-- A run on a tree that gets through generation. -/
inductive GetsThrough (tree : FileTree) (args : Arguments) (settings : Settings) (s : Session)
    (outcomes : List Outcome) : Prop
  | intro {opened : FileTree} {logFile : Option Location}
    (hlog : openLog tree args.logFile = .ok (opened, logFile))
    (hgenerates : Generates args { Session.start tree with tree := opened, logFile } settings s
      outcomes)

/-- What a run shows at its end: the failures if it prints the outputs, and else a table. -/
def shown (args : Arguments) (outcomes : List Outcome) : Except Fault Unit :=
  if args.stdout then (failureLines outcomes).forM Status.presentLine
  else Status.Table.present (summary outcomes)

/-- What may be new in the tree after a run that writes files. -/
def RunEntry (tree : FileTree) (args : Arguments) (logFile : Option Location)
    (outcomes : List Outcome) : FileTree.MayHold := fun l e =>
  OwnEntry tree args logFile l e ∨
    ∃ folder, args.outputDir = .value folder ∧ OutputEntry tree (.ofText folder) outcomes l e

/-- The report of a run that gets through generation with outcomes, from the session after it. -/
structure Reports (tree : FileTree) (args : Arguments) (s : Session) (outcomes : List Outcome)
    (r : Report) : Prop where
  reported : r.outcomes = outcomes
  /-- It prints the contents in order and writes no output. -/
  prints : args.stdout = true →
    r.stdout = String.join (outcomes.filterMap (·.content?)) ∧ OwnChanges tree args r.session
  /-- It prints nothing and writes outputs only. -/
  writes : args.stdout = false → r.stdout = "" ∧
    tree.Changes (RunEntry tree args r.session.logFile outcomes) r.session.tree
  /-- If it prints the contents or can write them all, and can show what it has to, it ends with 0
  exactly if all files were generated, and else with 1. -/
  code : shown args outcomes = .ok () →
    (args.stdout = true ∨ ∃ folder written, args.outputDir = .value folder ∧
      writeOutputs s (.ofText folder) outcomes = (written, .ok ())) →
    (r.ending = .exit 0 ∧ ∀ o ∈ outcomes, o.isGenerated = true) ∨
      (r.ending = .exit 1 ∧ ∃ o ∈ outcomes, o.isGenerated = false)
  /-- If it has no folder to write to, it ends with a fault. -/
  noFolder : args.stdout = false → args.outputDir.value? = none → r.ending = .fault .wrongType
  /-- If a file cannot be written, it does not end with 0. -/
  unwritten : args.stdout = false → ∀ folder written e, args.outputDir = .value folder →
    writeOutputs s (.ofText folder) outcomes = (written, .error e) →
      ∀ code, r.ending = .exit code → code = 1

theorem outputText_eq (outcomes : List Outcome) :
    outputText outcomes = String.join (outcomes.filterMap (·.content?)) := by
  unfold outputText
  induction outcomes with
  | nil => rfl
  | cons o rest ih =>
    rw [List.map_cons, String.join_cons, ih]
    cases o with
    | generated file output content => rw [List.filterMap_cons, Outcome.content?, String.join_cons]
    | rejected file reason =>
      rw [List.filterMap_cons, Outcome.content?]
      exact String.empty_append

/-- The exit code is 0 if all files were generated and 1 if one was not. -/
theorem exitCode_cases (outcomes : List Outcome) :
    (exitCode outcomes = 0 ∧ ∀ o ∈ outcomes, o.isGenerated = true) ∨
      (exitCode outcomes = 1 ∧ ∃ o ∈ outcomes, o.isGenerated = false) := by
  unfold exitCode
  by_cases hall : outcomes.all (·.isGenerated) = true
  · exact .inl ⟨if_pos hall, List.all_eq_true.1 hall⟩
  · exact .inr ⟨if_neg hall, by simpa using hall⟩

section
variable {tree : FileTree} {args : Arguments} {s : Session} {outcomes : List Outcome}

theorem OwnChanges.runEntry (h : OwnChanges tree args s) :
    tree.Changes (RunEntry tree args s.logFile outcomes) s.tree :=
  h.mono fun _ _ => .inl

/-- Ending after something that could be shown. -/
theorem after_cases {r : Report} {shown : Except Fault Unit} (hshown : shown = .ok ())
    (h : r.ending = .after shown (exitCode outcomes)) :
    (r.ending = .exit 0 ∧ ∀ o ∈ outcomes, o.isGenerated = true) ∨
      (r.ending = .exit 1 ∧ ∃ o ∈ outcomes, o.isGenerated = false) := by
  rw [h, hshown]
  rcases exitCode_cases outcomes with ⟨hcode, hall⟩ | ⟨hcode, hany⟩
  · exact .inl ⟨by rw [hcode]; rfl, hall⟩
  · exact .inr ⟨by rw [hcode]; rfl, hany⟩

/-- Writing outputs after generation. -/
theorem OwnChanges.writeOutputs (h : OwnChanges tree args s) (outcomes : List Outcome)
    {folder : String} (hfolder : args.outputDir = .value folder) :
    tree.Changes (RunEntry tree args s.logFile outcomes)
        (writeOutputs s (.ofText folder) outcomes).1.tree ∧
      (writeOutputs s (.ofText folder) outcomes).1.logFile = s.logFile := by
  have hmay (l : Location) (e : FileEntry)
      (hentry : OutputEntry s.tree (.ofText folder) outcomes l e) :
      RunEntry tree args s.logFile outcomes l e := by
    rcases hentry with hmade | ⟨o, ho, hplace, he⟩
    · exact .inr ⟨folder, hfolder, .inl hmade⟩
    · exact .inr ⟨folder, hfolder, .inr ⟨o, ho, by rw [← hplace, h.place], he⟩⟩
  obtain ⟨hchanges, hsame⟩ := changes_writeOutputs
    (fun loc text hlog => .inl (ownEntry_logFile loc text hlog)) hmay
  exact ⟨h.runEntry.trans hchanges, hsame⟩

/-! ### Deliveries -/

/-- On the standard output the contents are printed one after the other, and no file is written. -/
theorem deliver_of_stdout (hprints : args.stdout = true) :
    deliver args s outcomes = .finish s (.after (shown args outcomes) (exitCode outcomes))
      (outputText outcomes) outcomes := by
  rw [deliver, shown, if_pos hprints, if_pos hprints]

/-- An option for the folder that has no value ends the run with a fault. -/
theorem deliver_of_noFolder (hfiles : args.stdout = false)
    (hnone : args.outputDir.value? = none) :
    deliver args s outcomes = .finish s (.fault .wrongType) "" outcomes := by
  unfold deliver
  rw [hfiles]
  cases hfolder : args.outputDir with
  | nothing | blank => rfl
  | value folder =>
    rw [hfolder] at hnone
    cases hnone

/-- Outputs that are all written end the run with the exit code of the outcomes. -/
theorem deliver_of_written {folder : String} {written : Session} (hfiles : args.stdout = false)
    (hfolder : args.outputDir = .value folder)
    (hwrite : writeOutputs s (.ofText folder) outcomes = (written, .ok ())) :
    deliver args s outcomes = .finish written (.after (shown args outcomes) (exitCode outcomes)) ""
      outcomes := by
  unfold deliver shown
  simp only [hfiles, hfolder, hwrite, Bool.false_eq_true, if_false]

/-- If one cannot be written, the exit code is 1, if there is one. -/
theorem deliver_of_unwritten {folder : String} {written : Session}
    {e : FilePath × FilePath × Fault} (hfiles : args.stdout = false)
    (hfolder : args.outputDir = .value folder)
    (hwrite : writeOutputs s (.ofText folder) outcomes = (written, .error e)) :
    ∃ ending error?, deliver args s outcomes = ⟨ending, "", written, error?, outcomes⟩ ∧
      ∀ code, ending = .exit code → code = 1 := by
  unfold deliver
  simp only [hfiles, hfolder, hwrite, Bool.false_eq_true, if_false]
  split
  · exact ⟨_, _, rfl, fun _ h => by cases h⟩
  · exact ⟨_, _, rfl, fun _ h => by cases h⟩
  · exact ⟨_, _, rfl, fun _ => code_of_after⟩

/-- A delivery to standard output. -/
theorem reports_of_stdout (h : OwnChanges tree args s) (hprints : args.stdout = true) :
    Reports tree args s outcomes (deliver args s outcomes) := by
  have hnot : ¬ args.stdout = false := by simp [hprints]
  rw [deliver_of_stdout hprints]
  exact {
    reported := rfl
    prints := fun _ => ⟨outputText_eq outcomes, h⟩
    writes := (absurd · hnot)
    code := fun hshown _ => after_cases hshown rfl
    noFolder := (absurd · hnot)
    unwritten := (absurd · hnot) }

/-- A delivery without a folder to write to. -/
theorem reports_of_noFolder (h : OwnChanges tree args s) (hfiles : args.stdout = false)
    (hnone : args.outputDir.value? = none) :
    Reports tree args s outcomes (deliver args s outcomes) := by
  have hnot : ¬ args.stdout = true := by simp [hfiles]
  have hnever (folder : String) : args.outputDir ≠ .value folder := by
    intro hvalue
    rw [hvalue] at hnone
    cases hnone
  rw [deliver_of_noFolder hfiles hnone]
  exact {
    reported := rfl
    prints := (absurd · hnot)
    writes := fun _ => ⟨rfl, h.runEntry⟩
    code := fun _ hdone => hdone.elim (absurd · hnot) fun ⟨folder, _, hvalue, _⟩ =>
      absurd hvalue (hnever folder)
    noFolder := fun _ _ => rfl
    unwritten := fun _ folder _ _ hvalue => absurd hvalue (hnever folder) }

/-- A delivery to files. -/
theorem reports_of_files (h : OwnChanges tree args s) (hfiles : args.stdout = false)
    {folder : String} (hfolder : args.outputDir = .value folder) :
    Reports tree args s outcomes (deliver args s outcomes) := by
  have hnot : ¬ args.stdout = true := by simp [hfiles]
  have hsome : ¬ args.outputDir.value? = none := by simp [hfolder, Given.value?]
  obtain ⟨hchanges, hlog⟩ := h.writeOutputs outcomes hfolder
  rcases hwrite : writeOutputs s (.ofText folder) outcomes with ⟨written, e | _⟩ <;>
    rw [hwrite] at hchanges hlog
  · obtain ⟨ending, error?, hreport, hcode⟩ := deliver_of_unwritten hfiles hfolder hwrite
    rw [hreport]
    refine {
      reported := rfl
      prints := (absurd · hnot)
      writes := fun _ => ⟨rfl, by rwa [hlog]⟩
      code := fun _ hdone => ?_
      noFolder := fun _ hnone => absurd hnone hsome
      unwritten := fun _ _ _ _ _ _ => hcode }
    rcases hdone with hprints | ⟨folder', written', hfolder', hwrite'⟩
    · exact absurd hprints hnot
    · rw [hfolder] at hfolder'
      cases hfolder'
      rw [hwrite] at hwrite'
      cases hwrite'
  · rw [deliver_of_written hfiles hfolder hwrite]
    refine {
      reported := rfl
      prints := (absurd · hnot)
      writes := fun _ => ⟨rfl, hlog ▸ hchanges⟩
      code := fun hshown _ => after_cases hshown rfl
      noFolder := fun _ hnone => absurd hnone hsome
      unwritten := fun _ folder' written' e hfolder' hwrite' => ?_ }
    rw [hfolder] at hfolder'
    cases hfolder'
    rw [hwrite] at hwrite'
    cases hwrite'

/-- A delivery reports the outcomes. -/
theorem reports_deliver (h : OwnChanges tree args s) :
    Reports tree args s outcomes (deliver args s outcomes) := by
  cases hstdout : args.stdout with
  | true => exact reports_of_stdout h hstdout
  | false =>
    cases hfolder : args.outputDir with
    | nothing | blank => exact reports_of_noFolder h hstdout (by rw [hfolder]; rfl)
    | value folder => exact reports_of_files h hstdout hfolder

end

section
variable {tree : FileTree} {argv : List String} {args : Arguments}
  (hargs : Arguments.parse argv = .ok args)
include hargs

/-- A run that gets through generation reports as it should, whichever way the outcomes go. -/
theorem reports_of_getsThrough {settings : Settings} {s : Session} {outcomes : List Outcome}
    (h : GetsThrough tree args settings s outcomes) :
    Reports tree args s outcomes (run tree argv) := by
  obtain ⟨hlog, hgenerates⟩ := h
  rw [run, hargs]
  dsimp only
  rw [hlog]
  dsimp only
  rw [hgenerates.runWith_eq]
  exact reports_deliver (hgenerates.ownChanges (ownChanges_openLog hlog))

/-- Any other run stops. -/
theorem stops_of_not_getsThrough
    (h : ¬ ∃ settings s outcomes, GetsThrough tree args settings s outcomes) :
    Stops tree args (run tree argv) := by
  rw [run, hargs]
  dsimp only
  cases hlog : openLog tree args.logFile with
  | error fault =>
    have hown : OwnChanges tree args (.start tree) := .refl tree
    exact stops_fault hown fault
  | ok opened =>
    rcases generates_or_stops (ownChanges_openLog hlog) with
      ⟨settings, s, outcomes, hgenerates, -⟩ | hstops
    · exact absurd ⟨settings, s, outcomes, .intro hlog hgenerates⟩ h
    · exact hstops

end

/-- What a run reports, for all arguments that can be read and every tree. -/
theorem run_reports (tree : FileTree) {argv : List String} {args : Arguments}
    (hargs : Arguments.parse argv = .ok args) :
    (∀ settings s outcomes, GetsThrough tree args settings s outcomes →
      Reports tree args s outcomes (run tree argv)) ∧
    ((¬ ∃ settings s outcomes, GetsThrough tree args settings s outcomes) →
      Stops tree args (run tree argv)) :=
  ⟨fun _ _ _ => reports_of_getsThrough hargs, stops_of_not_getsThrough hargs⟩

/-- What the arguments say if they name a descriptor set, and a double dash for the folder. -/
def blankFolder : Arguments := { plainArguments "set.json" with outputDir := .blank }

theorem parse_blankFolder : Arguments.parse ["set.json", "--output-dir=--"] = .ok blankFolder := by
  have htokens : tokens ["set.json", "--output-dir=--"] =
      .ok [.plain "set.json", .option .outputDir false (some ['-', '-'])] := rfl
  have hcluster : Arguments.cluster .outputDir false (some ['-', '-']) =
      .ok ⟨[], some (.outputDir, some ['-', '-'])⟩ := by
    simp [Arguments.cluster, Opt.takesValue]
  have hvalue (a : Arguments) :
      a.setValue .outputDir (String.ofList ['-', '-']) = .ok { a with outputDir := .blank } := rfl
  rw [Arguments.parse, htokens]
  simp [Arguments.consume, hcluster, hvalue, Arguments.initial, blankFolder, plainArguments]

/-- A run that is given a double dash for its folder generates all files and ends with a fault,
though nothing was in its way. -/
theorem run_reports_blankFolder :
    (run slashTree ["set.json", "--output-dir=--"]).ending = .fault .wrongType ∧
      (run slashTree ["set.json", "--output-dir=--"]).stdout = "" ∧
      (run slashTree ["set.json", "--output-dir=--"]).outcomes.all (·.isGenerated) = true := by
  obtain ⟨s, -, -, hgenerates⟩ := generates_slashTree blankFolder rfl rfl rfl
  have hreports := (run_reports slashTree parse_blankFolder).1 _ _ _ (.intro rfl hgenerates)
  refine ⟨hreports.noFolder rfl rfl, (hreports.writes rfl).1, ?_⟩
  rw [hreports.reported]
  rfl

end CommandLine

end SchemaToSwift
