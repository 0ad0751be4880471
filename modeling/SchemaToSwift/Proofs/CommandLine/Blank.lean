import SchemaToSwift.Proofs.Batch.Collision
import SchemaToSwift.Proofs.CommandLine.Stages
import SchemaToSwift.Proofs.Emit.Blank
import SchemaToSwift.Proofs.Json.RoundTrip

/-!
# Runs on files that declare nothing

A descriptor set may name files and say nothing more of them. Whatever their names are, a run with
plain settings gets through generation on such a set (`generates_blankTree`), so what becomes of the
names can be seen on it.
-/

namespace SchemaToSwift.CommandLine

/-- A descriptor set of files with the given names. -/
def blankSet (names : List String) : Json := .arr (names.map fun name => .obj [("name", .str name)])

/-- A tree with that descriptor set in its working folder. -/
def blankTree (names : List String) : FileTree :=
  (FileTree.empty ["work"]).put ["work", "set.json"] (.text ((blankSet names).write .compact))

/-- The outcome of a file that declares nothing. -/
def blankOutcome (name : String) : Outcome :=
  .generated name (FileNaming.outputName .fullPath name FileNaming.swiftEnding)
    (Schema.blankContent name)

/-- What the arguments say if they name a descriptor set only. -/
def plainArguments (path : String) : Arguments :=
  { Arguments.initial with descriptorSet := some path }

/-- A name of a file that has an output of its own. -/
def IsPlainName (name : String) : Prop :=
  name ≠ "" ∧ Text.mark ∉ name.toList ∧ (Schema.blank name).isBundled = false

instance (name : String) : Decidable (IsPlainName name) := inferInstanceAs (Decidable (_ ∧ _ ∧ _))

section
variable {names : List String}

/-- Such a set is a document of texts if no name has a mark. -/
theorem ofTexts_blankSet (h : ∀ name ∈ names, Text.mark ∉ name.toList) :
    Json.OfTexts (blankSet names) := by
  refine .arr fun v hv => ?_
  obtain ⟨name, hname, rfl⟩ := List.mem_map.1 hv
  have hkey : Text.WellFormed "name" := Text.wellFormed_of_noMark (by decide)
  exact .obj (by simp) (by simpa using hkey)
    (by simpa using .str (Text.wellFormed_of_noMark (h name hname)))

/-- It is no deeper than can be read. -/
theorem depth_blankSet (names : List String) : (blankSet names).depth ≤ Json.Parser.maxDepth := by
  have hitems (names : List String) :
      Json.depthItems (names.map fun name => .obj [("name", .str name)]) ≤ 2 := by
    induction names with
    | nil => exact Nat.zero_le _
    | cons name rest ih =>
      rw [List.map_cons, Json.depthItems]
      exact Nat.max_le.2 ⟨Nat.le_refl 2, ih⟩
  exact Nat.le_trans (Nat.succ_le_succ (hitems names)) (by decide)

/-- The descriptions of the files are decoded. -/
theorem ofJson_blankSet (h : ∀ name ∈ names, name ≠ "") :
    SchemaSet.ofJson (blankSet names) = .ok ⟨names.map Schema.blank, none⟩ := by
  have hfile (name : String) (hname : name ≠ "") :
      Schema.ofJson (.obj [("name", .str name)]) = .ok (Schema.blank name) := by
    have hlookup : [("name", Json.str name)].lookup "name" = some (.str name) := rfl
    simp only [Schema.ofJson, hlookup, if_neg hname]
    rfl
  have hfiles : (names.map fun name => Json.obj [("name", .str name)]).mapM Schema.ofJson =
      .ok (names.map Schema.blank) := by
    rw [Result.mapM_ok_iff, List.forall₂_map_left_iff, List.forall₂_map_right_iff,
      List.forall₂_same]
    exact fun name hname => hfile name (h name hname)
  rw [blankSet, SchemaSet.ofJson, hfiles]
  rfl

section
attribute [local semireducible] Text.joinBytes

theorem read_blankTree (names : List String) :
    (blankTree names).read (.ofText "set.json") = .ok ((blankSet names).write .compact) := rfl

theorem has_blankTree (names : List String) :
    (blankTree names).has (.ofText "set.json") = .ok true := rfl

end

/-- The descriptor set is loaded. -/
theorem loadIn_blankTree (hne : ∀ name ∈ names, name ≠ "")
    (hmark : ∀ name ∈ names, Text.mark ∉ name.toList) : ∃ read : Session,
    SchemaSet.loadIn (.start (blankTree names)) "set.json" =
        (read, .ok ⟨names.map Schema.blank, none⟩) ∧
      read.tree = blankTree names ∧ read.logFile = none := by
  have hset : SchemaSet.readFile (blankTree names) (.ofText "set.json") =
      .ok ⟨names.map Schema.blank, none⟩ := by
    rw [SchemaSet.readFile, read_blankTree]
    dsimp only
    rw [Json.parse_write (ofTexts_blankSet hmark) (depth_blankSet names)]
    exact ofJson_blankSet hne
  unfold SchemaSet.loadIn
  dsimp only
  rw [Session.tree_tell rfl]
  simp only [Session.start]
  rw [has_blankTree]
  dsimp only
  rw [hset]
  exact ⟨_, rfl, rfl, rfl⟩

/-- Runs on the descriptor set with plain settings get through generation. -/
theorem generates_blankTree (args : Arguments) (hnames : ∀ name ∈ names, IsPlainName name)
    (hsources : args.sources = (plainArguments "set.json").sources)
    (hsave : args.saveConfig = .nothing) (hset : args.descriptorSet = some "set.json") :
    ∃ s : Session, s.tree = blankTree names ∧ s.logFile = none ∧
      Generates args (.start (blankTree names)) .default s
        (Batch.claimAll [] (names.map blankOutcome)) := by
  obtain ⟨read, hread, htree, hlog⟩ :=
    loadIn_blankTree (fun name h => (hnames name h).1) fun name h => (hnames name h).2.1
  have hown : List.Forall₂ (fun f o => Schema.generate Settings.default f = .ok o)
      ((names.map Schema.blank).filter (Batch.isWanted none)) (names.map blankOutcome) := by
    have hall : (names.map Schema.blank).filter (Batch.isWanted none) = names.map Schema.blank :=
      List.filter_eq_self.2 fun _ _ => rfl
    rw [hall, List.forall₂_map_left_iff, List.forall₂_map_right_iff, List.forall₂_same]
    exact fun name hname => Schema.generate_blank (hnames name hname).2.2
  have hgenerate := Batch.generate_eq_claimAll hown
  have hsettings : Settings.loadIn (.start (blankTree names)) args.sources =
      (.start (blankTree names), .ok .default) := by rw [hsources]; rfl
  have hsaved : saveSettings args .default (.start (blankTree names)) =
      (.start (blankTree names), .ok ()) := by
    rw [saveSettings, hsave]
  obtain ⟨htold, hquiet⟩ := Session.tellAll_of_noLog
    (Batch.events Settings.default none (names.map Schema.blank)) hlog
  exact ⟨_, htold.trans htree, hquiet,
    .intro hsettings hsaved (by rw [hset]; exact hread) hgenerate⟩

end

end SchemaToSwift.CommandLine
