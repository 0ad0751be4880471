import SchemaToSwift.CommandLine.Run
import SchemaToSwift.Proofs.FileTree.Change

/-!
# The stages of a run

Before a run delivers anything it loads its settings, saves them if it is asked to, loads the
descriptor set and generates code; `Generates` says that it gets through all of that. On the way it
only tells what it does (`Session.Tells`) and saves the settings, so of the tree it changes its own
files alone: the log and the saved settings (`OwnChanges`). A run that does not get through stops
without outcomes and without output (`generates_or_stops`).
-/

namespace SchemaToSwift

/-! ## Stages that only tell -/

namespace Settings

/-- Reading the pairs of a configuration does no more than tell events. -/
theorem tells_updateIn (s : Session) (base : Settings) (pairs : List (String × Json)) :
    s.Tells (updateIn s base pairs).1 := by
  induction pairs generalizing s base with
  | nil => exact .refl s
  | cons pair rest ih =>
    unfold updateIn
    split
    · exact .refl s
    · next u _ => exact (s.tells_tellAll u.event?.toList).trans (ih _ _)

/-- Neither does applying a configuration file. -/
theorem tells_applyFile (s : Session) (base : Settings) (path : Option String) :
    s.Tells (applyFile s base path).1 := by
  unfold applyFile
  split
  · exact .refl s
  · exact .refl s
  · split
    · exact .refl s
    · next members _ =>
      have hupdate := tells_updateIn s base members
      split
      · next h => rwa [h] at hupdate
      · next h =>
        rw [h] at hupdate
        exact hupdate.tell _

/-- Neither does applying a parameter string. -/
theorem tells_applyParameter (s : Session) (base : Settings) (parameter : Option String) :
    s.Tells (applyParameter s base parameter).1 := by
  unfold applyParameter
  split
  · exact .refl s
  · exact .refl s
  · split
    · exact .refl s
    · exact tells_updateIn s base _

/-- Neither does loading settings from all sources. -/
theorem tells_loadIn (s : Session) (sources : Sources) : s.Tells (loadIn s sources).1 := by
  unfold loadIn
  have hfile := tells_applyFile s default sources.configFile
  rcases hloaded : applyFile s default sources.configFile with ⟨s₁, _ | settings⟩ <;>
    rw [hloaded] at hfile
  · exact hfile
  dsimp only
  have hparameter := hfile.trans (tells_applyParameter s₁ settings sources.parameter)
  rcases happlied : applyParameter s₁ settings sources.parameter with ⟨s₂, _ | settings⟩ <;>
    rw [happlied] at hparameter
  · exact hparameter
  · exact hparameter.trans (tells_updateIn s₂ settings sources.overrides)

end Settings

/-- Neither does loading a set of schema files. -/
theorem SchemaSet.tells_loadIn (s : Session) (path : String) : s.Tells (loadIn s path).1 := by
  unfold loadIn
  dsimp only
  have hloading := (Session.Tells.refl s).tell (.loadingSet (FilePath.ofText path).text)
  split
  · exact hloading
  · exact hloading.tell _
  · split
    · exact hloading
    · exact hloading.tell _

namespace CommandLine

/-! ## The files of a run -/

/-- The places of a run's own files: its log, and where it saves the settings. -/
def OwnPlace (tree : FileTree) (args : Arguments) (logFile : Option Location) (l : Location) :
    Prop :=
  logFile = some l ∨ ∃ path, args.saveConfig = .value path ∧ tree.place (.ofText path.text) = l

/-- What a run may leave in its own files: texts. -/
def OwnEntry (tree : FileTree) (args : Arguments) (logFile : Option Location) :
    FileTree.MayHold := fun l e => OwnPlace tree args logFile l ∧ ∃ text, e = .text text

/-- A session on a tree of which only the run's own files have changed. -/
def OwnChanges (tree : FileTree) (args : Arguments) (s : Session) : Prop :=
  tree.Changes (OwnEntry tree args s.logFile) s.tree

section
variable {tree : FileTree} {args : Arguments} {s s' : Session}

/-- The log is one of the run's own files, whatever text it holds. -/
theorem ownEntry_logFile {logFile : Option Location} (loc : Location) (text : String)
    (h : logFile = some loc) : OwnEntry tree args logFile loc (.text text) :=
  ⟨.inl h, text, rfl⟩

/-- Telling events changes no file but the log. -/
theorem OwnChanges.tells (h : OwnChanges tree args s) (htells : s.Tells s') :
    OwnChanges tree args s' := by
  rw [OwnChanges, htells.logFile]
  exact h.trans (htells.changes ownEntry_logFile)

/-- Opening the log leaves a text where it is. -/
theorem ownChanges_openLog {opened : FileTree} {logFile : Option Location}
    (h : openLog tree args.logFile = .ok (opened, logFile)) :
    OwnChanges tree args { Session.start tree with tree := opened, logFile } := by
  unfold openLog at h
  split at h
  · cases h
    exact .refl _
  · cases h
  · obtain ⟨loc, hloc, h⟩ := Result.bind_eq_ok_iff.1 h
    obtain ⟨u, -, hfile⟩ := Result.bind_eq_ok_iff.1 hloc
    cases h
    dsimp only [OwnChanges]
    split
    · exact .refl _
    · exact FileTree.changes_put (FileTree.fileAt_ok_iff.1 hfile).ne_nil
        (ownEntry_logFile loc "" rfl) (by simp)

/-- So loading settings changes no other file. -/
theorem OwnChanges.loadSettings {result : Except (Failure SettingsError) Settings}
    (h : OwnChanges tree args s) (hload : Settings.loadIn s args.sources = (s', result)) :
    OwnChanges tree args s' := by
  have htells := Settings.tells_loadIn s args.sources
  rw [hload] at htells
  exact h.tells htells

/-- Nor does loading the set. -/
theorem OwnChanges.loadSet {result : Except (Failure SchemaError) SchemaSet}
    (h : OwnChanges tree args s)
    (hload : SchemaSet.loadIn s (args.descriptorSet.getD "") = (s', result)) :
    OwnChanges tree args s' := by
  have htells := SchemaSet.tells_loadIn s (args.descriptorSet.getD "")
  rw [hload] at htells
  exact h.tells htells

/-- Saving the settings to a file leaves a text there. -/
theorem OwnChanges.save {path : FilePath} (h : OwnChanges tree args s)
    (hpath : args.saveConfig = .value path) (settings : Settings) :
    OwnChanges tree args { s with tree := (settings.save s.tree path.text).1 } := by
  refine h.trans ?_
  unfold Settings.save
  split
  · exact .refl _
  · exact .refl _
  · exact .refl _
  · next loc hloc =>
    have hown (text : String) : OwnEntry tree args s.logFile loc (.text text) := by
      refine ⟨.inr ⟨path, hpath, ?_⟩, text, rfl⟩
      rw [← h.place, FileTree.place_of_fileOfText hloc]
    have hne : loc ≠ [] := (FileTree.fileOfText_ok_iff.1 hloc).2.2.ne_nil
    exact FileTree.changes_write hne (hown _) fun _ => hown _

/-- Saving the settings changes the file that they are saved to, which is the run's own. -/
theorem OwnChanges.saveSettings {settings : Settings}
    {result : Except (Failure SettingsError) Unit} (h : OwnChanges tree args s)
    (hsave : saveSettings args settings s = (s', result)) : OwnChanges tree args s' := by
  unfold CommandLine.saveSettings at hsave
  split at hsave
  · cases hsave
    exact h
  · cases hsave
    exact h
  · next path hpath =>
    have hsaved := h.save hpath settings
    split at hsave
    · next heq =>
      rw [heq] at hsaved
      cases hsave
      exact hsaved.tells ((Session.Tells.refl _).tell _)
    · next heq =>
      rw [heq] at hsaved
      cases hsave
      exact hsaved

end

/-! ## Generation -/

/-- A run that gets through generation, from a session to another one, with the settings that it
has loaded and the outcomes. -/
inductive Generates (args : Arguments) (s : Session) : Settings → Session → List Outcome → Prop
  | intro {loaded saved read : Session} {settings : Settings} {set : SchemaSet}
    {outcomes : List Outcome}
    (hsettings : Settings.loadIn s args.sources = (loaded, .ok settings))
    (hsave : saveSettings args settings loaded = (saved, .ok ()))
    (hset : SchemaSet.loadIn saved (args.descriptorSet.getD "") = (read, .ok set))
    (hgenerate : Batch.generate settings set.wanted set.files = .ok outcomes) :
    Generates args s settings (read.tellAll (Batch.events settings set.wanted set.files)) outcomes

/-- The report of a run that stops before it has outcomes: it prints nothing, its exit code is 1 if
it has one, and only the run's own files have changed. -/
structure Stops (tree : FileTree) (args : Arguments) (r : Report) : Prop where
  stdout : r.stdout = ""
  outcomes : r.outcomes = []
  code : ∀ code, r.ending = .exit code → code = 1
  changes : OwnChanges tree args r.session

section
variable {tree : FileTree} {args : Arguments} {s s' : Session} {settings : Settings}
  {outcomes : List Outcome}

/-- If what is shown last fails, a run has no exit code, and otherwise the one that it was going to
have. -/
theorem code_of_after {shown : Except Fault Unit} {code code' : Nat}
    (h : Ending.after shown code = .exit code') : code' = code := by
  unfold Ending.after at h
  split at h
  · exact (Ending.exit.inj h).symm
  · cases h

/-- A run that a fault ends has stopped. -/
theorem stops_fault (h : OwnChanges tree args s) (fault : Fault) :
    Stops tree args (.finish s (.fault fault) "" []) :=
  ⟨rfl, rfl, fun _ hcode => (by cases hcode), h⟩

/-- So has one that ends with an error, reported or not. -/
theorem stops_failWith {ε : Type} (h : OwnChanges tree args s) (f : ε → CommandError)
    (e : Failure ε) : Stops tree args (.failWith s f e) := by
  cases e with
  | reported e => exact ⟨rfl, rfl, fun _ => code_of_after, h⟩
  | escaped fault => exact stops_fault h fault

/-- A run gets through generation and delivers the outcomes, or it stops. -/
theorem generates_or_stops (h : OwnChanges tree args s) :
    (∃ settings s' outcomes, Generates args s settings s' outcomes ∧
      runWith args s = deliver args s' outcomes) ∨ Stops tree args (runWith args s) := by
  -- Each stage ends the run with its error, or hands a session on to the next one.
  unfold runWith
  rcases hsettings : Settings.loadIn s args.sources with ⟨loaded, _ | settings⟩
  · exact .inr (stops_failWith (h.loadSettings hsettings) _ _)
  have hloaded := h.loadSettings hsettings
  dsimp only [loadSet]
  rcases hsave : saveSettings args settings loaded with ⟨saved, _ | _⟩
  · exact .inr (stops_failWith (hloaded.saveSettings hsave) _ _)
  have hsaved := hloaded.saveSettings hsave
  dsimp only
  rcases hset : SchemaSet.loadIn saved (args.descriptorSet.getD "") with ⟨read, _ | set⟩
  · exact .inr (stops_failWith (hsaved.loadSet hset) _ _)
  have hread := hsaved.loadSet hset
  dsimp only [generate]
  cases hgenerate : Batch.generate settings set.wanted set.files with
  | error fault => exact .inr (stops_fault (hread.tells (read.tells_tellAll _)) fault)
  | ok outcomes => exact .inl ⟨_, _, _, .intro hsettings hsave hset hgenerate, rfl⟩

/-- After generation a run delivers the outcomes, and that is all it does. -/
theorem Generates.runWith_eq (h : Generates args s settings s' outcomes) :
    runWith args s = deliver args s' outcomes := by
  cases h with
  | intro hsettings hsave hset hgenerate =>
    simp only [runWith, loadSet, generate, hsettings, hsave, hset, hgenerate]

/-- Up to the outcomes only the run's own files change. -/
theorem Generates.ownChanges (h : Generates args s settings s' outcomes)
    (hown : OwnChanges tree args s) : OwnChanges tree args s' := by
  cases h with
  | @intro _ _ read _ _ _ hsettings hsave hset _ =>
    have hread := ((hown.loadSettings hsettings).saveSettings hsave).loadSet hset
    exact hread.tells (read.tells_tellAll _)

end

end CommandLine

end SchemaToSwift
