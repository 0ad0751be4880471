import SchemaToSwift.Proofs.FileTree.Place

/-!
# What changes in a tree

`Changes` bounds from above what operations do to a tree, as `Grows` does from below: a location
holds what it held, or one of the entries that may be new there, and a new folder stands only where
nothing stood. A program that may do more changes no less (`Changes.mono`), and one operation after
the other changes what either may (`Changes.trans`).
-/

namespace SchemaToSwift

namespace FileTree

/-- Which entries may be new at a location. -/
abbrev MayHold := Location → FileEntry → Prop

/-- A tree after operations that leave new entries only where they may. -/
structure Changes (may : MayHold) (t t' : FileTree) : Prop where
  here : t'.here = t.here
  entry : ∀ l, t'.entry? l = t.entry? l ∨
    ∃ e, t'.entry? l = some e ∧ may l e ∧ (e = .folder → t.entry? l = none)

namespace Changes

variable {may may' : MayHold} {t t' t'' : FileTree}

/-- Where nothing happens, nothing is new. -/
theorem refl (t : FileTree) : Changes may t t := ⟨rfl, fun _ => .inl rfl⟩

/-- Operations one after the other leave what each of them may leave. -/
theorem trans (h : Changes may t t') (h' : Changes may t' t'') : Changes may t t'' where
  here := h'.here.trans h.here
  entry l := by
    -- The later change decides, and a folder that it makes stands where nothing ever did.
    rcases h'.entry l with hsame | ⟨e, he, hmay, hnew⟩
    · rw [hsame]
      exact h.entry l
    · refine .inr ⟨e, he, hmay, fun hfolder => ?_⟩
      rcases h.entry l with hsame | ⟨e', he', -, -⟩
      · rw [← hsame]
        exact hnew hfolder
      · rw [hnew hfolder] at he'
        cases he'

/-- What may be new may also be more. -/
theorem mono (h : Changes may t t') (hmay : ∀ l e, may l e → may' l e) : Changes may' t t' where
  here := h.here
  entry l := (h.entry l).imp_right fun ⟨e, he, hl, hnew⟩ => ⟨e, he, hmay l e hl, hnew⟩

/-- Places stay where they are. -/
theorem place (h : Changes may t t') (p : FilePath) : t'.place p = t.place p := by
  rw [FileTree.place, FileTree.place, origin, origin, h.here]

end Changes

section
variable {may : MayHold} {t t' : FileTree} {loc : Location}

/-- Putting an entry below the root. -/
theorem changes_put (hloc : loc ≠ []) {e : FileEntry} (hmay : may loc e)
    (hnew : e = .folder → t.entry? loc = none) : Changes may t (t.put loc e) := by
  refine ⟨rfl, fun l => ?_⟩
  rw [entry_put t hloc]
  split
  · next hl => exact .inr ⟨e, rfl, hl ▸ hmay, hl ▸ hnew⟩
  · exact .inl rfl

/-- Putting a text at the end of a file. -/
theorem changes_append (hmay : ∀ text, may loc (.text text)) (content : String) :
    Changes may t (t.append loc content) := by
  unfold append
  split
  · next before hbefore =>
    refine changes_put ?_ (hmay _) (by simp)
    rintro rfl
    cases hbefore
  · exact .refl t

/-- Writing a text; one that has no bytes leaves the file empty. -/
theorem changes_write (hloc : loc ≠ []) {content : String} (hmay : may loc (.text content))
    (hempty : Text.hasHalf content = true → may loc (.text "")) :
    Changes may t (t.write loc content).1 := by
  unfold write
  split
  · next hhalf => exact changes_put hloc (hempty hhalf) (by simp)
  · exact changes_put hloc hmay (by simp)

/-- Making folders leaves folders only. -/
theorem FolderSteps.changes (h : FolderSteps t t') (hmay : ∀ l, may l .folder) :
    Changes may t t' := by
  induction h with
  | refl => exact .refl t
  | tail _ hstep ih =>
    obtain ⟨loc, hnone, rfl⟩ := hstep
    exact ih.trans (changes_put (ne_nil_of_entry_none hnone) (hmay loc) fun _ => hnone)

end

end FileTree

namespace Session

/-- A session after some events. -/
def Tells (s s' : Session) : Prop := ∃ events, s' = s.tellAll events

section
variable {s s' s'' : Session}

theorem Tells.refl (s : Session) : s.Tells s := ⟨[], rfl⟩

/-- Events after events are events. -/
theorem Tells.trans (h : s.Tells s') (h' : s'.Tells s'') : s.Tells s'' := by
  obtain ⟨events, rfl⟩ := h
  obtain ⟨more, rfl⟩ := h'
  exact ⟨events ++ more, List.foldl_append.symm⟩

/-- Telling events does no more than that. -/
theorem tells_tellAll (s : Session) (events : List Event) : s.Tells (s.tellAll events) :=
  ⟨events, rfl⟩

/-- One more event may be told. -/
theorem Tells.tell (h : s.Tells s') (e : Event) : s.Tells (s'.tell e) :=
  h.trans (s'.tells_tellAll [e])

/-- Telling events does not move the log. -/
theorem Tells.logFile (h : s.Tells s') : s'.logFile = s.logFile := by
  obtain ⟨events, rfl⟩ := h
  induction events generalizing s with
  | nil => rfl
  | cons e rest ih => exact ih (s := s.tell e)

end

variable {may : FileTree.MayHold} {s s' : Session}

/-- What is told goes to the log file. -/
theorem changes_tell (hmay : ∀ loc text, s.logFile = some loc → may loc (.text text)) (e : Event) :
    s.tree.Changes may (s.tell e).tree := by
  unfold tell logged
  cases hlog : s.logFile with
  | none => exact .refl _
  | some loc =>
    dsimp only
    split
    · exact .refl _
    · exact FileTree.changes_append (hmay loc · hlog) _

/-- It changes no file but the log, which holds a text. -/
theorem Tells.changes (h : s.Tells s')
    (hmay : ∀ loc text, s.logFile = some loc → may loc (.text text)) :
    s.tree.Changes may s'.tree := by
  obtain ⟨events, rfl⟩ := h
  induction events generalizing s with
  | nil => exact .refl _
  | cons e rest ih => exact (changes_tell hmay e).trans (ih (s := s.tell e) hmay)

end Session

end SchemaToSwift
