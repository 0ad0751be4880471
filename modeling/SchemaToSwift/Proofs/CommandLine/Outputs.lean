import SchemaToSwift.CommandLine.Run
import SchemaToSwift.Proofs.FileTree.Place

/-!
# Writing output files

A run writes its outputs one after the other, each to a path below one folder. `Wrote` says what
that leaves: all paths lead to their places, and a place holds what was written to it last
(`lastTo`). One output does so (`wrote_of_writeOutput`), and writing goes on from what was written
(`Wrote.cons`), so all outputs do (`wrote_of_writeOutputs`). What is told on the way goes to the log
file, which is therefore left out.
-/

namespace SchemaToSwift.CommandLine

/-- The generated files below a folder in order, each as its path and its content. -/
def outputs (folder : FilePath) (outcomes : List Outcome) : List (FilePath × String) :=
  outcomes.filterMap fun
    | .generated _ output content => some (folder.join (.ofText output), content)
    | .rejected .. => none

/-- The content of the last output whose place is a location. -/
def lastTo (t : FileTree) (outs : List (FilePath × String)) (loc : Location) : Option String :=
  (outs.reverse.find? fun o => t.place o.1 == loc).map (·.2)

/-- What is left of a session after outputs are written. -/
structure Wrote (s s' : Session) (outs : List (FilePath × String)) : Prop where
  logFile : s'.logFile = s.logFile
  grows : s.tree.Grows s'.tree (outs.map (s.tree.place ·.1) ++ s.logFile.toList)
  leads : ∀ o ∈ outs, s'.tree.locate o.1 = .ok (s.tree.place o.1)
  holds : ∀ loc content, s.logFile ≠ some loc → lastTo s.tree outs loc = some content →
    s'.tree.entry? loc = some (.text content)

/-! ## The last output -/

/-- What comes later to a place counts. -/
theorem lastTo_cons (t : FileTree) (o : FilePath × String) (rest : List (FilePath × String))
    (loc : Location) : lastTo t (o :: rest) loc =
      (lastTo t rest loc).or (if t.place o.1 = loc then some o.2 else none) := by
  rw [lastTo, List.reverse_cons, List.find?_append, Option.map_or, ← lastTo]
  by_cases h : t.place o.1 = loc <;> simp [h]

/-- The place of an output has a last output, which has the same place. -/
theorem exists_lastTo {t : FileTree} {outs : List (FilePath × String)} {o : FilePath × String}
    (ho : o ∈ outs) : ∃ last ∈ outs, t.place last.1 = t.place o.1 ∧
      lastTo t outs (t.place o.1) = some last.2 := by
  have hsome : (outs.reverse.find? fun a => t.place a.1 == t.place o.1).isSome := by
    rw [List.find?_isSome]
    exact ⟨o, List.mem_reverse.2 ho, beq_self_eq_true _⟩
  obtain ⟨last, hlast⟩ := Option.isSome_iff_exists.1 hsome
  refine ⟨last, List.mem_reverse.1 (List.mem_of_find?_eq_some hlast), ?_, ?_⟩
  · simpa using List.find?_some hlast
  · rw [lastTo, hlast, Option.map_some]

/-- No output is the last one at a place that none has. -/
theorem not_mem_places_of_lastTo {t : FileTree} {outs : List (FilePath × String)} {loc : Location}
    (h : lastTo t outs loc = none) : loc ∉ outs.map (t.place ·.1) := by
  rintro hmem
  obtain ⟨o, ho, rfl⟩ := List.mem_map.1 hmem
  obtain ⟨last, -, -, hlast⟩ := exists_lastTo (t := t) ho
  rw [h] at hlast
  cases hlast

/-! ## One output after the other -/

theorem wrote_nil (s : Session) : Wrote s s [] :=
  ⟨rfl, .refl _ _, by simp, fun _ _ _ h => by cases h⟩

/-- Where texts go depends only on where paths lead. -/
theorem lastTo_congr {t t' : FileTree} (h : ∀ p, t'.place p = t.place p) :
    lastTo t' = lastTo t := by
  funext outs loc
  simp only [lastTo, h]

/-- Writing goes on after one output. -/
theorem Wrote.cons {s s₁ s' : Session} {o : FilePath × String} {rest : List (FilePath × String)}
    (hfirst : Wrote s s₁ [o]) (hrest : Wrote s₁ s' rest) : Wrote s s' (o :: rest) := by
  have hplace : ∀ p, s₁.tree.place p = s.tree.place p := hfirst.grows.place
  have hgrows := hrest.grows
  rw [hfirst.logFile] at hgrows
  simp only [hplace] at hgrows
  constructor
  case logFile => exact hrest.logFile.trans hfirst.logFile
  case grows =>
    refine (hfirst.grows.trans hgrows).mono fun l hl => ?_
    simp only [List.map_cons, List.map_nil, List.cons_append, List.nil_append, List.mem_cons,
      List.mem_append] at hl ⊢
    grind
  case leads =>
    intro p hp
    rcases List.mem_cons.1 hp with rfl | hp
    · exact hgrows.locate (hfirst.leads p (.head _))
    · rw [hrest.leads p hp, hplace]
  case holds =>
    intro loc content hlog hlast
    rw [lastTo_cons] at hlast
    cases hlater : lastTo s.tree rest loc with
    | some last =>
      rw [hlater, Option.some_or] at hlast
      refine hrest.holds loc content (hfirst.logFile ▸ hlog) ?_
      rw [lastTo_congr hplace, hlater, hlast]
    | none =>
      -- No later output goes there, so the first one is kept.
      rw [hlater, Option.none_or] at hlast
      refine hgrows.kept loc _ (hfirst.holds loc content hlog ?_) ?_
      · rw [lastTo_cons]
        simpa [lastTo] using hlast
      · rw [List.mem_append, not_or]
        exact ⟨not_mem_places_of_lastTo hlater, by simpa using hlog⟩

/-- An output is written where its folders can be made and a file can stand. -/
theorem writeOutput_eq {t : FileTree} {loc : Location} {content : String} (s : Session)
    (target : FilePath) (hfolders : s.tree.makeFolders target.parent = (t, .ok ()))
    (hloc : t.fileOf target = .ok loc) (hbytes : Text.hasHalf content = false) :
    writeOutput s target content =
      (Session.tell { s with tree := t.put loc (.text content) } (.wrote target.text),
        .ok ()) := by
  simp [writeOutput, hfolders, hloc, FileTree.write, hbytes]

/-- Writing one output. -/
theorem wrote_of_writeOutput {s s' : Session} {target : FilePath} {content : String}
    (h : writeOutput s target content = (s', .ok ())) : Wrote s s' [(target, content)] := by
  unfold writeOutput at h
  have hmade := FileTree.grows_makeFolders s.tree target.parent
  rcases hfolders : s.tree.makeFolders target.parent with ⟨t₁, made⟩
  rw [hfolders] at h hmade
  cases made with
  | error e => cases h
  | ok u =>
    dsimp only at h
    cases hloc : t₁.fileOf target with
    | error e =>
      rw [hloc] at h
      cases h
    | ok loc =>
      rw [hloc] at h
      dsimp only at h
      rcases hwrite : t₁.write loc content with ⟨t₂, written⟩
      rw [hwrite] at h
      cases written with
      | error e => cases h
      | ok u =>
        cases h
        obtain ⟨hput, hlocate, hentry⟩ := FileTree.write_of_fileOf hloc hwrite
        have htold := Session.grows_tell { s with tree := t₂ } (.wrote target.text)
        have hgrows := (hmade.trans hput).trans htold
        have hplace : s.tree.place target = loc := by
          rw [← FileTree.place_of_locate hlocate, (hmade.trans hput).place]
        constructor
        case logFile => rfl
        case grows => simpa [hplace] using hgrows
        case leads => simpa [hplace] using htold.locate hlocate
        case holds =>
          intro l c hlog hlast
          obtain ⟨rfl, rfl⟩ : loc = l ∧ content = c := by
            simpa [lastTo, hplace] using hlast
          exact htold.kept _ _ hentry (by simpa using hlog)

/-- Writing all outputs. -/
theorem wrote_of_writeOutputs {folder : FilePath} {outcomes : List Outcome} {s s' : Session}
    (h : writeOutputs s folder outcomes = (s', .ok ())) : Wrote s s' (outputs folder outcomes) := by
  induction outcomes generalizing s with
  | nil =>
    cases h
    exact wrote_nil _
  | cons o rest ih =>
    cases o with
    | rejected file reason => exact ih h
    | generated file output content =>
      unfold writeOutputs at h
      dsimp only at h
      rcases hfirst : writeOutput s (folder.join (.ofText output)) content with ⟨s₁, result⟩
      rw [hfirst] at h
      cases result with
      | error e => cases h
      | ok u => exact (wrote_of_writeOutput hfirst).cons (ih h)

section
variable {s s' : Session} {outs : List (FilePath × String)} (h : Wrote s s' outs)
  (hlog : ∀ o ∈ outs, s.logFile ≠ some (s.tree.place o.1))
include h hlog

/-- Reading an output gives the last one that was written to its place. -/
theorem Wrote.read {o : FilePath × String} (ho : o ∈ outs) :
    ∃ last ∈ outs, s.tree.place last.1 = s.tree.place o.1 ∧
      lastTo s.tree outs (s.tree.place o.1) = some last.2 ∧ s'.tree.read o.1 = .ok last.2 := by
  obtain ⟨last, hmem, hplace, hlast⟩ := exists_lastTo (t := s.tree) ho
  refine ⟨last, hmem, hplace, hlast, ?_⟩
  rw [FileTree.read, h.leads o ho, Result.bind_ok, h.holds _ _ (hlog o ho) hlast]
  rfl

/-- All outputs are read as they were written if and only if those of one place are the same. -/
theorem Wrote.read_iff : (∀ o ∈ outs, s'.tree.read o.1 = .ok o.2) ↔
    ∀ a ∈ outs, ∀ b ∈ outs, s.tree.place a.1 = s.tree.place b.1 → a.2 = b.2 := by
  refine ⟨fun hall a ha b hb hab => ?_, fun hsame o ho => ?_⟩
  · obtain ⟨lastA, -, -, hlastA, hreadA⟩ := h.read hlog ha
    obtain ⟨lastB, -, -, hlastB, hreadB⟩ := h.read hlog hb
    rw [hall a ha, Except.ok.injEq] at hreadA
    rw [hall b hb, Except.ok.injEq] at hreadB
    rw [hab, hlastB, Option.some.injEq] at hlastA
    rw [hreadA, hreadB, hlastA]
  · obtain ⟨last, hmem, hplace, -, hread⟩ := h.read hlog ho
    rw [hread, hsame last hmem o ho hplace]

end

/-- The outputs are those of the files that were generated. -/
theorem mem_outputs {folder : FilePath} {outcomes : List Outcome} {o : FilePath × String} :
    o ∈ outputs folder outcomes ↔ ∃ file output, .generated file output o.2 ∈ outcomes ∧
      folder.join (.ofText output) = o.1 := by
  constructor
  · intro h
    obtain ⟨outcome, hmem, ho⟩ := List.mem_filterMap.1 h
    cases outcome with
    | rejected file reason => cases ho
    | generated file output content =>
      cases ho
      exact ⟨file, output, hmem, rfl⟩
  · rintro ⟨file, output, hmem, hpath⟩
    refine List.mem_filterMap.2 ⟨_, hmem, ?_⟩
    dsimp only
    rw [hpath]

end SchemaToSwift.CommandLine
