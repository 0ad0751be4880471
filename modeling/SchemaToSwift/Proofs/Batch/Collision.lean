import SchemaToSwift.Outcome
import SchemaToSwift.Proofs.Names.Typed
import SchemaToSwift.Proofs.Result

/-!
# Collisions in a batch

A batch keeps the output names that are taken, with their owners, while it goes through the
outcomes of its files. The invariant is that these are the output names of the results so far, with
the files that they belong to (`ownersOf`), so a result is the file's own outcome unless a result
before it has the same output name (`settled`). Failed and collided files have no output name, and
so leave everything after them as it is.
-/

namespace SchemaToSwift

namespace Outcome

/-- The name of the output file, if there is one. -/
def output? : Outcome → Option String
  | .generated _ output _ => some output
  | .rejected .. => none

end Outcome

namespace Batch

/-- The result of a file after the results before it: its own outcome, unless the first result with
its output name owns that name. -/
def settled (before : List Outcome) (own : Outcome) : Outcome :=
  match own.output? with
  | none => own
  | some output =>
    match before.find? (·.output? == some output) with
    | none => own
    | some first => .rejected own.file (.collision own.file output first.file)

/-- The output names of results with the files that they belong to. -/
def ownersOf (results : List Outcome) : List (String × String) :=
  results.filterMap fun o => o.output?.map fun output => (output, o.file)

/-- What the results of a batch are, given the outcomes of its files on their own. -/
structure Settles (own results : List Outcome) : Prop where
  length_eq : results.length = own.length
  /-- A result is the file's own outcome if no result before it has its output name. -/
  kept (i : Nat) (hr : i < results.length) (ho : i < own.length) :
    (∀ r ∈ results.take i, r.output? = none ∨ r.output? ≠ own[i].output?) → results[i] = own[i]
  /-- If a result before it has its output name, it is rejected, and that result owns the name. -/
  collided (i j : Nat) (hr : i < results.length) (ho : i < own.length) (hj : j < i)
    (output : String) : results[j].output? = some output → own[i].output? = some output →
      results[i] = .rejected own[i].file (.collision own[i].file output results[j].file)
  /-- No two results have one output name. -/
  distinct : (results.filterMap (·.output?)).Nodup

/-! ## One result -/

@[simp] theorem output?_generated (file output content : String) :
    (Outcome.generated file output content).output? = some output := rfl

@[simp] theorem output?_rejected (file : String) (reason : Rejection) :
    (Outcome.rejected file reason).output? = none := rfl

@[simp] theorem file_generated (file output content : String) :
    (Outcome.generated file output content).file = file := rfl

@[simp] theorem file_rejected (file : String) (reason : Rejection) :
    (Outcome.rejected file reason).file = file := rfl

@[simp] theorem ownersOf_nil : ownersOf [] = [] := rfl

theorem ownersOf_cons (o : Outcome) (rest : List Outcome) :
    ownersOf (o :: rest) =
      (o.output?.map fun output => (output, o.file)).toList ++ ownersOf rest := by
  cases h : o.output? <;> simp [ownersOf, h]

theorem ownersOf_append (xs ys : List Outcome) :
    ownersOf (xs ++ ys) = ownersOf xs ++ ownersOf ys := List.filterMap_append

/-- The owner of an output name is the file of the first result that has it. -/
theorem lookup_ownersOf (results : List Outcome) (output : String) :
    (ownersOf results).lookup output =
      (results.find? (·.output? == some output)).map (·.file) := by
  induction results with
  | nil => rfl
  | cons o rest ih =>
    rw [ownersOf_cons, List.find?_cons]
    cases ho : o.output? with
    | none => simpa using ih
    | some name =>
      by_cases h : name = output
      · simp [h]
      · have hne : (output == name) = false := beq_eq_false_iff_ne.2 fun e => h e.symm
        have hns : (some name == some output) = false := by simpa using h
        simpa only [Option.map_some, Option.toList_some, List.singleton_append, List.lookup_cons,
          hne, hns] using ih

@[simp] theorem settled_rejected (before : List Outcome) (file : String) (reason : Rejection) :
    settled before (.rejected file reason) = .rejected file reason := rfl

/-- A file keeps its outcome if its output name is new. -/
theorem settled_of_new {before : List Outcome} {own : Outcome}
    (h : ∀ r ∈ before, r.output? = none ∨ r.output? ≠ own.output?) : settled before own = own := by
  unfold settled
  split
  · rfl
  · next output hs =>
    have hf : before.find? (·.output? == some output) = none := by
      refine List.find?_eq_none.2 fun r hr => ?_
      rcases h r hr with h | h <;> simp_all
    rw [hf]

/-- A file whose output name the first result with that name owns is rejected. -/
theorem settled_of_taken {before : List Outcome} {own first : Outcome} {output : String}
    (ho : own.output? = some output)
    (hf : before.find? (·.output? == some output) = some first) :
    settled before own = .rejected own.file (.collision own.file output first.file) := by
  simp only [settled, ho, hf]

@[simp] theorem file_settled (before : List Outcome) (own : Outcome) :
    (settled before own).file = own.file := by
  unfold settled
  split
  · rfl
  · split <;> rfl

/-- A new result has no output name that one before it has. -/
theorem output?_ne_of_settled {before : List Outcome} {own : Outcome} {output : String}
    (h : (settled before own).output? = some output) :
    ∀ r ∈ before, r.output? ≠ some output := by
  intro r hr hro
  cases ho : own.output? with
  | none => simp [settled, ho] at h
  | some name =>
    cases hf : before.find? (·.output? == some name) with
    | some first => simp [settled_of_taken ho hf] at h
    | none =>
      simp only [settled, ho, hf, Option.some.injEq] at h
      subst h
      simpa [hro] using List.find?_eq_none.1 hf r hr

/-- One step of a batch: the taken names stay those of the results. -/
theorem claim_ownersOf (before : List Outcome) (own : Outcome) :
    claim (ownersOf before) own =
      (ownersOf (before ++ [settled before own]), settled before own) := by
  cases own with
  | rejected file reason => simp [claim, ownersOf_append, ownersOf_cons]
  | generated file output content =>
    have hlookup := lookup_ownersOf before output
    cases hf : before.find? (·.output? == some output) with
    | none =>
      have hs : settled before (.generated file output content) =
          .generated file output content := by
        simp only [settled, output?_generated, hf]
      rw [hf, Option.map_none] at hlookup
      simp [claim, hlookup, hs, ownersOf_append, ownersOf_cons]
    | some first =>
      have hs := settled_of_taken (output?_generated file output content) hf
      rw [hf, Option.map_some] at hlookup
      simp [claim, hlookup, hs, ownersOf_append, ownersOf_cons]

/-! ## A run through the outcomes -/

/-- The first result of a run, and the run after it. -/
theorem claimAll_cons (before : List Outcome) (o : Outcome) (rest : List Outcome) :
    claimAll (ownersOf before) (o :: rest) =
      settled before o :: claimAll (ownersOf (before ++ [settled before o])) rest := by
  rw [claimAll, claim_ownersOf]

/-- A run through two lists of outcomes goes on with the names of the first results. -/
theorem claimAll_append (before xs ys : List Outcome) :
    claimAll (ownersOf before) (xs ++ ys) =
      claimAll (ownersOf before) xs ++
        claimAll (ownersOf (before ++ claimAll (ownersOf before) xs)) ys := by
  induction xs generalizing before with
  | nil => simp [claimAll]
  | cons o rest ih =>
    rw [List.cons_append, claimAll_cons, claimAll_cons, ih, List.cons_append, List.append_assoc,
      List.singleton_append]

/-- Every result settles the outcome at its place after the results before it. -/
theorem claimAll_eq_settled (before own : List Outcome) :
    (claimAll (ownersOf before) own).length = own.length ∧
      ∀ i (hr : i < (claimAll (ownersOf before) own).length) (ho : i < own.length),
        (claimAll (ownersOf before) own)[i] =
          settled (before ++ (claimAll (ownersOf before) own).take i) own[i] := by
  induction own generalizing before with
  | nil => simp [claimAll]
  | cons o rest ih =>
    obtain ⟨hl, hget⟩ := ih (before ++ [settled before o])
    rw [claimAll_cons]
    refine ⟨by simp [hl], fun i hr ho => ?_⟩
    cases i with
    | zero => simp
    | succ n =>
      simp only [List.length_cons, Nat.add_lt_add_iff_right] at hr ho
      simpa using hget n hr ho

/-- A result with an output name is the outcome of a file. -/
theorem mem_of_mem_claimAll {before own : List Outcome} {r : Outcome} {output : String}
    (h : r ∈ claimAll (ownersOf before) own) (hr : r.output? = some output) : r ∈ own := by
  induction own generalizing before with
  | nil => cases h
  | cons o rest ih =>
    rw [claimAll_cons, List.mem_cons] at h
    rcases h with rfl | h
    · unfold settled at hr ⊢
      split at hr
      · exact .head _
      · split at hr
        · exact .head _
        · cases hr
    · exact .tail _ (ih h)

/-- Results that have different output names still do after a run. -/
theorem claimAll_nodup (before own : List Outcome) (h : (before.filterMap (·.output?)).Nodup) :
    ((before ++ claimAll (ownersOf before) own).filterMap (·.output?)).Nodup := by
  induction own generalizing before with
  | nil => simpa [claimAll] using h
  | cons o rest ih =>
    rw [claimAll_cons, ← List.singleton_append, ← List.append_assoc]
    refine ih _ ?_
    rw [List.filterMap_append, List.nodup_append]
    refine ⟨h, ?_, fun a ha b hb hab => ?_⟩
    · cases hs : (settled before o).output? <;> simp [hs]
    · obtain ⟨r, hr, hra⟩ := List.mem_filterMap.1 ha
      obtain ⟨s, hs, hsb⟩ := List.mem_filterMap.1 hb
      rw [List.mem_singleton] at hs
      subst hs hab
      exact output?_ne_of_settled hsb r hr hra

/-- Where output names are distinct, a result is the first one that has its name. -/
theorem find?_of_nodup {results : List Outcome} {r : Outcome} {output : String}
    (h : (results.filterMap (·.output?)).Nodup) (hr : r ∈ results)
    (ho : r.output? = some output) : results.find? (·.output? == some output) = some r := by
  induction results with
  | nil => cases hr
  | cons s rest ih =>
    rcases List.mem_cons.1 hr with rfl | hr
    · simp [ho]
    · have hrest : output ∈ rest.filterMap (·.output?) := List.mem_filterMap.2 ⟨r, hr, ho⟩
      rw [List.filterMap_cons] at h
      cases hs : s.output? with
      | none =>
        rw [hs] at h
        simpa [hs] using ih h hr
      | some name =>
        rw [hs] at h
        have hne : name ≠ output := fun e => (List.nodup_cons.1 h).1 (e ▸ hrest)
        simpa [hs, hne] using ih (List.nodup_cons.1 h).2 hr

/-- The results of a batch settle the outcomes of its files. -/
theorem claimAll_settles (own : List Outcome) : Settles own (claimAll [] own) := by
  obtain ⟨hl, hget⟩ := claimAll_eq_settled [] own
  have hnodup := claimAll_nodup [] own List.nodup_nil
  rw [ownersOf_nil] at hl hget hnodup
  refine ⟨hl, fun i hr ho hnew => ?_, fun i j hr ho hj output hjo hio => ?_, hnodup⟩
  · rw [hget i hr ho, List.nil_append]
    exact settled_of_new hnew
  · rw [hget i hr ho, List.nil_append]
    have hsub : ((claimAll [] own).take i).Sublist (claimAll [] own) := List.take_sublist ..
    refine settled_of_taken hio (find?_of_nodup (hnodup.sublist (hsub.filterMap _)) ?_ hjo)
    exact List.mem_take_iff_getElem.2 ⟨j, by omega, rfl⟩

/-- A rejected outcome takes no name, so the results of the others are those without it. -/
theorem claimAll_rejected (xs ys : List Outcome) (file : String) (reason : Rejection) :
    ∃ after, claimAll [] (xs ++ .rejected file reason :: ys) =
        claimAll [] xs ++ .rejected file reason :: after ∧
      claimAll [] (xs ++ ys) = claimAll [] xs ++ after := by
  have hsplit (zs : List Outcome) :
      claimAll [] (xs ++ zs) = claimAll [] xs ++ claimAll (ownersOf (claimAll [] xs)) zs :=
    claimAll_append [] xs zs
  refine ⟨claimAll (ownersOf (claimAll [] xs)) ys, ?_, hsplit ys⟩
  rw [hsplit, claimAll_cons, settled_rejected, ownersOf_append, ownersOf_cons, output?_rejected]
  simp

/-- The results of a batch whose files all have outcomes. -/
theorem generate_eq_claimAll {settings : Settings} {wanted : Option (List String)}
    {files : List Schema} {own : List Outcome}
    (h : List.Forall₂ (fun f o => Schema.generate settings f = .ok o)
      (files.filter (isWanted wanted)) own) :
    generate settings wanted files = .ok (claimAll [] own) := by
  unfold generate
  rw [Result.mapM_ok_iff.2 h]
  rfl

/-- The results of a batch are those of the outcomes of its files. -/
theorem exists_of_generate {settings : Settings} {wanted : Option (List String)}
    {files : List Schema} {results : List Outcome}
    (h : generate settings wanted files = .ok results) :
    ∃ own, (files.filter (isWanted wanted)).mapM (Schema.generate settings) = .ok own ∧
      results = claimAll (ownersOf []) own := by
  obtain ⟨own, hown, hresults⟩ := Result.bind_eq_ok_iff.1 h
  cases hresults
  exact ⟨own, hown, rfl⟩

end Batch

/-! ## The outcome of one file -/

/-- The file of a plan is the one that the plan is made for. -/
theorem FilePlan.file_of_make {settings : Settings} {file : Schema} {plan : FilePlan}
    (h : make settings file = .ok plan) : plan.file = file := by
  unfold make at h
  cases ht : NameTable.ofSchema file settings.modules settings.runtimeModule with
  | error e => rw [ht] at h; cases h
  | ok t =>
    rw [ht, Result.bind_ok] at h
    cases hs : containsAny file.name settings.shortened with
    | error e => rw [hs] at h; cases h
    | ok shorten =>
      rw [hs] at h
      cases h
      exact (NameTable.fields_of_ofSchema ht).1

/-- The settings of a plan are those that the plan is made with. -/
theorem FilePlan.settings_of_make {settings : Settings} {file : Schema} {plan : FilePlan}
    (h : make settings file = .ok plan) : plan.settings = settings := by
  obtain ⟨t, -, h⟩ := Result.bind_eq_ok_iff.1 h
  obtain ⟨shorten, -, h⟩ := Result.bind_eq_ok_iff.1 h
  cases h
  rfl

/-- The outcome of a plan carries the name of its file. -/
theorem FilePlan.file_of_outcome {plan : FilePlan} {o : Outcome} (h : plan.outcome = .ok o) :
    o.file = plan.file.name := by
  unfold outcome at h
  split at h <;> cases h <;> rfl

/-- The outcome of a file carries the name of the file. -/
theorem Schema.file_of_generate {settings : Settings} {file : Schema} {o : Outcome}
    (h : file.generate settings = .ok o) : o.file = file.name := by
  unfold generate at h
  cases hp : FilePlan.make settings file with
  | error e => rw [hp] at h; cases h
  | ok plan =>
    rw [hp, Result.bind_ok] at h
    rw [FilePlan.file_of_outcome h, FilePlan.file_of_make hp]

/-- The name of an output file comes from the name of the file. -/
theorem Schema.output_of_generate {settings : Settings} {file : Schema}
    {name output content : String}
    (h : file.generate settings = .ok (.generated name output content)) :
    output = settings.naming.outputName name FileNaming.swiftEnding := by
  obtain ⟨plan, hplan, h⟩ := Result.bind_eq_ok_iff.1 h
  unfold FilePlan.outcome at h
  split at h <;> cases h
  rw [FilePlan.outputName, FilePlan.settings_of_make hplan]

/-! ## The results of a batch -/

namespace Batch

variable {settings : Settings} {wanted : Option (List String)} {files : List Schema}

/-- The wanted files have a list of outcomes if each has one. -/
theorem outcomes_of_wanted (wanted : Option (List String)) (files : List Schema)
    (h : ∀ f ∈ files, isWanted wanted f → ∃ o, f.generate settings = .ok o) :
    ∃ own, List.Forall₂ (fun f o => Schema.generate settings f = .ok o)
      (files.filter (isWanted wanted)) own := by
  have hall : ∀ f ∈ files.filter (isWanted wanted), ∃ o, Schema.generate settings f = .ok o :=
    fun f hf => h f (List.mem_of_mem_filter hf) (List.of_mem_filter hf)
  obtain ⟨own, hown⟩ := Result.mapM_of_ok hall
  exact ⟨own, Result.mapM_ok_iff.1 hown⟩

/-- The outcomes of files carry the names of the files. -/
theorem files_of_outcomes {fs : List Schema} {own : List Outcome}
    (h : List.Forall₂ (fun f o => Schema.generate settings f = .ok o) fs own) :
    own.map (·.file) = fs.map (·.name) := by
  induction h with
  | nil => rfl
  | cons ho _ ih => rw [List.map_cons, List.map_cons, ih, Schema.file_of_generate ho]

/-- The results of a run carry the names that the outcomes carry. -/
theorem files_claimAll (before own : List Outcome) :
    (claimAll (ownersOf before) own).map (·.file) = own.map (·.file) := by
  induction own generalizing before with
  | nil => rfl
  | cons o rest ih => rw [claimAll_cons, List.map_cons, List.map_cons, ih, file_settled]

/-- No two results of a batch have one output name. -/
theorem eq_of_output?_eq {results : List Outcome} (h : generate settings wanted files = .ok results)
    {a b : Outcome} (ha : a ∈ results) (hb : b ∈ results) {output : String}
    (hao : a.output? = some output) (hbo : b.output? = some output) : a = b := by
  obtain ⟨own, -, rfl⟩ := exists_of_generate h
  have hnodup := (claimAll_settles own).distinct
  exact Option.some.inj ((find?_of_nodup hnodup ha hao).symm.trans (find?_of_nodup hnodup hb hbo))

/-- A generated file of a batch has the name of a file, and an output name that comes from it. -/
theorem exists_of_generated {results : List Outcome}
    (h : generate settings wanted files = .ok results) {name output content : String}
    (hmem : .generated name output content ∈ results) :
    (∃ f ∈ files, f.name = name) ∧
      output = settings.naming.outputName name FileNaming.swiftEnding := by
  obtain ⟨own, hown, rfl⟩ := exists_of_generate h
  obtain ⟨f, hf, hgenerate⟩ := Result.exists_of_mem_mapM hown (mem_of_mem_claimAll hmem rfl)
  exact ⟨⟨f, (List.mem_filter.1 hf).1, (Schema.file_of_generate hgenerate).symm⟩,
    Schema.output_of_generate hgenerate⟩

/-- A result that is not the file's own outcome is a rejection, whose sentence names the earlier
result that owns the output name. -/
theorem Settles.names_owner {own results : List Outcome} (h : Settles own results) {i : Nat}
    (hr : i < results.length) (ho : i < own.length) (hne : results[i] ≠ own[i]) :
    ∃ (j : Nat) (hj : j < i) (output : String) (reason : Rejection),
      results[j].output? = some output ∧ own[i].output? = some output ∧
        results[i] = .rejected own[i].file reason ∧
          reason.message = own[i].file ++ ": output filename '" ++ output ++
            "' collides with the output of " ++ results[j].file := by
  have htaken : ∃ r ∈ results.take i, r.output? ≠ none ∧ r.output? = own[i].output? := by
    by_contra hnone
    refine hne (h.kept i hr ho fun r hmem => ?_)
    by_cases hempty : r.output? = none
    · exact .inl hempty
    · exact .inr fun hsame => hnone ⟨r, hmem, hempty, hsame⟩
  obtain ⟨r, hmem, hsome, hsame⟩ := htaken
  obtain ⟨output, houtput⟩ := Option.ne_none_iff_exists'.1 hsome
  obtain ⟨j, hj, rfl⟩ := List.mem_take_iff_getElem.1 hmem
  have hji : j < i := by omega
  exact ⟨j, hji, output, _, houtput, hsame ▸ houtput,
    h.collided i j hr ho hji output houtput (hsame ▸ houtput), rfl⟩

/-- A batch whose wanted files all have outcomes gives one result for each of them, in order; the
results settle the outcomes, a collision names the file that owns the output name, and a rejected
file leaves the results of all others as they are. -/
theorem generate_settles
    (h : ∀ f ∈ files, isWanted wanted f → ∃ o, f.generate settings = .ok o) :
    ∃ own results,
      List.Forall₂ (fun f o => Schema.generate settings f = .ok o)
        (files.filter (isWanted wanted)) own ∧
      generate settings wanted files = .ok results ∧
      results.map (·.file) = (files.filter (isWanted wanted)).map (·.name) ∧
      Settles own results ∧
      (∀ (i : Nat) (hr : i < results.length) (ho : i < own.length), results[i] ≠ own[i] →
        ∃ (j : Nat) (hj : j < i) (output : String) (reason : Rejection),
          results[j].output? = some output ∧ own[i].output? = some output ∧
            results[i] = .rejected own[i].file reason ∧
              reason.message = own[i].file ++ ": output filename '" ++ output ++
                "' collides with the output of " ++ results[j].file) ∧
      ∀ xs f ys reason, files = xs ++ f :: ys →
        f.generate settings = .ok (.rejected f.name reason) →
          ∃ before after,
            before.length = (xs.filter (isWanted wanted)).length ∧
            results = before ++
              (if isWanted wanted f then [.rejected f.name reason] else []) ++ after ∧
            generate settings wanted (xs ++ ys) = .ok (before ++ after) := by
  obtain ⟨own, hown⟩ := outcomes_of_wanted wanted files h
  have hgen := generate_eq_claimAll hown
  have hsettles := claimAll_settles own
  refine ⟨own, _, hown, hgen, ?_, hsettles, fun i hr ho => hsettles.names_owner hr ho, ?_⟩
  · rw [← ownersOf_nil, files_claimAll, files_of_outcomes hown]
  rintro xs f ys reason rfl hf
  obtain ⟨os, hos⟩ := outcomes_of_wanted wanted xs fun g hg =>
    h g (List.mem_append_left _ hg)
  obtain ⟨ps, hps⟩ := outcomes_of_wanted wanted ys fun g hg =>
    h g (List.mem_append_right _ (.tail _ hg))
  obtain ⟨after, hwith, hwithout⟩ := claimAll_rejected os ps f.name reason
  have hrest : generate settings wanted (xs ++ ys) = .ok (claimAll [] (os ++ ps)) := by
    refine generate_eq_claimAll ?_
    rw [List.filter_append]
    exact List.rel_append hos hps
  have hlength : (claimAll [] os).length = (xs.filter (isWanted wanted)).length := by
    rw [(claimAll_settles os).length_eq, hos.length_eq]
  refine ⟨claimAll [] os, after, hlength, ?_, by rw [hrest, hwithout]⟩
  by_cases hw : isWanted wanted f
  · have hall : generate settings wanted (xs ++ f :: ys) =
        .ok (claimAll [] (os ++ .rejected f.name reason :: ps)) := by
      refine generate_eq_claimAll ?_
      rw [List.filter_append, List.filter_cons_of_pos hw]
      exact List.rel_append hos (.cons hf hps)
    rw [hgen, Except.ok.injEq] at hall
    rw [hall, hwith, if_pos hw, List.append_assoc, List.singleton_append]
  · have hall : generate settings wanted (xs ++ f :: ys) = .ok (claimAll [] (os ++ ps)) := by
      refine generate_eq_claimAll ?_
      rw [List.filter_append, List.filter_cons_of_neg hw]
      exact List.rel_append hos hps
    rw [hgen, Except.ok.injEq] at hall
    rw [hall, hwithout, if_neg hw, List.append_nil]

/-- Settings that drop the folder of output files. -/
def droppingFolders : Settings := { Settings.default with naming := .dropPath, profile := .lite }

/-- Of two files that give one output name the second is rejected, and the first is named. -/
theorem generate_settles_same_base :
    ∃ content, generate droppingFolders none [Schema.blank "a.proto", Schema.blank "b/a.proto"] =
      .ok [.generated "a.proto" "a.pb.swift" content,
        .rejected "b/a.proto" (.collision "b/a.proto" "a.pb.swift" "a.proto")] := by
  have hown : ∀ f ∈ [Schema.blank "a.proto", Schema.blank "b/a.proto"], isWanted none f →
      ∃ o, f.generate droppingFolders = .ok o := by
    intro f hf _
    rcases List.mem_pair.1 hf with rfl | rfl <;> exact ⟨_, rfl⟩
  obtain ⟨own, results, hgen, hresults, -, hsettles, -⟩ := generate_settles hown
  obtain ⟨first, hfirst⟩ : ∃ c, (Schema.blank "a.proto").generate droppingFolders =
      .ok (.generated "a.proto" "a.pb.swift" c) := ⟨_, rfl⟩
  obtain ⟨second, hsecond⟩ : ∃ c, (Schema.blank "b/a.proto").generate droppingFolders =
      .ok (.generated "b/a.proto" "a.pb.swift" c) := ⟨_, rfl⟩
  have hall : [Schema.blank "a.proto", Schema.blank "b/a.proto"].filter (isWanted none) =
      [Schema.blank "a.proto", Schema.blank "b/a.proto"] := rfl
  rw [hall] at hgen
  obtain _ | ⟨h₀, _ | ⟨h₁, ⟨⟩⟩⟩ := hgen
  obtain rfl := Except.ok.inj (hfirst.symm.trans h₀)
  obtain rfl := Except.ok.inj (hsecond.symm.trans h₁)
  obtain ⟨r₀, r₁, rfl⟩ := List.length_eq_two.1 hsettles.length_eq
  have hkept : r₀ = .generated "a.proto" "a.pb.swift" first :=
    hsettles.kept 0 (by simp) (by simp) (by simp)
  subst hkept
  have hcollided : r₁ = .rejected "b/a.proto" (.collision "b/a.proto" "a.pb.swift" "a.proto") :=
    hsettles.collided 1 0 (by simp) (by simp) (by simp) "a.pb.swift" rfl rfl
  subst hcollided
  exact ⟨first, hresults⟩

end Batch

end SchemaToSwift
