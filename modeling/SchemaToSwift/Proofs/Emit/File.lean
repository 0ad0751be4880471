import SchemaToSwift.Outcome
import SchemaToSwift.Proofs.Emit.Extension
import SchemaToSwift.Proofs.Imports

/-!
# Emission of typed files

Only two checks stop the emission of a typed file: that of the prefix, before anything is printed,
and those of the fields, where the messages are declared. Both profiles declare all messages, so the
verdict on a file is the same in both. The full profile goes on to the extensions, and a file that
passes the checks is a fault there if an extension has no name.
-/

namespace SchemaToSwift

/-- A prefix that is given and is no bare identifier. -/
def Schema.HasBadPrefix (f : Schema) : Prop :=
  f.swiftPrefix.display ≠ "" ∧ Swift.isBare f.swiftPrefix.display = false
deriving Decidable

/-- A file that the full profile needs the name of an extension for, which has none. -/
def Schema.NeedsName (s : Settings) (f : Schema) : Prop :=
  s.isLite = false ∧ ∃ x ∈ f.allExtensions, f.Nameless x.fullName

/-- The error of a file: that of its prefix, or else that of its messages. -/
def Schema.error? (f : Schema) : Option GenerationError :=
  if f.HasBadPrefix then some (.badPrefix f.name f.swiftPrefix.display) else f.refusal?

/-- A file that declares nothing is not refused and has no extensions. -/
theorem Schema.nothing_of_definesTypes {f : Schema} (h : f.definesTypes = false) :
    f.refusal? = none ∧ f.allExtensions = [] := by
  simp only [definesTypes, Bool.or_eq_false_iff, Bool.not_eq_false',
    List.isEmpty_iff] at h
  obtain ⟨⟨-, hmessages⟩, hextensions⟩ := h
  simp [refusal?, allExtensions, allMessages, hmessages, hextensions,
    MessageType.subtrees]

/-! ## Comments -/

/-- Comments that are texts give comment lines. -/
theorem Comments.Typed.sourceText_ok {c : Comments} (h : c.Typed) (marker : String)
    (detachedMarker : Option String) : ∃ text, c.sourceText marker detachedMarker = .ok text := by
  obtain ⟨leading, hleading⟩ : ∃ s, leadingText marker c.leading = .ok s := by
    unfold leadingText
    split
    · rw [h.leading.asText]
      exact ⟨_, rfl⟩
    · exact ⟨_, rfl⟩
  obtain ⟨texts, htexts⟩ : ∃ ts, c.detached.mapM (·.asText .noOperation) = .ok ts :=
    Result.mapM_of_ok fun d hd => ⟨d.display, (h.detached d hd).asText _⟩
  unfold sourceText
  cases detachedMarker with
  | none =>
    simp only [Result.pure_eq, Result.bind_ok, hleading]
    exact ⟨_, rfl⟩
  | some m =>
    simp only [detachedText, htexts, Result.bind_ok, Result.pure_eq, hleading]
    exact ⟨_, rfl⟩

namespace FilePlan

/-- A plan of a typed file. -/
structure Typed (plan : FilePlan) : Prop where
  names : plan.names.TableOf plan.file
  file : plan.file.Typed

variable {plan : FilePlan}

/-! ## Before the declarations -/

/-- The check of the prefix refuses the bad ones. -/
theorem checkPrefix_eq (h : plan.Typed) :
    plan.checkPrefix =
      if plan.file.HasBadPrefix
      then .error (.reported (.badPrefix plan.file.name plan.file.swiftPrefix.display))
      else .ok () := by
  obtain ⟨given, hgiven⟩ := h.file.swiftPrefix
  simp only [checkPrefix, Schema.HasBadPrefix, hgiven, Json.truthy_str, Json.asText_str,
    Failure.escape_ok, Result.bind_ok, Json.display_str]
  by_cases hempty : given = ""
  · simp [hempty]
  · by_cases hbare : Swift.isBare given = true <;> simp [hempty, hbare]

/-- The comments at the top of a typed file are texts. -/
theorem Typed.typed_topComments (h : plan.Typed) {c : Comments} (hc : plan.topComments = some c) :
    c.Typed := by
  obtain ⟨n, -, hn⟩ := List.exists_of_findSome?_eq_some hc
  obtain ⟨entry, hentry, rfl⟩ := Option.map_eq_some_iff.1 hn
  exact (h.file.comments entry (List.mem_of_find?_eq_some hentry)).2

theorem ends_topComment (h : plan.Typed) : plan.topComment.Ends (.ok ()) := by
  unfold topComment
  split
  · exact Emission.ends_nothing
  · next c hc =>
    obtain ⟨text, htext⟩ := (h.typed_topComments hc).sourceText_ok "///" (some "//")
    refine Emission.ends_onValue htext ?_
    split
    · exact Emission.ends_nothing
    · split
      · exact Emission.ends_text text
      · exact Emission.ends_lines _

theorem ends_linesIfAny (texts : List String) : (linesIfAny texts).Ends (.ok ()) := by
  unfold linesIfAny
  split
  · exact Emission.ends_nothing
  · exact Emission.ends_lines texts

theorem ends_printModuleImports (modules : List String) :
    (plan.printModuleImports modules).Ends (.ok ()) := by
  unfold printModuleImports
  split
  · exact Emission.ends_nothing
  · refine Emission.Ends.all_cons ?_ ((Emission.ends_lines _).all_cons Emission.ends_all_nil)
    split
    · exact Emission.ends_nothing
    · exact Emission.ends_lines _

/-! ## The declarations -/

/-- Declarations of a file that print its messages, with the extensions of the file. -/
structure Declares (plan : FilePlan) (d : Declarations) : Prop where
  enums : ∀ e ∈ d.enums, e.swiftName.IsText
  extensions : d.extensions.Holds plan.file.allExtensions
  messages : MessagePlan.Prints plan.file.name plan.file.allMessages
    (fun s => MessagePlan.declarations s d.messages)
    fun s hasPackage => MessagePlan.runtimeSupports s hasPackage d.messages

/-- The declarations of a typed file can be planned. -/
theorem declarations_ok (h : plan.Typed) (shorten : Bool) :
    ∃ d, plan.declarations shorten = .ok d ∧ plan.Declares d := by
  obtain ⟨set₁, hadd, hset₁⟩ := ExtensionSet.holds_empty.add h.file.extensions
  obtain ⟨enums, henums, htexts⟩ := EnumPlan.mapM_make_ok h.names shorten h.file.enums
  obtain ⟨set₂, messages, hmessages, hset₂, hprints⟩ :=
    MessagePlan.makeAll_prints h.names shorten h.file.messages hset₁
  refine ⟨⟨set₂, enums, messages⟩, ?_, htexts, hset₂, hprints⟩
  simp only [declarations, hadd, Result.bind_ok, henums, hmessages]
  rfl

/-- Printing the declarations ends with the first error of the messages. -/
theorem Declares.ends_printDeclarations {d : Declarations} (h : plan.Declares d) :
    (plan.printDeclarations d).Ends (Emission.verdict plan.file.refusal?) :=
  (EnumPlan.ends_declarations h.enums _).andThen (h.messages.declaration _)

/-- The runtime support of a file that is not refused is printed to the end. -/
theorem Declares.ends_printRuntimeSupport {d : Declarations} (h : plan.Declares d)
    (hnone : plan.file.refusal? = none) : (plan.printRuntimeSupport d).Ends (.ok ()) := by
  refine (Emission.ends_lines _).all_cons (Emission.Ends.all_cons ?_ ?_)
  · split
    · exact Emission.ends_lines _
    · exact Emission.ends_nothing
  · exact (EnumPlan.ends_runtimeSupports h.enums _).all_cons <|
      (h.messages.runtimeSupport _ _ hnone).all_cons Emission.ends_all_nil

/-! ## The two profiles -/

theorem ends_liteBody (h : plan.Typed) :
    plan.liteBody.Ends (Emission.verdict plan.file.refusal?) := by
  unfold liteBody
  split
  · next hnone =>
    rw [(Schema.nothing_of_definesTypes (by simpa using hnone)).1]
    exact (Emission.ends_lines _).all_cons <|
      (Emission.ends_lines _).all_cons Emission.ends_all_nil
  · obtain ⟨d, hd, hdeclares⟩ := declarations_ok h plan.shorten
    exact (Emission.ends_lines _).all_cons <|
      (Emission.ends_onValue hd hdeclares.ends_printDeclarations).andThen_ok Emission.ends_all_nil

/-- The full profile ends as the declarations do and, after them, as the extensions do. -/
theorem ends_fullBody (h : plan.Typed) {r : Emission.End}
    (hr : ∀ d, plan.Declares d → (plan.printExtensions d.extensions).Ends r)
    (hnone : plan.file.allExtensions = [] → r = .ok ()) (hasImports : Bool) :
    (plan.fullBody hasImports).Ends (Emission.verdict plan.file.refusal? >>= fun _ => r) := by
  unfold fullBody
  split
  · next hdefines =>
    obtain ⟨hrefusal, hextensions⟩ := Schema.nothing_of_definesTypes (by simpa using hdefines)
    rw [hrefusal, hnone hextensions]
    refine Emission.Ends.all_cons ?_ ((Emission.ends_lines _).all_cons Emission.ends_all_nil)
    split
    · exact Emission.ends_lines _
    · exact Emission.ends_nothing
  · obtain ⟨d, hd, hdeclares⟩ := declarations_ok h false
    have hcode : (Emission.all [plan.printDeclarations d, plan.printExtensions d.extensions,
        plan.printRuntimeSupport d]).Ends (Emission.verdict plan.file.refusal? >>= fun _ => r) := by
      have hdeclarations := hdeclares.ends_printDeclarations
      cases hrefusal : plan.file.refusal? with
      | some e =>
        rw [hrefusal] at hdeclarations
        exact hdeclarations.all_cons_stop _
      | none =>
        rw [hrefusal] at hdeclarations
        exact hdeclarations.all_cons <| (hr d hdeclares).andThen_ok <|
          (hdeclares.ends_printRuntimeSupport hrefusal).all_cons Emission.ends_all_nil
    exact (Emission.ends_lines _).all_cons <| (Emission.ends_lines _).all_cons <|
      (Emission.ends_onValue hd hcode).andThen_ok Emission.ends_all_nil

theorem ends_importsAndBody (h : plan.Typed)
    (himports : ∃ modules, plan.moduleImports = .ok modules) {r : Emission.End}
    (hr : ∀ d, plan.Declares d → (plan.printExtensions d.extensions).Ends r)
    (hnone : plan.file.allExtensions = [] → r = .ok ()) :
    plan.importsAndBody.Ends (Emission.verdict plan.file.refusal? >>= fun _ => r) := by
  obtain ⟨modules, hmodules⟩ := himports
  exact (ends_linesIfAny _).andThen <| Emission.ends_onValue hmodules <|
    (ends_printModuleImports _).andThen (ends_fullBody h hr hnone _)

/-- The code of a file ends with a bad prefix or as what follows the comments ends. -/
theorem ends_output (h : plan.Typed) {r : Emission.End}
    (hbody : (if plan.settings.isLite then plan.liteBody else plan.importsAndBody).Ends
      (Emission.verdict plan.file.refusal? >>= fun _ => r)) :
    plan.output.Ends (Emission.verdict plan.file.error? >>= fun _ => r) := by
  have hprefix := checkPrefix_eq h
  rw [Schema.error?]
  split
  · next hbad =>
    rw [if_pos hbad] at hprefix
    exact Emission.ends_on_error _ hprefix
  · next hgood =>
    rw [if_neg hgood] at hprefix
    exact Emission.ends_on hprefix <| (Emission.ends_lines _).all_cons <|
      (ends_topComment h).all_cons (hbody.andThen_ok Emission.ends_all_nil)

/-! ## The whole file -/

/-- Texts can be looked for in a name. -/
theorem containsAny_ok (name : String) : ∀ {patterns : List Json},
    (∀ pattern ∈ patterns, pattern.IsText) → ∃ found, containsAny name patterns = .ok found
  | [], _ => ⟨false, rfl⟩
  | pattern :: rest, h => by
    obtain ⟨found, hfound⟩ := containsAny_ok name fun p hp => h p (.tail _ hp)
    rw [containsAny, (h pattern (.head _)).asText, Result.bind_ok]
    split
    · exact ⟨true, rfl⟩
    · exact ⟨found, hfound⟩

/-- The emission of a plan that needs no missing name ends with the error of the file, if it has
one. -/
theorem ends_output_verdict (h : plan.Typed)
    (himports : plan.settings.isLite = false → ∃ modules, plan.moduleImports = .ok modules)
    (hnames : ¬ plan.file.NeedsName plan.settings) :
    plan.output.Ends (Emission.verdict plan.file.error? >>= fun _ => .ok ()) := by
  refine ends_output h ?_
  split
  · rw [Emission.verdict_bind_ok]
    exact ends_liteBody h
  · next hfull =>
    have hfull : plan.settings.isLite = false := by simpa using hfull
    refine ends_importsAndBody h (himports hfull) (fun d hd => ?_) fun _ => rfl
    refine ends_printExtensions h.names h.file hd.extensions fun x hx hnameless => ?_
    exact hnames ⟨hfull, x, hx, hnameless⟩

/-- The emission of a plan that needs a missing name ends with the error of the file or with a
fault. -/
theorem ends_output_needsName (h : plan.Typed)
    (himports : ∃ modules, plan.moduleImports = .ok modules)
    (hnames : plan.file.NeedsName plan.settings) :
    plan.output.Ends
      (Emission.verdict plan.file.error? >>= fun _ => .error (.escaped .noElement)) := by
  obtain ⟨hfull, x, hx, hnameless⟩ := hnames
  refine ends_output h ?_
  rw [if_neg (by simp [hfull])]
  refine ends_importsAndBody h himports (fun d hd => ?_) fun hnone => ?_
  · exact ends_printExtensions_nameless h.names h.file hd.extensions ⟨x, hx, hnameless⟩
  · rw [hnone] at hx
    cases hx

/-- Where the modules to import are a fault, the emission ends with a bad prefix or that fault. -/
theorem ends_output_imports (h : plan.Typed) (hfull : plan.settings.isLite = false)
    {fault : Fault} (himports : plan.moduleImports = .error fault) :
    plan.output.Ends (.error (.escaped fault)) ∨
      plan.output.Ends (Emission.verdict plan.file.error?) := by
  have hprefix := checkPrefix_eq h
  rw [Schema.error?]
  split
  · next hbad =>
    rw [if_pos hbad] at hprefix
    exact .inr (Emission.ends_on_error _ hprefix)
  · next hgood =>
    rw [if_neg hgood] at hprefix
    refine .inl (Emission.ends_on hprefix ?_)
    have hbody : plan.importsAndBody.Ends (.error (.escaped fault)) :=
      (ends_linesIfAny _).andThen (Emission.ends_onValue_error _ himports)
    rw [contents, if_neg (by simp [hfull])]
    exact (Emission.ends_lines _).all_cons <|
      (ends_topComment h).all_cons (hbody.all_cons_stop [])

/-- Whatever the settings, the emission of a plan ends with the error of the file, if it has one, or
with a fault. -/
theorem ends_output_or_fault (h : plan.Typed) :
    plan.output.Ends (Emission.verdict plan.file.error?) ∨
      ∃ fault, plan.output.Ends (.error (.escaped fault)) := by
  by_cases hneeds : plan.settings.isLite = false ∧ ∃ fault, plan.moduleImports = .error fault
  · obtain ⟨hfull, fault, himports⟩ := hneeds
    rcases ends_output_imports h hfull himports with hend | hend
    · exact .inr ⟨fault, hend⟩
    · exact .inl hend
  have himports (hfull : plan.settings.isLite = false) :
      ∃ modules, plan.moduleImports = .ok modules := by
    cases hmodules : plan.moduleImports with
    | ok modules => exact ⟨modules, rfl⟩
    | error fault => exact absurd ⟨hfull, fault, hmodules⟩ hneeds
  by_cases hnames : plan.file.NeedsName plan.settings
  · have hend := ends_output_needsName h (himports hnames.1) hnames
    cases herror : plan.file.error? with
    | none =>
      rw [herror] at hend
      exact .inr ⟨.noElement, hend⟩
    | some e =>
      rw [herror] at hend
      exact .inl hend
  · have hend := ends_output_verdict h himports hnames
    rw [Emission.verdict_bind_ok] at hend
    exact .inl hend

/-- The outcome of a plan follows from how its emission ends. -/
theorem outcome_of_ends {r : Emission.End} (h : plan.output.Ends r) :
    ∃ content, plan.outcome =
      match r with
      | .ok () => .ok (.generated plan.file.name plan.outputName content)
      | .error (.reported e) => .ok (.rejected plan.file.name (.generation e))
      | .error (.escaped fault) => .error fault := by
  have hend := h filePrinter
  rcases hp : plan.output filePrinter with ⟨printer, result⟩
  rw [hp] at hend
  subst hend
  refine ⟨printer.content, ?_⟩
  simp only [outcome, hp]
  rcases result with (_ | _) | _ <;> rfl

end FilePlan

namespace Schema

variable {settings : Settings} {file : Schema}

/-- A plan that is made for a typed file. -/
theorem plan_typed (hf : file.Typed) {plan : FilePlan}
    (h : FilePlan.make settings file = .ok plan) :
    plan.Typed ∧ plan.settings = settings ∧ plan.names.modules = settings.modules ∧
      plan.file = file := by
  obtain ⟨t, ht, htable⟩ := NameTable.tableOf_ofSchema hf settings.modules settings.runtimeModule
  obtain ⟨hfile, hmodules, -⟩ := NameTable.fields_of_ofSchema ht
  rw [FilePlan.make, ht, Result.bind_ok] at h
  cases hshorten : FilePlan.containsAny file.name settings.shortened with
  | error fault => rw [hshorten] at h; cases h
  | ok shorten =>
    rw [hshorten] at h
    cases h
    subst hfile
    exact ⟨⟨htable, hf⟩, rfl, hmodules, rfl⟩

/-- A typed file has a plan with typed settings, whose imports can be made. -/
theorem plan_ok (hs : settings.Typed) (hf : file.Typed) :
    ∃ plan, FilePlan.make settings file = .ok plan ∧ plan.Typed ∧ plan.settings = settings ∧
      plan.file = file ∧ ∃ modules, plan.moduleImports = .ok modules := by
  obtain ⟨t, ht, -⟩ := NameTable.tableOf_ofSchema hf settings.modules settings.runtimeModule
  obtain ⟨shorten, hshorten⟩ := FilePlan.containsAny_ok file.name hs.shortened
  have hmake : FilePlan.make settings file = .ok ⟨settings, t, shorten⟩ := by
    rw [FilePlan.make, ht, Result.bind_ok, hshorten]
    rfl
  obtain ⟨htyped, hsettings, hmodules, hfile⟩ := plan_typed hf hmake
  refine ⟨_, hmake, htyped, hsettings, hfile, ?_⟩
  refine NameTable.importLines_ok ?_ _ _ htyped.file.dependencies
  rw [hmodules]
  exact fun entry hentry => (hs.modules entry hentry).2

/-- Whatever the settings, an outcome of a typed file is the one that its error calls for. -/
theorem outcome_of_error (hf : file.Typed) {o : Outcome} (h : file.generate settings = .ok o) :
    match file.error? with
    | some e => o = .rejected file.name (.generation e)
    | none => o.isGenerated = true := by
  unfold generate at h
  cases hplan : FilePlan.make settings file with
  | error fault => rw [hplan] at h; cases h
  | ok plan =>
    rw [hplan, Result.bind_ok] at h
    obtain ⟨htyped, rfl, -, rfl⟩ := plan_typed hf hplan
    rcases FilePlan.ends_output_or_fault htyped with hend | ⟨fault, hend⟩
    · obtain ⟨content, houtcome⟩ := FilePlan.outcome_of_ends hend
      rw [houtcome] at h
      cases herror : plan.file.error? with
      | some e =>
        rw [herror] at h
        exact (Except.ok.inj h).symm
      | none =>
        rw [herror] at h
        cases h
        rfl
    · obtain ⟨content, houtcome⟩ := FilePlan.outcome_of_ends hend
      rw [houtcome] at h
      cases h

/-- A typed file that has an error is rejected for it. -/
theorem generate_of_error (hs : settings.Typed) (hf : file.Typed) {e : GenerationError}
    (he : file.error? = some e) :
    file.generate settings = .ok (.rejected file.name (.generation e)) := by
  obtain ⟨plan, hplan, htyped, rfl, rfl, himports⟩ := plan_ok hs hf
  have hend : plan.output.Ends (.error (.reported e)) := by
    by_cases hnames : plan.file.NeedsName plan.settings
    · have hend := FilePlan.ends_output_needsName htyped himports hnames
      rwa [he] at hend
    · have hend := FilePlan.ends_output_verdict htyped (fun _ => himports) hnames
      rwa [he] at hend
  obtain ⟨_, houtcome⟩ := FilePlan.outcome_of_ends hend
  rw [generate, hplan, Result.bind_ok, houtcome]

/-- A typed file without an error is a fault if it needs a name that there is not. -/
theorem generate_of_needsName (hs : settings.Typed) (hf : file.Typed) (hnone : file.error? = none)
    (hnames : file.NeedsName settings) : file.generate settings = .error .noElement := by
  obtain ⟨plan, hplan, htyped, rfl, rfl, himports⟩ := plan_ok hs hf
  have hend := FilePlan.ends_output_needsName htyped himports hnames
  rw [hnone] at hend
  obtain ⟨_, houtcome⟩ := FilePlan.outcome_of_ends hend
  rw [generate, hplan, Result.bind_ok, houtcome]
  rfl

/-- Any other typed file has an output file. -/
theorem generate_of_sound (hs : settings.Typed) (hf : file.Typed) (hnone : file.error? = none)
    (hnames : ¬ file.NeedsName settings) :
    ∃ output content, file.generate settings = .ok (.generated file.name output content) := by
  obtain ⟨plan, hplan, htyped, rfl, rfl, himports⟩ := plan_ok hs hf
  have hend := FilePlan.ends_output_verdict htyped (fun _ => himports) hnames
  rw [hnone] at hend
  obtain ⟨content, houtcome⟩ := FilePlan.outcome_of_ends hend
  refine ⟨plan.outputName, content, ?_⟩
  rw [generate, hplan, Result.bind_ok, houtcome]
  rfl

end Schema

end SchemaToSwift
