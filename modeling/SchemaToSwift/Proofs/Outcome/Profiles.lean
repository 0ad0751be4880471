import SchemaToSwift.Proofs.Emit.File
import SchemaToSwift.Proofs.Outcome.TypePaths
import SchemaToSwift.Proofs.Settings.Precedence

/-!
# Settings of the other profile

Each profile has settings of its own. The modules of schema files and the name of the runtime
library are part of the name table but of no Swift name (`MessagePlan.make_withModules`), and what
the lite profile prints of a declaration does not mention them
(`MessagePlan.declaration_withRuntime`); so they and the form of imports do not matter there. Which
files get shortened names does not matter in the full profile. The outcomes of a file under settings
that agree otherwise are the same, whatever they are (`generate_profiles`).
-/

namespace SchemaToSwift

/-! ## Names without modules -/

/-- The names with other modules and another runtime library. -/
def NameTable.withModules (t : NameTable) (modules : ModuleMap) (runtimeModule : String) :
    NameTable := { t with modules, runtimeModule }

section
variable (t : NameTable) (modules : ModuleMap) (runtimeModule : String) (shorten : Bool)

/-- The names of a file do not depend on the modules or on the runtime library. -/
theorem NameTable.ofSchema_withModules (file : Schema) (before : ModuleMap) (runtime : String) :
    ofSchema file modules runtimeModule =
      (·.withModules modules runtimeModule) <$> ofSchema file before runtime := by
  unfold ofSchema
  cases Swift.typePrefixOf file.package file.swiftPrefix with
  | error fault => rfl
  | ok typePrefix =>
    rw [Result.bind_ok, Result.bind_ok]
    cases file.enums.mapM (enumEntry (.error typePrefix)) with
    | error fault => rfl
    | ok enums =>
      rw [Result.bind_ok, Result.bind_ok]
      cases messagesEntries (.error typePrefix) file.messages <;> rfl

/-- Neither does the plan of an enum. -/
theorem EnumPlan.make_withModules :
    make (t.withModules modules runtimeModule) shorten = make t shorten := rfl

/-- Nor do those of fields. -/
theorem FieldPlan.makeAll_withModules (message : Json) (fs : List Field) :
    ∀ before, makeAll (t.withModules modules runtimeModule) shorten message before fs =
      makeAll t shorten message before fs := by
  induction fs with
  | nil => exact fun _ => rfl
  | cons f rest ih =>
    intro before
    rw [makeAll, makeAll]
    exact Result.bind_congr fun plan _ => ih _

namespace MessagePlan

mutual

/-- The plan of a message does not depend on modules. -/
theorem make_withModules : ∀ (m : MessageType) (set : ExtensionSet),
    make (t.withModules modules runtimeModule) shorten m set = make t shorten m set
  | ⟨name, fullName, fields, messages, enums, extensions⟩, set => by
    rw [make, make]
    simp only [EnumPlan.make_withModules, FieldPlan.makeAll_withModules,
      makeAll_withModules messages]
    rfl

/-- Nor do those of messages, along with those nested in them. -/
theorem makeAll_withModules : ∀ (ms : List MessageType) (set : ExtensionSet),
    makeAll (t.withModules modules runtimeModule) shorten ms set = makeAll t shorten ms set
  | [], _ => rfl
  | m :: ms, set => by
    rw [makeAll, makeAll]
    simp only [make_withModules m, makeAll_withModules ms]

end

end MessagePlan

end

/-! ## Declarations in the lite profile -/

/-- The surroundings with another runtime library. -/
def Surroundings.withRuntime (s : Surroundings) (runtimePrefix runtimeModule : String) :
    Surroundings := { s with runtimePrefix, runtimeModule }

section
variable {s : Surroundings} (runtimePrefix runtimeModule : String)

/-- In the lite profile the declaration of an enum does not name the runtime library. -/
theorem EnumPlan.declaration_withRuntime (hlite : s.lite = true) (plan : EnumPlan) :
    plan.declaration (s.withRuntime runtimePrefix runtimeModule) = plan.declaration s := by
  have htext (name : String) :
      (plan.declarationBlock (s.withRuntime runtimePrefix runtimeModule) name).text =
        (plan.declarationBlock s name).text := by
    rcases s with ⟨access, before, module, lite⟩
    obtain rfl : lite = true := hlite
    rfl
  simp only [declaration, htext]

namespace MessagePlan

/-- Nor does the head of a message. -/
theorem text_head_withRuntime (hlite : s.lite = true) (name : String)
    (properties : List PropertyText) :
    (head (s.withRuntime runtimePrefix runtimeModule) name properties).text =
      (head s name properties).text := by
  rcases s with ⟨access, before, module, lite⟩
  obtain rfl : lite = true := hlite
  rfl

mutual

/-- The declaration of a message does not mention the runtime library. -/
theorem declaration_withRuntime (hlite : s.lite = true) : ∀ m : MessagePlan,
    m.declaration (s.withRuntime runtimePrefix runtimeModule) = m.declaration s
  | ⟨swiftName, name, fields, enums, messages⟩ => by
    rw [declaration, declaration]
    simp only [text_head_withRuntime _ _ hlite, EnumPlan.declaration_withRuntime _ _ hlite,
      declarations_withRuntime hlite messages]
    rfl

/-- Nor do the declarations of messages. -/
theorem declarations_withRuntime (hlite : s.lite = true) : ∀ ms : List MessagePlan,
    declarations (s.withRuntime runtimePrefix runtimeModule) ms = declarations s ms
  | [] => rfl
  | m :: ms => by
    rw [declarations, declarations, declaration_withRuntime hlite m,
      declarations_withRuntime hlite ms]

end

end MessagePlan

end

/-! ## Files -/

namespace FilePlan

/-- The plan with other settings and another name table of the same names. -/
def withModules (plan : FilePlan) (settings : Settings) : FilePlan :=
  { plan with settings, names := plan.names.withModules settings.modules settings.runtimeModule }

/-- The plan with other settings and another answer to whether names are shortened. -/
def withShortened (plan : FilePlan) (settings : Settings) (shorten : Bool) : FilePlan :=
  { plan with settings, shorten }

variable {plan : FilePlan} {settings : Settings}

/-- The declarations of a file do not depend on the modules. -/
theorem declarations_withModules (shorten : Bool) :
    (plan.withModules settings).declarations shorten = plan.declarations shorten := by
  unfold declarations
  rw [withModules, EnumPlan.make_withModules]
  simp only [MessagePlan.makeAll_withModules]
  rfl

/-- Declarations of the lite profile are printed alike for other modules and another runtime
library. -/
theorem printDeclarations_withModules (hlite : plan.settings.isLite = true)
    (hsettings : settings.isLite = true) (haccess : settings.access = plan.settings.access)
    (d : Declarations) :
    (plan.withModules settings).printDeclarations d = plan.printDeclarations d := by
  have hsurroundings : (plan.withModules settings).surroundings =
      plan.surroundings.withRuntime (plan.withModules settings).names.runtimePrefix
        settings.runtimeModule := by
    rw [surroundings, surroundings, Surroundings.of, Surroundings.of, Surroundings.withRuntime,
      hlite]
    dsimp only [withModules]
    rw [haccess, hsettings]
    rfl
  unfold printDeclarations
  rw [hsurroundings, MessagePlan.declarations_withRuntime _ _ hlite]
  simp only [EnumPlan.declaration_withRuntime _ _ (show plan.surroundings.lite = true from hlite)]

/-- In the lite profile the modules, the runtime library and the form of imports do not matter. -/
theorem outcome_withModules (hlite : plan.settings.isLite = true)
    (hprofile : settings.profile = plan.settings.profile)
    (hnaming : settings.naming = plan.settings.naming)
    (haccess : settings.access = plan.settings.access) :
    (plan.withModules settings).outcome = plan.outcome := by
  have hsettings : settings.isLite = true := by
    rw [Settings.isLite, hprofile]
    exact hlite
  have hbody : (plan.withModules settings).liteBody = plan.liteBody := by
    unfold liteBody
    rw [declarations_withModules]
    simp only [funext (printDeclarations_withModules hlite hsettings haccess)]
    rfl
  have hbanner : (plan.withModules settings).banner = plan.banner := by
    unfold banner
    dsimp only [withModules]
    rw [hprofile]
    rfl
  have hcontents : (plan.withModules settings).contents = plan.contents := by
    have hprofiles : (plan.withModules settings).settings.isLite = plan.settings.isLite :=
      hsettings.trans hlite.symm
    rw [contents, contents, hbanner, hbody, hprofiles, hlite, if_pos rfl, if_pos rfl]
    rfl
  have houtput : (plan.withModules settings).output = plan.output := by
    rw [output, output, hcontents]
    rfl
  have hname : (plan.withModules settings).outputName = plan.outputName := by
    unfold outputName
    dsimp only [withModules]
    rw [hnaming]
    rfl
  unfold outcome
  rw [houtput, hname]
  rfl

/-- In the full profile it does not matter which files get shortened names. -/
theorem outcome_withShortened (hfull : plan.settings.isLite = false) (patterns : List Json)
    (shorten : Bool) :
    (plan.withShortened { plan.settings with shortened := patterns } shorten).outcome =
      plan.outcome := by
  rcases plan with ⟨settings, names, before⟩
  have hcontents : FilePlan.contents ⟨{ settings with shortened := patterns }, names, shorten⟩ =
      FilePlan.contents ⟨settings, names, before⟩ := by
    have hpatterns : Settings.isLite { settings with shortened := patterns } = false := hfull
    rw [contents, contents, hpatterns, hfull, if_neg Bool.false_ne_true,
      if_neg Bool.false_ne_true]
    rfl
  rw [withShortened, outcome, outcome, output, output, hcontents]
  rfl

end FilePlan

/-! ## Outcomes -/

/-- The settings agree but for some of them. -/
def Settings.AgreeExcept (xs : List Setting) (a b : Settings) : Prop :=
  ∀ x, x ∉ xs → a.get x = b.get x

namespace Schema

variable {a b : Settings}

/-- In the lite profile a file is generated in the same way whatever the imports, the modules and
the runtime library are. -/
theorem generate_of_lite (file : Schema) (hlite : a.isLite = true)
    (h : Settings.AgreeExcept [.importForm, .modules, .runtimeModule] a b) :
    file.generate a = file.generate b := by
  have hnaming : a.naming = b.naming := h .naming (by decide)
  have haccess : a.access = b.access := h .access (by decide)
  have hprofile : a.profile = b.profile := h .profile (by decide)
  have hshortened : a.shortened = b.shortened := h .shortened (by decide)
  unfold generate FilePlan.make
  rw [NameTable.ofSchema_withModules b.modules b.runtimeModule file a.modules a.runtimeModule,
    hshortened]
  cases NameTable.ofSchema file a.modules a.runtimeModule with
  | error fault => rfl
  | ok names =>
    rw [Result.map_ok, Result.bind_ok, Result.bind_ok]
    cases FilePlan.containsAny file.name b.shortened with
    | error fault => rfl
    | ok shorten =>
      let plan : FilePlan := ⟨a, names, shorten⟩
      have hplan : plan.settings.isLite = true := hlite
      exact (FilePlan.outcome_withModules hplan hprofile.symm hnaming.symm haccess.symm).symm

/-- The settings are the same but for the patterns. -/
theorem eq_of_agreeExcept_shortened (h : Settings.AgreeExcept [.shortened] a b) :
    b = { a with shortened := b.shortened } := by
  have hnaming : a.naming = b.naming := h .naming (by decide)
  have himport : a.importForm = b.importForm := h .importForm (by decide)
  have haccess : a.access = b.access := h .access (by decide)
  have hprofile : a.profile = b.profile := h .profile (by decide)
  have hmodules : a.modules = b.modules := h .modules (by decide)
  have hruntime : a.runtimeModule = b.runtimeModule := h .runtimeModule (by decide)
  rw [hnaming, himport, haccess, hprofile, hmodules, hruntime]

/-- In the full profile it is whatever the patterns are, if each can be searched for. -/
theorem generate_of_full (file : Schema) (hfull : a.isLite = false)
    (h : Settings.AgreeExcept [.shortened] a b) {first second : Bool}
    (hfirst : FilePlan.containsAny file.name a.shortened = .ok first)
    (hsecond : FilePlan.containsAny file.name b.shortened = .ok second) :
    file.generate a = file.generate b := by
  rw [eq_of_agreeExcept_shortened h]
  unfold generate FilePlan.make
  dsimp only
  rw [hfirst, hsecond]
  cases NameTable.ofSchema file a.modules a.runtimeModule with
  | error fault => rfl
  | ok names =>
    let plan : FilePlan := ⟨a, names, first⟩
    have hplan : plan.settings.isLite = false := hfull
    exact (FilePlan.outcome_withShortened hplan b.shortened second).symm

/-- A file has an outcome only if all patterns that are looked at are texts. -/
theorem containsAny_of_generate {file : Schema} {settings : Settings} {outcome : Outcome}
    (h : file.generate settings = .ok outcome) :
    ∃ found, FilePlan.containsAny file.name settings.shortened = .ok found := by
  obtain ⟨plan, hplan, -⟩ := Result.bind_eq_ok_iff.1 h
  obtain ⟨names, -, hplan⟩ := Result.bind_eq_ok_iff.1 hplan
  obtain ⟨found, hfound, -⟩ := Result.bind_eq_ok_iff.1 hplan
  exact ⟨found, hfound⟩

/-- In the lite profile the outcome of a file does not depend on the form of imports, the modules
of schema files and the runtime library, and in the full profile it does not depend on which files
get shortened names. A pattern for such files that is no text may stop generation, but of two
outcomes none differs from the other. -/
theorem generate_profiles (file : Schema) (a b : Settings) :
    (a.isLite = true → Settings.AgreeExcept [.importForm, .modules, .runtimeModule] a b →
      file.generate a = file.generate b) ∧
    (a.isLite = false → Settings.AgreeExcept [.shortened] a b →
      ((∀ pattern ∈ a.shortened ++ b.shortened, pattern.IsText) →
        file.generate a = file.generate b) ∧
      ∀ first second, file.generate a = .ok first → file.generate b = .ok second →
        first = second) := by
  refine ⟨fun hlite h => generate_of_lite file hlite h, fun hfull h => ⟨fun htexts => ?_, ?_⟩⟩
  · obtain ⟨htextsA, htextsB⟩ := List.forall_mem_append.1 htexts
    obtain ⟨first, hfirst⟩ := FilePlan.containsAny_ok file.name htextsA
    obtain ⟨second, hsecond⟩ := FilePlan.containsAny_ok file.name htextsB
    exact generate_of_full file hfull h hfirst hsecond
  · intro first second hfirst hsecond
    obtain ⟨foundA, hfoundA⟩ := containsAny_of_generate hfirst
    obtain ⟨foundB, hfoundB⟩ := containsAny_of_generate hsecond
    rw [generate_of_full file hfull h hfoundA hfoundB, hsecond] at hfirst
    exact (Except.ok.inj hfirst).symm

/-- A file with a nested message, generated under settings of the other profile. -/
theorem generate_profiles_nested :
    let lite := { Settings.default with profile := .lite }
    let modules : ModuleMap := [(.str "a.proto", .str "Own"), (.str "b.proto", .str "Other")]
    nestedTypes.generate lite = nestedTypes.generate { lite with
      importForm := .accessLevel, modules, runtimeModule := "Runtime" } ∧
    ∃ output content, nestedTypes.generate Settings.default =
        .ok (.generated "a.proto" output content) ∧
      nestedTypes.generate { Settings.default with shortened := [.str "a"] } =
        .ok (.generated "a.proto" output content) := by
  intro lite modules
  refine ⟨(generate_profiles nestedTypes lite _).1 rfl ?_, ?_⟩
  · intro x hx
    cases x <;> simp at hx <;> rfl
  · obtain ⟨output, content, hgenerate⟩ := generate_nestedTypes
    refine ⟨output, content, hgenerate, ?_⟩
    have hagree : Settings.AgreeExcept [.shortened] Settings.default
        { Settings.default with shortened := [.str "a"] } := by
      intro x hx
      cases x <;> simp at hx <;> rfl
    have hsame := ((generate_profiles nestedTypes _ _).2 rfl hagree).1
      (List.forall_mem_singleton.2 ⟨"a", rfl⟩)
    exact hsame.symm.trans hgenerate

end Schema

end SchemaToSwift
