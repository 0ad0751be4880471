import SchemaToSwift.Proofs.Emit.Message
import SchemaToSwift.Proofs.Emit.Parts
import SchemaToSwift.Proofs.Printer.Change

/-!
# Sessions

In a session the emitters of a file print into one printer, in any order and also after one of them
has stopped. Whatever an emitter prints, up to where it stops, are whole lines
(`FilePlan.writing_output`, `MessagePlan.writing_declaration`), so that a session is at the start of
a line after each of its steps (`FilePlan.atLineStart_session`). The declaration of a message
therefore leaves the printer as it was but for the lines that are added, also where it stops in a
message nested in it (`MessagePlan.printer_after_declaration`).
-/

namespace SchemaToSwift

open Printer (StartsLine WholeLines Scripted Alike ofLines_wholeLines additive_wholeLines)

/-- A step of a session: an emitter prints, or the indentation changes. -/
inductive SessionStep
  | enumDeclaration (e : EnumPlan)
  | enumSupport (e : EnumPlan)
  | messageDeclaration (m : MessagePlan)
  | messageSupport (m : MessagePlan)
  | accessors (set : ExtensionSet)
  | registry (set : ExtensionSet)
  | extensionObjects (set : ExtensionSet)
  | file
  | indent
  | outdent

namespace FilePlan

variable (plan : FilePlan)

/-- The printer after a step. A step that fails leaves what was printed before it failed. -/
def take (p : Printer) : SessionStep → Printer
  | .enumDeclaration e => (e.declaration plan.surroundings p).1
  | .enumSupport e => (e.runtimeSupport plan.surroundings p).1
  | .messageDeclaration m => (m.declaration plan.surroundings p).1
  | .messageSupport m => (m.runtimeSupport plan.surroundings plan.hasPackage p).1
  | .accessors set => (set.properties plan.names plan.surroundings p).1
  | .registry set => (set.registry plan.names plan.surroundings p).1
  | .extensionObjects set => (set.objects plan.names plan.surroundings p).1
  | .file => (plan.output p).1
  | .indent => p.indent
  | .outdent => p.goOut.1

/-- The printer after steps, all of which are taken. -/
def session (p : Printer) (steps : List SessionStep) : Printer := steps.foldl plan.take p

end FilePlan

/-! ## Whole lines -/

/-- Whole lines after a blank line. -/
theorem Emission.writes_blank {es : List Emission} (h : ∀ a ∈ es, a.Writing WholeLines) :
    ∃ xs result, (all (.lines [] :: es)).Writes xs result ∧ WholeLines xs ∧
      Printer.blankLine <+: xs := by
  obtain ⟨xs, result, hxs, hx⟩ := writing_all additive_wholeLines h
  exact ⟨_, result, (writes_lines []).andThen hxs,
    additive_wholeLines.append (ofLines_wholeLines.lines []) hx, ⟨xs, rfl⟩⟩

section
variable (s : Surroundings)

/-- The declaration of an enum is whole lines. -/
theorem EnumPlan.writing_declaration (e : EnumPlan) : (e.declaration s).Writing WholeLines :=
  Emission.writing_block ofLines_wholeLines

/-- So is its runtime support. -/
theorem EnumPlan.writing_runtimeSupport (e : EnumPlan) : (e.runtimeSupport s).Writing WholeLines :=
  Emission.writing_block ofLines_wholeLines

namespace MessagePlan

mutual

/-- The declaration of a message is printed in whole lines up to where it stops. Its first line is
blank, unless its own fields stop it before. -/
theorem writes_declaration : ∀ m : MessagePlan, ∃ xs result,
    (declaration s m).Writes xs result ∧ WholeLines xs ∧
      ∀ fields, m.fields = .ok fields → Printer.blankLine <+: xs
  | ⟨swiftName, name, fields, enums, messages⟩ => by
    rw [declaration]
    cases fields with
    | error e => exact ⟨[], _, Emission.writes_stop e, additive_wholeLines.nil, nofun⟩
    | ok fields =>
      have hlines := Emission.writing_lines ofLines_wholeLines
      have henums : (Emission.all (enums.map (·.declaration s))).Writing WholeLines :=
        Emission.writing_all additive_wholeLines <| List.forall_mem_map.2 fun e _ =>
          e.writing_declaration s
      have hnested := henums.andThen additive_wholeLines (writing_declarations messages)
      refine (Emission.writes_blank ?_).imp fun xs => Exists.imp fun result h =>
        ⟨h.1, h.2.1, fun _ _ => h.2.2⟩
      simp only [List.forall_mem_cons]
      exact ⟨Emission.writing_onValue additive_wholeLines fun _ _ =>
        Emission.writing_onValue additive_wholeLines fun _ _ => hlines _,
        hnested.inside (·.raise 1), hlines _, (hlines _).inside (·.raise 1), hlines _, nofun⟩

/-- So are the declarations of messages, which the induction goes through with those nested in them.
-/
theorem writing_declarations : ∀ ms : List MessagePlan,
    (declarations s ms).Writing WholeLines
  | [] => Emission.writing_nothing additive_wholeLines
  | m :: ms => by
    obtain ⟨xs, result, hxs, hx, -⟩ := writes_declaration m
    rw [declarations]
    exact Emission.Writing.andThen additive_wholeLines ⟨xs, result, hxs, hx⟩
      (writing_declarations ms)

end

/-- So is the declaration of one message. -/
theorem writing_declaration (m : MessagePlan) : (declaration s m).Writing WholeLines := by
  obtain ⟨xs, result, hxs, hx, -⟩ := writes_declaration s m
  exact ⟨xs, result, hxs, hx⟩

variable (hasPackage : Bool)

/-- So is the runtime support of a message itself. -/
theorem writing_ownSupport (m : MessagePlan) : (m.ownSupport s hasPackage).Writing WholeLines := by
  refine Emission.writing_all additive_wholeLines ?_
  simp only [List.forall_mem_cons]
  exact ⟨Emission.writing_lines ofLines_wholeLines _,
    Emission.writing_onValue additive_wholeLines fun _ _ =>
      Emission.writing_on additive_wholeLines fun _ _ =>
        Emission.writing_lines ofLines_wholeLines _, nofun⟩

mutual

/-- So are its parts, the nested ones included. -/
theorem writing_supportParts : ∀ m : MessagePlan,
    ∀ a ∈ supportParts s hasPackage m, a.Writing WholeLines
  | ⟨swiftName, name, fields, enums, messages⟩ => by
    rw [supportParts, List.forall_mem_cons, List.forall_mem_append, List.forall_mem_map]
    exact ⟨writing_ownSupport s hasPackage _, fun e _ => e.writing_runtimeSupport s,
      writing_supportPartsAll messages⟩

/-- So are those of a list of messages. -/
theorem writing_supportPartsAll : ∀ ms : List MessagePlan,
    ∀ a ∈ supportPartsAll s hasPackage ms, a.Writing WholeLines
  | [] => nofun
  | m :: ms => by
    rw [supportPartsAll, List.forall_mem_append]
    exact ⟨writing_supportParts m, writing_supportPartsAll ms⟩

end

/-- So is all the runtime support of a message. -/
theorem writing_runtimeSupport (m : MessagePlan) :
    (runtimeSupport s hasPackage m).Writing WholeLines := by
  rw [runtimeSupport_eq_all]
  exact Emission.writing_all additive_wholeLines (writing_supportParts s hasPackage m)

end MessagePlan

end

namespace FilePlan

variable {plan : FilePlan}

/-- So are the declarations of a file. -/
theorem writing_printDeclarations (d : Declarations) :
    (plan.printDeclarations d).Writing WholeLines := by
  refine (Emission.writing_all additive_wholeLines ?_).andThen additive_wholeLines
    (MessagePlan.writing_declarations _ d.messages)
  exact List.forall_mem_map.2 fun e _ => e.writing_declaration _

/-- So is the code for its extensions. -/
theorem writing_printExtensions (set : ExtensionSet) :
    (plan.printExtensions set).Writing WholeLines := by
  unfold printExtensions
  split
  · exact Emission.writing_nothing additive_wholeLines
  · exact Emission.writing_all additive_wholeLines (writing_extensionParts ofLines_wholeLines set)

/-- So is its runtime support. -/
theorem writing_printRuntimeSupport (d : Declarations) :
    (plan.printRuntimeSupport d).Writing WholeLines := by
  have hlines := Emission.writing_lines ofLines_wholeLines
  rw [printRuntimeSupport_eq_all]
  refine Emission.writing_all additive_wholeLines ?_
  rw [supportParts, List.forall_mem_cons, List.forall_mem_append, List.forall_mem_append,
    List.forall_mem_map]
  refine ⟨hlines _, ?_, fun e _ => e.writing_runtimeSupport _,
    MessagePlan.writing_supportPartsAll _ _ _⟩
  split
  · exact List.forall_mem_singleton.2 (hlines _)
  · exact nofun

/-- So is what the lite profile prints. -/
theorem writing_liteBody : plan.liteBody.Writing WholeLines := by
  have hlines := Emission.writing_lines ofLines_wholeLines
  unfold liteBody
  split <;> refine Emission.writing_all additive_wholeLines ?_ <;>
    simp only [List.forall_mem_cons]
  · exact ⟨hlines _, hlines _, nofun⟩
  · exact ⟨hlines _, Emission.writing_onValue additive_wholeLines fun d _ =>
      writing_printDeclarations d, nofun⟩

/-- So is what the full profile prints. -/
theorem writing_fullBody (hasImports : Bool) : (plan.fullBody hasImports).Writing WholeLines := by
  have hlines := Emission.writing_lines ofLines_wholeLines
  unfold fullBody
  split <;> refine Emission.writing_all additive_wholeLines ?_ <;>
    simp only [List.forall_mem_cons]
  · refine ⟨?_, hlines _, nofun⟩
    split
    · exact hlines _
    · exact Emission.writing_nothing additive_wholeLines
  · refine ⟨hlines _, hlines _, Emission.writing_onValue additive_wholeLines fun d _ =>
      Emission.writing_all additive_wholeLines ?_, nofun⟩
    simp only [List.forall_mem_cons]
    exact ⟨writing_printDeclarations d, writing_printExtensions _, writing_printRuntimeSupport d,
      nofun⟩

/-- A file is printed in whole lines up to where it stops. -/
theorem writing_output : plan.output.Writing WholeLines := by
  refine Emission.writing_on additive_wholeLines fun _ _ =>
    Emission.writing_all additive_wholeLines ?_
  simp only [List.forall_mem_cons]
  refine ⟨Emission.writing_lines ofLines_wholeLines _, writing_topComment ofLines_wholeLines, ?_,
    nofun⟩
  split
  · exact writing_liteBody
  · refine (writing_lines_if ofLines_wholeLines _ _).andThen additive_wholeLines <|
      Emission.writing_onValue additive_wholeLines fun modules _ => ?_
    exact (writing_printModuleImports ofLines_wholeLines modules).andThen additive_wholeLines
      (writing_fullBody _)

end FilePlan

/-! ## Steps and runs -/

/-- An emission of whole lines is a change that writes whole lines. -/
theorem Emission.Writing.scripted {a : Emission} (h : a.Writing WholeLines) :
    Scripted WholeLines fun p => (a p).1 := by
  obtain ⟨xs, result, hxs, hx⟩ := h
  intro n
  refine ⟨Printer.raise n xs, n, hx.raise n, fun p hp => ?_⟩
  dsimp only
  rw [hxs p, hp]
  exact (Printer.atLevel_of_level ((Printer.level_write p _).trans hp)).symm

namespace FilePlan

variable (plan : FilePlan)

/-- A step writes whole lines and reads nothing but the level of the printer. -/
theorem scripted_take : ∀ step : SessionStep, Scripted WholeLines fun p => plan.take p step
  | .enumDeclaration e => (e.writing_declaration _).scripted
  | .enumSupport e => (e.writing_runtimeSupport _).scripted
  | .messageDeclaration m => (m.writing_declaration _).scripted
  | .messageSupport m => (m.writing_runtimeSupport _ _).scripted
  | .accessors _ => (Emission.writing_onValue additive_wholeLines fun _ _ =>
      Emission.writing_block ofLines_wholeLines).scripted
  | .registry _ => (Emission.writing_block ofLines_wholeLines).scripted
  | .extensionObjects _ => (Emission.writing_block ofLines_wholeLines).scripted
  | .file => writing_output.scripted
  | .indent => fun n => ⟨[], n + 1, additive_wholeLines.nil, fun p hp => by rw [← hp]; rfl⟩
  | .outdent => fun n => ⟨[], n - 1, additive_wholeLines.nil, fun p hp => by
      rw [← hp]
      exact congrArg Prod.fst p.goOut_eq⟩

/-- So is a session. -/
theorem scripted_session (steps : List SessionStep) :
    Scripted WholeLines fun p => plan.session p steps :=
  Printer.scripted_foldl plan.scripted_take additive_wholeLines steps

/-- A line starts after each step of a session. -/
theorem atLineStart_session (unit : String) (steps : List SessionStep) :
    (plan.session (.new unit) steps).atLineStart = true :=
  (plan.scripted_session steps).atLineStart rfl

end FilePlan

/-! ## The printer after a declaration -/

namespace Emission

variable {a : Emission} (h : a.Writing WholeLines) (p : Printer)
include h

/-- Text is only added to what has been printed. -/
theorem Writing.exists_added : ∃ added, (a p).1.content = p.content ++ added := by
  obtain ⟨added, hadded, -⟩ := h.scripted.appends (Alike.refl p)
  exact ⟨added, hadded⟩

/-- If a line starts after what has been printed, one starts after what is added. -/
theorem Writing.startsLine_content (hp : StartsLine p.content.toList) :
    StartsLine (a p).1.content.toList := by
  obtain ⟨xs, result, hxs, hx⟩ := h
  rw [hxs p, Printer.content_write]
  exact (hx.raise p.level).startsLine_scanAll hp p.unit p.atLineStart

/-- At the start of a line the printer stays alike. -/
theorem Writing.alike (hp : p.atLineStart = true) : Alike p (a p).1 where
  unit := (h.unit_eq p).symm
  level := (h.level_eq p).symm
  atLineStart := hp.trans (h.scripted.atLineStart hp).symm

end Emission

namespace MessagePlan

/-- The plan of a message has the plans of its fields. -/
theorem fields_of_make {t : NameTable} {shorten : Bool} {m : MessageType}
    {set set' : ExtensionSet} {plan : MessagePlan} (h : make t shorten m set = (set', .ok plan)) :
    plan.fields = FieldPlan.makeAll t shorten m.fullName [] m.fields := by
  obtain ⟨name, fullName, fields, messages, enums, extensions⟩ := m
  obtain ⟨swiftName, enumPlans, plans, set₁, -, -, -, -, rfl⟩ := make_eq_ok h
  rfl

/-- Something is added by the declaration of a message whose own fields are in order. -/
theorem content_declaration_ne {m : MessagePlan} {fields : List FieldPlan}
    (h : m.fields = .ok fields) (s : Surroundings) (p : Printer) :
    (m.declaration s p).1.content ≠ p.content := by
  obtain ⟨xs, result, hxs, -, hblank⟩ := writes_declaration s m
  obtain ⟨rest, rfl⟩ := hblank fields h
  rw [hxs p]
  intro heq
  have hcontent := Printer.content_write p (Printer.raise p.level (Printer.blankLine ++ rest))
  rw [heq, List.self_eq_append_right, Printer.scanAll_eq_nil, Printer.chars_raise] at hcontent
  cases hcontent

/-- Wherever in the tree of a message its declaration stops, if it does, text is only added to the
printer of a session. The level is as it was, and a printer without text or at the end of a line
stays one. Nothing at all is added if the fields of the message itself are at fault, and only then.
Whatever is printed later, in the session or by printing steps, is printed as it would have been
without the declaration. -/
theorem printer_after_declaration (plan : FilePlan) (unit : String) (before : List SessionStep)
    {shorten : Bool} {m : MessageType} {set set' : ExtensionSet} {emitter : MessagePlan}
    (h : make plan.names shorten m set = (set', .ok emitter)) :
    let p := plan.session (.new unit) before
    let q := (emitter.declaration plan.surroundings p).1
    (∃ added, q.content = p.content ++ added) ∧
    q.level = p.level ∧
    (StartsLine p.content.toList → StartsLine q.content.toList) ∧
    (∀ e, FieldPlan.makeAll plan.names shorten m.fullName [] m.fields = .error e →
      emitter.declaration plan.surroundings p = (p, .error e)) ∧
    (∀ fields, FieldPlan.makeAll plan.names shorten m.fullName [] m.fields = .ok fields →
      q.content ≠ p.content) ∧
    ∀ (later : List SessionStep) (steps : List Printer.Step), ∃ added,
      ((plan.session p later).runEach steps).content = p.content ++ added ∧
      ((plan.session q later).runEach steps).content = q.content ++ added := by
  intro p q
  have hwriting := emitter.writing_declaration plan.surroundings
  have hstart : p.atLineStart = true := plan.atLineStart_session unit before
  have hfields : emitter.fields = FieldPlan.makeAll plan.names shorten m.fullName [] m.fields :=
    fields_of_make h
  refine ⟨hwriting.exists_added p, hwriting.level_eq p, hwriting.startsLine_content p,
    fun e he => ?own, fun fields hok => ?added, fun later steps => ?later⟩
  case own =>
    obtain ⟨swiftName, name, fields, enums, messages⟩ := emitter
    obtain rfl : fields = .error e := hfields.trans he
    rw [declaration]
    rfl
  case added => exact content_declaration_ne (hfields.trans hok) plan.surroundings p
  case later =>
    have hsession := (plan.scripted_session later).weaken
    have hchange := hsession.comp (Printer.scripted_runEach steps) Printer.additive_true
    exact hchange.appends (hwriting.alike p hstart)

/-- A message with an enum and a message, of which two fields have one property. -/
def halfway : MessageType :=
  let field (name : String) (number : Int) : Field :=
    ⟨.str name, number, .int32, .optional, "", .str name⟩
  let kind : EnumType := ⟨.str "K", .str "M.K", [⟨.str "ANY", 0⟩]⟩
  let inner : MessageType :=
    ⟨.str "N", .str "M.N", [field "foo_bar" 1, field "fooBar" 2], [], [], []⟩
  ⟨.str "M", .str "M", [], [inner], [kind], []⟩

theorem typed_halfway : ∀ m ∈ halfway.subtree, m.Typed := by
  have hsubtree : halfway.subtree = halfway :: halfway.messages := rfl
  rw [hsubtree]
  intro m hm
  rcases List.mem_pair.1 hm with rfl | rfl
  · exact ⟨⟨_, rfl⟩, ⟨_, rfl⟩, nofun, List.forall_mem_singleton.2 ⟨⟨_, rfl⟩, ⟨_, rfl⟩,
      List.forall_mem_singleton.2 ⟨_, rfl⟩⟩, nofun⟩
  · refine ⟨⟨_, rfl⟩, ⟨_, rfl⟩, fun f hf => ?_, nofun, nofun⟩
    rcases List.mem_pair.1 hf with rfl | rfl <;> exact ⟨⟨_, rfl⟩, ⟨_, rfl⟩⟩

/-- Its declaration stops in the message that is nested in it, two levels further in than the
outermost one, and leaves the level as it was. -/
theorem printer_after_declaration_halfway : ∃ t set emitter,
    NameTable.ofSchema (.blank "a.proto") [] "SwiftProtobuf" = .ok t ∧
    make t false halfway .empty = (set, .ok emitter) ∧
    let plan : FilePlan := ⟨.default, t, false⟩
    let p := plan.session (.new "  ") [.indent]
    let q := (emitter.declaration plan.surroundings p).1
    (emitter.declaration plan.surroundings p).2 = .error (.reported
      (.sameProperty "a.proto" "foo_bar" "fooBar" (.str "M.N") "fooBar")) ∧
    q.level = 1 ∧ StartsLine q.content.toList ∧ q.content ≠ p.content ∧
    ∀ (later : List SessionStep) (steps : List Printer.Step), ∃ added,
      ((plan.session p later).runEach steps).content = p.content ++ added ∧
      ((plan.session q later).runEach steps).content = q.content ++ added := by
  obtain ⟨t, hnames, ht⟩ := NameTable.tableOf_ofSchema (Schema.typed_blank "a.proto") []
    "SwiftProtobuf"
  obtain ⟨set, emitter, hmake, -, hprints⟩ :=
    make_prints ht false typed_halfway ExtensionSet.holds_empty
  have hrefusal : firstRefusal? "a.proto" halfway.subtree =
      some (.sameProperty "a.proto" "foo_bar" "fooBar" (.str "M.N") "fooBar") := rfl
  have hfile : t.file.name = "a.proto" := congrArg Schema.name ht.file_eq
  rw [hfile] at hprints
  have hends := hprints.declaration (FilePlan.surroundings ⟨.default, t, false⟩)
  rw [hrefusal, Emission.verdict_some] at hends
  obtain ⟨-, hlevel, hstarts, -, hadded, hlater⟩ :=
    printer_after_declaration ⟨.default, t, false⟩ "  " [.indent] hmake
  exact ⟨t, set, emitter, hnames, hmake, hends _, hlevel, hstarts (.inl rfl), hadded [] rfl,
    hlater⟩

end MessagePlan

end SchemaToSwift
