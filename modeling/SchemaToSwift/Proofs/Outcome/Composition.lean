import SchemaToSwift.Proofs.Emit.Parts
import SchemaToSwift.Proofs.Outcome.TypePaths

/-!
# A file as its parts

The content of a file that declares something is, in the full profile, the texts of its parts one
after the other, each as it is on a printer of its own, and content always ends with one line feed.
A declaration is the same text wherever it stands, with the margin in front of its lines. All this
is `Schema.composition`.
-/

namespace SchemaToSwift

open Emission (freshText)

/-- An emission is printed as its text on a printer of its own, with the margin in front of each
line that is not blank, and stops there if it stops here. -/
def Emission.Shifts (a : Emission) : Prop :=
  ∀ p : Printer, '\n' ∉ p.unit.toList →
    (a p).1.content.toList =
        p.content.toList ++ Printer.shift p.margin (freshText p.unit a).toList ∧
      (a p).2 = (a (.new p.unit)).2

theorem Emission.Block.shifts {a : Emission} (h : a.Block) : a.Shifts :=
  fun p hunit => ⟨h.content_eq_shift hunit, h.result_eq p _⟩

namespace Text

theorem EndsOnce.append {s : String} (h : EndsOnce s) (before : String) :
    EndsOnce (before ++ s) := by
  obtain ⟨init, c, hs, hc⟩ := h
  exact ⟨before.toList ++ init, c, by rw [String.toList_append, hs, List.append_assoc], hc⟩

/-- Texts put together end like the last one. -/
theorem endsOnce_join {texts : List String} (hne : texts ≠ []) (h : ∀ s ∈ texts, EndsOnce s) :
    EndsOnce (String.join texts) := by
  obtain ⟨init, last, rfl⟩ := List.eq_nil_or_concat' texts |>.resolve_left hne
  rw [String.join_append]
  have hlast := h last (by simp)
  simpa using hlast.append (String.join init)

end Text

namespace FilePlan

variable {plan : FilePlan} {printer : Printer}

/-- A file ends with one line feed. -/
theorem endsOnce_of_output (h : plan.output.Yields filePrinter printer) :
    Text.EndsOnce printer.content := by
  obtain ⟨before, last, hyields, hne, hbefore, hlast⟩ := endsWithLine_output h
  obtain ⟨hcontent, hresults⟩ := Emission.content_all
    (List.forall_mem_append.2 ⟨hbefore, fun a ha => (hlast a ha).2⟩) rfl hyields
  rw [hcontent, List.map_append, String.join_append]
  refine (Text.EndsOnce.append ?_ _).append _
  refine Text.endsOnce_join (by simpa using hne) (List.forall_mem_map.2 fun a ha => ?_)
  exact (hlast a ha).1.endsOnce (hresults a (List.mem_append_right _ ha))

/-- The content of a file that declares something, in the full profile. -/
theorem content_of_output (hfull : plan.settings.isLite = false)
    (hdefines : plan.file.definesTypes = true) (h : plan.output.Yields filePrinter printer) :
    ∃ modules d, plan.moduleImports = .ok modules ∧ plan.declarations false = .ok d ∧
      (∀ a ∈ plan.opening modules ++ plan.versionCheck :: plan.parts d,
        (a filePrinter).2 = .ok ()) ∧
      printer.content = String.join ((plan.opening modules).map (freshText filePrinter.unit)) ++
        freshText filePrinter.unit plan.versionCheck ++
        String.join ((plan.parts d).map (freshText filePrinter.unit)) := by
  obtain ⟨modules, d, hmodules, hd, hyields⟩ := yields_parts hfull hdefines h
  have hsettled : ∀ a ∈ plan.opening modules ++ plan.versionCheck :: plan.parts d,
      a.Writing Printer.Settled :=
    List.forall_mem_append.2 ⟨settled_opening modules,
      List.forall_mem_cons.2 ⟨Emission.settled_lines _, settled_parts hd⟩⟩
  obtain ⟨hcontent, hresults⟩ := Emission.content_all hsettled rfl hyields
  refine ⟨modules, d, hmodules, hd, hresults, ?_⟩
  have hempty : filePrinter.content = "" := rfl
  rw [hcontent, hempty, String.empty_append, List.map_append, List.map_cons, String.join_append,
    String.join_cons, String.append_assoc]

end FilePlan

/-- The content of a file ends with one line feed. In the full profile it is, for a file that
declares something, the check of the runtime version after what comes before it, and then the texts
of the declarations, of the code for extensions and of the runtime support, each as it is on a
printer of its own. The declaration of an enum or a message is printed further in as it is at the
outermost level, with the margin in front of its lines. -/
theorem Schema.composition (settings : Settings) (file : Schema) :
    (∀ name output content : String,
      file.generate settings = .ok (.generated name output content) →
        Text.EndsOnce content ∧
          (settings.isLite = false → file.definesTypes = true →
            ∃ plan modules d, FilePlan.make settings file = .ok plan ∧
              plan.moduleImports = .ok modules ∧ plan.declarations false = .ok d ∧
              (∀ a ∈ plan.opening modules ++ plan.versionCheck :: plan.parts d,
                (a filePrinter).2 = .ok ()) ∧
              content = String.join ((plan.opening modules).map (freshText filePrinter.unit)) ++
                freshText filePrinter.unit plan.versionCheck ++
                String.join ((plan.parts d).map (freshText filePrinter.unit)))) ∧
    ∀ (t : NameTable) (shorten : Bool) (s : Surroundings),
      (∀ (e : EnumType) (plan : EnumPlan), EnumPlan.make t shorten e = .ok plan →
        (plan.declaration s).Shifts) ∧
      ∀ (m : MessageType) (set set' : ExtensionSet) (plan : MessagePlan),
        MessagePlan.make t shorten m set = (set', .ok plan) → (plan.declaration s).Shifts := by
  refine ⟨fun name output content h => ?_, fun t shorten s => ⟨fun e plan _ => ?_,
    fun m set set' plan hmake => ?_⟩⟩
  · obtain ⟨plan, printer, hplan, hyields, rfl⟩ := yields_of_generate h
    obtain ⟨-, hsettings, hfile⟩ := FilePlan.make_eq_ok hplan
    refine ⟨FilePlan.endsOnce_of_output hyields, fun hfull hdefines => ?_⟩
    rw [← hsettings] at hfull
    rw [← hfile] at hdefines
    obtain ⟨modules, d, hparts⟩ := FilePlan.content_of_output hfull hdefines hyields
    exact ⟨plan, modules, d, hplan, hparts⟩
  · exact (plan.block_declaration s).shifts
  · exact (MessagePlan.block_of_make s hmake).shifts

/-- The parts of a file with a message and a nested one. -/
theorem Schema.composition_nestedTypes : ∃ output content,
    nestedTypes.generate Settings.default = .ok (.generated "a.proto" output content) ∧
      ∃ plan modules d, FilePlan.make Settings.default nestedTypes = .ok plan ∧
        plan.moduleImports = .ok modules ∧ plan.declarations false = .ok d ∧
        content = String.join ((plan.opening modules).map (freshText filePrinter.unit)) ++
          freshText filePrinter.unit plan.versionCheck ++
          String.join ((plan.parts d).map (freshText filePrinter.unit)) := by
  obtain ⟨output, content, hgenerate⟩ := generate_nestedTypes
  obtain ⟨-, hcomposed⟩ := (composition Settings.default nestedTypes).1 _ _ _ hgenerate
  obtain ⟨plan, modules, d, hplan, hmodules, hd, -, hcontent⟩ := hcomposed rfl rfl
  exact ⟨output, content, hgenerate, plan, modules, d, hplan, hmodules, hd, hcontent⟩

end SchemaToSwift
