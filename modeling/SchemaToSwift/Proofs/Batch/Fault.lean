import SchemaToSwift.Proofs.Outcome.Refusal

/-!
# Which files stop a batch

A file that is wrong is meant to be rejected and to leave the rest of its batch alone. For a typed
file that is not rejected there is one way to stop the batch all the same: in the full profile, an
extension without a name (`Schema.Nameless`), whose first character is taken. `Schema.StopsBatch`
says when that happens; any other typed file has an outcome.
-/

namespace SchemaToSwift

/-- A file that has no outcome: it is not rejected, and the full profile needs the name of one of
its extensions, which has none. -/
def Schema.StopsBatch (settings : Settings) (f : Schema) : Prop :=
  settings.isLite = false ∧ (∀ m ∈ f.allMessages, Field.Sound m.fields) ∧
    ∃ x ∈ f.allExtensions, f.Nameless x.fullName

namespace Schema

variable {settings : Settings} {file : Schema}

/-- A file with an extension without a name asks for no prefix. -/
theorem Nameless.not_hasBadPrefix {fullName : Json} (h : file.Nameless fullName) :
    ¬ file.HasBadPrefix := by
  rintro ⟨hne, -⟩
  rw [h.2.1] at hne
  exact hne rfl

/-- A typed file that stops a batch is the fault of a missing first character. -/
theorem generate_of_stopsBatch (hs : settings.Typed) (hf : file.Typed)
    (h : file.StopsBatch settings) : file.generate settings = .error .noElement := by
  obtain ⟨hfull, hsound, x, hx, hnameless⟩ := h
  have hnone : file.error? = none := by
    rw [error?, if_neg hnameless.not_hasBadPrefix, refusal?_eq_none]
    exact hsound
  exact generate_of_needsName hs hf hnone ⟨hfull, x, hx, hnameless⟩

/-- Any other typed file has an output file or is rejected. -/
theorem generate_of_not_stopsBatch (hs : settings.Typed) (hf : file.Typed)
    (h : ¬ file.StopsBatch settings) :
    (∃ output content, file.generate settings = .ok (.generated file.name output content)) ∨
      ∃ e, file.generate settings = .ok (.rejected file.name (.generation e)) := by
  cases herror : file.error? with
  | some e => exact .inr ⟨e, generate_of_error hs hf herror⟩
  | none =>
    refine .inl (generate_of_sound hs hf herror fun hnames => h ?_)
    obtain ⟨hfull, x, hx, hnameless⟩ := hnames
    rw [error?, if_neg hnameless.not_hasBadPrefix, refusal?_eq_none] at herror
    exact ⟨hfull, herror, x, hx, hnameless⟩

end Schema

namespace Batch

variable {settings : Settings} {files : List Schema}

/-- A batch of typed files gives results exactly if no wanted file stops it, and otherwise ends with
the fault of a missing first character, whatever the other files are. A file that does not stop it
has an output file or is rejected. -/
theorem generate_ok_iff (hs : settings.Typed) (hf : ∀ f ∈ files, f.Typed)
    (wanted : Option (List String)) :
    ((∃ results, generate settings wanted files = .ok results) ↔
      ∀ f ∈ files, isWanted wanted f → ¬ f.StopsBatch settings) ∧
      ((∃ f ∈ files, isWanted wanted f ∧ f.StopsBatch settings) →
        generate settings wanted files = .error .noElement) ∧
      ∀ f ∈ files, ¬ f.StopsBatch settings →
        (∃ output content, f.generate settings = .ok (.generated f.name output content)) ∨
          ∃ e, f.generate settings = .ok (.rejected f.name (.generation e)) := by
  have hstop : (∃ f ∈ files, isWanted wanted f ∧ f.StopsBatch settings) →
      generate settings wanted files = .error .noElement := by
    rintro ⟨f, hmem, hwanted, hstops⟩
    have herror : (files.filter (isWanted wanted)).mapM (Schema.generate settings) =
        .error .noElement := by
      refine Result.mapM_error (fun g hg => ?_) ⟨f, List.mem_filter.2 ⟨hmem, hwanted⟩,
        Schema.generate_of_stopsBatch hs (hf f hmem) hstops⟩
      have htyped := hf g (List.mem_filter.1 hg).1
      by_cases hg' : g.StopsBatch settings
      · exact .inl (Schema.generate_of_stopsBatch hs htyped hg')
      · rcases Schema.generate_of_not_stopsBatch hs htyped hg' with ⟨_, _, h⟩ | ⟨_, h⟩
        · exact .inr ⟨_, h⟩
        · exact .inr ⟨_, h⟩
    rw [generate, herror]
    rfl
  refine ⟨⟨?_, fun hnone => ?_⟩, hstop, fun f hmem h =>
    Schema.generate_of_not_stopsBatch hs (hf f hmem) h⟩
  · rintro ⟨results, hresults⟩ f hmem hwanted hstops
    rw [hstop ⟨f, hmem, hwanted, hstops⟩] at hresults
    cases hresults
  · obtain ⟨own, hown⟩ := outcomes_of_wanted wanted files fun f hmem hwanted => by
      rcases Schema.generate_of_not_stopsBatch hs (hf f hmem) (hnone f hmem hwanted) with
        ⟨_, _, h⟩ | ⟨_, h⟩
      · exact ⟨_, h⟩
      · exact ⟨_, h⟩
    exact ⟨_, generate_eq_claimAll hown⟩

/-- A file with an extension of the name `_`. -/
def underscoreFile : Schema :=
  { Schema.blank "a.proto" with
    extensions := [⟨.str "_", .str "_", 1, .int32, "M", .optional, ""⟩] }

/-- The extension `_` of one file leaves no results for the other. -/
theorem generate_ok_iff_underscore :
    generate Settings.default none [underscoreFile, Schema.blank "b.proto"] =
      .error .noElement := by
  have htyped : ∀ f ∈ [underscoreFile, Schema.blank "b.proto"], f.Typed := by
    intro f hf
    rcases List.mem_pair.1 hf with rfl | rfl
    · exact { Schema.typed_blank "a.proto" with
        extensions := by simpa [underscoreFile] using ⟨Json.isText_str "_", Json.isText_str "_"⟩ }
    · exact Schema.typed_blank "b.proto"
  have hstops : underscoreFile.StopsBatch Settings.default := by
    refine ⟨rfl, by simp [underscoreFile, Schema.blank, Schema.allMessages, MessageType.subtrees],
      ⟨.str "_", .str "_", 1, .int32, "M", .optional, ""⟩, ?_, rfl, rfl, ?_, ?_⟩
    · exact List.mem_append_left _ (.head _)
    · simp [underscoreFile, Schema.blank, Schema.declaredNames, Schema.allMessages,
        MessageType.subtrees]
    · have hlast : Text.lastComponent (Text.dropLeading '.' "_") = "_" := by decide
      simp [hlast]
  exact (generate_ok_iff Settings.typed_default htyped none).2.1 ⟨_, .head _, rfl, hstops⟩

end Batch

end SchemaToSwift
