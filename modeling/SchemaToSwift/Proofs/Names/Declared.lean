import Mathlib.Data.List.DropRight
import SchemaToSwift.Proofs.Names.Typed

/-!
# Names that a file declares

Every entry of a table of names is there for a declared full name, whatever values the declarations
hold (`NameTable.str_mem_declaredNames`). So if all declared types have textual Swift names, then so
has every type that is looked up, for what is found is what some declaration finds
(`NameTable.isText_typeName_of_declared`).
-/

namespace SchemaToSwift

namespace NameTable

/-! ## Entries and declarations -/

/-- The entry of a declaration is for its full name. -/
theorem str_eq_of_entry {fullName : Json} {n : SwiftName} {es : List (String × SwiftName)}
    (h : entry fullName n = .ok es) : ∀ e ∈ es, Json.str e.1 = fullName := by
  obtain ⟨key, hkey, h⟩ := Result.bind_eq_ok_iff.1 h
  unfold Json.asKey at hkey
  split at hkey
  · cases hkey
    intro e he
    split at h
    · cases h
      rw [List.mem_singleton.1 he]
    · cases h
      cases he
  · cases hkey

theorem str_mem_of_enumEntries {parent : Except Json SwiftName} {enums : List EnumType}
    {es : List (List (String × SwiftName))} (h : enums.mapM (enumEntry parent) = .ok es) :
    ∀ e ∈ es.flatten, Json.str e.1 ∈ enums.map (·.fullName) := by
  rw [Result.mapM_ok_iff] at h
  induction h with
  | nil => exact nofun
  | cons hentry _ ih =>
    intro e he
    rw [List.flatten_cons, List.mem_append] at he
    rw [List.map_cons]
    rcases he with he | he
    · obtain ⟨n, -, hentry⟩ := Result.bind_eq_ok_iff.1 hentry
      rw [str_eq_of_entry hentry e he]
      exact .head _
    · exact .tail _ (ih e he)

mutual

/-- The entries of a message are for the full names in it. -/
theorem str_mem_of_messageEntries : ∀ {parent : Except Json SwiftName} {m : MessageType}
    {es : List (String × SwiftName)}, messageEntries parent m = .ok es →
      ∀ e ∈ es, Json.str e.1 ∈ m.subtree.flatMap (·.declaredNames)
  | parent, ⟨name, fullName, fields, messages, enums, extensions⟩, es, h => by
    rw [messageEntries] at h
    obtain ⟨own, -, h⟩ := Result.bind_eq_ok_iff.1 h
    obtain ⟨first, hfirst, h⟩ := Result.bind_eq_ok_iff.1 h
    obtain ⟨ofEnums, henums, h⟩ := Result.bind_eq_ok_iff.1 h
    obtain ⟨ofMessages, hmessages, h⟩ := Result.bind_eq_ok_iff.1 h
    cases h
    intro e he
    rw [MessageType.subtree, List.flatMap_cons, MessageType.declaredNames]
    rcases List.mem_append.1 he with he | he
    · refine List.mem_append_left _ ?_
      rcases List.mem_append.1 he with he | he
      · rw [str_eq_of_entry hfirst e he]
        exact .head _
      · exact .tail _ (str_mem_of_enumEntries henums e he)
    · exact List.mem_append_right _ (str_mem_of_messagesEntries hmessages e he)

/-- The entries of messages are for the full names in them. -/
theorem str_mem_of_messagesEntries : ∀ {parent : Except Json SwiftName} {ms : List MessageType}
    {es : List (String × SwiftName)}, messagesEntries parent ms = .ok es →
      ∀ e ∈ es, Json.str e.1 ∈ (MessageType.subtrees ms).flatMap (·.declaredNames)
  | parent, [], es, h => by
    rw [messagesEntries] at h
    cases h
    exact nofun
  | parent, m :: ms, es, h => by
    rw [messagesEntries] at h
    obtain ⟨first, hfirst, h⟩ := Result.bind_eq_ok_iff.1 h
    obtain ⟨rest, hrest, h⟩ := Result.bind_eq_ok_iff.1 h
    cases h
    intro e he
    rw [MessageType.subtrees, List.flatMap_append]
    rcases List.mem_append.1 he with he | he
    · exact List.mem_append_left _ (str_mem_of_messageEntries hfirst e he)
    · exact List.mem_append_right _ (str_mem_of_messagesEntries hrest e he)

end

section
variable {file : Schema} {modules : List (Json × Json)} {runtimeModule : String} {t : NameTable}
  (h : ofSchema file modules runtimeModule = .ok t)
include h

/-- The entries of a table are for the full names that its file declares. -/
theorem str_mem_declaredNames : ∀ e ∈ t.entries, Json.str e.1 ∈ file.declaredNames := by
  obtain ⟨typePrefix, -, h⟩ := Result.bind_eq_ok_iff.1 h
  obtain ⟨enums, henums, h⟩ := Result.bind_eq_ok_iff.1 h
  obtain ⟨messages, hmessages, h⟩ := Result.bind_eq_ok_iff.1 h
  cases h
  intro e he
  rcases List.mem_append.1 he with he | he
  · exact List.mem_append_left _ (str_mem_of_enumEntries henums e he)
  · exact List.mem_append_right _ (str_mem_of_messagesEntries hmessages e he)

/-- If all declared types have textual names, then every type has one. -/
theorem isText_typeName_of_declared {shorten : Bool}
    (hdeclared : ∀ n ∈ file.declaredNames, ∃ v, t.typeNameOf n shorten = .ok v ∧ v.IsText)
    (fullName : String) : (t.typeName fullName shorten).IsText := by
  cases hfound : t.declared? (Text.dropLeading '.' fullName) with
  | none => simpa only [typeName, hfound] using Json.isText_str _
  | some n =>
    -- the name that is found is the one that the declaration of that full name finds
    obtain ⟨xs, ys, hentries, -⟩ := List.lookup_eq_some_iff.1 hfound
    have hmem : (Text.dropLeading '.' fullName, n) ∈ t.entries :=
      List.mem_reverse.1 (hentries ▸ by simp)
    obtain ⟨v, hv, htext⟩ := hdeclared _ (str_mem_declaredNames h _ hmem)
    have hsame : t.typeName fullName shorten = v := by
      have hdrop : Text.dropLeading '.' (Text.dropLeading '.' fullName) =
          Text.dropLeading '.' fullName := by
        rw [Text.dropLeading, Text.dropLeading, String.toList_ofList, List.dropWhile_idempotent]
      have hname : t.typeName (Text.dropLeading '.' fullName) shorten = v := Except.ok.inj hv
      rw [typeName, hdrop] at hname
      exact hname
    rwa [hsame]

end

end NameTable

end SchemaToSwift
