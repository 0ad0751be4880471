import Mathlib.Data.List.DropRight
import SchemaToSwift.Proofs.Result
import SchemaToSwift.Proofs.Schema.Typed
import SchemaToSwift.Proofs.Text.Dotted
import SchemaToSwift.Schema.Comment

/-!
# Reading comments back

Comment text is made of lines that end with a line feed. Its blank lines end the detached blocks, so
cutting the lines at them and taking the marker off what stands between them gives the comments back
(`Comments.read_sourceText`). An empty line inside of a comment has its marker, which tells it from
the end of a block; the empty lines at the end of a comment are not kept.
-/

namespace SchemaToSwift

/-! ## A reader of comment text -/

/-- The text is made of these lines, each ended by a line feed. -/
structure IsLines (text : String) (lines : List (List Char)) : Prop where
  toList_eq : text.toList = lines.flatMap (· ++ ['\n'])
  not_mem : ∀ line ∈ lines, '\n' ∉ line

/-- The lines of a text in which every line ends with a line feed. -/
def linesOf (text : String) : List (List Char) := (Text.splitAt '\n' text.toList).dropLast

/-- The text of lines that all have the marker, which is taken off. -/
def readMarked? (marker : String) (lines : List (List Char)) : Option String :=
  (lines.mapM (marker.toList.isPrefixOf? ·)).map fun bare => String.ofList (['\n'].intercalate bare)

/-- The detached comments, each of which ends at a blank line, and the comment after them. -/
def Comments.read? (marker detachedMarker text : String) : Option (List String × String) := do
  let blocks := (linesOf text).splitOn []
  let detached ← blocks.dropLast.mapM (readMarked? detachedMarker)
  let leading ← readMarked? marker (blocks.getLastD [])
  return (detached, leading)

/-- The lines of a comment without the empty ones at its end, of which the last one is none. -/
structure IsComment (comment : String) (block : List (List Char)) : Prop where
  joined : ['\n'].intercalate block = (Text.dropTrailing '\n' comment).toList
  last : block.getLast? ≠ some []

/-! ## Parts and separators -/

namespace Text

section
variable {α : Type} {sep : α}

/-- Parts that are each followed by the separator, before a last one. -/
theorem flatMap_append_eq_intercalate (parts : List (List α)) (last : List α) :
    parts.flatMap (· ++ [sep]) ++ last = [sep].intercalate (parts ++ [last]) := by
  induction parts with
  | nil => simp
  | cons part parts ih =>
    rw [List.flatMap_cons, List.append_assoc, ih, List.cons_append,
      List.intercalate_cons_of_ne_nil (by simp)]

/-- Empty parts at the end are separators at the end. -/
theorem intercalate_rdropWhile [DecidableEq α] {parts : List (List α)}
    (h : ∀ part ∈ parts, sep ∉ part) :
    [sep].intercalate (parts.rdropWhile (·.isEmpty)) =
      ([sep].intercalate parts).rdropWhile (· == sep) := by
  induction parts using List.reverseRecOn with
  | nil => rfl
  | append_singleton before last ih =>
    rw [← flatMap_append_eq_intercalate]
    rcases List.eq_nil_or_concat last with rfl | ⟨init, c, rfl⟩
    · have hbefore := ih fun part hpart => h part (List.mem_append_left _ hpart)
      rw [List.rdropWhile_concat_pos _ _ _ rfl, hbefore, List.append_nil]
      rcases List.eq_nil_or_concat before with rfl | ⟨parts, part, rfl⟩
      · rfl
      · rw [List.concat_eq_append, List.flatMap_append, List.flatMap_singleton, ← List.append_assoc,
          flatMap_append_eq_intercalate,
          List.rdropWhile_concat_pos (· == sep) _ _ (beq_self_eq_true sep)]
    · have hc : ¬ (c == sep) = true := by
        intro heq
        refine h _ (List.mem_append_right _ (.head _)) ?_
        simp [beq_iff_eq.1 heq]
      rw [List.rdropWhile_concat_neg _ _ _ (by simp), ← flatMap_append_eq_intercalate,
        List.concat_eq_append, ← List.append_assoc, List.rdropWhile_concat_neg (· == sep) _ _ hc]

end

end Text

/-! ## Lines that end with a line feed -/

namespace IsLines

variable {text text' : String} {lines lines' : List (List Char)}

theorem empty : IsLines "" [] := ⟨rfl, by simp⟩

theorem blank : IsLines "\n" [[]] := ⟨rfl, by simp⟩

/-- Texts of whole lines have the lines of both. -/
theorem append (h : IsLines text lines) (h' : IsLines text' lines') :
    IsLines (text ++ text') (lines ++ lines') where
  toList_eq := by rw [String.toList_append, h.toList_eq, h'.toList_eq, List.flatMap_append]
  not_mem := by simpa only [List.forall_mem_append] using ⟨h.not_mem, h'.not_mem⟩

/-- Texts made of lines, one after another. -/
theorem join {α : Type} {text : α → String} {lines : α → List (List Char)} :
    ∀ {xs : List α}, (∀ x ∈ xs, IsLines (text x) (lines x)) →
      IsLines (String.join (xs.map text)) (xs.flatMap lines)
  | [], _ => empty
  | x :: xs, h => by
    rw [List.map_cons, String.join_cons, List.flatMap_cons]
    exact (h x (.head _)).append (join fun y hy => h y (.tail _ hy))

/-- The lines of a text are those it is made of. -/
theorem linesOf_eq (h : IsLines text lines) : linesOf text = lines := by
  have hsplit : Text.splitAt '\n' ([('\n')].intercalate (lines ++ [[]])) = lines ++ [[]] := by
    refine Text.splitAt_intercalate (by simp) ?_
    simpa only [List.forall_mem_append, List.forall_mem_singleton] using ⟨h.not_mem, by simp⟩
  rw [linesOf, h.toList_eq, ← List.append_nil (lines.flatMap _), Text.flatMap_append_eq_intercalate,
    hsplit, List.dropLast_concat]

end IsLines

/-! ## Marked lines -/

/-- A marker for the lines of a comment. -/
structure IsMarker (marker : String) : Prop where
  nonempty : marker ≠ ""
  not_mem : '\n' ∉ marker.toList

/-- The lines of a comment with the marker. -/
def markedBlock (marker comment : String) : List (List Char) :=
  (commentLines comment.toList).map (marker.toList ++ ·)

/-- A line with a marker is not blank. -/
theorem IsMarker.nil_not_mem {marker : String} (h : IsMarker marker) (comment : String) :
    [] ∉ markedBlock marker comment := by
  intro hnil
  obtain ⟨line, -, hline⟩ := List.mem_map.1 hnil
  exact h.nonempty (String.toList_injective (List.append_eq_nil_iff.1 hline).1)

theorem IsMarker.isLines {marker : String} (h : IsMarker marker) (comment : String) :
    IsLines (markedLines marker comment) (markedBlock marker comment) := by
  have hline : ∀ line ∈ commentLines comment.toList,
      IsLines (marker ++ String.ofList line ++ "\n") [marker.toList ++ line] := by
    intro line hline
    refine ⟨by simp, ?_⟩
    have hfeed : '\n' ∉ line :=
      Text.not_mem_of_mem_splitAt ((List.rdropWhile_prefix _ _).subset hline)
    simpa [hfeed] using h.not_mem
  rw [markedBlock, List.map_eq_flatMap]
  exact IsLines.join hline

/-- The lines of a comment make up the comment, without those at its end that are empty. -/
theorem isComment_commentLines (comment : String) :
    IsComment comment (commentLines comment.toList) where
  joined := by
    have hparts : ∀ part ∈ Text.splitAt '\n' comment.toList, '\n' ∉ part := fun part hpart =>
      Text.not_mem_of_mem_splitAt hpart
    have hjoin := Text.intercalate_rdropWhile hparts
    rw [Text.intercalate_splitAt] at hjoin
    rw [Text.dropTrailing, String.toList_ofList]
    exact hjoin
  last := by
    intro hlast
    obtain ⟨before, hbefore⟩ := List.getLast?_eq_some_iff.1 hlast
    have hdrop : (before ++ [[]]).rdropWhile (·.isEmpty) = before ++ [[]] := by
      rw [← hbefore]
      exact List.rdropWhile_idempotent List.isEmpty _
    rw [List.rdropWhile_concat_pos _ _ _ rfl] at hdrop
    have hlength := (List.rdropWhile_prefix List.isEmpty before).length_le
    rw [hdrop, List.length_append, List.length_singleton] at hlength
    exact Nat.not_succ_le_self _ hlength

/-- What holds of a blank line holds of the lines of a comment if it does up to its trailing empty
ones. -/
theorem forall_mem_commentLines {P : List Char → Prop} (hnil : P []) (comment : List Char) :
    (∀ line ∈ commentLines comment, P line) ↔ ∀ line ∈ Text.splitAt '\n' comment, P line := by
  have hparts : commentLines comment ++ (Text.splitAt '\n' comment).rtakeWhile List.isEmpty =
      Text.splitAt '\n' comment := List.rdropWhile_append_rtakeWhile
  have hempty : ∀ line ∈ (Text.splitAt '\n' comment).rtakeWhile List.isEmpty, P line := by
    intro line hline
    rwa [List.isEmpty_iff.1 (List.mem_rtakeWhile_imp hline)]
  rw [← hparts, List.forall_mem_append]
  exact (and_iff_left hempty).symm

/-! ## Comment text -/

namespace Comments

/-- The lines of comment text, with a blank line after each of the detached blocks. -/
def lines (c : Comments) (marker detachedMarker : String) : List (List Char) :=
  (c.detached.map fun d => markedBlock detachedMarker d.display).flatMap (· ++ [[]]) ++
    markedBlock marker c.leading.display

variable {c : Comments} {marker detachedMarker : String}

/-- The blank lines are those at the ends of the detached blocks. -/
theorem splitOn_lines (c : Comments) (hmarker : IsMarker marker)
    (hdetached : IsMarker detachedMarker) :
    (c.lines marker detachedMarker).splitOn [] =
      (c.detached.map fun d => markedBlock detachedMarker d.display) ++
        [markedBlock marker c.leading.display] := by
  rw [lines, Text.flatMap_append_eq_intercalate]
  refine List.splitOn_intercalate [] ?_ (by simp)
  simp only [List.forall_mem_append, List.forall_mem_singleton, List.forall_mem_map]
  exact ⟨fun d _ => hdetached.nil_not_mem d.display, hmarker.nil_not_mem c.leading.display⟩

/-- A leading comment that is a text is marked line by line. -/
theorem Typed.leadingText_eq (h : c.Typed) (marker : String) :
    leadingText marker c.leading = .ok (markedLines marker c.leading.display) := by
  obtain ⟨text, htext⟩ := h.leading
  rw [leadingText, htext]
  split
  · rfl
  · next hempty =>
    have hnil : text = "" := by simpa [Json.truthy] using hempty
    rw [hnil]
    rfl

/-- So are detached ones, each with a blank line after it. -/
theorem Typed.detachedText_eq (h : c.Typed) (marker : String) :
    detachedText marker c.detached =
      .ok (String.join (c.detached.map fun d => markedLines marker d.display ++ "\n")) := by
  have htexts : c.detached.mapM (·.asText .noOperation) = .ok (c.detached.map (·.display)) :=
    Result.mapM_ok_iff.2 (List.forall₂_map_right_iff.2
      (List.forall₂_same.2 fun d hd => (h.detached d hd).asText _))
  rw [detachedText, htexts, Result.bind_ok, List.map_map]
  rfl

/-- Comments that are texts have a text, which is made of their lines. -/
theorem Typed.isLines_sourceText (h : c.Typed) (hmarker : IsMarker marker)
    (hdetached : IsMarker detachedMarker) :
    ∃ text, c.sourceText marker (some detachedMarker) = .ok text ∧
      IsLines text (c.lines marker detachedMarker) := by
  have hblock : ∀ d ∈ c.detached, IsLines (markedLines detachedMarker d.display ++ "\n")
      (markedBlock detachedMarker d.display ++ [[]]) := fun d _ =>
    (hdetached.isLines d.display).append .blank
  have hblocks := IsLines.join hblock
  rw [← List.flatMap_map (fun d : Json => markedBlock detachedMarker d.display) (· ++ [[]])]
    at hblocks
  refine ⟨_, ?_, hblocks.append (hmarker.isLines c.leading.display)⟩
  rw [sourceText, h.detachedText_eq, h.leadingText_eq]
  rfl

/-- Without a marker for them the detached blocks are left out. -/
theorem Typed.isLines_sourceText_none (h : c.Typed) (hmarker : IsMarker marker) :
    ∃ text, c.sourceText marker none = .ok text ∧
      IsLines text (markedBlock marker c.leading.display) := by
  refine ⟨_, ?_, hmarker.isLines c.leading.display⟩
  rw [sourceText, h.leadingText_eq]
  exact congrArg Except.ok String.empty_append

end Comments

/-! ## Reading -/

theorem mapM_map_eq_some {α β γ : Type} {read : β → Option γ} {write : α → β} {value : α → γ}
    (h : ∀ x, read (write x) = some (value x)) :
    ∀ xs : List α, (xs.map write).mapM read = some (xs.map value)
  | [] => rfl
  | x :: xs => by
    rw [List.map_cons, List.mapM_cons, h, mapM_map_eq_some h xs]
    rfl

/-- The marked lines of a comment give it back, up to the line feeds at its end. -/
theorem readMarked?_markedBlock (marker comment : String) :
    readMarked? marker (markedBlock marker comment) = some (Text.dropTrailing '\n' comment) := by
  have hstrip (line : List Char) : marker.toList.isPrefixOf? (marker.toList ++ line) = some line :=
    List.isPrefixOf?_eq_some_iff_append_eq.2 rfl
  rw [readMarked?, markedBlock, mapM_map_eq_some hstrip, List.map_id', Option.map_some,
    (isComment_commentLines comment).joined, String.ofList_toList]

/-- The comments at a place are recovered from their text: its lines are cut at the blank ones, one
at the end of each detached block, and every other line has the marker of its comment. Without a
marker for the detached blocks only the lines after the last blank one are there. -/
theorem Comments.read_sourceText {c : Comments} {marker detachedMarker : String} (hc : c.Typed)
    (hmarker : IsMarker marker) (hdetached : IsMarker detachedMarker) :
    ∃ (text alone : String) (lines leading : List (List Char)) (blocks : List (List (List Char))),
      c.sourceText marker (some detachedMarker) = .ok text ∧ IsLines text lines ∧
        lines.splitOn [] = blocks.map (·.map (detachedMarker.toList ++ ·)) ++
          [leading.map (marker.toList ++ ·)] ∧
        List.Forall₂ IsComment (c.detached.map (·.display)) blocks ∧
        IsComment c.leading.display leading ∧
        read? marker detachedMarker text =
          some (c.detached.map fun d => Text.dropTrailing '\n' d.display,
            Text.dropTrailing '\n' c.leading.display) ∧
        c.sourceText marker none = .ok alone ∧
        IsLines alone (leading.map (marker.toList ++ ·)) := by
  obtain ⟨text, htext, hlines⟩ := hc.isLines_sourceText hmarker hdetached
  obtain ⟨alone, halone, haloneLines⟩ := hc.isLines_sourceText_none hmarker
  have hsplit := c.splitOn_lines hmarker hdetached
  refine ⟨text, alone, c.lines marker detachedMarker, commentLines c.leading.display.toList,
    c.detached.map fun d => commentLines d.display.toList, htext, hlines, ?_, ?_,
    isComment_commentLines _, ?_, halone, haloneLines⟩
  · rw [hsplit, List.map_map]
    rfl
  · rw [List.forall₂_map_left_iff, List.forall₂_map_right_iff, List.forall₂_same]
    exact fun d _ => isComment_commentLines d.display
  · have hblocks := mapM_map_eq_some
      (fun d : Json => readMarked?_markedBlock detachedMarker d.display) c.detached
    rw [read?, hlines.linesOf_eq, hsplit, List.dropLast_concat, List.getLastD_concat, hblocks,
      readMarked?_markedBlock]
    rfl

/-- Two detached comments, one of them without lines, and a leading comment with a blank line. -/
def Comments.twoDetached : Comments where
  leading := .str " Lead.\n\n More.\n"
  trailing := .str ""
  detached := [.str "\n", .str " One.\n\n Two."]

theorem Comments.read_twoDetached :
    twoDetached.Typed ∧ IsMarker "///" ∧ IsMarker "//" ∧
      ∃ text, twoDetached.sourceText "///" (some "//") = .ok text ∧
        text = "\n// One.\n//\n// Two.\n\n/// Lead.\n///\n/// More.\n" ∧
        read? "///" "//" text = some (["", " One.\n\n Two."], " Lead.\n\n More.") := by
  have htyped : twoDetached.Typed :=
    ⟨Json.isText_str _, Json.isText_str _, by simp [twoDetached, Json.isText_str]⟩
  have hmarker : IsMarker "///" := ⟨by decide, by decide⟩
  have hdetached : IsMarker "//" := ⟨by decide, by decide⟩
  have hlines : twoDetached.sourceText "///" (some "//") =
      .ok "\n// One.\n//\n// Two.\n\n/// Lead.\n///\n/// More.\n" := by
    rw [sourceText, htyped.detachedText_eq, htyped.leadingText_eq]
    exact congrArg Except.ok (by decide +kernel)
  obtain ⟨text, _, _, _, _, htext, -, -, -, -, hread, -, -⟩ :=
    read_sourceText htyped hmarker hdetached
  exact ⟨htyped, hmarker, hdetached, text, htext, Except.ok.inj (htext.symm.trans hlines),
    hread.trans (by decide +kernel)⟩

end SchemaToSwift
