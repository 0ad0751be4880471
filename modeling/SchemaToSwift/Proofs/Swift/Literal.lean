import Mathlib.Data.List.TakeWhile
import SchemaToSwift.Swift.Literal

/-!
# Reading string literals

`readLiteral` takes the text of a literal apart from left to right, up to the quote that closes it.
A character of a text is in its literal as it is, or by an escape that stands for it
(`literalChar_cases`), so the literal gives the text back and goes no further than its quote
(`readLiteral_append`). A text without escapes stands for itself only if it has nothing that a
literal cannot hold (`readLiteral_raw_iff`).
-/

namespace SchemaToSwift.Swift

/-! ## Definitions -/

/-- The character that a backslash and the given character stand for. -/
def escaped? : Char → Option Char
  | '\\' => some '\\'
  | '"' => some '"'
  | 'n' => some '\n'
  | 'r' => some '\r'
  | 't' => some '\t'
  | _ => none

/-- The text of a literal that is read up to the quote that closes it, and what follows the quote.
The literal ends on its line, and its backslashes begin escapes. -/
def readLiteral : List Char → Option (List Char × List Char)
  | [] => none
  | '"' :: rest => some ([], rest)
  | '\\' :: e :: rest =>
    (escaped? e).bind fun c => (readLiteral rest).map fun (value, after) => (c :: value, after)
  | c :: rest =>
    if c ∈ ['\\', '\n', '\r'] then none
    else (readLiteral rest).map fun (value, after) => (c :: value, after)

/-- A literal holds the text as it is. -/
def NeedsNoEscape (cs : List Char) : Prop := ∀ c ∈ cs, c ∉ ['\\', '"', '\n', '\r']

/-- The number of backslashes that the text ends with. -/
def trailing (cs : List Char) : Nat := (cs.reverse.takeWhile (· == '\\')).length

/-- The text with an escape for each occurrence of the character. -/
def escapeAll (cs : List Char) (c e : Char) : List Char :=
  cs.flatMap fun d => if d = c then ['\\', e] else [d]

/-- The text with escapes for all occurrences of the characters, one character after the other. -/
def escapeInTurn (cs : List Char) (escapes : List (Char × Char)) : List Char :=
  escapes.foldl (fun cs (c, e) => escapeAll cs c e) cs

/-- The characters that need an escape, with what follows its backslash. -/
def escapes : List (Char × Char) :=
  [('\\', '\\'), ('"', '"'), ('\n', 'n'), ('\r', 'r'), ('\t', 't')]

/-! ## Single characters -/

/-- A character is in a literal by an escape that stands for it, or as it is if it needs none. -/
theorem literalChar_cases (c : Char) :
    (∃ e, literalChar c = ['\\', e] ∧ escaped? e = some c) ∨
      literalChar c = [c] ∧ c ∉ ['\\', '"', '\n', '\r', '\t'] := by
  by_cases hspecial : c ∈ ['\\', '"', '\n', '\r', '\t']
  · refine .inl ?_
    simp only [List.mem_cons, List.not_mem_nil, or_false] at hspecial
    rcases hspecial with rfl | rfl | rfl | rfl | rfl
    all_goals exact ⟨_, rfl, rfl⟩
  · refine .inr ⟨?_, hspecial⟩
    simp only [List.mem_cons, List.not_mem_nil, or_false, not_or] at hspecial
    simp [literalChar, hspecial]

/-- What follows the backslash of an escape is no end of a line and no tab. -/
theorem not_mem_of_escaped? {e c : Char} (h : escaped? e = some c) : e ∉ ['\n', '\r', '\t'] := by
  intro hmem
  simp only [List.mem_cons, List.not_mem_nil, or_false] at hmem
  rcases hmem with rfl | rfl | rfl
  all_goals cases h

/-! ## Runs of backslashes -/

/-- An even number of backslashes before a text does not change how it is read. -/
theorem trailing_append_mod {xs : List Char} (h : trailing xs % 2 = 0) (ys : List Char) :
    trailing (xs ++ ys) % 2 = trailing ys % 2 := by
  unfold trailing at h ⊢
  rw [List.reverse_append, List.takeWhile_append]
  split
  · next hall =>
    rw [List.length_append, ← hall]
    omega
  · rfl

theorem trailing_literalChar_mod (c : Char) : trailing (literalChar c) % 2 = 0 := by
  rcases literalChar_cases c with ⟨e, hform, -⟩ | ⟨hform, hc⟩
  · rw [hform]
    by_cases he : e = '\\'
    · rw [he]
      rfl
    · simp [trailing, he]
  · have hne : c ≠ '\\' := fun h => hc (h ▸ .head _)
    simp [hform, trailing, hne]

/-- What begins inside the form of a character is the second of an escape, or the backslash of
one. -/
theorem escape_of_literalChar {d c : Char} {before piece : List Char}
    (h : literalChar d = before ++ c :: piece) (hc : c = '"' ∨ c = '\\') :
    trailing before % 2 = 1 ∨
      c = '\\' ∧ ∃ e rest, piece = e :: rest ∧ (escaped? e).isSome = true := by
  rcases literalChar_cases d with ⟨e, hform, he⟩ | ⟨hform, hd⟩
  · rw [hform] at h
    match before with
    | [] =>
      obtain ⟨rfl, hpiece⟩ := List.cons.inj h
      exact .inr ⟨rfl, e, [], hpiece.symm, by rw [he]; rfl⟩
    | [b] =>
      obtain ⟨rfl, -⟩ := List.cons.inj h
      exact .inl rfl
    | b :: b' :: rest => simp at h
  · rw [hform, List.singleton_eq_append_iff] at h
    simp only [List.cons.injEq, reduceCtorEq, and_false, or_false] at h
    obtain ⟨-, rfl, -⟩ := h
    rcases hc with rfl | rfl
    all_goals exact absurd (by decide) hd

/-- A quote of a literal is in an escape, and so is a backslash, which begins one if the number of
backslashes before it is even. -/
theorem escape_of_literal {cs before after : List Char} {c : Char}
    (h : cs.flatMap literalChar = before ++ c :: after) (hc : c = '"' ∨ c = '\\') :
    trailing before % 2 = 1 ∨
      c = '\\' ∧ ∃ e rest, after = e :: rest ∧ (escaped? e).isSome = true := by
  induction cs generalizing before with
  | nil => exact absurd h.symm (by simp)
  | cons d rest ih =>
    rw [List.flatMap_cons, List.append_eq_append_iff] at h
    rcases h with ⟨before', rfl, hrest⟩ | ⟨_ | ⟨c', piece⟩, hpiece, hafter⟩
    · rw [trailing_append_mod (trailing_literalChar_mod d)]
      exact ih hrest
    · rw [List.append_nil] at hpiece
      rw [← hpiece, ← List.append_nil (literalChar d),
        trailing_append_mod (trailing_literalChar_mod d)]
      exact ih hafter.symm
    · obtain ⟨rfl, rfl⟩ := List.cons.inj hafter
      rcases escape_of_literalChar hpiece hc with hodd | ⟨hbackslash, e, more, rfl, he⟩
      · exact .inl hodd
      · exact .inr ⟨hbackslash, e, more ++ rest.flatMap literalChar, rfl, he⟩

/-! ## Reading -/

theorem readLiteral_plain {c : Char} (h : c ∉ ['\\', '"', '\n', '\r']) (rest : List Char) :
    readLiteral (c :: rest) = (readLiteral rest).map fun (value, after) => (c :: value, after) := by
  simp only [List.mem_cons, List.not_mem_nil, or_false, not_or] at h
  obtain ⟨hbackslash, hquote, hend⟩ := h
  rw [readLiteral]
  · simp [hbackslash, hend]
  · exact hquote
  · exact fun _ _ hc _ => hbackslash hc

/-- A literal is read up to its quote, and gives its text back. -/
theorem readLiteral_append (cs after : List Char) :
    readLiteral (cs.flatMap literalChar ++ '"' :: after) = some (cs, after) := by
  induction cs with
  | nil => rw [List.flatMap_nil, List.nil_append, readLiteral]
  | cons c rest ih =>
    rw [List.flatMap_cons, List.append_assoc]
    rcases literalChar_cases c with ⟨e, hform, he⟩ | ⟨hform, hc⟩
    · rw [hform, List.cons_append, List.singleton_append, readLiteral, he, ih]
      rfl
    · have hplain : c ∉ ['\\', '"', '\n', '\r'] := fun h => hc (List.mem_append_left ['\t'] h)
      rw [hform, List.singleton_append, readLiteral_plain hplain, ih]
      rfl

/-- What is read comes from what is consumed, besides the quote. -/
theorem length_of_readLiteral {cs value after : List Char}
    (h : readLiteral cs = some (value, after)) : value.length + after.length < cs.length := by
  fun_induction readLiteral cs generalizing value with
  | case1 => cases h
  | case2 rest =>
    cases h
    simp
  | case3 e rest ih =>
    obtain ⟨c, -, hread⟩ := Option.bind_eq_some_iff.1 h
    obtain ⟨⟨value, after⟩, hrest, ⟨⟩⟩ := Option.map_eq_some_iff.1 hread
    have hshorter := ih hrest
    simp only [List.length_cons]
    omega
  | case4 => cases h
  | case5 c rest _ _ _ ih =>
    obtain ⟨⟨value, after⟩, hrest, ⟨⟩⟩ := Option.map_eq_some_iff.1 h
    have hshorter := ih hrest
    simp only [List.length_cons]
    omega

/-- A text that begins with a character that a literal cannot hold does not stand for itself. -/
theorem readLiteral_special_ne {c : Char} (h : c ∈ ['\\', '"', '\n', '\r'])
    (rest after : List Char) :
    readLiteral (c :: (rest ++ '"' :: after)) ≠ some (c :: rest, after) := by
  intro hread
  simp only [List.mem_cons, List.not_mem_nil, or_false] at h
  rcases h with rfl | rfl | rfl | rfl
  · -- The backslash takes the next character with it, so too little is left for the text.
    obtain ⟨e, tail, htail⟩ : ∃ e tail, rest ++ '"' :: after = e :: tail :=
      List.exists_cons_of_ne_nil (by simp)
    have hlength := congrArg List.length htail
    rw [htail, readLiteral] at hread
    obtain ⟨d, -, hmap⟩ := Option.bind_eq_some_iff.1 hread
    obtain ⟨⟨value, after⟩, hrest, ⟨⟩⟩ := Option.map_eq_some_iff.1 hmap
    have hshorter := length_of_readLiteral hrest
    simp only [List.length_append, List.length_cons] at hlength
    omega
  · cases hread
  · cases hread
  · cases hread

/-- A text without escapes stands for itself only if a literal can hold it as it is. -/
theorem readLiteral_raw_iff (cs after : List Char) :
    readLiteral (cs ++ '"' :: after) = some (cs, after) ↔ NeedsNoEscape cs := by
  induction cs with
  | nil => simp [readLiteral, NeedsNoEscape]
  | cons c rest ih =>
    rw [NeedsNoEscape, List.forall_mem_cons, ← NeedsNoEscape]
    by_cases hc : c ∈ ['\\', '"', '\n', '\r']
    · exact iff_of_false (readLiteral_special_ne hc rest after) fun h => h.1 hc
    · rw [List.cons_append, readLiteral_plain hc, ← ih]
      cases readLiteral (rest ++ '"' :: after) <;> simp [hc, Prod.ext_iff]

/-! ## Escapes one after the other -/

/-- Escapes of characters one after the other go by the single characters of the text. -/
theorem escapeInTurn_flatMap (escapes : List (Char × Char)) (cs : List Char)
    (form : Char → List Char) :
    escapeInTurn (cs.flatMap form) escapes = cs.flatMap fun c => escapeInTurn (form c) escapes := by
  induction escapes generalizing form with
  | nil => rfl
  | cons x rest ih =>
    obtain ⟨c, e⟩ := x
    have hstep : escapeAll (cs.flatMap form) c e = cs.flatMap fun d => escapeAll (form d) c e :=
      List.flatMap_assoc
    exact (congrArg (escapeInTurn · rest) hstep).trans (ih _)

/-- The backslash, which all escapes begin with, comes first, and so no escape is escaped again. -/
theorem escapeInTurn_singleton (c : Char) : escapeInTurn [c] escapes = literalChar c := by
  by_cases hspecial : c ∈ ['\\', '"', '\n', '\r', '\t']
  · simp only [List.mem_cons, List.not_mem_nil, or_false] at hspecial
    rcases hspecial with rfl | rfl | rfl | rfl | rfl
    all_goals rfl
  · simp only [List.mem_cons, List.not_mem_nil, or_false, not_or] at hspecial
    simp [escapeInTurn, escapes, escapeAll, literalChar, hspecial]

theorem literal_eq_escapeInTurn (s : String) :
    (literal s).toList = escapeInTurn s.toList escapes := by
  have hchars := escapeInTurn_flatMap escapes s.toList ([·])
  rw [List.flatMap_singleton'] at hchars
  rw [hchars, literal, String.toList_ofList]
  exact congrArg s.toList.flatMap (funext fun c => (escapeInTurn_singleton c).symm)

-- If the backslash came last, it would be escaped in the escapes too.
example : escapeInTurn ['\n'] escapes.reverse = ['\\', '\\', 'n'] := by decide

/-! ## Literals of texts -/

/-- The literal of a text has no end of a line and no tab. -/
theorem not_mem_literal (s : String) {c : Char} (h : c ∈ ['\n', '\r', '\t']) :
    c ∉ (literal s).toList := by
  rw [literal, String.toList_ofList, List.mem_flatMap]
  rintro ⟨d, -, hc⟩
  rcases literalChar_cases d with ⟨e, hform, he⟩ | ⟨hform, hd⟩
  · simp only [hform, List.mem_cons, List.not_mem_nil, or_false] at hc
    rcases hc with rfl | rfl
    · exact absurd h (by decide)
    · exact not_mem_of_escaped? he h
  · rw [hform, List.mem_singleton] at hc
    exact hd (List.mem_append_right ['\\', '"'] (hc ▸ h))

/-- The literal of a text gives the text back, whatever follows its quote. -/
theorem readLiteral_literal (s : String) (after : List Char) :
    readLiteral ((literal s).toList ++ '"' :: after) = some (s.toList, after) := by
  rw [literal, String.toList_ofList]
  exact readLiteral_append s.toList after

theorem literal_injective : Function.Injective literal := by
  intro s t h
  have hread := readLiteral_literal s []
  rw [h, readLiteral_literal, Option.some.injEq, Prod.mk.injEq] at hread
  exact String.toList_injective hread.1.symm

/-- A literal has no end of a line and no tab, and each quote and backslash of it belongs to an
escape; reading it gives its text back, and so no other text has the same literal. Its escapes may
be put in one character after the other. -/
theorem literal_lossless (s : String) :
    (literal s).toList = escapeInTurn s.toList escapes ∧
      (∀ c ∈ ['\n', '\r', '\t'], c ∉ (literal s).toList) ∧
      (∀ before after, (literal s).toList = before ++ '"' :: after → trailing before % 2 = 1) ∧
      (∀ before after, (literal s).toList = before ++ '\\' :: after →
        trailing before % 2 = 1 ∨ ∃ e rest, after = e :: rest ∧ (escaped? e).isSome = true) ∧
      (∀ after, readLiteral ((literal s).toList ++ '"' :: after) = some (s.toList, after)) ∧
      Function.Injective literal := by
  have hform : (literal s).toList = s.toList.flatMap literalChar := String.toList_ofList
  refine ⟨literal_eq_escapeInTurn s, fun _ => not_mem_literal s, fun before after h => ?_,
    fun before after h => ?_, readLiteral_literal s, literal_injective⟩
  · rcases escape_of_literal (hform.symm.trans h) (.inl rfl) with hodd | ⟨hbackslash, -⟩
    · exact hodd
    · exact absurd hbackslash (by decide)
  · exact (escape_of_literal (hform.symm.trans h) (.inr rfl)).imp_right And.right

end SchemaToSwift.Swift
