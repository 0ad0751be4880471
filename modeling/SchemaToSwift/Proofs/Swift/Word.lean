import SchemaToSwift.Proofs.Text.Case
import SchemaToSwift.Swift.Word

/-!
# Reserved words between backticks

Quoting the reserved words keeps bare identifiers apart (`quoteReserved_inj`) and makes each of them
a component that a type name may have (`isComponent_quoteReserved`). A prefix in front of a quoted
name is another matter: the result is a component only if the name was not quoted, and is no
reserved word itself (`isComponent_prefixed_iff`).
-/

namespace SchemaToSwift

namespace Swift

/-- A component of a type name: a bare identifier that is no reserved word, or a reserved word
between backticks. -/
def IsComponent (s : String) : Prop :=
  (isBare s = true ∧ s ∉ reservedWords) ∨ ∃ word ∈ reservedWords, s = backticked word
deriving Decidable

/-! ## Characters of bare identifiers -/

theorem isUpper_iff {c : Char} : c.isUpper = true ↔ 65 ≤ c.toNat ∧ c.toNat ≤ 90 :=
  decide_eq_true_iff

theorem isLower_iff {c : Char} : c.isLower = true ↔ 97 ≤ c.toNat ∧ c.toNat ≤ 122 :=
  Bool.and_eq_true_iff.trans (and_congr decide_eq_true_iff decide_eq_true_iff)

theorem isDigit_iff {c : Char} : c.isDigit = true ↔ 48 ≤ c.toNat ∧ c.toNat ≤ 57 :=
  Bool.and_eq_true_iff.trans (and_congr decide_eq_true_iff decide_eq_true_iff)

theorem isAlpha_iff {c : Char} : c.isAlpha = true ↔ c.isUpper = true ∨ c.isLower = true :=
  Bool.or_eq_true_iff

/-- A bare identifier begins with a letter or an underscore. -/
theorem startsBare_iff {c : Char} : startsBare c = true ↔ c.isAlpha = true ∨ c = '_' := by
  rw [startsBare, Bool.or_eq_true, beq_iff_eq]

/-- A bare character is one that starts an identifier, or a digit. -/
theorem isBareChar_iff {c : Char} :
    isBareChar c = true ↔ startsBare c = true ∨ c.isDigit = true := by
  have halphanum : c.isAlphanum = true ↔ c.isAlpha = true ∨ c.isDigit = true :=
    Bool.or_eq_true_iff
  rw [isBareChar, Bool.or_eq_true, beq_iff_eq, halphanum, startsBare_iff, or_right_comm]

/-- What can begin one can be in one. -/
theorem isBareChar_of_startsBare {c : Char} (h : startsBare c = true) : isBareChar c = true :=
  isBareChar_iff.2 (.inl h)

/-- A capital can begin one. -/
theorem startsBare_of_isUpper {c : Char} (h : c.isUpper = true) : startsBare c = true :=
  startsBare_iff.2 (.inl (isAlpha_iff.2 (.inl h)))

/-- All characters of one are ASCII. -/
theorem isAscii_of_isBareChar {c : Char} (h : isBareChar c = true) : Text.isAscii c = true := by
  rw [isBareChar_iff, startsBare_iff, isAlpha_iff, isUpper_iff, isLower_iff, isDigit_iff] at h
  rw [Text.isAscii, decide_eq_true_eq]
  rcases h with (h | rfl) | h
  · omega
  · decide
  · omega

/-- The upper-case form of a small letter is a capital. -/
theorem isUpper_toUpper {c : Char} (h : c.isLower = true) : c.toUpper.isUpper = true := by
  have hrange := isLower_iff.1 h
  have hval : 'a'.val ≤ c.val ∧ c.val ≤ 'z'.val := hrange
  -- the distance between the cases is negative, so it wraps around
  have hshift : ('A'.val - 'a'.val).toNat = 2 ^ 32 - 32 := by decide
  have hcode : c.toUpper.toNat = (c.toNat + (2 ^ 32 - 32)) % 2 ^ 32 := by
    delta Char.toUpper
    rw [dif_pos hval, ← Char.toNat_val, UInt32.toNat_add, hshift, Char.toNat_val]
  rw [isUpper_iff, hcode]
  omega

/-- Upper case keeps a character bare. -/
theorem isBareChar_toUpper {c : Char} (h : isBareChar c = true) : isBareChar c.toUpper = true := by
  by_cases hlower : c.isLower = true
  · exact isBareChar_of_startsBare (startsBare_of_isUpper (isUpper_toUpper hlower))
  · have hval : ¬ ('a'.val ≤ c.val ∧ c.val ≤ 'z'.val) := fun hval => hlower (isLower_iff.2 hval)
    have hsame : c.toUpper = c := dif_neg hval
    rwa [hsame]

/-- Bare characters make up an identifier exactly if the first one may start it. -/
theorem isBareChars_eq {cs : List Char} (h : ∀ c ∈ cs, isBareChar c = true) :
    isBareChars cs = cs.head?.any startsBare := by
  cases cs with
  | nil => rfl
  | cons c rest =>
    have hrest : rest.all isBareChar = true :=
      List.all_eq_true.2 fun d hd => h d (.tail _ hd)
    rw [isBareChars, hrest, Bool.and_true]
    rfl

section
variable {s : String} (h : isBare s = true)
include h

/-- A bare identifier begins with a letter or an underscore. -/
theorem exists_cons_of_isBare :
    ∃ c rest, s.toList = c :: rest ∧ startsBare c = true ∧ ∀ d ∈ rest, isBareChar d = true := by
  unfold isBare at h
  cases hs : s.toList with
  | nil => rw [hs] at h; cases h
  | cons c rest =>
    rw [hs, isBareChars, Bool.and_eq_true, List.all_eq_true] at h
    exact ⟨c, rest, rfl, h.1, h.2⟩

/-- All characters of a bare identifier are letters, digits and underscores. -/
theorem isBareChar_of_mem {c : Char} (hc : c ∈ s.toList) : isBareChar c = true := by
  obtain ⟨first, rest, hs, hfirst, hrest⟩ := exists_cons_of_isBare h
  rw [hs] at hc
  rcases List.mem_cons.1 hc with rfl | hc
  · exact isBareChar_of_startsBare hfirst
  · exact hrest c hc

/-- No other character is in it. -/
theorem not_mem_of_isBare {c : Char} (hc : isBareChar c = false) : c ∉ s.toList := by
  intro hmem
  rw [isBareChar_of_mem h hmem] at hc
  cases hc

/-- It has a character. -/
theorem ne_empty_of_isBare : s ≠ "" := by
  rintro rfl
  cases h

end

/-- Behind bare characters further ones make up an identifier exactly if the former do. -/
theorem isBare_append_iff {before s : String} (hne : before ≠ "")
    (hbefore : ∀ c ∈ before.toList, isBareChar c = true)
    (hs : ∀ c ∈ s.toList, isBareChar c = true) :
    isBare (before ++ s) = true ↔ isBare before = true := by
  have hall : ∀ c ∈ before.toList ++ s.toList, isBareChar c = true :=
    List.forall_mem_append.2 ⟨hbefore, hs⟩
  have hchars : before.toList ≠ [] := fun h => hne (String.toList_eq_nil_iff.1 h)
  rw [isBare, isBare, String.toList_append, isBareChars_eq hall, isBareChars_eq hbefore,
    List.head?_append, List.head?_eq_some_head hchars, Option.some_or]

/-! ## Quoting -/

/-- No reserved word has an underscore. -/
theorem underscore_not_mem_reservedWords : ∀ word ∈ reservedWords, '_' ∉ word.toList := by decide

theorem quoteReserved_of_mem {s : String} (h : s ∈ reservedWords) :
    quoteReserved s = backticked s := if_pos h

theorem quoteReserved_of_not_mem {s : String} (h : s ∉ reservedWords) :
    quoteReserved s = s := if_neg h

/-- Between backticks a text has one more character on either side. -/
theorem toList_backticked (s : String) :
    (backticked s).toList = '\x60' :: s.toList ++ ['\x60'] := by
  simp [backticked]

/-- Quoting leaves no name empty. -/
theorem quoteReserved_ne_empty {s : String} (h : isBare s = true) : quoteReserved s ≠ "" := by
  by_cases hs : s ∈ reservedWords
  · rw [quoteReserved_of_mem hs, ne_eq, ← String.toList_eq_nil_iff, toList_backticked]
    simp
  · rw [quoteReserved_of_not_mem hs]
    exact ne_empty_of_isBare h

/-- A quoted text of bare characters holds those and backticks only. -/
theorem not_mem_quoteReserved_of_chars {s : String} (h : ∀ c ∈ s.toList, isBareChar c = true)
    {c : Char} (hbare : isBareChar c = false) (hquote : c ≠ '\x60') :
    c ∉ (quoteReserved s).toList := by
  have hs : c ∉ s.toList := fun hc => by
    rw [h c hc] at hbare
    cases hbare
  by_cases hmem : s ∈ reservedWords
  · rw [quoteReserved_of_mem hmem, toList_backticked]
    simp [hs, hquote]
  · rwa [quoteReserved_of_not_mem hmem]

/-- It adds no characters but backticks. -/
theorem not_mem_quoteReserved {s : String} (h : isBare s = true) {c : Char}
    (hbare : isBareChar c = false) (hquote : c ≠ '\x60') : c ∉ (quoteReserved s).toList :=
  not_mem_quoteReserved_of_chars (fun _ hc => isBareChar_of_mem h hc) hbare hquote

/-- A bare identifier has no backtick, so it is not what another one is between backticks. -/
theorem ne_backticked {s word : String} (h : ∀ c ∈ s.toList, isBareChar c = true) :
    s ≠ backticked word := by
  rintro rfl
  have hquote := h '\x60' (by simp [toList_backticked])
  cases hquote

/-- Quoting keeps texts of bare characters apart. -/
theorem quoteReserved_inj_of_chars {s t : String} (hs : ∀ c ∈ s.toList, isBareChar c = true)
    (ht : ∀ c ∈ t.toList, isBareChar c = true) (h : quoteReserved s = quoteReserved t) : s = t := by
  by_cases hmem : s ∈ reservedWords <;> by_cases hmem' : t ∈ reservedWords
  · rw [quoteReserved_of_mem hmem, quoteReserved_of_mem hmem'] at h
    simpa [backticked] using h
  · rw [quoteReserved_of_mem hmem, quoteReserved_of_not_mem hmem'] at h
    exact absurd h.symm (ne_backticked ht)
  · rw [quoteReserved_of_not_mem hmem, quoteReserved_of_mem hmem'] at h
    exact absurd h (ne_backticked hs)
  · rwa [quoteReserved_of_not_mem hmem, quoteReserved_of_not_mem hmem'] at h

/-- It makes no two identifiers one. -/
theorem quoteReserved_inj {s t : String} (hs : isBare s = true) (ht : isBare t = true)
    (h : quoteReserved s = quoteReserved t) : s = t :=
  quoteReserved_inj_of_chars (fun _ hc => isBareChar_of_mem hs hc)
    (fun _ hc => isBareChar_of_mem ht hc) h

/-! ## Components -/

/-- A quoted identifier is a component. -/
theorem isComponent_quoteReserved {s : String} (h : isBare s = true) :
    IsComponent (quoteReserved s) := by
  by_cases hmem : s ∈ reservedWords
  · exact .inr ⟨s, hmem, quoteReserved_of_mem hmem⟩
  · rw [quoteReserved_of_not_mem hmem]
    exact .inl ⟨h, hmem⟩

/-- Behind bare characters a quoted identifier is part of a component only if the characters are an
identifier themselves, the name was not quoted, and the whole is no reserved word. -/
theorem isComponent_prefixed_iff {before name : String} (hne : before ≠ "")
    (hbefore : ∀ c ∈ before.toList, isBareChar c = true) (hname : isBare name = true) :
    IsComponent (before ++ quoteReserved name) ↔
      isBare before = true ∧ name ∉ reservedWords ∧ before ++ name ∉ reservedWords := by
  have hchars : ∀ c ∈ (before ++ name).toList, isBareChar c = true := by
    intro c hc
    rw [String.toList_append, List.mem_append] at hc
    exact hc.elim (hbefore c) (isBareChar_of_mem hname)
  by_cases hmem : name ∈ reservedWords
  · simp only [hmem, not_true_eq_false, false_and, and_false, iff_false]
    rw [quoteReserved_of_mem hmem]
    rintro (⟨hbare, -⟩ | ⟨word, -, heq⟩)
    · -- the backticks stand inside
      have hquote := isBareChar_of_mem hbare (c := '\x60') (by simp [toList_backticked])
      cases hquote
    · -- the first character is a backtick
      have hlist := congrArg String.toList heq
      cases hfirst : before.toList with
      | nil => exact hne (String.toList_eq_nil_iff.1 hfirst)
      | cons c rest =>
        rw [String.toList_append, hfirst, toList_backticked, toList_backticked, List.cons_append,
          List.cons_append] at hlist
        have hc := (List.cons.inj hlist).1
        have hquote := hbefore c (by simp [hfirst])
        rw [hc] at hquote
        cases hquote
  · rw [quoteReserved_of_not_mem hmem]
    simp only [hmem, not_false_eq_true, true_and]
    rw [← isBare_append_iff hne hbefore fun c hc => isBareChar_of_mem hname hc]
    constructor
    · rintro (h | ⟨word, -, heq⟩)
      · exact h
      · exact absurd heq (ne_backticked hchars)
    · exact .inl

end Swift

end SchemaToSwift
