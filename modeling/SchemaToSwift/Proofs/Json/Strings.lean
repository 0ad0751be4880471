import SchemaToSwift.Json.Parser
import SchemaToSwift.Json.Writer
import SchemaToSwift.Proofs.Text.Point

/-!
# Strings of a document

A string is written with escapes of UTF-16 code units and read back code point by code point. The
reader joins the escape of a first half with that of a second half behind it, so it finds the code
points that were written where no pair stands in its two halves (`stringRest_string`).
-/

namespace SchemaToSwift.Json

namespace Parser

open Text (Point)

/-! ## Escapes of code units -/

/-- The value of a hexadecimal digit is the digit. -/
theorem hexValue?_digitChar : ∀ d < 16, hexValue? (Nat.digitChar d) = some d := by decide

/-- The digits of a code unit are read as the unit. -/
theorem hex4?_hexDigits {n : Nat} (h : n < 0x10000) (rest : List Char) :
    hex4? (Text.hexDigits 4 n ++ rest) = some (n, rest) := by
  have hdigits : Text.hexDigits 4 n = [Nat.digitChar (n / 16 / 16 / 16 % 16),
      Nat.digitChar (n / 16 / 16 % 16), Nat.digitChar (n / 16 % 16), Nat.digitChar (n % 16)] := rfl
  have hvalue (k : Nat) : hexValue? (Nat.digitChar (k % 16)) = some (k % 16) :=
    hexValue?_digitChar _ (Nat.mod_lt _ (by decide))
  have hn : ((n / 16 / 16 / 16 % 16 * 16 + n / 16 / 16 % 16) * 16 + n / 16 % 16) * 16 + n % 16 =
      n := by omega
  simp [hdigits, hex4?, hvalue, hn]

/-- The input does not begin with the escape of a second half. -/
def NoLowAhead (cs : List Char) : Prop :=
  ∀ after, cs = '\\' :: 'u' :: after → ∀ low rest, hex4? after = some (low, rest) →
    ¬ (0xdc00 ≤ low ∧ low < 0xe000)

/-- A first half without a second half behind it stands alone, and so does any other unit. -/
theorem unitPoint_alone {unit : Nat} {rest : List Char}
    (h : 0xd800 ≤ unit ∧ unit < 0xdc00 → NoLowAhead rest) :
    unitPoint unit rest = (Point.ofUnit unit, rest) := by
  unfold unitPoint
  split
  · next hhigh =>
    split
    · next after =>
      split
      · next low after' hlow =>
        rw [if_neg (h hhigh _ rfl _ _ hlow)]
      · rfl
    · rfl
  · rfl

/-- The escapes of two halves are read as one character. -/
theorem unitPoint_pair {high low : Nat} (hhigh : 0xd800 ≤ high ∧ high < 0xdc00)
    (hlow : 0xdc00 ≤ low ∧ low < 0xe000) (rest : List Char) :
    unitPoint high (Writer.unitEscape low ++ rest) =
      (.char (Char.ofNat (0x10000 + (high - 0xd800) * 1024 + (low - 0xdc00))), rest) := by
  have hhex := hex4?_hexDigits (show low < 0x10000 by omega) rest
  simp only [unitPoint, if_pos hhigh, Writer.unitEscape, List.cons_append, hhex, if_pos hlow]

/-- The unit of a half is read as the half. -/
theorem ofUnit_half (offset : Fin 2048) : Point.ofUnit (0xd800 + offset) = .half offset := by
  have h := offset.isLt
  have hunit : Text.firstHalf ≤ 0xd800 + offset.val ∧
      0xd800 + offset.val < Text.firstHalf + 2048 := by
    simp only [Text.firstHalf]
    omega
  rw [Point.ofUnit, dif_pos hunit]
  simp [Text.firstHalf]

/-- The unit of a character is read as the character. -/
theorem ofUnit_char {c : Char} (h : c.toNat < 0x10000) : Point.ofUnit c.toNat = .char c := by
  have hc := Text.toNat_ne_half c
  have hunit : ¬ (Text.firstHalf ≤ c.toNat ∧ c.toNat < Text.firstHalf + 2048) := by
    simp only [Text.firstHalf]
    omega
  rw [Point.ofUnit, dif_neg hunit, Char.ofNat_toNat]

/-! ## Code points -/

/-- How a character is written: by a letter, as it is, by its unit, or by two halves. -/
inductive Escape (c : Char) : List Char → Prop
  | letter (e : Char) (hu : e ≠ 'u') (he : escaped? e = some c) : Escape c ['\\', e]
  | plain (hquote : c ≠ '"') (hslash : c ≠ '\\') (h : 32 ≤ c.toNat) (hlt : c.toNat < 127) :
    Escape c [c]
  | unit (h : c.toNat < 0x10000) : Escape c (Writer.unitEscape c.toNat)
  | pair (h : 0x10000 ≤ c.toNat) :
    Escape c (Writer.unitEscape (0xd800 + (c.toNat - 0x10000) / 1024) ++
      Writer.unitEscape (0xdc00 + (c.toNat - 0x10000) % 1024))

theorem escape_escapeChar (c : Char) : Escape c (Writer.escapeChar c) := by
  unfold Writer.escapeChar
  have hcode (n : Nat) (d : Char) (hd : d.toNat = n) (h : (c.toNat == n) = true) : d = c := by
    rw [beq_iff_eq, ← hd] at h
    exact (Char.toNat_inj.1 h).symm
  dsimp only
  split
  · next h =>
    rw [Bool.or_eq_true, beq_iff_eq, beq_iff_eq] at h
    rcases h with rfl | rfl
    · exact .letter '"' (by decide) rfl
    · exact .letter '\\' (by decide) rfl
  next hspecial =>
  simp only [Bool.or_eq_true, beq_iff_eq, not_or] at hspecial
  split
  · next h => exact .letter 'n' (by decide) (by rw [beq_iff_eq.1 h]; rfl)
  split
  · next h => exact .letter 'r' (by decide) (by rw [beq_iff_eq.1 h]; rfl)
  split
  · next h => exact .letter 't' (by decide) (by rw [beq_iff_eq.1 h]; rfl)
  split
  · next h => exact .letter 'b' (by decide) (congrArg some (hcode 8 '\x08' rfl h))
  split
  · next h => exact .letter 'f' (by decide) (congrArg some (hcode 12 '\x0c' rfl h))
  split
  · next h =>
    rw [Bool.and_eq_true, decide_eq_true_eq, decide_eq_true_eq] at h
    exact .plain hspecial.1 hspecial.2 h.1 h.2
  split
  · next h => exact .unit h
  · next h => exact .pair (by omega)

/-- The escape of a code unit that is no second half does not begin like one. -/
theorem noLowAhead_unitEscape {unit : Nat} (h : unit < 0x10000)
    (hlow : ¬ (0xdc00 ≤ unit ∧ unit < 0xe000)) (rest : List Char) :
    NoLowAhead (Writer.unitEscape unit ++ rest) := by
  intro after hafter low rest' hhex
  rw [Writer.unitEscape, List.cons_append, List.cons_append, List.cons.injEq,
    List.cons.injEq] at hafter
  rw [← hafter.2.2, hex4?_hexDigits h, Option.some.injEq, Prod.mk.injEq] at hhex
  rwa [← hhex.1]

/-- The escape of a code point does not begin like a second half, unless it is one. -/
theorem noLowAhead_escapePoint {p : Point} (h : p.isLow = false) (rest : List Char) :
    NoLowAhead (Writer.escapePoint p ++ rest) := by
  cases p with
  | half offset =>
    have hlow : offset.val < 1024 := by simpa [Point.isLow] using h
    refine noLowAhead_unitEscape ?_ ?_ rest
    · simp only [Point.code, Text.firstHalf]
      omega
    · simp only [Point.code, Text.firstHalf]
      omega
  | char c =>
    have hhalf := Text.toNat_ne_half c
    have hmax : c.toNat < 0x110000 := Text.toNat_lt c
    have hescape := escape_escapeChar c
    rw [Writer.escapePoint]
    generalize Writer.escapeChar c = written at hescape ⊢
    cases hescape with
    | letter e hu he =>
      intro after hafter
      obtain ⟨rfl, -⟩ : e = 'u' ∧ rest = after := by simpa using hafter
      exact absurd rfl hu
    | plain hquote hslash _ _ =>
      intro after hafter
      exact absurd (List.cons.inj hafter).1 hslash
    | unit hunit => exact noLowAhead_unitEscape hunit (by omega) rest
    | pair hpair =>
      rw [List.append_assoc]
      exact noLowAhead_unitEscape (by omega) (by omega) _

/-- The reader takes the escape of a unit, joined with the second half that may follow it. -/
theorem stringRest_unitEscape {unit : Nat} (h : unit < 0x10000) (fuel : Nat)
    (done rest : List Char) :
    stringRest (fuel + 1) done (Writer.unitEscape unit ++ rest) =
      stringRest fuel ((unitPoint unit rest).1.chars.reverse ++ done) (unitPoint unit rest).2 := by
  simp [stringRest, Writer.unitEscape, hex4?_hexDigits h]

/-- One step of the reader takes one code point. -/
theorem stringRest_escapePoint {p : Point} {rest : List Char}
    (h : p.isHigh = true → NoLowAhead rest) (fuel : Nat) (done : List Char) :
    stringRest (fuel + 1) done (Writer.escapePoint p ++ rest) =
      stringRest fuel (p.chars.reverse ++ done) rest := by
  cases p with
  | half offset =>
    have hcode : (Point.half offset).code < 0x10000 := by
      have hlt := offset.isLt
      simp only [Point.code, Text.firstHalf]
      omega
    have halone : unitPoint (Point.half offset).code rest = (.half offset, rest) := by
      rw [unitPoint_alone fun hhigh => h ?_]
      · rw [Point.code, Text.firstHalf, ofUnit_half]
      · simp only [Point.code, Text.firstHalf] at hhigh
        simp only [Point.isHigh, decide_eq_true_eq]
        omega
    rw [Writer.escapePoint, stringRest_unitEscape hcode, halone]
    simp
  | char c =>
    have hhalf := Text.toNat_ne_half c
    have hmax : c.toNat < 0x110000 := Text.toNat_lt c
    have hself (hc : c.toNat < 0x10000) : (Point.char c).chars = [c] := by
      have hne : c ≠ Text.mark := by
        rintro rfl
        exact absurd hc (by decide)
      rw [Point.chars, if_neg hne]
    have hescape := escape_escapeChar c
    rw [Writer.escapePoint]
    generalize Writer.escapeChar c = written at hescape ⊢
    cases hescape with
    | letter e hu he =>
      have hc : c.toNat < 0x10000 := by
        unfold escaped? at he
        split at he <;> cases he <;> decide
      rw [hself hc]
      simp only [List.cons_append, List.nil_append, List.reverse_singleton, stringRest]
      rw [if_neg (by decide), if_pos (by decide)]
      rw [he]
    | plain hquote hslash hge hlt =>
      rw [hself (by omega)]
      simp [stringRest, hquote, hslash, Nat.not_lt.2 hge]
    | unit hunit =>
      rw [stringRest_unitEscape hunit, unitPoint_alone (by omega), ofUnit_char hunit]
    | pair hpair =>
      rw [List.append_assoc, stringRest_unitEscape (by omega),
        unitPoint_pair (by omega) (by omega)]
      have hchar : Char.ofNat (0x10000 + (0xd800 + (c.toNat - 0x10000) / 1024 - 0xd800) * 1024 +
          (0xdc00 + (c.toNat - 0x10000) % 1024 - 0xdc00)) = c := by
        have hn : 0x10000 + (0xd800 + (c.toNat - 0x10000) / 1024 - 0xd800) * 1024 +
            (0xdc00 + (c.toNat - 0x10000) % 1024 - 0xdc00) = c.toNat := by omega
        rw [hn, Char.ofNat_toNat]
      rw [hchar]

/-- A string is read back as the code points that are written, if they are joined. -/
theorem stringRest_points {fuel : Nat} {ps : List Point} (hjoined : Text.Joined ps)
    (hfuel : ps.length < fuel) (done rest : List Char) :
    stringRest fuel done (ps.flatMap Writer.escapePoint ++ '"' :: rest) =
      .ok (String.ofList (done.reverse ++ ps.flatMap Point.chars), rest) := by
  induction ps generalizing fuel done with
  | nil =>
    obtain ⟨n, rfl⟩ := Nat.exists_eq_succ_of_ne_zero (show fuel ≠ 0 by omega)
    simp [stringRest]
  | cons p ps ih =>
    obtain ⟨n, rfl⟩ := Nat.exists_eq_succ_of_ne_zero (show fuel ≠ 0 by omega)
    rw [Text.Joined, List.isChain_cons] at hjoined
    obtain ⟨hnext, hrest⟩ := hjoined
    have hahead : p.isHigh = true →
        NoLowAhead (ps.flatMap Writer.escapePoint ++ '"' :: rest) := by
      intro hhigh
      cases ps with
      | nil =>
        intro after hafter
        cases hafter
      | cons q qs =>
        have hlow : q.isLow = false := by
          simpa [hhigh] using hnext q rfl
        rw [List.flatMap_cons, List.append_assoc]
        exact noLowAhead_escapePoint hlow _
    rw [List.flatMap_cons, List.append_assoc, stringRest_escapePoint hahead,
      ih hrest (by simpa using hfuel)]
    simp

/-- No code point is written as nothing. -/
theorem escapePoint_ne_nil (p : Point) : Writer.escapePoint p ≠ [] := by
  cases p with
  | half offset => simp [Writer.escapePoint, Writer.unitEscape]
  | char c =>
    have hescape := escape_escapeChar c
    rw [Writer.escapePoint]
    generalize Writer.escapeChar c = written at hescape ⊢
    cases hescape <;> simp [Writer.unitEscape]

/-- The writing of code points is not shorter than they are. -/
theorem length_le_escapes (ps : List Point) :
    ps.length ≤ (ps.flatMap Writer.escapePoint).length := by
  induction ps with
  | nil => simp
  | cons p ps ih =>
    have hp := List.length_pos_of_ne_nil (escapePoint_ne_nil p)
    rw [List.flatMap_cons, List.length_append, List.length_cons]
    omega

/-- A string that a document can hold is read back. -/
theorem stringRest_string {s : String} (hs : Text.WellFormed s) {fuel : Nat} (rest : List Char)
    (hfuel : (Writer.string s).toList.length ≤ fuel) :
    ∃ tail, (Writer.string s).toList ++ rest = '"' :: tail ∧
      stringRest fuel [] tail = .ok (s, rest) := by
  have hwritten : (Writer.string s).toList =
      '"' :: (Text.points s.toList).flatMap Writer.escapePoint ++ ['"'] := by
    rw [Writer.string, String.toList_ofList]
  have hlength := length_le_escapes (Text.points s.toList)
  rw [hwritten, List.length_append, List.length_cons, List.length_singleton] at hfuel
  refine ⟨(Text.points s.toList).flatMap Writer.escapePoint ++ '"' :: rest, ?_, ?_⟩
  · rw [hwritten]
    simp
  · rw [stringRest_points hs.joined (by omega)]
    have htext := hs.canonical.ofPoints_points
    rw [Text.ofPoints] at htext
    simpa using htext

/-! ## ASCII -/

/-- Nothing but ASCII. -/
def Ascii (cs : List Char) : Prop := ∀ c ∈ cs, c.toNat < 128

theorem Ascii.append {xs ys : List Char} (hxs : Ascii xs) (hys : Ascii ys) : Ascii (xs ++ ys) := by
  intro c hc
  exact (List.mem_append.1 hc).elim (hxs c) (hys c)

theorem Ascii.cons {c : Char} {cs : List Char} (hc : c.toNat < 128) (hcs : Ascii cs) :
    Ascii (c :: cs) := by
  intro d hd
  rcases List.mem_cons.1 hd with rfl | hd
  · exact hc
  · exact hcs d hd

theorem ascii_nil : Ascii [] := fun _ hc => nomatch hc

theorem ascii_hexDigits (width n : Nat) : Ascii (Text.hexDigits width n) := by
  induction width generalizing n with
  | zero => exact ascii_nil
  | succ width ih =>
    have hdigit : ∀ d < 16, (Nat.digitChar d).toNat < 128 := by decide
    exact (ih _).append (.cons (hdigit _ (Nat.mod_lt _ (by decide))) ascii_nil)

theorem ascii_unitEscape (unit : Nat) : Ascii (Writer.unitEscape unit) :=
  .cons (by decide) (.cons (by decide) (ascii_hexDigits 4 unit))

/-- Code points are written in ASCII. -/
theorem ascii_escapePoint (p : Point) : Ascii (Writer.escapePoint p) := by
  cases p with
  | half offset => exact ascii_unitEscape _
  | char c =>
    have hescape := escape_escapeChar c
    rw [Writer.escapePoint]
    generalize Writer.escapeChar c = written at hescape ⊢
    cases hescape with
    | letter e _ he =>
      have hletter : e.toNat < 128 := by
        unfold escaped? at he
        split at he <;> first | decide | cases he
      exact .cons (by decide) (.cons hletter ascii_nil)
    | plain _ _ _ hlt => exact .cons (by omega) ascii_nil
    | unit _ => exact ascii_unitEscape _
    | pair _ => exact (ascii_unitEscape _).append (ascii_unitEscape _)

/-- A string is written in ASCII. -/
theorem ascii_string (s : String) : Ascii (Writer.string s).toList := by
  rw [Writer.string, String.toList_ofList]
  refine .append (.cons (by decide) fun c hc => ?_) (.cons (by decide) ascii_nil)
  obtain ⟨p, -, hp⟩ := List.mem_flatMap.1 hc
  exact ascii_escapePoint p c hp

end Parser

end SchemaToSwift.Json
