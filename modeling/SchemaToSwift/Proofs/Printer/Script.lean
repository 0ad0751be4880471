import SchemaToSwift.Printer.Step
import SchemaToSwift.Proofs.Printer.Pieces

/-!
# Runs of a printer

The script of printing steps says which texts they print and at which levels, without a printer. A
run prints its script (`runEach_eq`), and of the texts of a script `places` are the characters, each
with what stands before it and after it. `content_runEach` reads the content of every run off the
places: the margin of the level stands in front of a character where a line that is not blank goes
on at its start. Only line feeds start lines, and a text printed in two parts is the text printed in
one, but for the end of a blank line that is cut in two.
-/

namespace SchemaToSwift.Printer

/-! ## Scripts -/

/-- What steps print, the level at which they end, and whether all succeed. -/
structure Script where
  pieces : List Piece
  level : Nat
  ok : Bool
deriving DecidableEq, Repr

mutual

/-- The script of a step that begins at a level. -/
def Step.script (level : Nat) : Step → Script
  | .lines texts => ⟨(lineTexts texts).map (.mk level), level, true⟩
  | .texts texts => ⟨texts.map (.mk level), level, true⟩
  | .indentedLines texts => ⟨(lineTexts texts).map (.mk (level + 1)), level, true⟩
  | .indentedTexts texts => ⟨texts.map (.mk (level + 1)), level, true⟩
  | .indent => ⟨[], level + 1, true⟩
  | .outdent => ⟨[], level - 1, level != 0⟩
  | .block steps =>
    let body := scriptAll (level + 1) steps
    ⟨body.pieces, body.level - 1, body.ok && body.level != 0⟩

/-- The script of steps up to the first that fails. -/
def scriptAll (level : Nat) : List Step → Script
  | [] => ⟨[], level, true⟩
  | s :: rest =>
    let first := s.script level
    if first.ok then
      let next := scriptAll first.level rest
      ⟨first.pieces ++ next.pieces, next.level, next.ok⟩
    else first

end

/-- A run of steps: each is taken, also after one that failed. -/
def runEach (p : Printer) (steps : List Step) : Printer := steps.foldl (fun p s => (p.run s).1) p

/-- What a run prints that begins at a level. -/
def scriptEach (level : Nat) : List Step → List Piece
  | [] => []
  | s :: rest => (s.script level).pieces ++ scriptEach (s.script level).level rest

/-- The printer goes through a script. -/
def follow (p : Printer) (s : Script) : Printer × Bool := ((p.write s.pieces).atLevel s.level, s.ok)

/-- Going out at the outermost level fails and leaves the printer as it is. -/
theorem goOut_eq (p : Printer) : p.goOut = (p.atLevel (p.level - 1), p.level != 0) := by
  rcases p with ⟨unit, _ | level, pieces, atLineStart⟩ <;> rfl

/-- In an indented block the texts are pieces one level further in. -/
theorem indented_printTexts (p : Printer) (texts : List String) :
    p.indented (·.printTexts texts) = p.write (texts.map (.mk (p.level + 1))) := by
  have hindent : p.indent = p.atLevel (p.level + 1) := rfl
  rw [indented, printTexts_eq_write, hindent, write_atLevel, level_atLevel]
  exact atLevel_of_level (level_write p _)

mutual

/-- A step goes through its script. -/
theorem run_eq (p : Printer) : ∀ s : Step, p.run s = p.follow (s.script p.level)
  | .lines texts => by
    rw [run, printLines_eq_printTexts, printTexts_eq_write, Step.script, follow,
      atLevel_of_level (level_write p _)]
  | .texts texts => by
    rw [run, printTexts_eq_write, Step.script, follow, atLevel_of_level (level_write p _)]
  | .indentedLines texts => by
    have hlines : (fun q : Printer => q.printLines texts) = (·.printTexts (lineTexts texts)) :=
      funext fun q => printLines_eq_printTexts q texts
    rw [run, hlines, indented_printTexts, Step.script, follow, atLevel_of_level (level_write p _)]
  | .indentedTexts texts => by
    rw [run, indented_printTexts, Step.script, follow, atLevel_of_level (level_write p _)]
  | .indent => rfl
  | .outdent => by
    rw [run, goOut_eq]
    rfl
  | .block steps => by
    have hindent : p.indent = p.atLevel (p.level + 1) := rfl
    rw [run, runAll_eq p.indent steps, hindent, level_atLevel, follow, write_atLevel, Step.script]
    simp only [goOut_eq, level_atLevel, atLevel_atLevel]
    rfl

/-- Steps go through their script. -/
theorem runAll_eq (p : Printer) : ∀ steps, p.runAll steps = p.follow (scriptAll p.level steps)
  | [] => rfl
  | s :: rest => by
    rw [runAll, run_eq p s, scriptAll]
    rcases s.script p.level with ⟨xs, level, _ | _⟩
    · rfl
    · have hrest := runAll_eq ((p.write xs).atLevel level) rest
      rw [level_atLevel, follow, write_atLevel, atLevel_atLevel, ← write_append] at hrest
      exact hrest

end

/-- A run prints what its script says. -/
theorem runEach_eq (p : Printer) (steps : List Step) :
    ∃ level, p.runEach steps = (p.write (scriptEach p.level steps)).atLevel level := by
  induction steps generalizing p with
  | nil => exact ⟨p.level, (atLevel_of_level rfl).symm⟩
  | cons s rest ih =>
    obtain ⟨level, hlevel⟩ := ih (p.run s).1
    refine ⟨level, ?_⟩
    have hcons : p.runEach (s :: rest) = (p.run s).1.runEach rest := rfl
    rw [hcons, hlevel, run_eq, follow, scriptEach, level_atLevel, write_atLevel, atLevel_atLevel,
      write_append]

/-! ## Places -/

/-- A character of a printed text. -/
structure Place where
  /-- The level at which the text is printed. -/
  level : Nat
  /-- What has been printed, margins apart. -/
  before : List Char
  char : Char
  /-- What is left of the text. -/
  after : List Char
deriving DecidableEq, Repr

/-- A line starts after a text. -/
def StartsLine (cs : List Char) : Prop := cs = [] ∨ cs.getLast? = some '\n'

instance (cs : List Char) : Decidable (StartsLine cs) :=
  inferInstanceAs (Decidable (_ ∨ _))

/-- A text begins with the end of a line. -/
def BeginsWithLineFeed (cs : List Char) : Prop := ['\n'] <+: cs ∨ ['\r', '\n'] <+: cs

instance (cs : List Char) : Decidable (BeginsWithLineFeed cs) :=
  inferInstanceAs (Decidable (_ ∨ _))

/-- What is printed at a place: its character, with the margin of its level in front if a line
starts there that is not blank. -/
def Place.printed (unit : String) (x : Place) : List Char :=
  if StartsLine x.before ∧ ¬ BeginsWithLineFeed (x.char :: x.after) then
    (indentation unit x.level).toList ++ [x.char]
  else [x.char]

/-- The places of a text. -/
def placesOf (level : Nat) (before : List Char) : List Char → List Place
  | [] => []
  | c :: rest => ⟨level, before, c, rest⟩ :: placesOf level (before ++ [c]) rest

/-- The places of pieces. -/
def places (before : List Char) : List Piece → List Place
  | [] => []
  | x :: rest =>
    placesOf x.level before x.text.toList ++ places (before ++ x.text.toList) rest

theorem opensLine_eq_true {c : Char} {cs : List Char} :
    opensLine (c :: cs) = true ↔ ¬ BeginsWithLineFeed (c :: cs) := by
  rw [opensLine, BeginsWithLineFeed, ← List.isPrefixOf_iff_prefix, ← List.isPrefixOf_iff_prefix,
    List.isEmpty_cons, Bool.false_or, Bool.not_eq_true', Bool.or_eq_false_iff, not_or,
    Bool.not_eq_true, Bool.not_eq_true]

theorem startsAfter_eq_true {cs : List Char} : startsAfter true cs = true ↔ StartsLine cs := by
  rw [startsAfter_eq, StartsLine]
  cases hlast : cs.getLast? with
  | none => simpa using hlast
  | some c =>
    have hne : cs ≠ [] := by
      rintro rfl
      cases hlast
    simp [hne]

/-- A text is scanned place by place. -/
theorem scan_eq_places (unit : String) (level : Nat) (before cs : List Char) :
    scan (indentation unit level).toList (startsAfter true before) cs =
      (placesOf level before cs).flatMap (·.printed unit) := by
  induction cs generalizing before with
  | nil => rfl
  | cons c rest ih =>
    have hplace : (startsAfter true before && opensLine (c :: rest)) = true ↔
        StartsLine before ∧ ¬ BeginsWithLineFeed (c :: rest) := by
      rw [Bool.and_eq_true, startsAfter_eq_true, opensLine_eq_true]
    rw [scan, placesOf, List.flatMap_cons, ← ih, startsAfter_concat, Place.printed]
    simp only [hplace]
    split <;> simp

/-- Pieces are scanned place by place. -/
theorem scanAll_eq_places (unit : String) (before : List Char) (xs : List Piece) :
    scanAll unit (startsAfter true before) xs = (places before xs).flatMap (·.printed unit) := by
  induction xs generalizing before with
  | nil => rfl
  | cons x rest ih =>
    rw [scanAll, places, List.flatMap_append, ← ih, scan_eq_places, startsAfter_append]

/-- The characters of the places of a text are the text. -/
theorem map_char_placesOf (level : Nat) (before cs : List Char) :
    (placesOf level before cs).map Place.char = cs := by
  induction cs generalizing before with
  | nil => rfl
  | cons c rest ih => rw [placesOf, List.map_cons, ih]

/-- The places of pieces are the characters of their texts. -/
theorem map_char_places (before : List Char) (xs : List Piece) :
    (places before xs).map Place.char = chars xs := by
  induction xs generalizing before with
  | nil => rfl
  | cons x rest ih => rw [places, List.map_append, map_char_placesOf, ih, chars_cons]

/-- The end of a blank line is cut in two after a carriage return that is all of its line. -/
theorem cutsBlankLine_iff {before xs ys : List Char} :
    CutsBlankLine (startsAfter true before) xs ys ↔
      (∃ line, xs = line ++ ['\r'] ∧ StartsLine (before ++ line)) ∧ ['\n'] <+: ys := by
  have hhead : ys.head? = some '\n' ↔ ['\n'] <+: ys := by
    rw [List.head?_eq_some_iff]
    exact exists_congr fun rest => eq_comm
  simp only [CutsBlankLine, ← startsAfter_append, startsAfter_eq_true, hhead]
  constructor
  · rintro ⟨line, hline, hstart, hys⟩
    exact ⟨⟨line, hline, hstart⟩, hys⟩
  · rintro ⟨⟨line, hline, hstart⟩, hys⟩
    exact ⟨line, hline, hstart, hys⟩

/-- Only a line feed starts a line. -/
theorem Place.printed_of_ne {x : Place} {c : Char} (hc : x.before.getLast? = some c)
    (hfeed : c ≠ '\n') (unit : String) : x.printed unit = [x.char] := by
  rw [Place.printed, if_neg]
  rintro ⟨hempty | hlast, -⟩
  · rw [hempty] at hc
    cases hc
  · exact hfeed (Option.some.inj (hc.symm.trans hlast))

/-! ## What a run prints -/

/-- The content of a run is what is printed at the places of its script, in order. A place right
after another separator than a line feed has no margin. The printer is empty if its content is.
Two texts are printed like one, unless there is a margin, the first ends with a carriage return
that is all of its line and the second begins with a line feed. -/
theorem content_runEach (unit : String) (steps : List Step) :
    let p := (new unit).runEach steps
    let run := places [] (scriptEach 0 steps)
    p.content.toList = run.flatMap (·.printed unit) ∧
    run.map Place.char = (scriptEach 0 steps).flatMap (·.text.toList) ∧
    (∀ x ∈ run, ∀ c ∈ x.before.getLast?, Text.isLineEnd c = true → c ≠ '\n' →
      x.printed unit = [x.char]) ∧
    (p.isEmpty = true ↔ p.content = "") ∧
    ∀ a b : String,
      (p.printTexts [a, b]).content = (p.printTexts [a ++ b]).content ↔
        ¬ (indentation unit p.level ≠ "" ∧
          (∃ line, a.toList = line ++ ['\r'] ∧ StartsLine (p.content.toList ++ line)) ∧
          ['\n'] <+: b.toList) := by
  intro p run
  obtain ⟨level, hp⟩ : ∃ level, p = ((new unit).write (scriptEach 0 steps)).atLevel level :=
    runEach_eq (new unit) steps
  have hcontent : p.content.toList = scanAll unit true (scriptEach 0 steps) := by
    rw [hp]
    exact content_write (new unit) (scriptEach 0 steps)
  have hstart : p.atLineStart = startsAfter true p.content.toList := by
    rw [hcontent, startsAfter_scanAll, hp]
    exact atLineStart_write (new unit) (scriptEach 0 steps)
  have hunit : p.unit = unit := by
    rw [hp]
    exact unit_write (new unit) (scriptEach 0 steps)
  refine ⟨?content, map_char_places [] _, fun x _ c hc _ hfeed => x.printed_of_ne hc hfeed unit,
    ?empty, ?parts⟩
  case content => rw [hcontent, ← scanAll_eq_places]; rfl
  case empty =>
    have hwrite : p.isEmpty = (chars (scriptEach 0 steps)).isEmpty := by
      rw [hp]
      exact isEmpty_write (new unit) (scriptEach 0 steps)
    rw [hwrite, List.isEmpty_iff, ← scanAll_eq_nil, ← hcontent, String.toList_eq_nil_iff]
  case parts =>
    intro a b
    have hmargin : p.margin ≠ [] ↔ indentation unit p.level ≠ "" := by
      rw [margin, hunit, ne_eq, String.toList_eq_nil_iff]
    rw [← hmargin, ← cutsBlankLine_iff, ← hstart]
    exact content_add_add_eq_iff p a b

end SchemaToSwift.Printer
