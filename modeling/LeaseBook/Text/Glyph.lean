import LeaseBook.Text.Cell

/-!
The glyphs of a text: what is drawn in one place and can only be kept or dropped as a whole. A
glyph is a character that takes cells with all behind it that takes none of its own. Together the
glyphs are the text, and unless a joiner leads it, they take as many cells as it does.
-/

namespace LeaseBook.Text

/-- Characters that are drawn in one place, and the cells that they take. -/
structure Glyph where
  chars : List Char
  cells : Nat
  deriving DecidableEq, Repr

namespace Glyph

def cons (c : Char) (more : Nat) (g : Glyph) : Glyph := ⟨c :: g.chars, more + g.cells⟩

end Glyph

/-- What still belongs to the glyph in front of a text, and the glyphs behind that. `last` is the
character that a selector would widen, and `isJoined` says whether a joiner ends the glyph so
far. -/
def glyphsBehind (last : Option Char) (isJoined : Bool) : List Char → Glyph × List Glyph
  | [] => (⟨[], 0⟩, [])
  | c :: cs =>
    if isJoined then
      let (g, behind) := glyphsBehind last false cs
      (g.cons c 0, behind)
    else if c = joiner then
      let (g, behind) := glyphsBehind last true cs
      (g.cons c 0, behind)
    else if c = pictureSelector then
      let (g, behind) := glyphsBehind none false cs
      (g.cons c (widening last), behind)
    else if cells c = 0 then
      let (g, behind) := glyphsBehind last false cs
      (g.cons c 0, behind)
    else
      let (g, behind) := glyphsBehind (some c) false cs
      (⟨[], 0⟩, g.cons c (cells c) :: behind)

/-- The glyphs of a text. The first of them has what takes no cell at the front of the text, where
a joiner finds nothing to join. -/
def glyphs : List Char → List Glyph
  | [] => []
  | c :: cs =>
    let (g, behind) := glyphsBehind (if cells c = 0 then none else some c) false cs
    g.cons c (cells c) :: behind

def totalCells : List Glyph → Nat
  | [] => 0
  | g :: gs => g.cells + totalCells gs

theorem glyphsBehind_chars (last : Option Char) (isJoined : Bool) (cs : List Char) :
    (glyphsBehind last isJoined cs).1.chars ++
      (glyphsBehind last isJoined cs).2.flatMap Glyph.chars = cs := by
  induction cs generalizing last isJoined with
  | nil => rfl
  | cons c cs ih =>
    unfold glyphsBehind
    dsimp only
    repeat' split
    all_goals simp [Glyph.cons, ih]

/-- No character of a text is lost between its glyphs. -/
theorem flatMap_chars_glyphs (cs : List Char) : (glyphs cs).flatMap Glyph.chars = cs := by
  cases cs with
  | nil => rfl
  | cons c cs => simp [glyphs, Glyph.cons, glyphsBehind_chars]

theorem count_foldl_add (t : CellTally) (cs : List Char) :
    (cs.foldl CellTally.add t).count =
      t.count + (glyphsBehind t.last t.isJoined cs).1.cells +
        totalCells (glyphsBehind t.last t.isJoined cs).2 := by
  induction cs generalizing t with
  | nil => simp [glyphsBehind, totalCells]
  | cons c cs ih =>
    rw [List.foldl_cons, ih]
    by_cases hj : t.isJoined
    · simp [CellTally.add, glyphsBehind, Glyph.cons, hj]
    by_cases hz : c = joiner
    · simp [CellTally.add, glyphsBehind, Glyph.cons, hj, hz]
    by_cases hs : c = pictureSelector
    · subst hs
      simp [CellTally.add, glyphsBehind, Glyph.cons, hj, hz, Nat.add_assoc]
    by_cases h0 : cells c = 0
    · simp [CellTally.add, glyphsBehind, Glyph.cons, hj, hz, hs, h0]
    · simp [CellTally.add, glyphsBehind, Glyph.cons, totalCells, hj, hz, hs, h0, Nat.add_assoc]

theorem cells_pictureSelector : cells pictureSelector = 0 := by decide +kernel

/-- The glyphs of a text take as many cells as the text, unless a joiner leads it. -/
theorem cellCount_eq_totalCells (cs : List Char) (h : cs.head? ≠ some joiner) :
    cellCount cs = totalCells (glyphs cs) := by
  cases cs with
  | nil => rfl
  | cons c cs =>
    have hc : c ≠ joiner := by simpa using h
    unfold cellCount
    rw [List.foldl_cons, count_foldl_add]
    by_cases hs : c = pictureSelector
    · subst hs
      simp [CellTally.add, CellTally.start, hc, glyphs, Glyph.cons, totalCells,
        cells_pictureSelector, widening]
    · by_cases h0 : cells c = 0 <;>
        simp [CellTally.add, CellTally.start, hc, hs, h0, glyphs, Glyph.cons, totalCells,
          Nat.add_assoc]

end LeaseBook.Text
