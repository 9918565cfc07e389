import LeaseBook.Text.Blank
import LeaseBook.Text.Glyph
import LeaseBook.Text.Split

/-!
Breaking text into lines that fit a number of cells. A line is filled with words as long as they
fit, and blanks stay behind the word they follow. A word that fits on no line is folded over
several or cut off, as the writer of the text wishes.
-/

namespace LeaseBook.Text

/-- What becomes of text that is too long for a line: it goes on in the next one, or it ends in an
ellipsis. -/
inductive Overflow where
  | fold | ellipsis
  deriving DecidableEq, Repr

/-- The blanks at the front of a text, and its words with the blanks behind each. -/
def leadAndWords : List Char → List Char × List (List Char)
  | [] => ([], [])
  | c :: cs =>
    let (lead, found) := leadAndWords cs
    if isBlank c then (c :: lead, found)
    else
      match lead, found with
      | [], word :: rest => ([], (c :: word) :: rest)
      | lead, found => ([], (c :: lead) :: found)

def words (cs : List Char) : List (List Char) :=
  match leadAndWords cs with
  | (lead, word :: rest) => (lead ++ word) :: rest
  | (lead, []) => [lead]

theorem leadAndWords_flatten (cs : List Char) :
    (leadAndWords cs).1 ++ (leadAndWords cs).2.flatten = cs := by
  induction cs with
  | nil => rfl
  | cons c cs ih =>
    unfold leadAndWords
    rcases h : leadAndWords cs with ⟨lead, found⟩
    rw [h] at ih
    dsimp only at ih ⊢
    split
    · simpa using ih
    · split <;> simp_all

/-- No character of a text is lost between its words. -/
theorem flatten_words (cs : List Char) : (words cs).flatten = cs := by
  have h := leadAndWords_flatten cs
  unfold words
  split <;> simp_all

def extendFirst (cs : List Char) : List (List Char) → List (List Char)
  | [] => [cs]
  | piece :: pieces => (cs ++ piece) :: pieces

/-- Cuts a text into pieces of at most `width` cells. The first piece has `used` cells already. -/
def chop (width used : Nat) : List Glyph → List (List Char)
  | [] => [[]]
  | g :: gs =>
    if width < used + g.cells then [] :: extendFirst g.chars (chop width g.cells gs)
    else extendFirst g.chars (chop width (used + g.cells) gs)

/-- Fills lines with words. The first line has the words of `line`, which is empty only before the
first word, and `used` is what these take one by one. -/
def fill (overflow : Overflow) (width : Nat) (line : List Char) (used : Nat) :
    List (List Char) → List (List Char)
  | [] => [line]
  | word :: rest =>
    let bare := cellCount (dropEndWhile isBlank word)
    let above := if line.isEmpty then [] else [line]
    if used + bare ≤ width then fill overflow width (line ++ word) (used + cellCount word) rest
    else if width < bare ∧ overflow = .fold then
      let pieces := chop width 0 (glyphs word)
      let last := pieces.getLastD []
      above ++ pieces.dropLast ++ fill overflow width last (cellCount last) rest
    else above ++ fill overflow width word (cellCount word) rest

/-- The parts of a text between its tabs, each but the last with blanks up to the next eighth
column. A part is counted together with its first blank. -/
def spreadParts (column : Nat) : List (List Char) → List Char
  | [] => []
  | [part] => part
  | part :: rest =>
    let reached := column + cellCount (part ++ [' '])
    let gap := (8 - reached % 8) % 8
    part ++ List.replicate (gap + 1) ' ' ++ spreadParts (reached + gap) rest

def expandTabs (cs : List Char) : List Char := spreadParts 0 (splitAt '\t' cs)

/-- A line without the blanks at its end that stand beyond a number of characters. -/
def dropSurplus (width : Nat) (line : List Char) : List Char :=
  let blanks := line.length - (dropEndWhile isBlank line).length
  line.take (line.length - min blanks (line.length - width))

/-- The start of a text that fills a number of cells. Where half a glyph would be left over, there
is a blank. -/
def start (width : Nat) : List Glyph → List Char
  | [] => []
  | g :: gs =>
    if width = 0 then []
    else if g.cells ≤ width then g.chars ++ start (width - g.cells) gs
    else List.replicate width ' '

def shorten (overflow : Overflow) (width : Nat) (line : List Char) : List Char :=
  if cellCount line ≤ width then line
  else
    match overflow with
    | .fold => start width (glyphs line)
    | .ellipsis => start (width - 1) (glyphs line) ++ ['…']

def padEnd (width : Nat) (line : List Char) : List Char :=
  line ++ List.replicate (width - cellCount line) ' '

def wrap (overflow : Overflow) (width : Nat) (cs : List Char) : List (List Char) :=
  (splitAt '\n' cs).flatMap fun line =>
    (fill overflow width [] 0 (words (expandTabs line))).map (dropSurplus width)

end LeaseBook.Text
