import LeaseBook.Text.Blank
import LeaseBook.Text.Split

/-!
Markup: tags in brackets that style a text and are not shown themselves. A tag opens a style, or
closes one, and a text with a closing tag for which nothing is open is not shown at all. A backslash
in front of a tag makes it plain text. In plain text the name of a picture between colons stands for
the picture; the names that are known here are those that can turn up in a hardware address.
-/

namespace LeaseBook.Text

/-- A piece of a text: what is shown, or what stands between the brackets of a tag. -/
inductive Span where
  | plain (s : List Char)
  | tag (s : List Char)

def startsTag (c : Char) : Bool := ('a' ≤ c && c ≤ 'z') || c == '#' || c == '/' || c == '@'

def cutTag? : List Char → Option (List Char × List Char)
  | [] => none
  | c :: rest =>
    if startsTag c then
      match cutAt ']' (c :: rest) with
      | (tag, some rest) => some (tag, rest)
      | (_, none) => none
    else none

/-- The pieces of a text whose brackets stand behind `front` and behind each part of the list but
the last. Of the backslashes in front of a tag each two are shown as one, and an odd one makes the
tag plain. -/
def spans (front : List Char) : List (List Char) → List Span
  | [] => [.plain front]
  | part :: parts =>
    match cutTag? part with
    | none => spans (front ++ '[' :: part) parts
    | some (tag, rest) =>
      let slashes := (front.reverse.takeWhile (· == '\\')).length
      .plain (front.take (front.length - slashes)) :: .plain (List.replicate (slashes / 2) '\\') ::
        (if slashes % 2 = 1 then .plain ('[' :: tag ++ [']']) else .tag tag) :: spans rest parts

def unescape : List Char → List Char
  | '\\' :: '[' :: rest => '[' :: unescape rest
  | c :: rest => c :: unescape rest
  | [] => []

def shortStyles : List (String × String) :=
  [("b", "bold"), ("c", "conceal"), ("d", "dim"), ("i", "italic"), ("o", "overline"),
    ("r", "reverse"), ("s", "strike"), ("u", "underline"), ("uu", "underline2")]

def styleName (s : List Char) : String :=
  let name := String.ofList ((trimWhile isBlank s).map Char.toLower)
  (shortStyles.lookup name).getD name

/-- The pictures whose names are hexadecimal digits. -/
def pictures : List (String × String) :=
  [("100", "💯"), ("1234", "🔢"), ("a", "🅰"), ("ab", "🆎"), ("abc", "🔤"), ("abcd", "🔡"),
    ("b", "🅱"), ("bed", "🛏"), ("bee", "🐝"), ("cd", "💿")]

/-- The picture that a name stands for. A name has no blanks. -/
def picture? (name : List Char) : Option String :=
  pictures.lookup (String.ofList (name.map Char.toLower))

/-- The pieces of a text, each behind a colon, with pictures in the place of their names. The colon
behind a word does not stand in front of a name as well. -/
def showPictures : List (List Char) → List Char
  | [] => []
  | [last] => ':' :: last
  | name :: next :: rest =>
    match picture? name with
    | some shown => shown.toList ++ next ++ showPictures rest
    | none =>
      if name.any isBlank then ':' :: name ++ showPictures (next :: rest)
      else ':' :: name ++ ':' :: next ++ showPictures rest

def showPlain (s : List Char) : List Char :=
  match splitAt ':' (unescape s) with
  | [] => []
  | front :: parts => front ++ showPictures parts

/-- The styles that stay open behind a closing tag, the last that was opened first. Without a name
it closes that one. -/
def closeStyle? (s : List Char) (opened : List String) : Option (List String) :=
  if (trimWhile isBlank s).isEmpty then opened.tail?
  else if opened.contains (styleName s) then some (opened.erase (styleName s))
  else none

def showSpans (opened : List String) : List Span → Option (List Char)
  | [] => some []
  | .plain s :: rest => (showSpans opened rest).map (showPlain s ++ ·)
  | .tag s :: rest =>
    match (cutAt '=' s).1 with
    | '/' :: name => (closeStyle? name opened).bind fun opened => showSpans opened rest
    | name => showSpans (styleName name :: opened) rest

/-- What is shown of a text with markup, if its tags are right. -/
def shown? (s : String) : Option String :=
  match splitAt '[' s.toList with
  | [] => some s
  | front :: parts => (showSpans [] (spans front parts)).map String.ofList

theorem unescape_of_not_mem {cs : List Char} (unmarked : '[' ∉ cs) : unescape cs = cs := by
  induction cs with
  | nil => rfl
  | cons c cs ih =>
    rw [List.mem_cons, not_or] at unmarked
    unfold unescape
    split
    · simp_all
    · rename_i h
      cases h
      rw [ih unmarked.2]
    · rename_i h
      cases h

theorem showPictures_of_unnamed {parts : List (List Char)}
    (unnamed : ∀ part ∈ parts, picture? part = none) :
    showPictures parts = parts.flatMap (':' :: ·) := by
  induction parts using showPictures.induct with
  | case1 => rfl
  | case2 last => simp [showPictures]
  | case3 name next rest shown here => simp [unnamed] at here
  | case4 name next rest none blank ih =>
    simp only [List.forall_mem_cons] at unnamed
    simp [showPictures, none, blank, ih (by simpa using unnamed.2)]
  | case5 name next rest none word ih =>
    simp only [List.forall_mem_cons] at unnamed
    simp [showPictures, none, word, ih unnamed.2.2]

theorem showPlain_of_unnamed {s : List Char} (unmarked : '[' ∉ s)
    (unnamed : ∀ name ∈ (splitAt ':' s).tail, picture? name = none) : showPlain s = s := by
  unfold showPlain
  rw [unescape_of_not_mem unmarked]
  have whole := joinWith_splitAt ':' s
  cases parts : splitAt ':' s with
  | nil => exact absurd parts (splitAt_ne_nil ':' s)
  | cons front rest =>
    rw [parts, joinWith_cons] at whole
    rw [parts, List.tail_cons] at unnamed
    dsimp only
    rw [showPictures_of_unnamed unnamed, whole]

example : shown? "[bold]a\\[b][/b]\\\\[red]c[/] [1]" = some "a[b]\\c [1]" := by decide +kernel

example : shown? "a[/x]" = none := by decide +kernel

example : shown? "02:ab:02:ab:00" = some "02🆎02🆎00" := by decide +kernel

end LeaseBook.Text
