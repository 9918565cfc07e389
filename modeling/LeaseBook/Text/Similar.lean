/-!
How alike two texts are: the characters in the blocks that they share, where the longest common
block is taken first and the texts in front of it and behind it are compared in the same way. A
word that nothing is called is answered with the names that are most like it.
-/

namespace LeaseBook.Text

def commonStart : List Char → List Char → Nat
  | a :: as, b :: bs => if a = b then commonStart as bs + 1 else 0
  | _, _ => 0

/-- A block of `size` characters that two lists share, from the indices `left` and `right` on. -/
structure Block where
  left : Nat
  right : Nat
  size : Nat

/-- The longest block that two lists share. Of several the first in the first list counts, and of
those the first in the second list. -/
def longestBlock (a b : List Char) : Block :=
  (List.range a.length).foldl
    (fun best i =>
      (List.range b.length).foldl
        (fun best j =>
          let size := commonStart (a.drop i) (b.drop j)
          if best.size < size then ⟨i, j, size⟩ else best)
        best)
    ⟨0, 0, 0⟩

/-- How many characters the shared blocks have in all. Every block shortens what is left. -/
def sharedCount : Nat → List Char → List Char → Nat
  | 0, _, _ => 0
  | fuel + 1, a, b =>
    let block := longestBlock a b
    if block.size = 0 then 0
    else
      sharedCount fuel (a.take block.left) (b.take block.right) + block.size +
        sharedCount fuel (a.drop (block.left + block.size)) (b.drop (block.right + block.size))

/-- A name with how much of it and of a word is shared: `shared` characters of either, of `total`
in both. -/
structure Likeness where
  name : String
  shared : Nat
  total : Nat

def likeness (word name : String) : Likeness :=
  let a := name.toList
  let b := word.toList
  ⟨name, sharedCount a.length a b, a.length + b.length⟩

/-- Whether two lengths are so different that two texts of them cannot be similar. -/
def areFarApart (m n : Nat) : Bool := 10 * min m n < 3 * (m + n)

/-- Whether at least six tenths of the characters of a name and a word are shared. -/
def Likeness.isSimilar (l : Likeness) : Bool := 3 * l.total ≤ 10 * l.shared

/-- Whether a name is at least as like the word as another. Of two that are equally like it the
later one in the order of texts comes first. -/
def Likeness.precedes (l m : Likeness) : Bool :=
  let left := l.shared * m.total
  let right := m.shared * l.total
  right < left || (left == right && !decide (l.name < m.name))

/-- The names that are similar to a word, no more than the three that are most like it, in the order
of texts. -/
def closest (word : String) (names : List String) : List String :=
  let near := names.filter fun name => !areFarApart name.length word.length
  let found := (near.map (likeness word)).filter Likeness.isSimilar
  let best := ((found.mergeSort Likeness.precedes).take 3).map Likeness.name
  best.mergeSort fun s t => !decide (t < s)

end LeaseBook.Text
