/-!
Journal files that are set aside when they grow. The file in use takes lines until the next one
would make it too long; then it becomes the newest of a limited number of older files, and a new
one is begun.
-/

namespace LeaseBook

/-- A journal file with the older ones, the newest first. `limit` is the length at which a file is
set aside, none if it is not positive; `kept` is how many older files are kept. A sink loses what
is written to it, so it never becomes too long. -/
structure JournalFile where
  path : String
  isSink : Bool
  limit : Int
  kept : Nat
  current : String
  older : List String

namespace JournalFile

def fresh (path : String) (isSink : Bool) (limit : Int) (kept : Nat) : JournalFile :=
  ⟨path, isSink, limit, kept, "", []⟩

/-- Whether a line does not fit any more. The file counts in bytes, the line in characters. -/
def isFull (f : JournalFile) (line : String) : Bool :=
  0 < f.limit && f.limit ≤ f.current.utf8ByteSize + line.length

/-- Sets the file in use aside, even if it is empty. Where no older files are kept it stays in
use. -/
def rotate (f : JournalFile) : JournalFile :=
  if f.kept = 0 then f else { f with current := "", older := (f.current :: f.older).take f.kept }

/-- Writes a line, given without its line end. -/
def write (f : JournalFile) (text : String) : JournalFile :=
  if f.isSink then f
  else
    let line := text ++ "\n"
    let f := if f.isFull line then f.rotate else f
    { f with current := f.current ++ line }

/-- The paths and the contents of the files: the one in use, then the older ones, numbered from
the newest. -/
def contents (f : JournalFile) : List (String × String) :=
  (f.path, f.current) ::
    (f.older.zipIdx 1).map fun entry => (f.path ++ "." ++ toString entry.2, entry.1)

end JournalFile
end LeaseBook
