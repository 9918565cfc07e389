import LeaseBook.Text.Split

/-!
Paths of files: names between slashes. Empty names and the name `.` stand for nothing, so a path
has one shortest text.
-/

namespace LeaseBook.Text

def pathNames (path : String) : List String :=
  ((splitAt '/' path.toList).map String.ofList).filter fun name => name != "" && name != "."

/-- What an absolute path starts with: one slash, or exactly two. -/
def pathRoot (path : String) : String :=
  let slashes := (path.toList.takeWhile (· == '/')).length
  if slashes = 0 then "" else if slashes = 2 then "//" else "/"

def joinPath (root : String) (names : List String) : String :=
  let text := root ++ String.intercalate "/" names
  if text.isEmpty then "." else text

def cleanPath (path : String) : String := joinPath (pathRoot path) (pathNames path)

def pathName (path : String) : String := (pathNames path).getLastD ""

end LeaseBook.Text
