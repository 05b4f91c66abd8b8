/-!
# Paths

Paths to files as names between slashes. Empty names and single points on the way say nothing and are left
out.
-/

namespace Linework.Text

/-- A path. -/
structure Path where
  /-- What the path begins with: nothing, or the slashes of an absolute path. -/
  root : String
  names : List String
deriving DecidableEq

namespace Path

/-- The path that a text stands for. Two slashes at the front, but not more, are kept. -/
def ofText (text : String) : Path :=
  let slashes := (text.toList.takeWhile (· == '/')).length
  let root := if slashes == 0 then "" else if slashes == 2 then "//" else "/"
  ⟨root, (text.splitOn "/").filter fun name => !name.isEmpty && name != "."⟩

/-- A path as text; the one that leads nowhere is a point. -/
def toText (path : Path) : String :=
  let text := path.root ++ "/".intercalate path.names
  if text.isEmpty then "." else text

/-- The last name of a path. -/
def name (path : Path) : String :=
  path.names.getLast?.getD ""

/-- The last name from its last point on. A point at the front or at the end of a name does not count. -/
def suffix (path : Path) : String :=
  let reversed := path.name.toList.reverse
  let tail := reversed.takeWhile (· != '.')
  let before := reversed.drop (tail.length + 1)
  if tail.isEmpty || before.isEmpty then "" else "." ++ String.ofList tail.reverse

end Path

end Linework.Text
