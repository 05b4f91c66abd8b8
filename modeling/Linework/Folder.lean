import Linework.Assoc
import Linework.Fault
import Linework.Text.LineEnd
import Linework.Text.Path

/-!
# Folders

A folder holds text files under their paths. Every end of a line in a file is read as a line feed.
-/

namespace Linework

open Linework.Text

/-- The text files in a folder, and other files, by their paths. A path with a root does not begin in the
folder. -/
structure Folder where
  files : List (Path × String) := []
  /-- Paths that are known to lead to folders without files. -/
  folders : List Path := []

namespace Folder

/-- The folder of some files with their paths as texts. -/
def ofFiles (files : List (String × String)) : Folder where
  files := files.map fun (path, text) => (Path.ofText path, text)

/-- Whether a path leads to a folder. -/
def isFolder (folder : Folder) (path : Path) : Bool :=
  let leadsTo (other : Path) : Bool := path.root == other.root && path.names.isPrefixOf other.names
  path.names.isEmpty || folder.folders.any leadsTo
    || folder.files.any fun (other, _) => leadsTo other && path != other

/-- The text of the file that a path leads to. Of several files with one path the last counts. -/
def text? (folder : Folder) (path : Path) : Option String :=
  folder.files.reverse.lookup path

/-- Follow names from a place, which is given by its names in reverse: the names of the place that they
lead to. Nothing is known of what lies outside of the folder, and a root has nothing outside. -/
def follow (folder : Folder) (root : String) (place : List String) :
    List String → Option (List String)
  | [] => some place.reverse
  | name :: rest =>
    if name == ".." then
      match place with
      | [] => if root.isEmpty then none else folder.follow root [] rest
      | _ :: outer =>
        if folder.isFolder ⟨root, place.reverse⟩ then folder.follow root outer rest else none
    else folder.follow root (name :: place) rest

/-- Whether a path leads through a file. -/
def leadsThroughFile (folder : Folder) (path : Path) : Bool :=
  (List.range path.names.length).any fun count =>
    (folder.text? ⟨path.root, path.names.take count⟩).isSome

/-- Read a file. -/
def read (folder : Folder) (path : Path) : Except Fault String :=
  let shown := path.toText
  let missing :=
    if folder.leadsThroughFile path then Fault.notDirectory shown else Fault.fileMissing shown
  if shown.toList.contains '\x00' then .error .nullInPath
  else if path.names.all (· == "..") then .error (.isDirectory shown)
  else
    match folder.follow path.root [] path.names with
    | none => .error missing
    | some names =>
      let place : Path := ⟨path.root, names⟩
      match folder.text? place with
      | some text => .ok (String.ofList (unifyLineEnds text.toList))
      | none =>
        if folder.isFolder place then .error (.isDirectory shown)
        else if folder.leadsThroughFile place then .error (.notDirectory shown)
        else .error missing

end Folder

end Linework
