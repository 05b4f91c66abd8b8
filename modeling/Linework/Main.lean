import Linework.CommandLine

/-!
# The program

Reads the files that a command line names, and gives the answer.
-/

namespace Linework.Program

/-- Read a stream to its end. -/
partial def readToEnd (stream : IO.FS.Stream) (text : String) : IO String := do
  let line ← stream.getLine
  if line.isEmpty then return text else readToEnd stream (text ++ line)

/-- The error code of the system for a path that leads to a folder. -/
def folderCode : UInt32 := 21

/-- Add what a path leads to to a folder, if there is anything. -/
def addFile (folder : Folder) (path : String) : IO Folder := do
  let place := Text.Path.ofText path
  try
    let text ← IO.FS.readFile place.toText
    return { folder with files := folder.files ++ [(place, text)] }
  catch
    | .inappropriateType _ code _ =>
      if code == folderCode then return { folder with folders := folder.folders ++ [place] }
      else return folder
    | _ => return folder

/-- Give an answer. -/
def give (answer : CommandLine.Answer) : IO UInt32 := do
  (← IO.getStdout).putStr answer.output
  (← IO.getStderr).putStr answer.reports
  return answer.code.toUInt32

end Linework.Program

open Linework Program in
/-- Convert the document that a command line names. -/
def main (arguments : List String) : IO UInt32 := do
  match CommandLine.Request.ofArguments arguments with
  | .error refusal => give refusal.answer
  | .ok request =>
    let folder ← request.paths.foldlM addFile {}
    let input ← if request.source == "-" then readToEnd (← IO.getStdin) "" else pure ""
    match request.answer folder input with
    | .ok answer => give answer
    | .error fault => give (.failing (fault.kind ++ ": " ++ fault.message ++ "\n"))
