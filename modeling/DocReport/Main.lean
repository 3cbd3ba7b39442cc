import DocReport.CommandLine.Run
import Std.Time

/-!
The program: takes a picture of the files it may need, runs the command line on it, and puts files
and lines that came of it where they belong.
-/
namespace DocReport.Main

open Files

/-- A place as the operating system spells it. -/
def spelling (place : List Text) : String :=
  String.ofList ('/' :: Text.join ['/'] place)

/-- Everything at and below a place; links are followed to files only. -/
partial def itemsAt (place : List Text) : IO (List (List Text × Item)) := do
  let path := (← IO.currentDir) / spelling place
  try
    if ← path.isDir then
      if (← path.symlinkMetadata).type == .symlink then return []
      let mut all := [(place, Item.directory)]
      for entry in ← path.readDir do
        all := all ++ (← itemsAt (place ++ [entry.fileName.toList]))
      return all
    else if ← path.pathExists then
      return [(place, .file (← IO.FS.readBinFile path).toList)]
    else return []
  catch _ => return []

/-- The place that an argument names, if it lies outside of the working directory. -/
def outside? (here : List Text) (argument : Text) : Option (List Text) :=
  let path := Path.ofText ((Text.cutFirst '=' argument).2.getD argument)
  let place := if path.anchor = [] then here ++ path.parts else path.parts
  let place := Path.normalParts [] place
  if here.isPrefixOf place then none else some place

/-- The files below the working directory, and those that arguments name elsewhere. -/
def picture (arguments : List Text) : IO FileSystem := do
  let here := (Path.ofText (← IO.currentDir).toString.toList).parts
  let mut items := (FileSystem.startingAt here).items.dropLast ++ (← itemsAt here)
  for place in arguments.filterMap (outside? here) do
    items := items ++ (FileSystem.startingAt place.dropLast).items ++ (← itemsAt place)
  return { here, items }

/-- Stores the files that are not as they were. -/
def store (old new : FileSystem) : IO Unit := do
  for (place, item) in new.items do
    if let .file content := item then
      if old.at? place ≠ some item then
        IO.FS.createDirAll (spelling place.dropLast)
        IO.FS.writeBinFile (spelling place) ⟨content.toArray⟩

/-- The time of day, universal time. -/
def now : IO Report.Instant := do
  let milliseconds := (← Std.Time.Timestamp.now).toMillisecondsSinceUnixEpoch.val.toNat
  return { moment := .ofSeconds (milliseconds / 1000), millisecond := milliseconds % 1000 }

/-- Runs the program. -/
def run (arguments : List Text) : IO UInt32 := do
  let files ← picture arguments
  let done := CommandLine.run arguments (Session.start files (← now))
  store files done.session.files
  (← IO.getStdout).putStr (String.ofList done.session.surface.console)
  (← IO.getStderr).putStr (String.ofList done.session.errors)
  if let some failure := done.failure then
    (← IO.getStderr).putStrLn (String.ofList failure.message)
  return done.exitCode.toUInt32

end DocReport.Main

def main (arguments : List String) : IO UInt32 :=
  DocReport.Main.run (arguments.map String.toList)
