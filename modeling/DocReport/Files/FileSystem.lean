import DocReport.Files.Path
import DocReport.Text.Quoted
import DocReport.Text.Utf8

/-!
Files and directories, with a working directory from which relative paths lead on.
-/
namespace DocReport.Files

open Text (Octets)

/-- What a path can lead to. -/
inductive Item where
  | directory
  | file (content : Octets)
  deriving DecidableEq, Repr

/-- The working directory, and all files and directories by their components from the root, which
is not listed itself. -/
structure FileSystem where
  here : List Text
  items : List (List Text × Item)
  deriving DecidableEq, Repr

/-- Why a file cannot be used. -/
inductive Obstacle where
  | missing | occupied | notDirectory | isDirectory
  deriving DecidableEq, Repr

/-- The wording of an obstacle, with its number. -/
def Obstacle.message : Obstacle → Text
  | .missing => "[Errno 2] No such file or directory".toList
  | .occupied => "[Errno 17] File exists".toList
  | .notDirectory => "[Errno 20] Not a directory".toList
  | .isDirectory => "[Errno 21] Is a directory".toList

/-- A path that cannot be used. -/
structure AccessFault where
  obstacle : Obstacle
  path : Text
  deriving DecidableEq, Repr

/-- An access fault in words. -/
def AccessFault.message (fault : AccessFault) : Text :=
  fault.obstacle.message ++ ": ".toList ++ Text.quoted fault.path

namespace FileSystem

/-- A working directory without files, and the directories above it. -/
def startingAt (here : List Text) : FileSystem :=
  ⟨here, (List.range here.length).map fun n => (here.take (n + 1), .directory)⟩

/-- What is at a place. -/
def at? (fs : FileSystem) (place : List Text) : Option Item :=
  if place = [] then some .directory else fs.items.lookup place

/-- Whether a place is a directory. -/
def isDirectoryAt (fs : FileSystem) (place : List Text) : Bool :=
  fs.at? place == some .directory

/-- The place to which components lead from another; the last component need not exist. -/
def walk (fs : FileSystem) (here : List Text) : List Text → Except Obstacle (List Text)
  | [] => .ok here
  | part :: rest =>
    if fs.isDirectoryAt here then
      if part = ['.', '.'] then fs.walk here.dropLast rest
      else fs.walk (here ++ [part]) rest
    else if (fs.at? here).isSome then .error .notDirectory
    else .error .missing

/-- The place to which a path leads. -/
def place (fs : FileSystem) (p : Path) : Except Obstacle (List Text) :=
  fs.walk (if p.anchor = [] then fs.here else []) p.parts

/-- What a path leads to. -/
def item? (fs : FileSystem) (p : Path) : Option Item :=
  match fs.place p with
  | .ok place => fs.at? place
  | .error _ => none

def exists? (fs : FileSystem) (p : Path) : Bool :=
  (fs.item? p).isSome

def isFile (fs : FileSystem) (p : Path) : Bool :=
  match fs.item? p with
  | some (.file _) => true
  | _ => false

def isDirectory (fs : FileSystem) (p : Path) : Bool :=
  fs.item? p == some .directory

/-- The content of a file. -/
def read (fs : FileSystem) (p : Path) : Except AccessFault Octets :=
  match fs.place p with
  | .error obstacle => .error ⟨obstacle, p.toText⟩
  | .ok place =>
    match fs.at? place with
    | none => .error ⟨.missing, p.toText⟩
    | some .directory => .error ⟨.isDirectory, p.toText⟩
    | some (.file content) => .ok content

/-- Puts an item at a place, instead of what was there. -/
def put (fs : FileSystem) (place : List Text) (item : Item) : FileSystem :=
  { fs with items := fs.items.filter (fun entry => entry.1 != place) ++ [(place, item)] }

theorem at?_put_self (fs : FileSystem) {place : List Text} (item : Item) (below : place ≠ []) :
    (fs.put place item).at? place = some item := by
  have gone : (fs.items.filter fun entry => entry.1 != place).lookup place = none := by
    rw [List.lookup_eq_none_iff]
    intro entry kept
    have differs : entry.1 ≠ place := by simpa using (List.mem_filter.mp kept).2
    simpa using differs.symm
  simp [at?, put, below, List.lookup_append, gone]

theorem at?_put_of_ne (fs : FileSystem) {place other : List Text} (item : Item)
    (apart : other ≠ place) : (fs.put place item).at? other = fs.at? other := by
  have same : (fs.items.filter fun entry => entry.1 != place).lookup other =
      fs.items.lookup other := by
    induction fs.items with
    | nil => rfl
    | cons entry rest ih =>
      by_cases here : entry.1 = place
      · have differs : (other == entry.1) = false := by simpa [here] using apart
        rw [List.filter_cons_of_neg (by simpa using here), ih, List.lookup_cons, differs]
      · rw [List.filter_cons_of_pos (by simpa using here), List.lookup_cons, List.lookup_cons, ih]
  by_cases root : other = []
  · simp [at?, root]
  · have differs : (other == place) = false := by simpa using apart
    simp [at?, put, root, List.lookup_append, same, List.lookup_cons, differs]

/-- Makes a directory; its parent has to exist. -/
def makeOne (fs : FileSystem) (p : Path) : Except AccessFault FileSystem :=
  match fs.place p with
  | .error obstacle => .error ⟨obstacle, p.toText⟩
  | .ok place =>
    if (fs.at? place).isSome then .error ⟨.occupied, p.toText⟩
    else if fs.isDirectoryAt place.dropLast then .ok (fs.put place .directory)
    else .error ⟨.missing, p.toText⟩

/-- Makes the directory with the given components, last one first, and those above it where they
are missing. A directory that exists is kept. -/
def makeFrom (fs : FileSystem) (anchor : Text) : List Text → Except AccessFault FileSystem
  | [] =>
    match fs.makeOne ⟨anchor, []⟩ with
    | .ok made => .ok made
    | .error fault => if fs.isDirectory ⟨anchor, []⟩ then .ok fs else .error fault
  | part :: above =>
    let p : Path := ⟨anchor, (part :: above).reverse⟩
    match fs.makeOne p with
    | .ok made => .ok made
    | .error fault =>
      if fault.obstacle = .missing then do
        let fs ← fs.makeFrom anchor above
        match fs.makeOne p with
        | .ok made => .ok made
        | .error fault => if fs.isDirectory p then .ok fs else .error fault
      else if fs.isDirectory p then .ok fs
      else .error fault

/-- Makes a directory and those above it where they are missing. -/
def makeDirectory (fs : FileSystem) (p : Path) : Except AccessFault FileSystem :=
  fs.makeFrom p.anchor p.parts.reverse

/-- Changes the content of a file, which is empty at first if there is none; its directory has to
exist. -/
def update (fs : FileSystem) (p : Path) (change : Octets → Octets) :
    Except AccessFault FileSystem :=
  match fs.place p with
  | .error obstacle => .error ⟨obstacle, p.toText⟩
  | .ok place =>
    match fs.at? place with
    | some .directory => .error ⟨.isDirectory, p.toText⟩
    | some (.file content) => .ok (fs.put place (.file (change content)))
    | none =>
      if fs.isDirectoryAt place.dropLast then .ok (fs.put place (.file (change [])))
      else .error ⟨.missing, p.toText⟩

/-- Writes a file anew. -/
def write (fs : FileSystem) (p : Path) (content : Octets) : Except AccessFault FileSystem :=
  fs.update p fun _ => content

/-- Writes at the end of a file. -/
def append (fs : FileSystem) (p : Path) (content : Octets) : Except AccessFault FileSystem :=
  fs.update p fun old => old ++ content

/-- A path that leads to the same place from anywhere, found without looking at any files. It is
relative again if it lies below the working directory. -/
def settled (fs : FileSystem) (p : Path) : Path :=
  let absolute : Path :=
    if p.anchor = [] then { anchor := ['/'], parts := fs.here ++ p.parts } else p
  absolute.normal.relativeTo { anchor := ['/'], parts := fs.here }

/-- The components of all files. -/
def files (fs : FileSystem) : List (List Text) :=
  fs.items.filterMap fun (place, item) =>
    match item with
    | .file _ => some place
    | .directory => none

/-- The files below a place, with components from there on. -/
def filesBelow (fs : FileSystem) (place : List Text) : List (List Text) :=
  fs.files.filterMap fun file =>
    if place.isPrefixOf file then some (file.drop place.length) else none

end FileSystem

end DocReport.Files
