import M68HC05.Snapshot.Location
import M68HC05.Storage

/-!
A directory of files kept in memory, as the current directory of a file system of which nothing
else is known than that the directories above are there. A path is followed name by name; each name
but the last has to be a directory's. A directory is there because a file lies in or below it.
-/

namespace M68HC05

/-- A position in the file system, by the names that lead to it. A directory above is written as two
dots, and the root as a slash; they stand in front. -/
abbrev Position := List String

/-- Files by their positions. -/
structure Directory where
  files : List (Position × List UInt8)

namespace Directory

/-- Longest name in bytes. -/
def maxName : Nat := 255

/-- Paths as long as this in bytes are refused. -/
def maxPath : Nat := 4096

/-- The directory above a directory. The root lies in itself. -/
def above (position : Position) : Position :=
  match position.getLast? with
  | none => [".."]
  | some ".." => position ++ [".."]
  | some "/" => position
  | some _ => position.dropLast

/-- There is a directory at a position: the current one, one above it, or one with a file below. -/
def holds (directory : Directory) (position : Position) : Bool :=
  position.all (fun name => name = ".." || name = "/")
    || directory.files.any fun (file, _) => position.isPrefixOf file && position ≠ file

/-- The content of a file. -/
def content? (directory : Directory) (position : Position) : Option (List UInt8) :=
  directory.files.lookup position

/-- Follows the names of directories from a position on. -/
def enter (directory : Directory) : Position → List String → Except FileFault Position
  | position, [] => .ok position
  | position, "." :: names => directory.enter position names
  | position, ".." :: names => directory.enter (above position) names
  | position, name :: names =>
    let next := position ++ [name]
    if maxName < name.utf8ByteSize then .error .nameTooLong
    else if directory.holds next then directory.enter next names
    else if (directory.content? next).isSome then .error .notDirectory
    else .error .notFound

/-- What a path leads to. -/
inductive Target where
  /-- a directory, whichever it is -/
  | directory
  /-- what has a name in a directory, if anything has -/
  | entry (position : Position) (name : String)

/-- The names in a path, between any number of separators. -/
def namesOf (path : String) : List String :=
  ((Location.segments path).filter (· ≠ [])).map String.ofList

/-- A path that begins with a separator is followed from the root. -/
def startOf (path : String) : Position :=
  if path.toList.head? = some '/' then ["/"] else []

/-- A separator at the end of a path asks for a directory. -/
def asksDirectory (path : String) : Bool :=
  path.toList.getLast? = some '/'

/-- Follows a path up to its last name. -/
def resolve (directory : Directory) (path : String) : Except FileFault Target :=
  if path.toList.contains '\x00' then .error .zeroInPath
  else if maxPath ≤ path.utf8ByteSize then .error .nameTooLong
  else if path = "" then .error .notFound
  else
    let names := namesOf path
    match names.getLast? with
    | none => .ok .directory
    | some last => do
      let position ← directory.enter (startOf path) names.dropLast
      return if last = "." ∨ last = ".." then .directory else .entry position last

/-- Reads a file. -/
def read (directory : Directory) (path : String) : Except FileFault (List UInt8) := do
  match ← directory.resolve path with
  | .directory => throw .isDirectory
  | .entry position name =>
    let position := position ++ [name]
    if maxName < name.utf8ByteSize then throw .nameTooLong
    if directory.holds position then throw .isDirectory
    match directory.content? position with
    | none => throw .notFound
    | some bytes => if asksDirectory path then throw .notDirectory else return bytes

/-- Replaces or adds a file. -/
def put (directory : Directory) (position : Position) (bytes : List UInt8) : Directory :=
  ⟨(position, bytes) :: directory.files.filter (·.1 ≠ position)⟩

/-- The position of the file that a path names for writing. A separator at the end is refused before
the last name is looked at. -/
def positionToWrite (directory : Directory) (path : String) : Except FileFault Position := do
  match ← directory.resolve path with
  | .directory => throw .isDirectory
  | .entry position name =>
    if asksDirectory path then throw .isDirectory
    if maxName < name.utf8ByteSize then throw .nameTooLong
    if directory.holds (position ++ [name]) then throw .isDirectory
    return position ++ [name]

/-- Writes a file. -/
def write (directory : Directory) (path : String) (bytes : List UInt8) :
    Except FileFault Unit × Directory :=
  match directory.positionToWrite path with
  | .error fault => (.error fault, directory)
  | .ok position => (.ok (), directory.put position bytes)

instance : Storage (StateM Directory) where
  readFile path := do return (← get).read path
  writeFile path bytes := modifyGet (·.write path bytes)

end Directory
end M68HC05
