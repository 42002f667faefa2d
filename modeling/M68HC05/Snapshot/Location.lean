/-!
Where a saved state lies: beside the image it belongs to, under the image's name with the extension
`state`. The name of an image is the last component of its path; empty components and single points
are not components, except that a leading point stands for the current directory. A path without a
name (a root, a point, two points, or nothing) is given the name `rom`.
-/

namespace M68HC05.Location

/-- The components of a path between its separators, empty ones included. -/
def segments (path : String) : List (List Char) :=
  go path.toList
where
  /-- Splits at each separator. -/
  go : List Char → List (List Char)
    | [] => [[]]
    | '/' :: rest => [] :: go rest
    | c :: rest =>
      match go rest with
      | [] => [[c]]
      | segment :: more => (c :: segment) :: more

/-- A segment that is no component: nothing or a single point. -/
def isBlank (segment : List Char) : Bool :=
  segment = [] || segment = ['.']

/-- Drops blank segments at the end. -/
def trimEnd (segments : List (List Char)) : List (List Char) :=
  (segments.reverse.dropWhile isBlank).reverse

/-- Segments as text, with a separator between each two. -/
def join (segments : List (List Char)) : List Char :=
  ['/'].intercalate segments

/-- A path as its fixed beginning, which is a root, a leading point or nothing, and the segments
after it. -/
structure Split where
  /-- text of the beginning, ready to be followed by a segment -/
  root : List Char
  rest : List (List Char)

/-- Splits off the root or the leading point of a path. -/
def split (path : String) : Split :=
  match segments path with
  | [] :: [] => ⟨[], []⟩
  | [] :: rest => ⟨['/'], rest⟩
  | ['.'] :: rest => ⟨['.', '/'], rest⟩
  | all => ⟨[], all⟩

/-- The last component and the directory it lies in. Without a component, a root has no directory
and a leading point lies in the empty path. -/
structure Place where
  leaf : Option (List Char)
  directory : List Char

/-- The directory text of a beginning and the segments between it and the leaf. -/
def directoryText (root : List Char) (segments : List (List Char)) : List Char :=
  match trimEnd segments with
  | [] => if root = ['.', '/'] then ['.'] else root
  | kept => root ++ join kept

/-- Finds the last component of a path. -/
def place (path : String) : Place :=
  let parts := split path
  match (trimEnd parts.rest).reverse with
  | leaf :: before => ⟨some leaf, directoryText parts.root before.reverse⟩
  | [] => ⟨none, if parts.root = ['.', '/'] then [] else ['.']⟩

/-- A name without its extension: up to the last point, unless that point begins the name. -/
def stem (name : List Char) : List Char :=
  match name.reverse.dropWhile (· ≠ '.') with
  | [] => name
  | _ :: before => if before = [] then name else before.reverse

/-- The name that a saved state takes over from a component; two points name a directory and no
image. -/
def imageName (leaf : Option (List Char)) : List Char :=
  match leaf with
  | none => "rom".toList
  | some name => if name = ['.', '.'] then "rom".toList else stem name

/-- A directory with a name in it. -/
def inDirectory (directory name : List Char) : List Char :=
  match directory.getLast? with
  | none => name
  | some '/' => directory ++ name
  | some _ => directory ++ '/' :: name

/-- The path of the saved state that belongs to the image at `path`. -/
def statePath (path : String) : String :=
  let place := place path
  String.ofList (inDirectory place.directory (imageName place.leaf ++ ".state".toList))

end M68HC05.Location
