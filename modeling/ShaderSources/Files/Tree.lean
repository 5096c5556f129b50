import ShaderSources.Files.Path

namespace ShaderSources

abbrev Location := List String

inductive FileEntry
  | directory
  | file (bytes : List UInt8)
  | link (target : String)
  deriving DecidableEq, Repr

structure FileTree where
  here : Location
  entries : List (Location × FileEntry)

inductive Obstacle
  | absent
  | nameTooLong
  deriving DecidableEq, Repr

namespace FileTree

def maxNameSize : Nat := 255
def maxPathSize : Nat := 4095
def maxLinks : Nat := 40

def entry? (tree : FileTree) : Location → Option FileEntry
  | [] => some .directory
  | location => tree.entries.lookup location

def isDirectory (tree : FileTree) (location : Location) : Bool :=
  tree.entry? location = some .directory

def linkBase (location : Location) (target : String) : Location :=
  if target.startsWith "/" then [] else location

/-- Follows names from a location; where a link is met, `onLink` goes on from its base with the
names that are left. -/
def followNames (tree : FileTree) (onLink : Location → List String → Except Obstacle Location)
    (location : Location) : List String → Except Obstacle Location
  | [] => if (tree.entry? location).isSome then .ok location else .error .absent
  | name :: rest =>
    if !tree.isDirectory location then .error .absent
    else if name = "" ∨ name = "." then tree.followNames onLink location rest
    else if name = ".." then tree.followNames onLink location.dropLast rest
    else if maxNameSize < name.utf8ByteSize then .error .nameTooLong
    else match tree.entry? (location ++ [name]) with
      | none => .error .absent
      | some (.link target) => onLink (linkBase location target) (Path.rawNames target ++ rest)
      | some _ => tree.followNames onLink (location ++ [name]) rest

def follow (tree : FileTree) (links : Nat) :
    Location → List String → Except Obstacle Location :=
  match links with
  | 0 => tree.followNames fun _ _ => .error .absent
  | links + 1 => tree.followNames (tree.follow links)

def baseOf (tree : FileTree) (path : Path) : Location :=
  if path.isAbsolute then [] else tree.here

def locate (tree : FileTree) (path : Path) : Except Obstacle Location :=
  let shown := path.toString
  if shown.contains '\x00' then .error .absent
  else if maxPathSize < shown.utf8ByteSize then .error .nameTooLong
  else tree.follow maxLinks (tree.baseOf path) path.names

def file? (tree : FileTree) (path : Path) : Except Obstacle (Option (Location × List UInt8)) :=
  match tree.locate path with
  | .error .nameTooLong => .error .nameTooLong
  | .error .absent => .ok none
  | .ok location => match tree.entry? location with
    | some (.file bytes) => .ok (some (location, bytes))
    | _ => .ok none

def put (tree : FileTree) (location : Location) (entry : FileEntry) : FileTree :=
  { tree with entries := (location, entry) :: tree.entries.filter fun e => e.1 != location }

def erase (tree : FileTree) (location : Location) : FileTree :=
  { tree with entries := tree.entries.filter fun e => e.1 != location }

def behindLinks (tree : FileTree) (location : Location) : Location :=
  match tree.follow maxLinks [] location with
  | .ok target => target
  | .error _ => location

/-- Where a file that is written at a location comes to lie: a link passes it on to its target,
which need not be there yet. It cannot take the place of a directory. -/
def settle? (tree : FileTree) : (links : Nat) → Location → Option Location
  | 0, _ => none
  | links + 1, location =>
    match tree.entry? location with
    | some .directory => none
    | some (.link target) =>
      let path := Path.ofString target
      match path.names.getLast?,
          tree.follow links (linkBase location.dropLast target) path.names.dropLast with
      | some name, .ok parent =>
        if name = ".." ∨ !tree.isDirectory parent then none
        else tree.settle? links (parent ++ [name])
      | _, _ => none
    | _ => some location

def makeDirectories (tree : FileTree) (location : Location) : List String → FileTree × Location
  | [] => (tree, location)
  | name :: rest =>
    if name = "" ∨ name = "." then tree.makeDirectories location rest
    else if name = ".." then tree.makeDirectories location.dropLast rest
    else match tree.entry? (location ++ [name]) with
      | none => (tree.put (location ++ [name]) .directory).makeDirectories (location ++ [name]) rest
      | some _ => tree.makeDirectories (tree.behindLinks (location ++ [name])) rest

def addDirectory (tree : FileTree) (path : Path) : FileTree :=
  (tree.makeDirectories (tree.baseOf path) path.names).1

def prepare (tree : FileTree) (path : Path) : FileTree × Location :=
  let (tree, parent) := tree.makeDirectories (tree.baseOf path) path.names.dropLast
  (tree, parent ++ path.names.getLast?.toList)

def addFile (tree : FileTree) (path : Path) (bytes : List UInt8) : FileTree :=
  let (tree, location) := tree.prepare path
  match tree.settle? maxLinks location with
  | some location => tree.put location (.file bytes)
  | none => tree

def addLink (tree : FileTree) (path : Path) (target : String) : FileTree :=
  let (tree, location) := tree.prepare path
  if (tree.entry? location).isSome then tree else tree.put location (.link target)

def remove (tree : FileTree) (path : Path) : FileTree :=
  match path.names.getLast? with
  | none => tree
  | some name =>
    match tree.follow maxLinks (tree.baseOf path) path.names.dropLast with
    | .ok parent => tree.erase (parent ++ [name])
    | .error _ => tree

def atDirectory (location : Location) : FileTree :=
  (FileTree.mk location []).addDirectory (.ofLocation location)

end FileTree

end ShaderSources
