import ShaderSources.Expansion.Provider
import ShaderSources.Files.Encoding
import ShaderSources.Files.Tree

namespace ShaderSources

structure FileSearch where
  tree : FileTree
  includeDirs : List Path
  decode : Decoder

namespace FileSearch

def contextMessage (kindName : String) : String :=
  s!"expected str, bytes or os.PathLike object, not {kindName}"

def directory (search : FileSearch) : Value → Except Fault Path
  | .null => .ok (.ofLocation search.tree.here)
  | .text s => .ok (.ofString s)
  | other => .error (.stated .type (some (contextMessage other.kindName)))

def candidates (search : FileSearch) (path : String) (context : Value) :
    Except Fault (List Path) := do
  let target := Path.ofString path
  if target.isAbsolute then return [target]
  let current ← search.directory context
  return (current :: search.includeDirs).map fun base => base.join target

def firstFile? (tree : FileTree) : List Path → Except Fault (Option (Location × List UInt8))
  | [] => .ok none
  | place :: places =>
    match tree.file? place with
    | .error _ => .error (.nameTooLong place.toString)
    | .ok (some found) => .ok (some found)
    | .ok none => firstFile? tree places

def find (search : FileSearch) (path : String) (context : Value) :
    Except Fault (Location × List UInt8) := do
  let places ← search.candidates path context
  match ← firstFile? search.tree places with
  | some found => return found
  | none => throw (.notFoundAmong path (places.map Path.toString))

def nameOf (location : Location) : String := (Path.ofLocation location).toString

def resolve (search : FileSearch) (path : String) (context : Value) : Except Fault String :=
  match search.find path context with
  | .ok (location, _) => .ok (nameOf location)
  | .error (.notFoundAmong _ _) => .ok path
  | .error fault => .error fault

def fetch (search : FileSearch) (path : String) (context : Value) :
    Except Fault (Text × Value) := do
  let (location, bytes) ← search.find path context
  let text ← search.decode bytes
  return (text, .text (nameOf location.dropLast))

def provider (search : FileSearch) : Provider Value Fault :=
  ⟨fun _ => search.resolve, fun _ => search.fetch⟩

end FileSearch

end ShaderSources
