import ShaderSources.Config.Bundle
import ShaderSources.Config.Environment
import ShaderSources.Files.Encoding

namespace ShaderSources.Config

def overlayName : String := ".shadercrawl.yaml"

def overlayPath (root : Path) : Path := root.join (.ofString overlayName)

def unifyNewlines : Text → Text
  | [] => []
  | '\r' :: '\n' :: text => '\n' :: unifyNewlines text
  | '\r' :: text => '\n' :: unifyNewlines text
  | c :: text => c :: unifyNewlines text

def readOverlay (read : Reader) (path : String) (bytes : List UInt8) : Except LoadError Entries := do
  let text ← (Codec.decodeUtf8 bytes).mapError .fault
  match read (unifyNewlines text) with
  | .error .illFormed => throw (.config (.unreadableOverlay path))
  | .error (.failed error) => throw error
  | .ok .null => return []
  | .ok (.mapping entries) => return entries
  | .ok value => throw (.config (.overlayNotMapping path value.kindName))

def overlayFile? (tree : FileTree) (root : Option Path) :
    Except LoadError (Option (String × List UInt8)) :=
  match root with
  | none => .ok none
  | some root =>
    let path := overlayPath root
    match tree.file? path with
    | .error _ => .error (.fault (.nameTooLong path.toString))
    | .ok found => .ok (found.map fun file => (path.toString, file.2))

def overlay (read : Reader) (tree : FileTree) (root : Option Path) : Except LoadError Entries := do
  match ← overlayFile? tree root with
  | none => return []
  | some (path, bytes) => readOverlay read path bytes

def validate (value : Value) : Except LoadError Unit := do
  match ← (schema.report? value).mapError .numeral with
  | none => return
  | some (location, detail) => throw (.config (.invalid location detail))

def layered (overlay : Entries) (environment : Environment) : Except LoadError Entries := do
  let entries ← applyEnvironment environment (defaults.merge overlay)
  validate (.mapping entries)
  return entries

def load (read : Reader) (tree : FileTree) (environment : Environment) (root : Option Path) :
    Except LoadError Entries := do
  let upper ← overlay read tree root
  layered upper environment

end ShaderSources.Config
