import ShaderSources.Config.Schema
import ShaderSources.Files.Tree
import ShaderSources.Provider.Fault

namespace ShaderSources.Config

def defaults : Entries :=
  [(.text "crawler", .mapping
      [(.text "max_depth", .int 32), (.text "detect_cycles", .bool true),
       (.text "pragma_once", .bool false)]),
   (.text "provider", .mapping
      [(.text "encoding", .text "utf-8"), (.text "include_dirs", .list [])])]

def schema : Schema :=
  .object
    [("crawler", .object
        [("max_depth", .integer (some 1)), ("detect_cycles", .boolean), ("pragma_once", .boolean)]),
     ("provider", .object
        [("encoding", .string (some 1)), ("include_dirs", .array (.string none))])]

mutual

def Schema.entries : Schema → Entries
  | .boolean => [(.text "type", .text "boolean")]
  | .integer minimum =>
    (.text "type", .text "integer") :: minimum.toList.map fun n => (.text "minimum", .int n)
  | .string minLength =>
    (.text "type", .text "string") ::
      minLength.toList.map fun (n : Nat) => (.text "minLength", .int n)
  | .array items => [(.text "type", .text "array"), (.text "items", .mapping items.entries)]
  | .object properties =>
    [(.text "type", .text "object"), (.text "properties", .mapping (propertyDocuments properties)),
     (.text "additionalProperties", .bool false)]

def propertyDocuments : List (String × Schema) → List (Key × Value)
  | [] => []
  | (name, schema) :: rest => (.text name, .mapping schema.entries) :: propertyDocuments rest

end

def schemaDocument : Entries :=
  (.text "$schema", .text "https://json-schema.org/draft/2020-12/schema") ::
    (.text "title", .text "shadercrawl configuration") :: schema.entries

def bundled : List (Location × Entries) :=
  [(["config", "defaults.yaml"], defaults), (["schemas", "config.schema.yaml"], schemaDocument)]

def bundleHome : Location := ["packages", "shadercrawl", "data"]

def bundleTree : FileTree :=
  bundled.foldl (fun tree document => tree.addFile (.ofLocation (bundleHome ++ document.1)) [])
    ⟨bundleHome, []⟩

structure BundlePlace where
  path : String
  document : Option Entries

def fileNotNamed : Fault :=
  .stated .type (some "read_yaml() missing 1 required positional argument: 'filename'")

def bundlePlace (folder : String) (file : Option String) : Except Fault BundlePlace :=
  let path := (Path.ofString folder).join (Path.ofString (file.getD ""))
  let document := match bundleTree.locate path with
    | .ok location => (bundled.map fun d => (bundleHome ++ d.1, d.2)).lookup location
    | .error _ => none
  if document.isSome && file.isNone then .error fileNotNamed
  else .ok ⟨path.toString, document⟩

end ShaderSources.Config
