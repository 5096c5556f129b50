import ShaderSources.Config.Coerce
import ShaderSources.Config.Error
import ShaderSources.Value.Merge

namespace ShaderSources.Config

abbrev Environment := List (String × String)

def environmentMark : Text := "SHADERCRAWL_".toList

def segments : Text → List Text
  | [] => [[]]
  | '_' :: '_' :: text => [] :: segments text
  | c :: text =>
    match segments text with
    | [] => [[c]]
    | piece :: rest => (c :: piece) :: rest

structure Override where
  path : List String
  value : Value
  deriving Repr

def layer (value : Value) : List String → Entries
  | [] => []
  | [key] => [(.text key, value)]
  | key :: path => [(.text key, .mapping (layer value path))]

namespace Environment

def marked (environment : Environment) : List (String × Text × String) :=
  (environment.filterMap fun entry =>
      (Text.after? environmentMark entry.1.toList).map fun key =>
        (entry.1, key, entry.2)).mergeSort
    fun a b => !decide (b.1 < a.1)

end Environment

def readOverride (name : String) (key : Text) (text : String) : Except LoadError Override :=
  let path := segments key
  if path.contains [] then .error (.config (.malformedKey name))
  else match coerce text.toList with
    | .error fault => .error (.numeral fault)
    | .ok value => .ok ⟨path.map fun segment => String.ofList (Text.lower segment), value⟩

def Override.apply (override : Override) (entries : Entries) : Entries :=
  entries.merge (layer override.value override.path)

def applyMarked (entries : Entries) : List (String × Text × String) → Except LoadError Entries
  | [] => .ok entries
  | (name, key, text) :: rest => do
    let override ← readOverride name key text
    applyMarked (override.apply entries) rest

def applyEnvironment (environment : Environment) (entries : Entries) : Except LoadError Entries :=
  applyMarked entries environment.marked

end ShaderSources.Config
