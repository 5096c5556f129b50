import ShaderSources.Provider.Reply

namespace ShaderSources

structure Catalog where
  sources : List (String × Value)

namespace Catalog

def source (catalog : Catalog) (path : String) : Except Fault Value :=
  match catalog.sources.lookup path with
  | some source => .ok source
  | none => .error (.notFound path)

def reply (catalog : Catalog) (path : String) (context : Value) : Except Fault Reply := do
  return .pair (← catalog.source path) context

def provider {Context : Type} (catalog : Catalog) : Provider Context Fault where
  resolve _ path _ := .ok path
  fetch _ path context := do
    match ← catalog.source path with
    | .text s => return (s.toList, context)
    | source => throw (.notText source.kindName)

end Catalog

end ShaderSources
