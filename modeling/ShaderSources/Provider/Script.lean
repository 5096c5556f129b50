import ShaderSources.Provider.Reply

namespace ShaderSources

inductive ScriptedName
  | name (s : String)
  | fault (f : Fault)
  deriving Repr

inductive ScriptedContext
  | same
  | extended
  | fixed (context : Value)
  deriving Repr

inductive ScriptedSource
  | source (source : Value) (context : ScriptedContext)
  | whole (value : Value)
  | fault (f : Fault)
  deriving Repr

structure Script where
  names : List (String × ScriptedName)
  sources : List (String × ScriptedSource)

namespace Script

def entry? {α : Type} (table : List (String × α)) (path : String) : Value → Option α
  | .text context =>
    match table.lookup (context ++ "|" ++ path) with
    | some entry => some entry
    | none => table.lookup path
  | _ => table.lookup path

def extend (context : Value) (path : String) : Except Fault Value :=
  if context.isVoid then .ok (.list [.text path])
  else match context with
    | .list items => .ok (.list (items ++ [.text path]))
    | other => .error (.notExtendable other.kindName)

def resolve (script : Script) (path : String) (context : Value) : Except Fault String :=
  match entry? script.names path context with
  | none => .ok path
  | some (.name s) => .ok s
  | some (.fault f) => .error f

def reply (script : Script) (path : String) (context : Value) : Except Fault Reply :=
  match entry? script.sources path context with
  | none => .error (.notPrepared path)
  | some (.fault f) => .error f
  | some (.whole value) => .ok (.whole value)
  | some (.source source .same) => .ok (.pair source context)
  | some (.source source (.fixed child)) => .ok (.pair source child)
  | some (.source source .extended) => do return .pair source (← extend context path)

def provider (script : Script) : Provider Value Fault where
  resolve _ := script.resolve
  fetch _ path context := script.reply path context >>= Reply.accept

def sourcesOnly (script : Script) : Provider Value Fault where
  resolve _ path _ := .ok path
  fetch _ path context := script.reply path context >>= Reply.accept

end Script

end ShaderSources
