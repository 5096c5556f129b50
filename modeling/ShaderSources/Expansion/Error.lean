import ShaderSources.Value.Written

namespace ShaderSources

inductive IncludeError (Fault : Type)
  | malformed (file : String) (line : Int) (reason : String)
  | provider (path : String) (fromFile : Option String) (fromLine : Option Int)
      (chain : List String) (cause : Option Fault)
  | cycle (file : String) (fromFile : String) (fromLine : Int) (chain : List String)
  | depth (file : String) (maxDepth : Int) (chain : List String)
  deriving DecidableEq, Repr

def chainText (chain : List String) : String := String.intercalate " -> " chain

structure CauseText (Fault : Type) where
  written : Fault → String
  message : Fault → String

namespace IncludeError

variable {Fault : Type}

def defaultReason : String := "malformed include directive"

def asker (fromFile : Option String) (fromLine : Option Int) : String :=
  match fromFile, fromLine with
  | none, _ => "the crawl root"
  | some file, some line => s!"{file} ({line})"
  | some file, none => s!"{file} (None)"

def message (causes : CauseText Fault) : IncludeError Fault → String
  | malformed file line reason => s!"Parse error: {reason} in {file} ({line})"
  | provider path fromFile fromLine chain cause =>
    let shown := (cause.map causes.written).getD "None"
    let chainPart := if chain.isEmpty then "" else ". Chain: " ++ chainText chain
    s!"Include provider error: {shown} when trying to include {quotedString path} " ++
      s!"from {asker fromFile fromLine}{chainPart}"
  | cycle file fromFile fromLine chain =>
    s!"File {quotedString file} is recursively included; " ++
      s!"triggered in {quotedString fromFile} ({fromLine}). Chain: {chainText chain}"
  | depth file maxDepth chain =>
    s!"Include depth exceeded (>{maxDepth}) while including {quotedString file}. " ++
      s!"Chain: {chainText chain}"

def optionalText : Option String → Value
  | some s => .text s
  | none => .null

def optionalInt : Option Int → Value
  | some n => .int n
  | none => .null

def chainValue (chain : List String) : Value := .list (chain.map .text)

def facts (causes : CauseText Fault) : IncludeError Fault → Entries
  | malformed file line reason =>
    [(.text "file", .text file), (.text "line", .int line), (.text "reason", .text reason)]
  | provider path fromFile fromLine chain cause =>
    [(.text "file", .text path), (.text "from_file", optionalText fromFile),
     (.text "from_line", optionalInt fromLine), (.text "chain", chainValue chain),
     (.text "cause", optionalText (cause.map causes.message))]
  | cycle file fromFile fromLine chain =>
    [(.text "file", .text file), (.text "from_file", .text fromFile),
     (.text "from_line", .int fromLine), (.text "chain", chainValue chain)]
  | depth file maxDepth chain =>
    [(.text "file", .text file), (.text "max_depth", .int maxDepth),
     (.text "chain", chainValue chain)]

end IncludeError

end ShaderSources
