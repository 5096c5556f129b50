import ShaderSources.Text.Basic

namespace ShaderSources

inductive Anchor
  | relative
  | root
  | doubleRoot
  deriving DecidableEq, Repr

def Anchor.text : Anchor → String
  | relative => ""
  | root => "/"
  | doubleRoot => "//"

structure Path where
  anchor : Anchor
  names : List String
  deriving DecidableEq, Repr

namespace Path

def anchorOf : Text → Anchor
  | '/' :: '/' :: '/' :: _ => .root
  | '/' :: '/' :: _ => .doubleRoot
  | '/' :: _ => .root
  | _ => .relative

def rawNames (s : String) : List String := (Text.pieces '/' s.toList).map String.ofList

def ofString (s : String) : Path :=
  ⟨anchorOf s.toList, (rawNames s).filter fun name => name != "" && name != "."⟩

def isAbsolute (path : Path) : Bool := path.anchor != .relative

def toString (path : Path) : String :=
  if path.anchor = .relative ∧ path.names = [] then "."
  else path.anchor.text ++ String.intercalate "/" path.names

def join (base path : Path) : Path :=
  if path.isAbsolute then path else ⟨base.anchor, base.names ++ path.names⟩

def ofLocation (names : List String) : Path := ⟨.root, names⟩

end Path

end ShaderSources
