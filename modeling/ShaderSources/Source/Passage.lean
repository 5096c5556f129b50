import ShaderSources.Source.Line

namespace ShaderSources.Source

inductive Passage
  | verbatim (start : Nat) (text : Text)
  | directive (d : Directive)
  | malformed (line : Nat) (m : Malformed)
  deriving DecidableEq, Repr

/-- Ordinary lines that stand in no passage yet. The number is that of the first one; without lines it
is left over from earlier ones. -/
structure Pending where
  start : Nat
  texts : List Text

namespace Pending

def add (pending : Pending) (line : Line) : Pending :=
  ⟨if pending.texts = [] then line.number else pending.start, pending.texts ++ [line.text]⟩

def clear (pending : Pending) : Pending := { pending with texts := [] }

def flush (pending : Pending) : List Passage :=
  if pending.texts = [] then [] else [.verbatim pending.start pending.texts.flatten]

end Pending

def Passage.collect (pending : Pending) : List Line → List Passage
  | [] => pending.flush
  | line :: rest =>
    match line.reading with
    | .ordinary => collect (pending.add line) rest
    | .directive d => pending.flush ++ directive d :: collect pending.clear rest
    | .malformed m => pending.flush ++ malformed line.number m :: collect pending.clear rest

def passages (source : Text) : List Passage := Passage.collect ⟨1, []⟩ (lines source)

end ShaderSources.Source
