import ShaderSources.Source.Directive
import ShaderSources.Text.Lines

namespace ShaderSources.Source

structure Carry where
  inComment : Bool
  continued : Bool
  deriving DecidableEq, Repr

def Carry.start : Carry := ⟨false, false⟩

structure Line where
  number : Nat
  text : Text
  reading : Reading
  deriving DecidableEq, Repr

def readBody (carry : Carry) (number : Nat) (body : Text) : Reading :=
  if carry.inComment || carry.continued || Text.endsWith body '\\' then .ordinary
  else .ofBody number body

def Carry.next (carry : Carry) (body : Text) : Reading → Carry
  | .directive d => ⟨d.opensComment, false⟩
  | _ => ⟨commentOpenAfter carry.inComment body, Text.endsWith body '\\'⟩

def readLines (carry : Carry) (number : Nat) : List Text → List Line
  | [] => []
  | text :: texts =>
    let reading := readBody carry number (Text.lineBody text)
    ⟨number, text, reading⟩ ::
      readLines (carry.next (Text.lineBody text) reading) (number + 1) texts

def lines (source : Text) : List Line := readLines .start 1 (Text.splitLines source)

theorem map_text_readLines (carry : Carry) (number : Nat) (texts : List Text) :
    (readLines carry number texts).map Line.text = texts := by
  induction texts generalizing carry number with
  | nil => rfl
  | cons text texts ih => simp [readLines, ih]

end ShaderSources.Source
