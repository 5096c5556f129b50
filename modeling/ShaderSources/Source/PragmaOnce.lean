import ShaderSources.Text.Blank
import ShaderSources.Text.Lines
import ShaderSources.Text.Word

namespace ShaderSources.Source

def afterBlanks? : Text → Option Text
  | c :: text => if Text.isSpaceOrTab c then some (text.dropWhile Text.isSpaceOrTab) else none
  | [] => none

def startsWord : Text → Bool
  | [] => false
  | c :: _ => Text.isWordChar c

def isPragmaOnceLine (line : Text) : Bool :=
  match line.dropWhile Text.isSpaceOrTab with
  | '#' :: text =>
    match Text.after? "pragma".toList (text.dropWhile Text.isSpaceOrTab) with
    | some rest =>
      match (afterBlanks? rest).bind (Text.after? "once".toList) with
      | some rest => !startsWord rest
      | none => false
    | none => false
  | _ => false

def hasPragmaOnce (source : Text) : Bool := (Text.splitLines source).any isPragmaOnceLine

end ShaderSources.Source
