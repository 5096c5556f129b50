import ShaderSources.Source.Comment
import ShaderSources.Text.Blank
import ShaderSources.Text.Word

namespace ShaderSources.Source

inductive Delimiter
  | quotes
  | angles
  deriving DecidableEq, Repr

namespace Delimiter

def opening : Delimiter → Char
  | quotes => '"'
  | angles => '<'

def closing : Delimiter → Char
  | quotes => '"'
  | angles => '>'

def ofOpening? (c : Char) : Option Delimiter :=
  if c = '"' then some quotes else if c = '<' then some angles else none

end Delimiter

/-- An include line that can be followed. `opensComment` tells that the line leaves a block
comment open behind it. -/
structure Directive where
  path : String
  delimiter : Delimiter
  line : Int
  opensComment : Bool
  deriving DecidableEq, Repr

inductive Malformed
  | missingPath
  | unexpectedOpening
  | unterminatedPath
  | emptyPath
  | trailingText
  deriving DecidableEq, Repr

def Malformed.reason : Malformed → String
  | missingPath => "missing include path"
  | unexpectedOpening => "expected \"path\" or <path>"
  | unterminatedPath => "unterminated include path"
  | emptyPath => "empty include path"
  | trailingText => "unexpected text after include path"

inductive Reading
  | ordinary
  | directive (d : Directive)
  | malformed (m : Malformed)
  deriving DecidableEq, Repr

def isLeadingBlank (c : Char) : Bool := Text.isSpaceOrTab c || c = '\x0c' || c = '\x0b'

def afterKeyword? (body : Text) : Option Text :=
  match body.dropWhile isLeadingBlank with
  | '#' :: text =>
    match Text.after? "include".toList (text.dropWhile Text.isSpaceOrTab) with
    | some [] => some []
    | some (c :: rest) => if Text.isAsciiAlphanumeric c || c = '_' then none else some (c :: rest)
    | none => none
  | _ => none

def cutPath? (closing : Char) : Text → Option (Text × Text)
  | [] => none
  | c :: text =>
    if c = closing then some ([], text)
    else (cutPath? closing text).map fun parts => (c :: parts.1, parts.2)

def onOneLine (text : Text) : Bool := !text.contains '\n'

def isLastComment : Text → Bool
  | [] => true
  | '/' :: '/' :: text => onOneLine text
  | '/' :: '*' :: text => onOneLine text && (Text.cut? "*/".toList text).isNone
  | _ => false

def closesBeforeLastComment : Text → Bool
  | [] => false
  | '*' :: '/' :: text =>
    isLastComment (text.dropWhile Text.isSpaceOrTab) || closesBeforeLastComment ('/' :: text)
  | c :: text => c ≠ '\n' && closesBeforeLastComment text

/-- What may stand behind the path: the texts that match
`[ \t]*(?:/\*.*?\*/[ \t]*)*(?://.*|/\*(?:(?!\*/).)*)?`. The repeated group is one stretch from `/*` to some
`*/`, whatever is between. -/
def isTrailer (text : Text) : Bool :=
  match text.dropWhile Text.isSpaceOrTab with
  | '/' :: '*' :: rest => isLastComment ('/' :: '*' :: rest) || closesBeforeLastComment rest
  | rest => isLastComment rest

def readPath (line : Int) (delimiter : Delimiter) (text : Text) : Reading :=
  match cutPath? delimiter.closing text with
  | none => .malformed .unterminatedPath
  | some (path, trailer) =>
    if path.all Text.isBlank then .malformed .emptyPath
    else if !isTrailer trailer then .malformed .trailingText
    else .directive ⟨String.ofList path, delimiter, line, commentOpenAfter false trailer⟩

def Reading.ofBody (line : Int) (body : Text) : Reading :=
  match afterKeyword? body with
  | none => .ordinary
  | some text =>
    match text.dropWhile Text.isSpaceOrTab with
    | [] => .malformed .missingPath
    | c :: rest =>
      match Delimiter.ofOpening? c with
      | none => .malformed .unexpectedOpening
      | some delimiter => readPath line delimiter rest

end ShaderSources.Source
