import ShaderSources.Expansion.Error

namespace ShaderSources

inductive FaultKind
  | value
  | key
  | missingFile
  | general
  | type
  | member
  | system
  | index
  | lookup
  | unicode
  | decoding
  | overflow
  | library
  | configuration
  deriving DecidableEq, Repr

def FaultKind.label : FaultKind → String
  | value => "ValueError"
  | key => "KeyError"
  | missingFile => "FileNotFoundError"
  | general => "RuntimeError"
  | type => "TypeError"
  | member => "AttributeError"
  | system => "OSError"
  | index => "IndexError"
  | lookup => "LookupError"
  | unicode => "UnicodeError"
  | decoding => "UnicodeDecodeError"
  | overflow => "OverflowError"
  | library => "ShaderCrawlError"
  | configuration => "ConfigError"

structure Undecodable where
  codec : String
  bytes : List UInt8
  start : Nat
  stop : Nat
  reason : String
  deriving DecidableEq, Repr

inductive Fault
  | stated (kind : FaultKind) (message : Option String)
  | notFound (path : String)
  | notFoundAmong (path : String) (searched : List String)
  | notPrepared (path : String)
  | tooFewParts (count : Nat)
  | tooManyParts
  | noParts (kindName : String)
  | notText (kindName : String)
  | notExtendable (kindName : String)
  | nameTooLong (path : String)
  | unknownEncoding (name : String)
  | undecodable (detail : Undecodable)
  | unmarkedStream
  | nulInName
  deriving DecidableEq, Repr

namespace Fault

def kind : Fault → FaultKind
  | stated kind _ => kind
  | notFound _ | notFoundAmong _ _ | notPrepared _ => .missingFile
  | tooFewParts _ | tooManyParts | nulInName => .value
  | noParts _ | notText _ | notExtendable _ => .type
  | nameTooLong _ => .system
  | unknownEncoding _ => .lookup
  | undecodable _ => .decoding
  | unmarkedStream => .unicode

def statedMessage? : FaultKind → Option String → Option String
  | .library, message => some (message.getD "")
  | .configuration, message => some (message.getD "")
  | _, message => message

def extensionMessage (kindName : String) : String :=
  if kindName = "str" then "can only concatenate str (not \"list\") to str"
  else s!"unsupported operand type(s) for +: '{kindName}' and 'list'"

def searchedMessage (path : String) (searched : List String) : String :=
  s!"Include not found: {path}\nSearched:\n" ++
    String.intercalate "\n" (searched.map fun place => "- " ++ place)

def undecodableMessage (u : Undecodable) : String :=
  if u.stop = u.start + 1 then
    let byte := Text.hexDigits 2 ((u.bytes[u.start]?).getD 0).toNat
    s!"'{u.codec}' codec can't decode byte 0x{String.ofList byte} in position {u.start}: {u.reason}"
  else
    s!"'{u.codec}' codec can't decode bytes in position {u.start}-{u.stop - 1}: {u.reason}"

def text? : Fault → Option String
  | stated kind message => statedMessage? kind message
  | notFound path => some s!"Include not found: {path}"
  | notFoundAmong path searched => some (searchedMessage path searched)
  | notPrepared path => some s!"no such include: {path}"
  | tooFewParts count => some s!"not enough values to unpack (expected 2, got {count})"
  | tooManyParts => some "too many values to unpack (expected 2)"
  | noParts kindName => some s!"cannot unpack non-iterable {kindName} object"
  | notText kindName => some s!"get_include returned {kindName}, expected str"
  | notExtendable kindName => some (extensionMessage kindName)
  | nameTooLong path => some s!"[Errno 36] File name too long: {quotedString path}"
  | unknownEncoding name => some s!"unknown encoding: {name}"
  | undecodable detail => some (undecodableMessage detail)
  | unmarkedStream => some "UTF-16 stream does not start with BOM"
  | nulInName => some "embedded null character"

def message (fault : Fault) : String :=
  match fault.kind, fault.text? with
  | _, none => ""
  | .key, some text => quotedString text
  | _, some text => text

def arguments : Fault → String
  | nameTooLong _ => "36, 'File name too long'"
  | undecodable u =>
    s!"{quotedString u.codec}, {String.ofList (Text.quotedBytes u.bytes)}, {u.start}, {u.stop}, " ++
      quotedString u.reason
  | fault => (fault.text?.map quotedString).getD ""

def written (fault : Fault) : String := s!"{fault.kind.label}({fault.arguments})"

def causeText : CauseText Fault := ⟨written, message⟩

end Fault

end ShaderSources
