import ShaderSources.Provider.Fault

namespace ShaderSources

abbrev Decoder := List UInt8 → Except Fault Text

inductive Codec
  | utf8
  | utf8Signed
  | latin1
  | ascii
  | utf16
  | utf16Little
  | utf16Big
  deriving DecidableEq, Repr

namespace Codec

def isNameChar (c : Char) : Bool :=
  ('0' ≤ c && c ≤ '9') || ('A' ≤ c && c ≤ 'Z') || ('a' ≤ c && c ≤ 'z') || c = '.'

def normalName : Text → Text → Bool → Text
  | [], done, _ => done.reverse
  | c :: text, done, gap =>
    if isNameChar c then
      let done := if gap && !done.isEmpty then '_' :: done else done
      normalName text (c.toLower :: done) false
    else normalName text done true

def names : List (String × Codec) :=
  [("utf_8", utf8), ("utf_8_sig", utf8Signed), ("latin_1", latin1), ("ascii", ascii),
   ("utf_16", utf16), ("utf_16_le", utf16Little), ("utf_16_be", utf16Big)]

def aliases : List (String × Codec) :=
  [("utf8", utf8), ("u8", utf8), ("utf", utf8), ("cp65001", utf8), ("utf8_ucs2", utf8),
   ("utf8_ucs4", utf8),
   ("latin1", latin1), ("latin", latin1), ("l1", latin1), ("iso_8859_1", latin1),
   ("iso8859_1", latin1), ("iso8859", latin1), ("8859", latin1), ("cp819", latin1),
   ("csisolatin1", latin1), ("ibm819", latin1), ("iso_8859_1_1987", latin1),
   ("iso_ir_100", latin1),
   ("us_ascii", ascii), ("us", ascii), ("646", ascii), ("cp367", ascii), ("csascii", ascii),
   ("ibm367", ascii), ("iso646_us", ascii), ("iso_ir_6", ascii), ("ansi_x3.4_1968", ascii),
   ("ansi_x3_4_1968", ascii), ("ansi_x3.4_1986", ascii), ("iso_646.irv_1991", ascii),
   ("utf16", utf16), ("u16", utf16),
   ("utf_16le", utf16Little), ("unicodelittleunmarked", utf16Little),
   ("utf_16be", utf16Big), ("unicodebigunmarked", utf16Big)]

def ofName? (name : String) : Option Codec :=
  let normal := normalName name.toList [] false
  let pointless := normal.map fun c => if c = '.' then '_' else c
  ((names ++ aliases).lookup (String.ofList normal)).or (aliases.lookup (String.ofList pointless))

def isContinuation (byte : UInt8) : Bool := 0x80 ≤ byte && byte < 0xC0

def sizeOf? (lead : UInt8) : Option Nat :=
  if lead < 0x80 then some 1
  else if lead < 0xC2 then none
  else if lead < 0xE0 then some 2
  else if lead < 0xF0 then some 3
  else if lead < 0xF5 then some 4
  else none

def isSecond (lead byte : UInt8) : Bool :=
  isContinuation byte &&
    if lead = 0xE0 then 0xA0 ≤ byte
    else if lead = 0xED then byte < 0xA0
    else if lead = 0xF0 then 0x90 ≤ byte
    else if lead = 0xF4 then byte < 0x90
    else true

def following (lead : UInt8) (limit : Nat) (bytes : List UInt8) : List UInt8 :=
  match limit, bytes with
  | limit + 1, second :: rest =>
    if isSecond lead second then second :: (rest.take limit).takeWhile isContinuation else []
  | _, _ => []

def leadBits (lead : UInt8) (size : Nat) : Nat :=
  if size = 2 then lead.toNat % 0x20 else if size = 3 then lead.toNat % 0x10 else lead.toNat % 0x8

def readUtf8 (lead : UInt8) (rest : List UInt8) : Except (Nat × String) (Char × Nat) :=
  match sizeOf? lead with
  | none => .error (1, "invalid start byte")
  | some 1 => .ok (Char.ofNat lead.toNat, 1)
  | some size =>
    let tail := following lead (size - 1) rest
    if tail.length + 1 = size then
      .ok (Char.ofNat (tail.foldl (fun n byte => n * 64 + byte.toNat % 64) (leadBits lead size)),
        size)
    else if rest.length = tail.length then .error (tail.length + 1, "unexpected end of data")
    else .error (tail.length + 1, "invalid continuation byte")

def decodeUtf8From (all : List UInt8) : (position skip : Nat) → List UInt8 →
    Except Fault Text
  | _, _, [] => .ok []
  | position, skip + 1, _ :: rest => decodeUtf8From all (position + 1) skip rest
  | position, 0, lead :: rest =>
    match readUtf8 lead rest with
    | .error (size, reason) =>
      .error (.undecodable ⟨"utf-8", all, position, position + size, reason⟩)
    | .ok (c, size) => do
      let text ← decodeUtf8From all (position + 1) (size - 1) rest
      return c :: text

def decodeUtf8 (bytes : List UInt8) : Except Fault Text := decodeUtf8From bytes 0 0 bytes

def signature : List UInt8 := [0xEF, 0xBB, 0xBF]

def decodeUtf8Signed (bytes : List UInt8) : Except Fault Text :=
  if bytes.length < 3 ∧ bytes.isPrefixOf signature then .ok []
  else if signature.isPrefixOf bytes then decodeUtf8 (bytes.drop 3)
  else decodeUtf8 bytes

def decodeAsciiFrom (all : List UInt8) : Nat → List UInt8 → Except Fault Text
  | _, [] => .ok []
  | position, byte :: rest =>
    if byte < 0x80 then do
      let text ← decodeAsciiFrom all (position + 1) rest
      return Char.ofNat byte.toNat :: text
    else .error (.undecodable
      ⟨"ascii", all, position, position + 1, "ordinal not in range(128)"⟩)

inductive ByteOrder
  | little
  | big
  deriving DecidableEq, Repr

namespace ByteOrder

def codecName : ByteOrder → String
  | little => "utf-16-le"
  | big => "utf-16-be"

def unit : ByteOrder → UInt8 → UInt8 → Nat
  | little, a, b => a.toNat + 256 * b.toNat
  | big, a, b => 256 * a.toNat + b.toNat

end ByteOrder

def isHighSurrogate (n : Nat) : Bool := 0xD800 ≤ n && n < 0xDC00
def isLowSurrogate (n : Nat) : Bool := 0xDC00 ≤ n && n < 0xE000

def decodeUnits (order : ByteOrder) (all : List UInt8) : Nat → List UInt8 → Except Fault Text
  | _, [] => .ok []
  | position, [_] =>
    .error (.undecodable ⟨order.codecName, all, position, position + 1, "truncated data"⟩)
  | position, a :: b :: rest =>
    let fail (stop : Nat) (reason : String) : Except Fault Text :=
      .error (.undecodable ⟨order.codecName, all, position, stop, reason⟩)
    let first := order.unit a b
    if isHighSurrogate first then
      match rest with
      | c :: d :: rest =>
        let second := order.unit c d
        if isLowSurrogate second then do
          let text ← decodeUnits order all (position + 4) rest
          return Char.ofNat (0x10000 + (first - 0xD800) * 0x400 + (second - 0xDC00)) :: text
        else fail (position + 2) "illegal UTF-16 surrogate"
      | _ => fail all.length "unexpected end of data"
    else if isLowSurrogate first then fail (position + 2) "illegal encoding"
    else do
      let text ← decodeUnits order all (position + 2) rest
      return Char.ofNat first :: text

def decodeUtf16 : List UInt8 → Except Fault Text
  | 0xFF :: 0xFE :: rest => decodeUnits .little (0xFF :: 0xFE :: rest) 2 rest
  | 0xFE :: 0xFF :: rest => decodeUnits .big (0xFE :: 0xFF :: rest) 2 rest
  | bytes => do
    let text ← decodeUnits .little bytes 0 bytes
    if bytes.isEmpty then return text else throw .unmarkedStream

def decode : Codec → Decoder
  | utf8, bytes => decodeUtf8 bytes
  | utf8Signed, bytes => decodeUtf8Signed bytes
  | latin1, bytes => .ok (bytes.map fun byte => Char.ofNat byte.toNat)
  | ascii, bytes => decodeAsciiFrom bytes 0 bytes
  | utf16, bytes => decodeUtf16 bytes
  | utf16Little, bytes => decodeUnits .little bytes 0 bytes
  | utf16Big, bytes => decodeUnits .big bytes 0 bytes

end Codec

/-- Decodes bytes in one of the encodings that are known by name here. -/
def decodeBytes (encoding : String) : Decoder := fun bytes =>
  if encoding.contains '\x00' then .error .nulInName
  else match Codec.ofName? encoding with
    | none => .error (.unknownEncoding encoding)
    | some codec => codec.decode bytes

end ShaderSources
