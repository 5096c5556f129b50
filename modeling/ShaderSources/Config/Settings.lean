import ShaderSources.Config.Load

namespace ShaderSources.Config

structure Settings where
  maxDepth : Int
  detectCycles : Bool
  pragmaOnce : Bool
  encoding : String
  includeDirs : List Path
  deriving DecidableEq, Repr

def hasNoEntries (kindName : String) : LoadError :=
  .fault (.stated .member (some s!"'{kindName}' object has no attribute 'get'"))

def isNoNumber (kindName : String) : LoadError :=
  .fault (.stated .type (some ("int() argument must be a string, a bytes-like object or a real " ++
    s!"number, not '{kindName}'")))

def isInfinite : LoadError :=
  .fault (.stated .overflow (some "cannot convert float infinity to integer"))

def isNan : LoadError := .fault (.stated .value (some "cannot convert float NaN to integer"))

def hasNoItems (kindName : String) : LoadError :=
  .fault (.stated .type (some s!"'{kindName}' object is not iterable"))

def isNoPath (kindName : String) : LoadError :=
  .fault (.stated .type (some s!"expected str, bytes or os.PathLike object, not {kindName}"))

def toInteger : Value → Except LoadError Int
  | .bool b => .ok (if b then 1 else 0)
  | .int n => .ok n
  | .float .nan => .error isNan
  | .float (.infinity _) => .error isInfinite
  | .float x => .ok (x.truncate?.getD 0)
  | .text s => (Numeral.readGrouped s.toList).mapError .numeral
  | value => .error (isNoNumber value.kindName)

def toText (value : Value) : Except LoadError String :=
  (value.plain.map String.ofList).mapError .numeral

def toItems : Value → Except LoadError (List Value)
  | .list items => .ok items
  | .text s => .ok (s.toList.map fun c => .text (String.singleton c))
  | .mapping entries => .ok (entries.map fun entry => entry.1.toValue)
  | value => .error (hasNoItems value.kindName)

def toPath : Value → Except LoadError Path
  | .text s => .ok (.ofString s)
  | value => .error (isNoPath value.kindName)

def toPaths (value : Value) : Except LoadError (List Path) := do
  (← toItems (if value.isVoid then .list [] else value)).mapM toPath

def partOf (entries : Entries) (name : String) : Value :=
  let held := (Entries.find? (.text name) entries).getD (.mapping [])
  if held.isVoid then .mapping [] else held

def readSetting (entries : Entries) (part name : String) (assumed : Value) :
    Except LoadError Value :=
  match partOf entries part with
  | .mapping inner => .ok ((Entries.find? (.text name) inner).getD assumed)
  | value => .error (hasNoEntries value.kindName)

def fromRoot (root : Option Path) (path : Path) : Path :=
  match root with
  | some root => root.join path
  | none => path

namespace Settings

def readMaxDepth (entries : Entries) : Except LoadError Int := do
  toInteger (← readSetting entries "crawler" "max_depth" (.int 32))

def readFlag (entries : Entries) (part name : String) (assumed : Bool) : Except LoadError Bool := do
  return !(← readSetting entries part name (.bool assumed)).isVoid

def readEncoding (entries : Entries) : Except LoadError String := do
  toText (← readSetting entries "provider" "encoding" (.text "utf-8"))

def readIncludeDirs (root : Option Path) (entries : Entries) : Except LoadError (List Path) := do
  let paths ← toPaths (← readSetting entries "provider" "include_dirs" (.list []))
  return paths.map (fromRoot root)

def ofEntries (root : Option Path) (entries : Entries) : Except LoadError Settings := do
  let maxDepth ← readMaxDepth entries
  let detectCycles ← readFlag entries "crawler" "detect_cycles" true
  let pragmaOnce ← readFlag entries "crawler" "pragma_once" false
  let encoding ← readEncoding entries
  let includeDirs ← readIncludeDirs root entries
  return ⟨maxDepth, detectCycles, pragmaOnce, encoding, includeDirs⟩

end Settings

def settings (read : Reader) (tree : FileTree) (environment : Environment) (root : Option Path) :
    Except LoadError Settings := do
  Settings.ofEntries root (← load read tree environment root)

end ShaderSources.Config
