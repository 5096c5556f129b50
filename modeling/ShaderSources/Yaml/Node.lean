import ShaderSources.Yaml.Token

namespace ShaderSources.Yaml

inductive Node
  | scalar (text : Text) (plain : Bool)
  | sequence (items : List Node)
  | mapping (entries : List (Node × Node))
  deriving Repr, Inhabited

def Node.empty : Node := .scalar [] true

structure Input where
  tokens : List Token
  fault : Option Fault
  names : List String
  anchors : List (String × Node)

abbrev Reader := StateT Input (Except Fault)

namespace Reader

def refuse {α : Type} : Reader α := throw .illFormed

def peek : Reader (Option Token) := do
  let input ← get
  match input.tokens, input.fault with
  | [], some fault => throw fault
  | tokens, _ => return tokens.head?

def skip : Reader Unit := modify fun input => { input with tokens := input.tokens.tail }

def meets (tokens : List Token) : Reader Bool := do
  match ← peek with
  | some token => return tokens.contains token
  | none => return false

def takeName (name : String) : Reader Unit := do
  if (← get).names.contains name then refuse
  modify fun input => { input with names := name :: input.names }

def addAnchor (name : String) (node : Node) : Reader Unit :=
  modify fun input => { input with anchors := (name, node) :: input.anchors }

end Reader

namespace Node

open Reader

mutual

/-- Reads a node; `block` and `indentless` tell whether it may be a block, and a sequence that is
not indented. -/
def read : Nat → (block indentless : Bool) → Reader Node
  | 0, _, _ => refuse
  | fuel + 1, block, indentless => do
    match ← peek with
    | some (.reference name) =>
      skip
      match (← get).anchors.lookup name with
      | some node => return node
      | none => refuse
    | some (.anchor name) =>
      skip
      let _ ← peek
      takeName name
      let node ← readContent fuel block indentless true
      addAnchor name node
      return node
    | _ => readContent fuel block indentless false

def readContent : Nat → (block indentless anchored : Bool) → Reader Node
  | 0, _, _, _ => refuse
  | fuel + 1, block, indentless, anchored => do
    match ← peek with
    | some (.scalar text plain) =>
      skip
      return .scalar text plain
    | some .flowSequenceStart =>
      skip
      return .sequence (← readFlowItems fuel true)
    | some .flowMappingStart =>
      skip
      return .mapping (← readFlowEntries fuel true)
    | some .blockEntry =>
      if indentless then return .sequence (← readIndentless fuel)
      else if anchored then return empty
      else refuse
    | some .blockSequenceStart =>
      if block then
        skip
        return .sequence (← readBlockItems fuel)
      else if anchored then return empty
      else refuse
    | some .blockMappingStart =>
      if block then
        skip
        return .mapping (← readBlockEntries fuel)
      else if anchored then return empty
      else refuse
    | _ => if anchored then return empty else refuse

def readUnless : Nat → List Token → (block indentless : Bool) → Reader Node
  | 0, _, _, _ => refuse
  | fuel + 1, stops, block, indentless => do
    match ← peek with
    | none => read fuel block indentless
    | some token => if stops.contains token then return empty else read fuel block indentless

def readBlockItems : Nat → Reader (List Node)
  | 0 => refuse
  | fuel + 1 => do
    match ← peek with
    | some .blockEntry =>
      skip
      let item ← readUnless fuel [.blockEntry, .blockEnd] true false
      return item :: (← readBlockItems fuel)
    | some .blockEnd =>
      skip
      return []
    | _ => refuse

def readIndentless : Nat → Reader (List Node)
  | 0 => refuse
  | fuel + 1 => do
    match ← peek with
    | some .blockEntry =>
      skip
      let item ← readUnless fuel [.blockEntry, .key, .value, .blockEnd] true false
      return item :: (← readIndentless fuel)
    | _ => return []

def readMapped : Nat → List Token → (block indentless : Bool) → Reader Node
  | 0, _, _, _ => refuse
  | fuel + 1, stops, block, indentless => do
    if ← meets [.value] then
      skip
      readUnless fuel stops block indentless
    else return empty

def readBlockEntries : Nat → Reader (List (Node × Node))
  | 0 => refuse
  | fuel + 1 => do
    match ← peek with
    | some .key =>
      skip
      let key ← readUnless fuel [.key, .value, .blockEnd] true true
      let value ← readMapped fuel [.key, .value, .blockEnd] true true
      return (key, value) :: (← readBlockEntries fuel)
    | some .blockEnd =>
      skip
      return []
    | _ => refuse

def readFlowItems : Nat → (first : Bool) → Reader (List Node)
  | 0, _ => refuse
  | fuel + 1, first => do
    if ← meets [.flowSequenceEnd] then
      skip
      return []
    if !first then
      if ← meets [.flowEntry] then skip else refuse
    match ← peek with
    | some .key =>
      skip
      let key ← readUnless fuel [.value, .flowEntry, .flowSequenceEnd] false false
      let value ← readMapped fuel [.flowEntry, .flowSequenceEnd] false false
      return .mapping [(key, value)] :: (← readFlowItems fuel false)
    | some .flowSequenceEnd =>
      skip
      return []
    | _ =>
      let item ← read fuel false false
      return item :: (← readFlowItems fuel false)

def readFlowEntries : Nat → (first : Bool) → Reader (List (Node × Node))
  | 0, _ => refuse
  | fuel + 1, first => do
    if ← meets [.flowMappingEnd] then
      skip
      return []
    if !first then
      if ← meets [.flowEntry] then skip else refuse
    match ← peek with
    | some .key =>
      skip
      let key ← readUnless fuel [.value, .flowEntry, .flowMappingEnd] false false
      let value ← readMapped fuel [.flowEntry, .flowMappingEnd] false false
      return (key, value) :: (← readFlowEntries fuel false)
    | some .flowMappingEnd =>
      skip
      return []
    | _ =>
      let key ← read fuel false false
      return (key, empty) :: (← readFlowEntries fuel false)

end

def skipEnds : Nat → Reader Unit
  | 0 => refuse
  | fuel + 1 => do
    if ← meets [.documentEnd] then
      skip
      skipEnds fuel

def readToEnd (fuel : Nat) (explicit : Bool) : Reader Node := do
  let node ← match explicit, ← peek with
    | true, none => pure empty
    | true, some .documentStart => pure empty
    | true, some .documentEnd => pure empty
    | _, _ => read fuel true false
  skipEnds fuel
  match ← peek with
  | none => return node
  | some _ => refuse

def readDocument (fuel : Nat) : Reader Node := do
  match ← peek with
  | none => return empty
  | some .documentStart =>
    skip
    readToEnd fuel true
  | some _ => readToEnd fuel false

def ofTokens (tokens : Tokens) : Except Fault Node :=
  (readDocument (4 * tokens.list.length + 4) ⟨tokens.list, tokens.fault, [], []⟩).map Prod.fst

end Node

end ShaderSources.Yaml
