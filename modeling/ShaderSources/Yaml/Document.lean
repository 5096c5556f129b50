import ShaderSources.Config.Error
import ShaderSources.Yaml.Node
import ShaderSources.Yaml.Scalar

namespace ShaderSources.Yaml

namespace Node

def depth : Node → Nat
  | scalar _ _ => 0
  | sequence items => itemsDepth items + 1
  | mapping entries => entriesDepth entries + 1
where
  itemsDepth : List Node → Nat
    | [] => 0
    | item :: items => max item.depth (itemsDepth items)
  entriesDepth : List (Node × Node) → Nat
    | [] => 0
    | (key, node) :: entries => max (max key.depth node.depth) (entriesDepth entries)

def isScalar : Node → Bool
  | scalar _ _ => true
  | _ => false

def ownFault? : Node → Option Fault
  | scalar text true => match resolve text with
    | .ok _ => none
    | .error fault => some (.numeral fault)
  | _ => none

def keyFault? (node : Node) : Option Fault :=
  if node.isScalar then node.ownFault? else some .illFormed

def partFault? : Node → Option Fault
  | scalar _ _ => none
  | sequence items => items.findSome? ownFault?
  | mapping entries => entries.findSome? fun entry => entry.1.keyFault?.or entry.2.ownFault?

def parts : Node → List Node
  | scalar _ _ => []
  | sequence items => items
  | mapping entries => entries.map Prod.snd

def faultBelow? : (levels : Nat) → List Node → Option Fault
  | 0, _ => none
  | levels + 1, nodes =>
    (nodes.findSome? partFault?).or (faultBelow? levels (nodes.flatMap parts))

def fault? (node : Node) : Option Fault := node.ownFault?.or (faultBelow? node.depth [node])

end Node

def keyOf? : Value → Option Key
  | .null => some .null
  | .bool b => some (.bool b)
  | .int n => some (.int n)
  | .float x => some (.float x)
  | .text s => some (.text s)
  | _ => none

mutual

def Node.value : Node → Except Fault Value
  | .scalar text true => (resolve text).mapError .numeral
  | .scalar text false => .ok (.text (String.ofList text))
  | .sequence items => do return .list (← itemValues items)
  | .mapping entries => do return .mapping (Entries.ofList (← entryValues entries))

def itemValues : List Node → Except Fault (List Value)
  | [] => .ok []
  | item :: items => do
    let value ← item.value
    return value :: (← itemValues items)

def entryValues : List (Node × Node) → Except Fault (List (Key × Value))
  | [] => .ok []
  | (key, node) :: entries => do
    match keyOf? (← key.value) with
    | none => throw .illFormed
    | some key =>
      let value ← node.value
      return (key, value) :: (← entryValues entries)

end

def read (text : Text) : Except Fault Value := do
  let node ← Node.ofTokens (.ofText text)
  match node.fault? with
  | some fault => throw fault
  | none => node.value

def Fault.toReadFault : Fault → Config.ReadFault
  | illFormed => .illFormed
  | numeral fault => .failed (.numeral fault)

/-- Reads plain and quoted scalars, lists and mappings in either style, and names for them. Tags,
directives, dates, merge keys and texts in block style are beyond it. -/
def reader : Config.Reader := fun text => (read text).mapError Fault.toReadFault

end ShaderSources.Yaml
