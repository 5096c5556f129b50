import ShaderSources.Number.Numeral
import ShaderSources.Value.Basic

namespace ShaderSources

def commaSeparated : List Text → Text
  | [] => []
  | [piece] => piece
  | piece :: rest => piece ++ ',' :: ' ' :: commaSeparated rest

def Key.written : Key → Except Numeral.Fault Text
  | null => .ok "None".toList
  | bool true => .ok "True".toList
  | bool false => .ok "False".toList
  | int n => Numeral.writeInt n
  | float x => .ok x.written
  | text s => .ok (Text.quoted s.toList)
  | foreign x => .ok x.written.toList

def Key.plain : Key → Except Numeral.Fault Text
  | text s => .ok s.toList
  | foreign x => .ok x.plain.toList
  | key => key.written

namespace Value

mutual

def written : Value → Except Numeral.Fault Text
  | null => .ok "None".toList
  | bool true => .ok "True".toList
  | bool false => .ok "False".toList
  | int n => Numeral.writeInt n
  | float x => .ok x.written
  | text s => .ok (Text.quoted s.toList)
  | foreign x => .ok x.written.toList
  | list items => do return '[' :: commaSeparated (← writtenItems items) ++ [']']
  | mapping entries => do return '\x7b' :: commaSeparated (← writtenEntries entries) ++ ['\x7d']

def writtenItems : List Value → Except Numeral.Fault (List Text)
  | [] => .ok []
  | item :: items => do
    let shown ← written item
    return shown :: (← writtenItems items)

def writtenEntries : List (Key × Value) → Except Numeral.Fault (List Text)
  | [] => .ok []
  | (key, value) :: entries => do
    let name ← key.written
    let shown ← written value
    return (name ++ ':' :: ' ' :: shown) :: (← writtenEntries entries)

end

def plain : Value → Except Numeral.Fault Text
  | text s => .ok s.toList
  | foreign x => .ok x.plain.toList
  | value => value.written

end Value

end ShaderSources
