import ShaderSources.Value.Basic

namespace ShaderSources

mutual

def Value.over (lower : Option Value) : Value → Value
  | .mapping upper => match lower with
    | some (.mapping entries) => .mapping (mergeEntries entries upper)
    | _ => .mapping upper
  | value => value

def mergeEntries (lower : List (Key × Value)) : List (Key × Value) → List (Key × Value)
  | [] => lower
  | (key, value) :: upper =>
    mergeEntries (Entries.put key (Value.over (Entries.find? key lower) value) lower) upper

end

namespace Entries

def merge (lower upper : Entries) : Entries := mergeEntries lower upper

@[simp] theorem merge_nil (lower : Entries) : lower.merge [] = lower := by
  simp [merge, mergeEntries]

end Entries

end ShaderSources
