import ShaderSources.Number.FloatText
import ShaderSources.Text.Quoted

namespace ShaderSources

/-- A value of a kind that only a document can hold, such as a date. -/
structure Foreign where
  kindName : String
  plain : String
  written : String
  isVoid : Bool
  deriving DecidableEq, Repr

inductive Key
  | null
  | bool (b : Bool)
  | int (n : Int)
  | float (x : Binary64)
  | text (s : String)
  | foreign (x : Foreign)
  deriving DecidableEq, Repr

inductive Value
  | null
  | bool (b : Bool)
  | int (n : Int)
  | float (x : Binary64)
  | text (s : String)
  | foreign (x : Foreign)
  | list (items : List Value)
  | mapping (entries : List (Key × Value))
  deriving Inhabited, Repr

abbrev Entries := List (Key × Value)

namespace Key

/-- What a key addresses an entry by: a number, of whatever kind it is, by its value, and any other
key by itself. -/
def address : Key → Rat ⊕ Key
  | bool b => .inl (mkRat (if b then 1 else 0) 1)
  | int n => .inl (mkRat n 1)
  | float x => match x.value? with
    | some q => .inl q
    | none => .inr (float x)
  | key => .inr key

def same (a b : Key) : Bool := a.address = b.address

theorem same_iff {a b : Key} : a.same b = true ↔ a.address = b.address := by simp [same]

@[simp] theorem same_self (a : Key) : a.same a = true := same_iff.2 rfl

theorem same_comm (a b : Key) : a.same b = b.same a := by
  rw [Bool.eq_iff_iff, same_iff, same_iff]
  exact eq_comm

theorem same_congr {a b : Key} (h : a.same b = true) (c : Key) : a.same c = b.same c := by
  rw [Bool.eq_iff_iff, same_iff, same_iff, same_iff.1 h]

@[simp] theorem same_text (s t : String) : (text s).same (text t) = decide (s = t) := by
  simp [same, address]

def toValue : Key → Value
  | null => .null
  | bool b => .bool b
  | int n => .int n
  | float x => .float x
  | text s => .text s
  | foreign x => .foreign x

end Key

namespace Entries

def find? (key : Key) : Entries → Option Value
  | [] => none
  | entry :: rest => if entry.1.same key then some entry.2 else find? key rest

def put (key : Key) (value : Value) : Entries → Entries
  | [] => [(key, value)]
  | entry :: rest =>
    if entry.1.same key then (entry.1, value) :: rest else entry :: put key value rest

def ofList (entries : Entries) : Entries :=
  entries.foldl (fun found entry => put entry.1 entry.2 found) []

@[simp] theorem find?_put_self (key : Key) (value : Value) (entries : Entries) :
    find? key (put key value entries) = some value := by
  induction entries with
  | nil => simp [put, find?]
  | cons entry rest ih =>
    by_cases h : entry.1.same key = true
    · simp [put, find?, h]
    · simp [put, find?, h, ih]

theorem find?_put_of_not_same {key other : Key} (h : key.same other = false) (value : Value)
    (entries : Entries) : find? other (put key value entries) = find? other entries := by
  induction entries with
  | nil => simp [put, find?, h]
  | cons entry rest ih =>
    by_cases hk : entry.1.same key = true
    · have ho : entry.1.same other = false := by rw [Key.same_congr hk, h]
      simp [put, find?, hk, ho]
    · by_cases ho : entry.1.same other = true
      · simp [put, find?, hk, ho]
      · simp [put, find?, hk, ho, ih]

end Entries

namespace Value

def kindName : Value → String
  | null => "NoneType"
  | bool _ => "bool"
  | int _ => "int"
  | float _ => "float"
  | text _ => "str"
  | foreign x => x.kindName
  | list _ => "list"
  | mapping _ => "dict"

def isVoid : Value → Bool
  | null => true
  | bool b => !b
  | int n => n == 0
  | float x => x.isZero
  | text s => s.isEmpty
  | foreign x => x.isVoid
  | list items => items.isEmpty
  | mapping entries => entries.isEmpty

def at? (value : Value) : List Key → Option Value
  | [] => some value
  | key :: path => match value with
    | mapping entries => (Entries.find? key entries).bind fun inner => inner.at? path
    | _ => none

end Value

end ShaderSources
