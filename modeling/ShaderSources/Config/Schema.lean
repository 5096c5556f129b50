import ShaderSources.Value.Written

namespace ShaderSources.Config

inductive Schema
  | boolean
  | integer (minimum : Option Int)
  | string (minLength : Option Nat)
  | array (items : Schema)
  | object (properties : List (String × Schema))
  deriving Repr

inductive Step
  | key (name : String)
  | index (n : Nat)
  deriving DecidableEq, Repr

def Step.text : Step → String
  | key name => name
  | index n => toString n

def Step.after : Step → Step → Bool
  | key a, key b => b < a
  | index m, index n => n < m
  | index _, key _ => false
  | key _, index _ => true

inductive Complaint
  | wrongType (value : Value) (expected : String)
  | belowMinimum (value : Value) (bound : Int)
  | tooShort (s : String) (bound : Nat)
  | unexpected (keys : List Key)
  deriving Repr

structure Violation where
  path : List Step
  complaint : Complaint
  deriving Repr

namespace Complaint

def lengthDetail (s : String) (bound : Nat) : String :=
  quotedString s ++ if bound = 1 then " should be non-empty" else " is too short"

def sortedKeys (keys : List Key) : Except Numeral.Fault (List Key) := do
  let plain ← keys.mapM Key.plain
  let named := (plain.map String.ofList).zip keys
  return (named.mergeSort fun a b => !decide (b.1 < a.1)).map Prod.snd

def detail : Complaint → Except Numeral.Fault String
  | wrongType value expected => do
    let shown ← value.written
    return s!"{String.ofList shown} is not of type '{expected}'"
  | belowMinimum value bound => do
    let shown ← value.written
    return s!"{String.ofList shown} is less than the minimum of {bound}"
  | tooShort s bound => .ok (lengthDetail s bound)
  | unexpected keys => do
    let sorted ← sortedKeys keys
    let shown := commaSeparated (← sorted.mapM Key.written)
    let verb := if keys.length = 1 then "was" else "were"
    return s!"Additional properties are not allowed ({String.ofList shown} {verb} unexpected)"

end Complaint

namespace Schema

def typeName : Schema → String
  | boolean => "boolean"
  | integer _ => "integer"
  | string _ => "string"
  | array _ => "array"
  | object _ => "object"

/-- Whether a value is of the type that a schema asks for. A float without a fraction is an integer,
a boolean is none. -/
def hasType : Schema → Value → Bool
  | boolean, .bool _ => true
  | integer _, .int _ => true
  | integer _, .float x => x.isIntegral
  | string _, .text _ => true
  | array _, .list _ => true
  | object _, .mapping _ => true
  | _, _ => false

def isBelow (bound : Int) : Value → Bool
  | .int n => n < bound
  | .float x => x.isBelow bound
  | _ => false

def unexpectedKeys (properties : List (String × Schema)) (entries : Entries) : List Key :=
  (entries.map Prod.fst).filter fun key => !properties.any fun p => key.same (.text p.1)

def complaints (schema : Schema) (value : Value) : List Complaint :=
  (if schema.hasType value then [] else [.wrongType value schema.typeName]) ++
    match schema, value with
    | integer (some bound), value => if isBelow bound value then [.belowMinimum value bound] else []
    | string (some bound), .text s => if s.length < bound then [.tooShort s bound] else []
    | object properties, .mapping entries =>
      let keys := unexpectedKeys properties entries
      if keys.isEmpty then [] else [.unexpected keys]
    | _, _ => []

def ownViolations (path : List Step) (schema : Schema) (value : Value) : List Violation :=
  (schema.complaints value).map (Violation.mk path)

def steps : Value → List (Step × Value)
  | .list items => items.zipIdx.map fun item => (.index item.2, item.1)
  | _ => []

mutual

def violations (path : List Step) (value : Value) : Schema → List Violation
  | array items =>
    ownViolations path (array items) value ++
      (steps value).flatMap fun step => violations (path ++ [step.1]) step.2 items
  | object properties =>
    ownViolations path (object properties) value ++ propertyViolations path value properties
  | schema => ownViolations path schema value

def propertyViolations (path : List Step) (value : Value) :
    List (String × Schema) → List Violation
  | [] => []
  | (name, schema) :: rest =>
    (match value.at? [.text name] with
      | some inner => violations (path ++ [.key name]) inner schema
      | none => []) ++ propertyViolations path value rest

end

end Schema

def pathAfter : List Step → List Step → Bool
  | a :: as, b :: bs => if a = b then pathAfter as bs else a.after b
  | _, _ => false

/-- Whether a violation is reported rather than another one that was found before it. -/
def Violation.outranks (new old : Violation) : Bool :=
  new.path.length < old.path.length ||
    (new.path.length = old.path.length && pathAfter new.path old.path)

def foremost : List Violation → Option Violation
  | [] => none
  | v :: rest => some (rest.foldl (fun best v => if v.outranks best then v else best) v)

def Schema.violation? (schema : Schema) (value : Value) : Option Violation :=
  foremost (schema.violations [] value)

def Violation.location (v : Violation) : String :=
  let shown := String.intercalate "." (v.path.map Step.text)
  if shown.isEmpty then "<root>" else shown

def Schema.report? (schema : Schema) (value : Value) :
    Except Numeral.Fault (Option (String × String)) := do
  let _ ← (schema.violations [] value).mapM fun v => v.complaint.detail
  match schema.violation? value with
  | none => return none
  | some v => return some (v.location, ← v.complaint.detail)

end ShaderSources.Config
