import ShaderSources.Config.Settings
import ShaderSources.Proofs.Fallible
import ShaderSources.Proofs.Layering

namespace ShaderSources

namespace Binary64

theorem isIntegral_iff {x : Binary64} :
    x.isIntegral = true ↔ ∃ n : Int, x.value? = some (n : Rat) := by
  unfold isIntegral
  cases x.value? with
  | none => simp
  | some q =>
    change (q.den == 1) = true ↔ _
    rw [beq_iff_eq]
    constructor
    · intro h
      exact ⟨q.num, congrArg some (Rat.ext rfl h)⟩
    · rintro ⟨n, h⟩
      cases h
      rfl

theorem isBelow_of_value {x : Binary64} {n : Int} (h : x.value? = some (n : Rat)) (bound : Int) :
    x.isBelow bound = decide (n < bound) := by
  unfold isBelow
  rw [h]
  simp

end Binary64

namespace Config

namespace Schema

inductive Accepts : Schema → Value → Prop
  | boolean (b : Bool) : Accepts .boolean (.bool b)
  | int {minimum : Option Int} {n : Int} (hbound : ∀ bound ∈ minimum, bound ≤ n) :
      Accepts (.integer minimum) (.int n)
  | float {minimum : Option Int} {x : Binary64} {n : Int} (hvalue : x.value? = some (n : Rat))
      (hbound : ∀ bound ∈ minimum, bound ≤ n) : Accepts (.integer minimum) (.float x)
  | string {minLength : Option Nat} {s : String} (hbound : ∀ bound ∈ minLength, bound ≤ s.length) :
      Accepts (.string minLength) (.text s)
  | array {items : Schema} {values : List Value} (hitems : ∀ value ∈ values, Accepts items value) :
      Accepts (.array items) (.list values)
  | object {properties : List (String × Schema)} {entries : List (Key × Value)}
      (hkeys : ∀ entry ∈ entries, ∃ property ∈ properties, entry.1.same (.text property.1) = true)
      (hproperties : ∀ property ∈ properties, ∀ value,
        Entries.find? (.text property.1) entries = some value → Accepts property.2 value) :
      Accepts (.object properties) (.mapping entries)

theorem unexpectedKeys_eq_nil {properties : List (String × Schema)} {entries : Entries} :
    unexpectedKeys properties entries = [] ↔
      ∀ entry ∈ entries, ∃ property ∈ properties, entry.1.same (.text property.1) = true := by
  simp [unexpectedKeys]

theorem hasType_of_complaints {schema : Schema} {value : Value} (h : schema.complaints value = []) :
    schema.hasType value = true := by
  have htype := (List.append_eq_nil_iff.mp h).1
  simpa using htype

theorem complaints_boolean {value : Value} : boolean.complaints value = [] ↔ boolean.Accepts value := by
  constructor
  · intro h
    cases value with
    | bool b => exact .boolean b
    | _ => cases hasType_of_complaints h
  · rintro ⟨b⟩
    rfl

theorem complaints_integer {minimum : Option Int} {value : Value} :
    (integer minimum).complaints value = [] ↔ (integer minimum).Accepts value := by
  have hint (n : Int) :
      (integer minimum).complaints (.int n) = [] ↔ ∀ bound ∈ minimum, bound ≤ n := by
    cases minimum <;> simp [complaints, hasType, isBelow]
  have hfloat {x : Binary64} {n : Int} (hn : x.value? = some (n : Rat)) :
      (integer minimum).complaints (.float x) = [] ↔ ∀ bound ∈ minimum, bound ≤ n := by
    have hx := Binary64.isIntegral_iff.mpr ⟨n, hn⟩
    cases minimum <;> simp [complaints, hasType, isBelow, Binary64.isBelow_of_value hn, hx]
  constructor
  · intro h
    cases value with
    | int n => exact .int ((hint n).mp h)
    | float x =>
      obtain ⟨n, hn⟩ := Binary64.isIntegral_iff.mp (hasType_of_complaints h)
      exact .float hn ((hfloat hn).mp h)
    | _ => cases hasType_of_complaints h
  · intro h
    cases h with
    | int hbound => exact (hint _).mpr hbound
    | float hn hbound => exact (hfloat hn).mpr hbound

theorem complaints_string {minLength : Option Nat} {value : Value} :
    (string minLength).complaints value = [] ↔ (string minLength).Accepts value := by
  have htext (s : String) :
      (string minLength).complaints (.text s) = [] ↔ ∀ bound ∈ minLength, bound ≤ s.length := by
    cases minLength <;> simp [complaints, hasType]
  constructor
  · intro h
    cases value with
    | text s => exact .string ((htext s).mp h)
    | _ => cases hasType_of_complaints h
  · intro h
    cases h with
    | string hbound => exact (htext _).mpr hbound

theorem complaints_object (properties : List (String × Schema)) (entries : Entries) :
    (object properties).complaints (.mapping entries) = [] ↔
      ∀ entry ∈ entries, ∃ property ∈ properties, entry.1.same (.text property.1) = true := by
  rw [← unexpectedKeys_eq_nil]
  simp [complaints, hasType]

theorem ownViolations_eq_nil {path : List Step} {schema : Schema} {value : Value} :
    ownViolations path schema value = [] ↔ schema.complaints value = [] := List.map_eq_nil_iff

theorem steps_snd (values : List Value) : (steps (.list values)).map Prod.snd = values := by
  simp [steps, Function.comp_def]

mutual

theorem violations_eq_nil : (schema : Schema) → ∀ (path : List Step) (value : Value),
    violations path value schema = [] ↔ schema.Accepts value
  | .boolean, path, value => by
    simp only [violations, ownViolations_eq_nil]
    exact complaints_boolean
  | .integer minimum, path, value => by
    simp only [violations, ownViolations_eq_nil]
    exact complaints_integer
  | .string minLength, path, value => by
    simp only [violations, ownViolations_eq_nil]
    exact complaints_string
  | .array items, path, value => by
    rw [violations, List.append_eq_nil_iff, ownViolations_eq_nil, List.flatMap_eq_nil_iff]
    constructor
    · rintro ⟨hown, hsteps⟩
      cases value with
      | list values =>
        apply Accepts.array
        rw [← steps_snd values, List.forall_mem_map]
        exact fun step hstep => (violations_eq_nil items _ _).mp (hsteps step hstep)
      | _ => cases hasType_of_complaints hown
    · intro h
      cases h with
      | @array _ values hitems =>
        rw [← steps_snd values, List.forall_mem_map] at hitems
        exact ⟨rfl, fun step hstep => (violations_eq_nil items _ _).mpr (hitems step hstep)⟩
  | .object properties, path, value => by
    rw [violations, List.append_eq_nil_iff, ownViolations_eq_nil]
    constructor
    · rintro ⟨hown, hparts⟩
      cases value with
      | mapping entries =>
        have hproperties := (propertyViolations_eq_nil properties path entries).mp hparts
        exact .object ((complaints_object properties entries).mp hown) hproperties
      | _ => cases hasType_of_complaints hown
    · intro h
      cases h with
      | object hkeys hproperties =>
        exact ⟨(complaints_object properties _).mpr hkeys,
          (propertyViolations_eq_nil properties path _).mpr hproperties⟩

theorem propertyViolations_eq_nil : (properties : List (String × Schema)) →
    ∀ (path : List Step) (entries : Entries),
      propertyViolations path (.mapping entries) properties = [] ↔
        ∀ property ∈ properties, ∀ value,
          Entries.find? (.text property.1) entries = some value → property.2.Accepts value
  | [], path, entries => by simp [propertyViolations]
  | (name, schema) :: rest, path, entries => by
    rw [propertyViolations, List.append_eq_nil_iff, propertyViolations_eq_nil rest,
      List.forall_mem_cons, Value.at?]
    apply and_congr_left'
    cases Entries.find? (.text name) entries with
    | none => simp
    | some inner =>
      simp only [Option.bind_some, Value.at?, Option.some.injEq, forall_eq']
      exact violations_eq_nil schema _ inner

end

end Schema

def Schema.property? : Schema → String → Option Schema
  | .object properties, name => properties.lookup name
  | _, _ => none

theorem Schema.Accepts.property {outer inner : Schema} {value held : Value} {name : String}
    (h : outer.Accepts value) (hname : outer.property? name = some inner)
    (hheld : value.at? [.text name] = some held) : inner.Accepts held := by
  cases h with
  | object _ hproperties =>
    obtain ⟨front, back, hmem, -⟩ := List.lookup_eq_some_iff.mp hname
    rw [Value.at?_mapping] at hheld
    exact hproperties (name, inner) (by simp [hmem]) held hheld
  | _ => cases hname

theorem exists_text {bound : Nat} {value : Value} (h : (Schema.string (some bound)).Accepts value) :
    ∃ s, value = .text s ∧ bound ≤ s.length := by
  cases h with
  | @string _ s hbound => exact ⟨s, rfl, hbound bound rfl⟩

end Config

end ShaderSources
