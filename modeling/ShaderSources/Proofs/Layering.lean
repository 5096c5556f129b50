import ShaderSources.Config.Environment
import ShaderSources.Config.Settings

namespace ShaderSources

namespace Entries

def Distinct (entries : Entries) : Prop := entries.Pairwise fun a b => a.1.same b.1 = false

theorem find?_congr {a b : Key} (h : a.same b = true) (entries : Entries) :
    find? a entries = find? b entries := by
  induction entries with
  | nil => rfl
  | cons entry rest ih => rw [find?, find?, Key.same_comm entry.1, Key.same_congr h,
      Key.same_comm b, ih]

theorem find?_eq_none {key : Key} {entries : Entries}
    (h : ∀ entry ∈ entries, key.same entry.1 = false) : find? key entries = none := by
  induction entries with
  | nil => rfl
  | cons entry rest ih =>
    rw [List.forall_mem_cons] at h
    rw [find?, Key.same_comm, h.1]
    exact ih h.2

theorem exists_entry_of_find? {key : Key} {value : Value} {entries : Entries}
    (h : find? key entries = some value) : ∃ entry ∈ entries, entry.2 = value := by
  induction entries with
  | nil => cases h
  | cons entry rest ih =>
    rw [find?] at h
    split at h
    · cases h
      exact ⟨entry, List.mem_cons_self, rfl⟩
    · obtain ⟨other, hother, he⟩ := ih h
      exact ⟨other, List.mem_cons_of_mem _ hother, he⟩

theorem find?_merge {upper : Entries} (h : upper.Distinct) (lower : Entries) (key : Key) :
    find? key (lower.merge upper) = match find? key upper with
      | some value => some (Value.over (find? key lower) value)
      | none => find? key lower := by
  rw [merge]
  induction upper generalizing lower with
  | nil => rw [mergeEntries, find?]
  | cons entry rest ih =>
    obtain ⟨first, value⟩ := entry
    obtain ⟨hfirst, hrest⟩ := List.pairwise_cons.mp h
    rw [mergeEntries, ih hrest]
    by_cases hsame : first.same key = true
    · have hnone : find? key rest = none := by
        rw [← find?_congr hsame]
        exact find?_eq_none hfirst
      rw [hnone, find?, if_pos hsame, ← find?_congr hsame, ← find?_congr hsame, find?_put_self]
    · rw [Bool.not_eq_true] at hsame
      rw [find?_put_of_not_same hsame, find?, if_neg (by simp [hsame])]

end Entries

namespace Value

def isMapping : Value → Bool
  | mapping _ => true
  | _ => false

theorem over_of_not_isMapping {value : Value} (h : value.isMapping = false) (lower : Option Value) :
    Value.over lower value = value := by
  cases value with
  | mapping upper => cases h
  | _ => rfl

theorem over_of_lower {lower : Option Value} (h : ∀ entries, lower ≠ some (mapping entries))
    (value : Value) : Value.over lower value = value := by
  cases value with
  | mapping upper =>
    unfold Value.over
    split
    · exact absurd rfl (h _)
    · rfl
  | _ => rfl

theorem over_mapping (entries inner : Entries) :
    Value.over (some (.mapping entries)) (.mapping inner) = .mapping (entries.merge inner) := by
  rw [Value.over, Entries.merge]

theorem at?_mapping (entries : Entries) (key : Key) :
    (mapping entries).at? [key] = Entries.find? key entries := by
  rw [at?]
  cases Entries.find? key entries <;> rfl

theorem at?_of_not_isMapping {value : Value} (h : value.isMapping = false) (key : Key)
    (path : List Key) : value.at? (key :: path) = none := by
  cases value with
  | mapping entries => cases h
  | _ => rfl

end Value

namespace Config

def setting? (entries : Entries) (part name : String) : Option Value :=
  (Value.mapping entries).at? [.text part, .text name]

def held (value : Value) : List String → Value
  | [] => value
  | path => .mapping (layer value path)

theorem layer_cons (value : Value) (key : String) (path : List String) :
    layer value (key :: path) = [(.text key, held value path)] := by
  cases path <;> rfl

end Config

end ShaderSources
