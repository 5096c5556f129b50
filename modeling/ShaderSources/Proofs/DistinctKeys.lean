import ShaderSources.Config.Load
import ShaderSources.Yaml.Document
import ShaderSources.Proofs.Fallible
import ShaderSources.Proofs.Layering

namespace ShaderSources

inductive Value.Keyed : Value → Prop
  | null : Keyed .null
  | bool (b : Bool) : Keyed (.bool b)
  | int (n : Int) : Keyed (.int n)
  | float (x : Binary64) : Keyed (.float x)
  | text (s : String) : Keyed (.text s)
  | foreign (x : Foreign) : Keyed (.foreign x)
  | list {items : List Value} (hitems : ∀ item ∈ items, Keyed item) : Keyed (.list items)
  | mapping {entries : List (Key × Value)} (hdistinct : Entries.Distinct entries)
      (hvalues : ∀ entry ∈ entries, Keyed entry.2) : Keyed (.mapping entries)

namespace Value.Keyed

variable {entries : List (Key × Value)}

theorem distinct (h : (Value.mapping entries).Keyed) : Entries.Distinct entries := by
  cases h with
  | mapping hdistinct _ => exact hdistinct

theorem of_find? (h : (Value.mapping entries).Keyed) {key : Key} {value : Value}
    (hfind : Entries.find? key entries = some value) : value.Keyed := by
  obtain ⟨entry, hentry, rfl⟩ := Entries.exists_entry_of_find? hfind
  cases h with
  | mapping _ hvalues => exact hvalues entry hentry

end Value.Keyed

namespace Entries

theorem mem_put {key : Key} {value : Value} {entries : Entries} {entry : Key × Value}
    (h : entry ∈ put key value entries) :
    (entry.2 = value ∧ entry.1.same key = true) ∨ entry ∈ entries := by
  induction entries with
  | nil =>
    rw [put, List.mem_singleton] at h
    subst h
    exact .inl ⟨rfl, Key.same_self key⟩
  | cons first rest ih =>
    rw [put] at h
    by_cases hsame : first.1.same key = true
    · rw [if_pos hsame] at h
      rcases List.mem_cons.mp h with rfl | h
      · exact .inl ⟨rfl, hsame⟩
      · exact .inr (List.mem_cons_of_mem _ h)
    · rw [if_neg hsame] at h
      rcases List.mem_cons.mp h with rfl | h
      · exact .inr List.mem_cons_self
      · exact (ih h).imp_right (List.mem_cons_of_mem _)

theorem Distinct.put {entries : Entries} (h : entries.Distinct) (key : Key) (value : Value) :
    (put key value entries).Distinct := by
  induction entries with
  | nil => exact List.pairwise_singleton _ _
  | cons first rest ih =>
    obtain ⟨hfirst, hrest⟩ := List.pairwise_cons.mp h
    rw [Entries.put]
    by_cases hsame : first.1.same key = true
    · rw [if_pos hsame]
      exact List.pairwise_cons.mpr ⟨hfirst, hrest⟩
    · rw [if_neg hsame]
      refine List.pairwise_cons.mpr ⟨?_, ih hrest⟩
      intro entry hentry
      rcases mem_put hentry with ⟨-, hkey⟩ | hentry
      · rw [Key.same_comm, Key.same_congr hkey, Key.same_comm]
        simpa using hsame
      · exact hfirst entry hentry

theorem keyed_ofList {entries : Entries} (h : ∀ entry ∈ entries, entry.2.Keyed) :
    (Value.mapping (ofList entries)).Keyed := by
  have hfold : ∀ found : Entries, found.Distinct → (∀ entry ∈ found, entry.2.Keyed) →
      (Value.mapping (entries.foldl (fun found entry => put entry.1 entry.2 found) found)).Keyed := by
    induction entries with
    | nil => exact fun found hdistinct hvalues => .mapping hdistinct hvalues
    | cons first rest ih =>
      rw [List.forall_mem_cons] at h
      intro found hdistinct hvalues
      apply ih h.2 _ (hdistinct.put first.1 first.2)
      intro entry hentry
      rcases mem_put hentry with ⟨hvalue, -⟩ | hentry
      · rw [hvalue]
        exact h.1
      · exact hvalues entry hentry
  exact hfold [] .nil (by simp)

end Entries

namespace Yaml

theorem keyed_resolve {text : Text} {value : Value} (h : resolve text = .ok value) : value.Keyed := by
  unfold resolve at h
  dsimp only at h
  by_cases hnull : nulls.contains (String.ofList text) = true
  · rw [if_pos hnull] at h
    cases h
    exact .null
  rw [if_neg hnull] at h
  by_cases htrue : trues.contains (String.ofList text) = true
  · rw [if_pos htrue] at h
    cases h
    exact .bool true
  rw [if_neg htrue] at h
  by_cases hfalse : falses.contains (String.ofList text) = true
  · rw [if_pos hfalse] at h
    cases h
    exact .bool false
  rw [if_neg hfalse] at h
  split at h
  · rename_i x _
    cases x with
    | error fault => cases h
    | ok x =>
      cases h
      exact .float _
  split at h
  · rename_i n _
    cases n with
    | error fault => cases h
    | ok n =>
      cases h
      exact .int _
  · cases h
    exact .text _

mutual

theorem Node.keyed_value : (node : Node) → ∀ {value : Value}, node.value = .ok value → value.Keyed
  | .scalar text true, value, h => by
    rw [Node.value, Fallible.mapError_eq_ok] at h
    exact keyed_resolve h
  | .scalar text false, value, h => by
    rw [Node.value] at h
    cases h
    exact .text _
  | .sequence items, value, h => by
    rw [Node.value] at h
    obtain ⟨values, hvalues, hlist⟩ := Fallible.bind_eq_ok.mp h
    cases hlist
    exact .list (keyed_itemValues items hvalues)
  | .mapping entries, value, h => by
    rw [Node.value] at h
    obtain ⟨values, hvalues, hmapping⟩ := Fallible.bind_eq_ok.mp h
    cases hmapping
    exact Entries.keyed_ofList (keyed_entryValues entries hvalues)

theorem keyed_itemValues : (items : List Node) → ∀ {values : List Value},
    itemValues items = .ok values → ∀ value ∈ values, value.Keyed
  | [], values, h => by
    cases h
    simp
  | item :: items, values, h => by
    rw [itemValues] at h
    obtain ⟨first, hfirst, hothers⟩ := Fallible.bind_eq_ok.mp h
    obtain ⟨rest, hrest, hcons⟩ := Fallible.bind_eq_ok.mp hothers
    cases hcons
    rw [List.forall_mem_cons]
    exact ⟨Node.keyed_value item hfirst, keyed_itemValues items hrest⟩

theorem keyed_entryValues : (entries : List (Node × Node)) → ∀ {values : List (Key × Value)},
    entryValues entries = .ok values → ∀ entry ∈ values, entry.2.Keyed
  | [], values, h => by
    cases h
    simp
  | (key, node) :: entries, values, h => by
    rw [entryValues] at h
    obtain ⟨found, -, h⟩ := Fallible.bind_eq_ok.mp h
    split at h
    · cases h
    · obtain ⟨first, hfirst, hothers⟩ := Fallible.bind_eq_ok.mp h
      obtain ⟨rest, hrest, hcons⟩ := Fallible.bind_eq_ok.mp hothers
      cases hcons
      rw [List.forall_mem_cons]
      exact ⟨Node.keyed_value node hfirst, keyed_entryValues entries hrest⟩

end

end Yaml

namespace Config

variable {read : Reader}

end Config

end ShaderSources
