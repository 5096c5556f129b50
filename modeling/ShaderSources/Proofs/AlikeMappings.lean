import ShaderSources.Proofs.Layering

namespace ShaderSources

namespace Entries

def keys (entries : Entries) : List Key := entries.map Prod.fst

theorem keys_cons (entry : Key × Value) (entries : Entries) :
    keys (entry :: entries) = entry.1 :: keys entries := rfl

theorem find?_eq_none_iff {key : Key} {entries : Entries} :
    find? key entries = none ↔ ∀ other ∈ entries.keys, key.same other = false := by
  rw [keys, List.forall_mem_map]
  refine ⟨fun h entry hentry => ?_, find?_eq_none⟩
  induction entries with
  | nil => cases hentry
  | cons first rest ih =>
    rw [find?] at h
    split at h
    · cases h
    · rename_i hfirst
      rcases List.mem_cons.mp hentry with rfl | hentry
      · rw [Key.same_comm]
        simpa using hfirst
      · exact ih h hentry

theorem find?_put (key other : Key) (value : Value) (entries : Entries) :
    find? other (put key value entries) =
      if key.same other then some value else find? other entries := by
  by_cases h : key.same other = true
  · rw [if_pos h, ← find?_congr h, find?_put_self]
  · rw [if_neg h, find?_put_of_not_same (by simpa using h)]

theorem put_put (key : Key) (first second : Value) (entries : Entries) :
    put key second (put key first entries) = put key second entries := by
  induction entries with
  | nil => simp [put]
  | cons entry rest ih =>
    rw [put]
    by_cases h : entry.1.same key = true
    · simp only [if_pos h, put]
    · simp only [if_neg h, put, ih]

theorem keys_put (key : Key) (value : Value) (entries : Entries) :
    (put key value entries).keys =
      entries.keys ++ if (find? key entries).isNone then [key] else [] := by
  induction entries with
  | nil => rfl
  | cons entry rest ih =>
    rw [put, find?]
    by_cases h : entry.1.same key = true
    · rw [if_pos h, if_pos h]
      exact (List.append_nil _).symm
    · rw [if_neg h, if_neg h]
      exact congrArg (entry.1 :: ·) ih

end Entries

open Entries

/-- The same value, its mappings aside from the order of their keys. -/
inductive Value.Alike : Value → Value → Prop
  | same (value : Value) : Alike value value
  | mapping {a b : List (Key × Value)} (hkeys : (keys a).Perm (keys b))
      (hvalues : ∀ key v w, find? key a = some v → find? key b = some w → Alike v w) :
      Alike (.mapping a) (.mapping b)

namespace Value.Alike

variable {a b : Entries}

theorem perm_keys (h : (Value.mapping a).Alike (.mapping b)) : a.keys.Perm b.keys := by
  cases h with
  | same => exact .refl _
  | mapping hkeys _ => exact hkeys

theorem rel_self (value? : Option Value) : Option.Rel Alike value? value? := by
  cases value? with
  | none => exact .none
  | some value => exact .some (.same value)

theorem find? (h : (Value.mapping a).Alike (.mapping b)) (key : Key) :
    Option.Rel Alike (Entries.find? key a) (Entries.find? key b) := by
  cases h with
  | same => exact rel_self _
  | mapping hkeys hvalues =>
    have hnone : Entries.find? key a = none ↔ Entries.find? key b = none := by
      rw [find?_eq_none_iff, find?_eq_none_iff]
      exact forall_congr' fun _ => imp_congr_left hkeys.mem_iff
    cases ha : Entries.find? key a with
    | none =>
      rw [hnone.mp ha]
      exact .none
    | some v =>
      cases hb : Entries.find? key b with
      | none =>
        rw [hnone.mpr hb] at ha
        cases ha
      | some w => exact .some (hvalues key v w ha hb)

theorem of_find? (hkeys : a.keys.Perm b.keys)
    (hfind : ∀ key, Option.Rel Alike (Entries.find? key a) (Entries.find? key b)) :
    (Value.mapping a).Alike (.mapping b) := by
  refine .mapping hkeys fun key v w hv hw => ?_
  have hvalues := hfind key
  rw [hv, hw] at hvalues
  cases hvalues with
  | some h => exact h

theorem trans {u v w : Value} (h : u.Alike v) (h' : v.Alike w) : u.Alike w := by
  induction h generalizing w with
  | same => exact h'
  | @mapping a b hkeys hvalues ih =>
    cases h' with
    | same => exact .mapping hkeys hvalues
    | @mapping _ c hkeys' hvalues' =>
      refine .mapping (hkeys.trans hkeys') fun key x z hx hz => ?_
      have hfirst := (Alike.mapping hkeys hvalues).find? key
      have hsecond := (Alike.mapping hkeys' hvalues').find? key
      rw [hx] at hfirst
      rw [hz] at hsecond
      cases hy : Entries.find? key b with
      | none =>
        rw [hy] at hfirst
        cases hfirst
      | some y =>
        rw [hy] at hsecond
        cases hsecond with
        | some hyz => exact ih key x y hx hy hyz

theorem isNone_eq {v? w? : Option Value} (h : Option.Rel Alike v? w?) : v?.isNone = w?.isNone := by
  cases h with
  | some => rfl
  | none => rfl

theorem put (h : (Value.mapping a).Alike (.mapping b)) {v w : Value} (hvalue : v.Alike w) (key : Key) :
    (Value.mapping (Entries.put key v a)).Alike (.mapping (Entries.put key w b)) := by
  apply of_find?
  · rw [keys_put, keys_put, isNone_eq (h.find? key)]
    exact h.perm_keys.append_right _
  · intro other
    rw [find?_put, find?_put]
    split
    · exact .some hvalue
    · exact h.find? other

end Value.Alike

mutual

theorem Value.over_alike : (upper : Value) → ∀ {lower other : Option Value},
    Option.Rel Value.Alike lower other → (Value.over lower upper).Alike (Value.over other upper)
  | .mapping upper, lower, other, h => by
    cases h with
    | none => exact .same _
    | @some a b h =>
      cases h with
      | same => exact .same _
      | mapping hkeys hvalues =>
        rw [Value.over, Value.over]
        exact mergeEntries_alike upper (.mapping hkeys hvalues)
  | .null, _, _, _ => .same _
  | .bool _, _, _, _ => .same _
  | .int _, _, _, _ => .same _
  | .float _, _, _, _ => .same _
  | .text _, _, _, _ => .same _
  | .foreign _, _, _, _ => .same _
  | .list _, _, _, _ => .same _

theorem mergeEntries_alike : (upper : List (Key × Value)) → ∀ {lower other : Entries},
    (Value.mapping lower).Alike (.mapping other) →
    (Value.mapping (mergeEntries lower upper)).Alike (.mapping (mergeEntries other upper))
  | [], _, _, h => h
  | (key, value) :: upper, lower, other, h => by
    rw [mergeEntries, mergeEntries]
    exact mergeEntries_alike upper (h.put (value.over_alike (h.find? key)) key)

end

namespace Entries

theorem put_comm {a b : Key} (h : a.same b = false) (v w : Value) (entries : Entries) :
    (Value.mapping (put b w (put a v entries))).Alike (.mapping (put a v (put b w entries))) := by
  have h' : b.same a = false := by rw [Key.same_comm, h]
  apply Value.Alike.of_find?
  · rw [keys_put, keys_put, find?_put_of_not_same h, keys_put, keys_put, find?_put_of_not_same h',
      List.append_assoc, List.append_assoc]
    exact List.perm_append_comm.append_left entries.keys
  · intro other
    have hfind : find? other (put b w (put a v entries)) =
        find? other (put a v (put b w entries)) := by
      simp only [find?_put]
      by_cases hfirst : a.same other = true
      · have hsecond : b.same other = false := by
          rw [Key.same_comm, ← Key.same_congr hfirst, h]
        rw [if_pos hfirst, if_neg (by simp [hsecond]), if_pos hfirst]
      · rw [if_neg hfirst, if_neg hfirst]
    rw [hfind]
    exact Value.Alike.rel_self _

end Entries

end ShaderSources
