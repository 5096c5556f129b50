import ShaderSources.Proofs.AlikeMappings
import ShaderSources.Proofs.OverrideFaults

namespace ShaderSources

namespace Key

theorem same_text_iff {s : String} {key : Key} : (text s).same key = true ↔ key = text s := by
  rw [same_iff]
  constructor
  · intro h
    cases key with
    | text t => simpa [address, eq_comm] using h
    | float x =>
      rw [address.eq_def, address.eq_def] at h
      dsimp only at h
      split at h
      · cases h
      · cases h
    | _ => cases h
  · rintro rfl
    rfl

end Key

def Apart {α : Type} (p q : List α) : Prop := ¬ p <+: q ∧ ¬ q <+: p

instance {α : Type} [DecidableEq α] (p q : List α) : Decidable (Apart p q) :=
  inferInstanceAs (Decidable (_ ∧ _))

namespace Apart

variable {α : Type} {p q : List α}

theorem symm (h : Apart p q) : Apart q p := ⟨h.2, h.1⟩

theorem ne_nil (h : Apart p q) : p ≠ [] := by
  rintro rfl
  exact h.1 List.nil_prefix

theorem of_cons {a : α} (h : Apart (a :: p) (a :: q)) : Apart p q := by
  constructor
  · intro hprefix
    apply h.1
    exact List.cons_prefix_cons.mpr ⟨rfl, hprefix⟩
  · intro hprefix
    apply h.2
    exact List.cons_prefix_cons.mpr ⟨rfl, hprefix⟩

end Apart

namespace Config

open Entries Value

def names (path : List String) : List Key := path.map .text

theorem names_apart {p q : List String} (h : Apart p q) : Apart (names p) (names q) := by
  have hinj : Function.Injective Key.text := fun _ _ => Key.text.inj
  constructor
  · exact fun hprefix => h.1 ((List.prefix_map_iff_of_injective hinj).mp hprefix)
  · exact fun hprefix => h.2 ((List.prefix_map_iff_of_injective hinj).mp hprefix)

def entriesOf : Option Value → Entries
  | some (.mapping entries) => entries
  | _ => []

theorem entriesOf_eq_nil {lower : Option Value} (h : ∀ entries, lower ≠ some (.mapping entries)) :
    entriesOf lower = [] := by
  unfold entriesOf
  split
  · exact absurd rfl (h _)
  · rfl

theorem bind_at?_cons (lower : Option Value) (key : Key) (path : List Key) :
    (lower.bind fun value => value.at? (key :: path)) =
      (find? key (entriesOf lower)).bind fun value => value.at? path := by
  cases lower with
  | none => rfl
  | some value => cases value <;> rfl

theorem over_held (lower : Option Value) (value : Value) (key : String) (path : List String) :
    Value.over lower (held value (key :: path)) =
      .mapping (put (.text key)
        (Value.over (find? (.text key) (entriesOf lower)) (held value path)) (entriesOf lower)) := by
  have hheld : held value (key :: path) = .mapping [(.text key, held value path)] :=
    congrArg Value.mapping (layer_cons value key path)
  rw [hheld]
  by_cases hlower : ∃ entries, lower = some (.mapping entries)
  · obtain ⟨entries, rfl⟩ := hlower
    rw [Value.over, mergeEntries, mergeEntries, entriesOf]
  · rw [not_exists] at hlower
    rw [over_of_lower hlower, entriesOf_eq_nil hlower, find?, over_of_lower (by simp)]
    rfl

theorem mapping_apply {override : Override} (h : override.path ≠ []) (entries : Entries) :
    Value.mapping (override.apply entries) =
      Value.over (some (.mapping entries)) (held override.value override.path) := by
  obtain ⟨key, path, hpath⟩ := List.exists_cons_of_ne_nil h
  rw [Override.apply, hpath]
  exact (over_mapping entries _).symm

theorem alike_apply (override : Override) {entries other : Entries}
    (h : (Value.mapping entries).Alike (.mapping other)) :
    (Value.mapping (override.apply entries)).Alike (.mapping (override.apply other)) :=
  mergeEntries_alike _ h

-- By induction on the paths: where they part, different keys are put.
theorem over_held_comm {p q : List String} (h : Apart p q) (lower : Option Value) (v w : Value) :
    (Value.over (some (Value.over lower (held v p))) (held w q)).Alike
      (Value.over (some (Value.over lower (held w q))) (held v p)) := by
  induction p generalizing q lower with
  | nil => exact absurd rfl h.ne_nil
  | cons a p ih =>
    obtain ⟨b, q, rfl⟩ := List.exists_cons_of_ne_nil h.symm.ne_nil
    simp only [over_held, entriesOf]
    by_cases hkey : a = b
    · subst hkey
      rw [find?_put_self, find?_put_self, put_put, put_put]
      exact Value.Alike.put (.same _) (ih h.of_cons _) (.text a)
    · have hab : Key.same (.text a) (.text b) = false := by simp [hkey]
      have hba : Key.same (.text b) (.text a) = false := by rw [Key.same_comm, hab]
      rw [find?_put_of_not_same hab, find?_put_of_not_same hba]
      exact put_comm hab _ _ _

theorem at?_over_held_self (p : List String) (lower : Option Value) (v : Value) :
    (Value.over lower (held v p)).at? (names p) =
      some (Value.over (lower.bind fun value => value.at? (names p)) v) := by
  induction p generalizing lower with
  | nil =>
    have hwhole : (lower.bind fun value => value.at? (names [])) = lower := by
      cases lower <;> rfl
    rw [hwhole]
    rfl
  | cons a p ih =>
    have hnames : names (a :: p) = .text a :: names p := rfl
    rw [over_held, hnames, bind_at?_cons, Value.at?, find?_put_self, Option.bind_some]
    exact ih _

theorem at?_over_held_apart {p : List String} {path : List Key} (h : Apart (names p) path)
    (lower : Option Value) (v : Value) :
    (Value.over lower (held v p)).at? path = lower.bind fun value => value.at? path := by
  induction p generalizing path lower with
  | nil => exact absurd rfl h.ne_nil
  | cons a p ih =>
    obtain ⟨key, path, rfl⟩ := List.exists_cons_of_ne_nil h.symm.ne_nil
    rw [over_held, bind_at?_cons, Value.at?]
    by_cases hkey : key = .text a
    · subst hkey
      rw [find?_put_self, Option.bind_some]
      exact ih h.of_cons _
    · have hother : Key.same (.text a) key = false := by
        rw [Bool.eq_false_iff]
        exact fun hsame => hkey (Key.same_text_iff.mp hsame)
      rw [find?_put_of_not_same hother]

theorem apply_comm {first second : Override} (h : Apart first.path second.path) (entries : Entries) :
    (Value.mapping (second.apply (first.apply entries))).Alike
      (.mapping (first.apply (second.apply entries))) := by
  rw [mapping_apply h.ne_nil, mapping_apply h.symm.ne_nil, mapping_apply h.ne_nil,
    mapping_apply h.symm.ne_nil]
  exact over_held_comm h _ _ _

section Marks

variable {marks order : List (String × Text × String)} {entries other result : Entries}

def ApartMarks (marks : List (String × Text × String)) : Prop :=
  marks.Pairwise fun a b => Apart (keyPath a.2.1) (keyPath b.2.1)

theorem ApartMarks.perm (h : ApartMarks marks) (hperm : marks.Perm order) : ApartMarks order :=
  hperm.pairwise h fun h => h.symm

theorem applyMarked_congr (h : applyMarked entries marks = .ok result)
    (halike : (Value.mapping entries).Alike (.mapping other)) :
    ∃ changed, applyMarked other marks = .ok changed ∧
      (Value.mapping result).Alike (.mapping changed) := by
  induction marks generalizing entries other with
  | nil =>
    cases h
    exact ⟨other, rfl, halike⟩
  | cons mark marks ih =>
    obtain ⟨override, hread, happly⟩ := Fallible.bind_eq_ok.mp h
    obtain ⟨changed, hchanged, hsame⟩ := ih happly (alike_apply override halike)
    exact ⟨changed, Fallible.bind_eq_ok.mpr ⟨override, hread, hchanged⟩, hsame⟩

-- By induction on the permutation: a swap is two overrides that commute, and the variables behind it
-- carry the difference of key order along.
theorem applyMarked_perm (hperm : marks.Perm order) (hapart : ApartMarks marks)
    (h : applyMarked entries marks = .ok result) :
    ∃ other, applyMarked entries order = .ok other ∧
      (Value.mapping result).Alike (.mapping other) := by
  induction hperm generalizing entries result with
  | nil => exact ⟨result, h, .same _⟩
  | cons mark hperm ih =>
    obtain ⟨override, hread, happly⟩ := Fallible.bind_eq_ok.mp h
    obtain ⟨other, hother, halike⟩ := ih (List.pairwise_cons.mp hapart).2 happly
    exact ⟨other, Fallible.bind_eq_ok.mpr ⟨override, hread, hother⟩, halike⟩
  | swap second first marks =>
    obtain ⟨a, ha, happly⟩ := Fallible.bind_eq_ok.mp h
    obtain ⟨b, hb, happly⟩ := Fallible.bind_eq_ok.mp happly
    obtain ⟨v, -, rfl⟩ := readOverride_eq_ok ha
    obtain ⟨w, -, rfl⟩ := readOverride_eq_ok hb
    have hpaths := (List.pairwise_cons.mp hapart).1 second List.mem_cons_self
    obtain ⟨other, hother, halike⟩ := applyMarked_congr happly (apply_comm hpaths entries)
    exact ⟨other, Fallible.bind_eq_ok.mpr ⟨_, hb, Fallible.bind_eq_ok.mpr ⟨_, ha, hother⟩⟩, halike⟩
  | trans hfirst hsecond ihfirst ihsecond =>
    obtain ⟨middle, hmiddle, halike⟩ := ihfirst hapart h
    obtain ⟨other, hother, halike'⟩ := ihsecond (hapart.perm hfirst) hmiddle
    exact ⟨other, hother, halike.trans halike'⟩

theorem at?_applyMarked_apart {path : List Key} (h : applyMarked entries marks = .ok result)
    (hapart : ∀ mark ∈ marks, Apart (names (keyPath mark.2.1)) path) :
    (Value.mapping result).at? path = (Value.mapping entries).at? path := by
  induction marks generalizing entries with
  | nil =>
    cases h
    rfl
  | cons mark marks ih =>
    obtain ⟨override, hread, happly⟩ := Fallible.bind_eq_ok.mp h
    obtain ⟨value, -, rfl⟩ := readOverride_eq_ok hread
    rw [List.forall_mem_cons] at hapart
    have hne := keyPath_ne_nil mark.2.1
    rw [ih happly hapart.2, mapping_apply hne, at?_over_held_apart hapart.1]
    rfl

theorem at?_applyMarked_self (hapart : ApartMarks marks) (h : applyMarked entries marks = .ok result)
    {mark : String × Text × String} (hmem : mark ∈ marks) {value : Value}
    (hvalue : coerce mark.2.2.toList = .ok value) :
    (Value.mapping result).at? (names (keyPath mark.2.1)) =
      some (Value.over ((Value.mapping entries).at? (names (keyPath mark.2.1))) value) := by
  induction marks generalizing entries with
  | nil => cases hmem
  | cons first marks ih =>
    obtain ⟨override, hread, happly⟩ := Fallible.bind_eq_ok.mp h
    obtain ⟨found, hfound, rfl⟩ := readOverride_eq_ok hread
    obtain ⟨hfirst, hrest⟩ := List.pairwise_cons.mp hapart
    have hne := keyPath_ne_nil first.2.1
    rcases List.mem_cons.mp hmem with rfl | hmem
    · cases hfound.symm.trans hvalue
      have hbehind : ∀ other ∈ marks, Apart (names (keyPath other.2.1)) (names (keyPath mark.2.1)) :=
        fun other hother => names_apart (hfirst other hother).symm
      rw [at?_applyMarked_apart happly hbehind, mapping_apply hne, at?_over_held_self]
      rfl
    · rw [ih hrest happly hmem, mapping_apply hne, at?_over_held_apart (names_apart (hfirst mark hmem))]
      rfl

end Marks

/-- Variables that are well formed and set values at independent key paths. -/
structure Independent (environment : Environment) : Prop where
  wellFormed : ∀ entry ∈ environment, ¬ Malformed entry.1
  coercible : ∀ entry ∈ environment, pathOf? entry.1 ≠ none →
    ∃ value, coerce entry.2.toList = .ok value
  apart : environment.Pairwise fun a b => ∀ p ∈ pathOf? a.1, ∀ q ∈ pathOf? b.1, Apart p q

section Independent

variable {environment : Environment}

theorem Independent.readable (h : Independent environment) :
    ∀ mark ∈ environment.marked, Readable mark := by
  intro mark hmark
  have hmem := (Environment.mem_marked.mp hmark).1
  rw [readable_iff, ← coerce_eq_error_iff]
  constructor
  · exact fun hempty => h.wellFormed _ hmem ((malformed_iff hmark).mpr hempty)
  · rintro ⟨fault, hfault⟩
    have hsets : pathOf? mark.1 ≠ none := by
      rw [pathOf?_of_mem_marked hmark]
      exact Option.some_ne_none _
    obtain ⟨value, hvalue⟩ := h.coercible _ hmem hsets
    cases hfault.symm.trans hvalue

theorem Independent.apartMarks (h : Independent environment) : ApartMarks environment.marked := by
  have hperm := List.mergeSort_perm (environment.filterMap fun entry =>
    (Text.after? environmentMark entry.1.toList).map fun key => (entry.1, key, entry.2))
      fun a b => !decide (b.1 < a.1)
  refine ApartMarks.perm (List.pairwise_filterMap.mpr ?_) hperm.symm
  refine h.apart.imp fun hpaths first hfirst second hsecond => ?_
  obtain ⟨key, hkey, rfl⟩ := Option.map_eq_some_iff.mp hfirst
  obtain ⟨other, hother, rfl⟩ := Option.map_eq_some_iff.mp hsecond
  exact hpaths _ (Option.map_eq_some_iff.mpr ⟨key, hkey, rfl⟩) _
    (Option.map_eq_some_iff.mpr ⟨other, hother, rfl⟩)

theorem alike_of_independent (h : Independent environment) (entries : Entries) :
    ∃ result, applyEnvironment environment entries = .ok result ∧
      (∀ order, environment.marked.Perm order → ∃ other, applyMarked entries order = .ok other ∧
        (Value.mapping result).Alike (.mapping other)) ∧
      (∀ entry ∈ environment, ∀ path value, pathOf? entry.1 = some path →
        coerce entry.2.toList = .ok value → (Value.mapping result).at? (names path) =
          some (Value.over ((Value.mapping entries).at? (names path)) value)) ∧
      ∀ path : List Key,
        (∀ entry ∈ environment, ∀ setting ∈ pathOf? entry.1, Apart (names setting) path) →
          (Value.mapping result).at? path = (Value.mapping entries).at? path := by
  obtain ⟨result, hresult⟩ := exists_applyMarked_eq_ok h.readable entries
  refine ⟨result, hresult, fun order hperm => applyMarked_perm hperm h.apartMarks hresult, ?_, ?_⟩
  · intro entry hmem path value hpath hvalue
    obtain ⟨key, hmark, rfl⟩ := exists_mark_of_pathOf? hmem hpath
    exact at?_applyMarked_self h.apartMarks hresult hmark hvalue
  · intro path hapart
    apply at?_applyMarked_apart hresult
    intro mark hmark
    exact hapart _ (Environment.mem_marked.mp hmark).1 _ (pathOf?_of_mem_marked hmark)

def switch : String := "\x7b\"x\": true\x7d"

def crossing : Environment :=
  [("HOME", "/root"), ("SHADERCRAWL_A__B", " 5 "), ("SHADERCRAWL_D__E", "on"),
   ("SHADERCRAWL_D__F__G", "[1]"), ("SHADERCRAWL_a__c", switch)]

def crossed : Entries :=
  [(.text "a", .mapping [(.text "c", .mapping [(.text "x", .null), (.text "y", .int 1)])]),
   (.text "d", .text "flat")]

def isSwitch : Value → Bool
  | .mapping [(.text "x", .bool true)] => true
  | _ => false

theorem coerce_switch : coerce switch.toList = .ok (.mapping [(.text "x", .bool true)]) := by
  have hfound : (coerce switch.toList).toOption.any isSwitch = true := by decide +kernel
  obtain ⟨value, hvalue, hswitch⟩ := (Option.any_eq_true _ _).mp hfound
  cases hcoerce : coerce switch.toList with
  | error fault =>
    rw [hcoerce] at hvalue
    cases hvalue
  | ok found =>
    rw [hcoerce] at hvalue
    cases hvalue
    unfold isSwitch at hswitch
    split at hswitch
    · rfl
    · cases hswitch

theorem alike_of_independent_crossing : Independent crossing ∧
    ∃ result, applyEnvironment crossing crossed = .ok result ∧
      (∃ other, applyMarked crossed crossing.marked.reverse = .ok other ∧
        (Value.mapping result).Alike (.mapping other)) ∧
      (Value.mapping result).at? (names ["a", "c"]) =
        some (.mapping [(.text "x", .bool true), (.text "y", .int 1)]) ∧
      (Value.mapping result).at? (names ["d", "e"]) = some (.text "on") ∧
      (Value.mapping result).at? (names ["d", "f", "h"]) = none := by
  have hvalues : (crossing.all fun entry => (coerce entry.2.toList).isOk) = true := by decide +kernel
  have hindependent : Independent crossing := by
    refine ⟨by decide +kernel, fun entry hentry _ => ?_, by decide +kernel⟩
    have hok := List.all_eq_true.mp hvalues entry hentry
    cases hvalue : coerce entry.2.toList with
    | ok value => exact ⟨value, rfl⟩
    | error fault =>
      rw [hvalue] at hok
      cases hok
  obtain ⟨result, hresult, horders, hset, hbeside⟩ := alike_of_independent hindependent crossed
  have hswitch := hset ("SHADERCRAWL_a__c", switch) (by decide) ["a", "c"] _ (by decide +kernel)
    coerce_switch
  have hflat := hset ("SHADERCRAWL_D__E", "on") (by decide) ["d", "e"] (.text "on")
    (by decide +kernel) rfl
  have hnone := hbeside (names ["d", "f", "h"]) (by decide +kernel)
  exact ⟨hindependent, result, hresult, horders _ (List.reverse_perm _).symm, hswitch, hflat, hnone⟩

end Independent

end Config

end ShaderSources
