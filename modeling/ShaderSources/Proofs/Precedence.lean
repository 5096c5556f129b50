import Mathlib.Data.List.Nodup
import ShaderSources.Proofs.DistinctKeys
import ShaderSources.Proofs.Shapes

namespace ShaderSources.Config

def keyPath (key : Text) : List String :=
  (segments key).map fun segment => String.ofList (Text.lower segment)

def pathOf? (name : String) : Option (List String) :=
  (Text.after? environmentMark name.toList).map keyPath

/-- The greatest of the variables that set the value at a key path, and its text. -/
structure Governs (environment : Environment) (path : List String) (name text : String) : Prop where
  mem : (name, text) ∈ environment
  path_eq : pathOf? name = some path
  greatest : ∀ other ∈ environment, pathOf? other.1 = some path → other.1 ≤ name

def Free (environment : Environment) (path : List String) : Prop :=
  ∀ entry ∈ environment, pathOf? entry.1 ≠ some path

/-- The values that a setting may have, by the rule of precedence. -/
inductive Chosen (environment : Environment) (upper : Entries) (part name : String) : Value → Prop
  | setter {setter text : String} {value : Value}
      (hgoverns : Governs environment [part, name] setter text)
      (hvalue : coerce text.toList = .ok value) : Chosen environment upper part name value
  | overlay {value : Value} (hfree : Free environment [part, name])
      (hvalue : setting? upper part name = some value) : Chosen environment upper part name value
  | default {value : Value} (hfree : Free environment [part, name])
      (hnone : setting? upper part name = none)
      (hvalue : setting? defaults part name = some value) : Chosen environment upper part name value

section Rule

variable {environment : Environment} {upper : Entries} {path : List String} {part name : String}

theorem Governs.not_free {setter text : String} (h : Governs environment path setter text) :
    ¬ Free environment path := fun hfree => hfree _ h.mem h.path_eq

theorem Governs.text_eq {a b s t : String} (hnames : (environment.map Prod.fst).Nodup)
    (ha : Governs environment path a s) (hb : Governs environment path b t) : s = t := by
  have hname : a = b :=
    String.le_antisymm (hb.greatest _ ha.mem ha.path_eq) (ha.greatest _ hb.mem hb.path_eq)
  subst hname
  have hentry := List.inj_on_of_nodup_map hnames ha.mem hb.mem rfl
  exact congrArg Prod.snd hentry

theorem Chosen.unique {a b : Value} (hnames : (environment.map Prod.fst).Nodup)
    (ha : Chosen environment upper part name a) (hb : Chosen environment upper part name b) :
    a = b := by
  cases ha with
  | setter hgoverns hvalue =>
    cases hb with
    | setter hother hb =>
      rw [hgoverns.text_eq hnames hother, hb] at hvalue
      cases hvalue
      rfl
    | overlay hfree _ => exact absurd hfree hgoverns.not_free
    | default hfree _ _ => exact absurd hfree hgoverns.not_free
  | overlay hfree hvalue =>
    cases hb with
    | setter hgoverns _ => exact absurd hfree hgoverns.not_free
    | overlay _ hb => exact Option.some.inj (hvalue.symm.trans hb)
    | default _ hnone _ => cases hnone.symm.trans hvalue
  | default hfree hnone hvalue =>
    cases hb with
    | setter hgoverns _ => exact absurd hfree hgoverns.not_free
    | overlay _ hb => cases hnone.symm.trans hb
    | default _ _ hb => exact Option.some.inj (hvalue.symm.trans hb)

end Rule

namespace Environment

theorem mem_marked {environment : Environment} {name : String} {key : Text} {text : String} :
    (name, key, text) ∈ environment.marked ↔
      (name, text) ∈ environment ∧ Text.after? environmentMark name.toList = some key := by
  rw [marked, List.mem_mergeSort, List.mem_filterMap]
  constructor
  · rintro ⟨entry, hentry, hkey⟩
    obtain ⟨found, hfound, heq⟩ := Option.map_eq_some_iff.mp hkey
    cases heq
    exact ⟨hentry, hfound⟩
  · rintro ⟨hentry, hkey⟩
    exact ⟨_, hentry, by rw [hkey]; rfl⟩

theorem pairwise_marked (environment : Environment) :
    environment.marked.Pairwise fun a b => a.1 ≤ b.1 := by
  have hle (a b : String × Text × String) : (!decide (b.1 < a.1)) = true ↔ a.1 ≤ b.1 := by
    rw [Bool.not_eq_true', decide_eq_false_iff_not, String.not_lt]
  refine (List.pairwise_mergeSort ?_ ?_ _).imp fun h => (hle _ _).mp h
  · intro a b c hab hbc
    rw [hle] at hab hbc ⊢
    exact String.le_trans hab hbc
  · intro a b
    rw [Bool.or_eq_true, hle, hle]
    exact String.le_total _ _

theorem le_of_split {environment : Environment} {front back : List (String × Text × String)}
    {mark : String × Text × String} (h : environment.marked = front ++ mark :: back) :
    (∀ other ∈ front, other.1 ≤ mark.1) ∧ ∀ other ∈ back, mark.1 ≤ other.1 := by
  have hsorted := environment.pairwise_marked
  rw [h, List.pairwise_append, List.pairwise_cons] at hsorted
  exact ⟨fun other hother => hsorted.2.2 other hother mark List.mem_cons_self, hsorted.2.1.1⟩

end Environment

theorem pathOf?_of_mem_marked {environment : Environment} {mark : String × Text × String}
    (h : mark ∈ environment.marked) : pathOf? mark.1 = some (keyPath mark.2.1) := by
  rw [pathOf?, (Environment.mem_marked.mp h).2, Option.map_some]

theorem exists_mark_of_pathOf? {environment : Environment} {entry : String × String}
    {path : List String} (hmem : entry ∈ environment) (h : pathOf? entry.1 = some path) :
    ∃ key, (entry.1, key, entry.2) ∈ environment.marked ∧ keyPath key = path := by
  obtain ⟨key, hkey, hpath⟩ := Option.map_eq_some_iff.mp h
  exact ⟨key, Environment.mem_marked.mpr ⟨hmem, hkey⟩, hpath⟩

theorem readOverride_eq_ok {name text : String} {key : Text} {override : Override}
    (h : readOverride name key text = .ok override) :
    ∃ value, coerce text.toList = .ok value ∧ override = ⟨keyPath key, value⟩ := by
  unfold readOverride at h
  dsimp only at h
  split at h
  · cases h
  split at h
  · cases h
  · cases h
    exact ⟨_, by assumption, rfl⟩

theorem segments_ne_nil (text : Text) : segments text ≠ [] := by
  fun_induction segments text <;> simp

theorem keyPath_ne_nil (key : Text) : keyPath key ≠ [] := fun h =>
  segments_ne_nil key (List.map_eq_nil_iff.mp h)

def Reaches (part name : String) (mark : String × Text × String) : Prop :=
  ∃ rest, keyPath mark.2.1 = part :: name :: rest

section Loaded

variable {environment : Environment} {lower upper entries : Entries} {part name : String}

end Loaded

section Settled

variable {environment : Environment} {upper entries : Entries}

variable (hnames : (environment.map Prod.fst).Nodup)
  (hbare : ∀ segment, Free environment [segment]) (hupper : (Value.mapping upper).Keyed)
  (h : layered upper environment = .ok entries)

include hnames hbare hupper h

end Settled

end ShaderSources.Config
