import ShaderSources.Proofs.DistinctKeys
import ShaderSources.Proofs.IndependentOverrides

namespace ShaderSources

open Config (entriesOf entriesOf_eq_nil bind_at?_cons)

namespace Entries

variable {a b c lower upper : Entries}

theorem isNone_find?_of_mem_keys {key : Key} {entries : Entries} (h : key ∈ entries.keys) :
    (find? key entries).isNone = false := by
  rw [Bool.eq_false_iff]
  intro hnone
  have hfree := find?_eq_none_iff.mp (Option.isNone_iff_eq_none.mp hnone) key h
  rw [Key.same_self] at hfree
  cases hfree

theorem Distinct.eq_filterMap_keys (h : a.Distinct) :
    a = a.keys.filterMap fun key => (find? key a).map fun value => (key, value) := by
  induction a with
  | nil => rfl
  | cons first rest ih =>
    obtain ⟨hfirst, hrest⟩ := List.pairwise_cons.mp h
    have hbehind : (keys rest).filterMap (fun key =>
          (find? key (first :: rest)).map fun value => (key, value)) =
        (keys rest).filterMap fun key => (find? key rest).map fun value => (key, value) := by
      apply List.filterMap_congr
      intro key hkey
      obtain ⟨entry, hentry, rfl⟩ := List.mem_map.mp hkey
      rw [find?, if_neg (by simp [hfirst entry hentry])]
    rw [keys_cons, List.filterMap_cons, hbehind, ← ih hrest, find?, if_pos (Key.same_self _)]
    rfl

theorem ext_of_find? (ha : a.Distinct) (hb : b.Distinct) (hkeys : a.keys = b.keys)
    (hfind : ∀ key, find? key a = find? key b) : a = b := by
  rw [ha.eq_filterMap_keys, hb.eq_filterMap_keys, hkeys]
  simp only [hfind]

theorem Distinct.merge (h : lower.Distinct) (upper : Entries) : (lower.merge upper).Distinct := by
  rw [Entries.merge]
  induction upper generalizing lower with
  | nil => rwa [mergeEntries]
  | cons entry rest ih =>
    rw [mergeEntries]
    exact ih (h.put _ _)

theorem keys_merge (h : upper.Distinct) (lower : Entries) :
    (lower.merge upper).keys =
      lower.keys ++ upper.keys.filter fun key => (find? key lower).isNone := by
  rw [merge]
  induction upper generalizing lower with
  | nil => exact (List.append_nil _).symm
  | cons entry rest ih =>
    obtain ⟨hfirst, hrest⟩ := List.pairwise_cons.mp h
    have hbehind : ((keys rest).filter fun key => (find? key (put entry.1
          (Value.over (find? entry.1 lower) entry.2) lower)).isNone) =
        (keys rest).filter fun key => (find? key lower).isNone := by
      apply List.filter_congr
      intro key hkey
      obtain ⟨other, hother, rfl⟩ := List.mem_map.mp hkey
      rw [find?_put_of_not_same (hfirst other hother)]
    rw [mergeEntries, ih hrest, hbehind, keys_put, keys_cons, List.filter_cons, List.append_assoc]
    congr 1
    split
    · rfl
    · rfl

theorem isNone_find?_merge (h : upper.Distinct) (lower : Entries) (key : Key) :
    (find? key (lower.merge upper)).isNone =
      ((find? key upper).isNone && (find? key lower).isNone) := by
  rw [find?_merge h]
  cases find? key upper with
  | none => rfl
  | some value => rfl

theorem nil_merge (h : upper.Distinct) : merge [] upper = upper := by
  apply ext_of_find? (Distinct.merge .nil upper) h
  · rw [keys_merge h]
    exact List.filter_eq_self.mpr fun _ _ => rfl
  · intro key
    rw [find?_merge h]
    cases find? key upper with
    | none => rfl
    | some value => exact congrArg some (Value.over_of_lower (by simp [find?]) value)

theorem merge_assoc_of_values (ha : a.Distinct) (hb : b.Distinct) (hc : c.Distinct)
    (h : ∀ key y z, find? key b = some y → find? key c = some z →
      Value.over (some (Value.over (find? key a) y)) z =
        Value.over (find? key a) (Value.over (some y) z)) :
    (a.merge b).merge c = a.merge (b.merge c) := by
  have hbc := hb.merge c
  apply ext_of_find? ((ha.merge b).merge c) (ha.merge _)
  · rw [keys_merge hc, keys_merge hb, keys_merge hbc, keys_merge hc, List.filter_append,
      List.filter_filter, List.append_assoc]
    congr 2
    apply List.filter_congr
    intro key _
    rw [isNone_find?_merge hb, Bool.and_comm]
  · intro key
    rw [find?_merge hc, find?_merge hb, find?_merge hbc, find?_merge hc]
    cases hz : find? key c with
    | none => rfl
    | some z =>
      cases hy : find? key b with
      | none =>
        have hplain := @Value.over_of_lower none (by simp) z
        exact congrArg (fun value => some (Value.over (find? key a) value)) hplain.symm
      | some y => exact congrArg some (h key y z hy hz)

theorem merge_self_of_values (ha : a.Distinct)
    (h : ∀ key value, find? key a = some value → Value.over (some value) value = value) :
    a.merge a = a := by
  apply ext_of_find? (ha.merge a) ha
  · rw [keys_merge ha, List.filter_eq_nil_iff.mpr, List.append_nil]
    intro key hkey
    simp [isNone_find?_of_mem_keys hkey]
  · intro key
    rw [find?_merge ha]
    cases hvalue : find? key a with
    | none => rfl
    | some value => exact congrArg some (h key value hvalue)

end Entries

namespace Value

variable {lower : Option Value} {upper value : Value} {path : List Key}

theorem over_mapping_entriesOf {entries : Entries} (h : entries.Distinct) (lower : Option Value) :
    Value.over lower (.mapping entries) = .mapping ((entriesOf lower).merge entries) := by
  by_cases hlower : ∃ inner, lower = some (.mapping inner)
  · obtain ⟨inner, rfl⟩ := hlower
    exact over_mapping inner entries
  · rw [not_exists] at hlower
    rw [over_of_lower hlower, entriesOf_eq_nil hlower, Entries.nil_merge h]

theorem at?_append (value : Value) (p q : List Key) :
    value.at? (p ++ q) = (value.at? p).bind fun inner => inner.at? q := by
  induction p generalizing value with
  | nil => rfl
  | cons key p ih =>
    cases value with
    | mapping entries =>
      rw [List.cons_append, at?, at?, Option.bind_assoc]
      exact congrArg _ (funext ih)
    | _ => rfl

theorem at?_eq_some_iff {entries : Entries} {key : Key} :
    (mapping entries).at? (key :: path) = some value ↔
      ∃ inner, Entries.find? key entries = some inner ∧ inner.at? path = some value := by
  rw [at?]
  exact Option.bind_eq_some_iff

def CutOff (value : Value) (path : List Key) : Prop :=
  ∃ front, front <+: path ∧ front ≠ path ∧
    ∃ leaf, value.at? front = some leaf ∧ leaf.isMapping = false

theorem at?_eq_none_of_cutOff (h : value.CutOff path) : value.at? path = none := by
  obtain ⟨front, ⟨back, rfl⟩, hproper, leaf, hleaf, hmapping⟩ := h
  obtain ⟨key, back, rfl⟩ : ∃ key rest, back = key :: rest := by
    apply List.exists_cons_of_ne_nil
    rintro rfl
    exact hproper (List.append_nil front).symm
  rw [at?_append, hleaf, Option.bind_some, at?_of_not_isMapping hmapping]

theorem cutOff_mapping_iff {entries : Entries} {key : Key} :
    (mapping entries).CutOff (key :: path) ↔
      ∃ inner, Entries.find? key entries = some inner ∧ inner.CutOff path := by
  constructor
  · rintro ⟨front, hfront, hproper, leaf, hleaf, hmapping⟩
    cases front with
    | nil =>
      cases hleaf
      cases hmapping
    | cons other front =>
      obtain ⟨rfl, hbehind⟩ := List.cons_prefix_cons.mp hfront
      obtain ⟨inner, hinner, hleaf⟩ := at?_eq_some_iff.mp hleaf
      refine ⟨inner, hinner, front, hbehind, ?_, leaf, hleaf, hmapping⟩
      rintro rfl
      exact hproper rfl
  · rintro ⟨inner, hinner, front, hfront, hproper, leaf, hleaf, hmapping⟩
    refine ⟨key :: front, List.cons_prefix_cons.mpr ⟨rfl, hfront⟩, ?_, leaf, ?_, hmapping⟩
    · exact fun heq => hproper (List.cons.inj heq).2
    · exact at?_eq_some_iff.mpr ⟨inner, hinner, hleaf⟩

theorem at?_over_of_some (h : upper.Keyed) (hat : upper.at? path = some value) (lower : Option Value) :
    (Value.over lower upper).at? path =
      some (Value.over (lower.bind fun below => below.at? path) value) := by
  induction path generalizing lower upper with
  | nil =>
    cases hat
    have hwhole : (lower.bind fun below => below.at? []) = lower := by cases lower <;> rfl
    rw [hwhole]
    rfl
  | cons key path ih =>
    cases upper with
    | mapping entries =>
      obtain ⟨inner, hinner, hvalue⟩ := at?_eq_some_iff.mp hat
      have hbelow := ih (h.of_find? hinner) hvalue (Entries.find? key (entriesOf lower))
      rw [over_mapping_entriesOf h.distinct, at?, Entries.find?_merge h.distinct, hinner,
        bind_at?_cons, ← hbelow]
      rfl
    | _ => cases hat

theorem at?_over_of_none (h : upper.Keyed) (hat : upper.at? path = none) (hcut : ¬ upper.CutOff path)
    (lower : Option Value) :
    (Value.over lower upper).at? path = lower.bind fun below => below.at? path := by
  induction path generalizing lower upper with
  | nil => cases hat
  | cons key path ih =>
    cases hmapping : upper.isMapping with
    | false =>
      exact absurd ⟨[], List.nil_prefix, (List.cons_ne_nil _ _).symm, upper, rfl, hmapping⟩ hcut
    | true =>
      cases upper with
      | mapping entries =>
        rw [over_mapping_entriesOf h.distinct, at?, Entries.find?_merge h.distinct, bind_at?_cons]
        cases hinner : Entries.find? key entries with
        | none => rfl
        | some inner =>
          rw [at?, hinner] at hat
          exact ih (h.of_find? hinner) hat
            (fun hbelow => hcut (cutOff_mapping_iff.mpr ⟨inner, hinner, hbelow⟩)) _
      | _ => cases hmapping

/-- What `merged` holds at a key path, where it is the upper layer laid over the lower one. -/
structure Overlaid (lower upper merged : Value) (path : List Key) : Prop where
  leaf : ∀ value, upper.at? path = some value → value.isMapping = false →
    merged.at? path = some value
  fresh : ∀ entries, upper.at? path = some (.mapping entries) →
    (∀ below, lower.at? path ≠ some (.mapping below)) → merged.at? path = some (.mapping entries)
  both : ∀ below entries, lower.at? path = some (.mapping below) →
    upper.at? path = some (.mapping entries) →
      merged.at? path = some (.mapping (Entries.merge below entries))
  kept : upper.at? path = none → ¬ upper.CutOff path → merged.at? path = lower.at? path
  gone : upper.at? path = none → upper.CutOff path → merged.at? path = none

theorem overlaid_over (h : upper.Keyed) (lower : Value) (path : List Key) :
    Overlaid lower upper (Value.over (some lower) upper) path where
  leaf value hat hmapping := by
    rw [at?_over_of_some h hat, over_of_not_isMapping hmapping]
  fresh entries hat hlower := by
    rw [at?_over_of_some h hat, Option.bind_some, over_of_lower hlower]
  both below entries hlower hat := by
    rw [at?_over_of_some h hat, Option.bind_some, hlower, over_mapping]
  kept hat hcut := at?_over_of_none h hat hcut (some lower)
  gone _ hcut := by
    obtain ⟨front, hfront, hproper, value, hvalue, hmapping⟩ := hcut
    apply at?_eq_none_of_cutOff
    refine ⟨front, hfront, hproper, value, ?_, hmapping⟩
    rw [at?_over_of_some h hvalue, over_of_not_isMapping hmapping]

/-- At some key path the outer layers `a` and `c` hold mappings, and `b` between them holds a value of
another kind. -/
def Interrupted (a b c : Value) : Prop :=
  ∃ path, (∃ entries, a.at? path = some (.mapping entries)) ∧
    (∃ entries, c.at? path = some (.mapping entries)) ∧
    ∃ value, b.at? path = some value ∧ value.isMapping = false

theorem interrupted_mapping_iff {a b c : Entries} :
    Interrupted (.mapping a) (.mapping b) (.mapping c) ↔ ∃ key x y z,
      Entries.find? key a = some x ∧ Entries.find? key b = some y ∧ Entries.find? key c = some z ∧
        Interrupted x y z := by
  constructor
  · rintro ⟨path, ⟨inner, ha⟩, ⟨outer, hc⟩, value, hb, hmapping⟩
    cases path with
    | nil =>
      cases hb
      cases hmapping
    | cons key path =>
      obtain ⟨x, hx, ha⟩ := at?_eq_some_iff.mp ha
      obtain ⟨y, hy, hb⟩ := at?_eq_some_iff.mp hb
      obtain ⟨z, hz, hc⟩ := at?_eq_some_iff.mp hc
      exact ⟨key, x, y, z, hx, hy, hz, path, ⟨inner, ha⟩, ⟨outer, hc⟩, value, hb, hmapping⟩
  · rintro ⟨key, x, y, z, hx, hy, hz, path, ⟨inner, ha⟩, ⟨outer, hc⟩, value, hb, hmapping⟩
    refine ⟨key :: path, ⟨inner, ?_⟩, ⟨outer, ?_⟩, value, ?_, hmapping⟩
    · exact at?_eq_some_iff.mpr ⟨x, hx, ha⟩
    · exact at?_eq_some_iff.mpr ⟨z, hz, hc⟩
    · exact at?_eq_some_iff.mpr ⟨y, hy, hb⟩

theorem not_interrupted_self (a b : Value) : ¬ Interrupted a b b := by
  rintro ⟨path, -, ⟨entries, hmapping⟩, value, hvalue, hleaf⟩
  cases hmapping.symm.trans hvalue
  cases hleaf

theorem over_self (h : value.Keyed) : Value.over (some value) value = value := by
  induction h with
  | @mapping entries hdistinct hvalues ih =>
    rw [over_mapping, Entries.merge_self_of_values hdistinct]
    intro key value hvalue
    obtain ⟨entry, hentry, rfl⟩ := Entries.exists_entry_of_find? hvalue
    exact ih entry hentry
  | _ => rfl

theorem over_over_of_not_isMapping {y : Value} (hy : y.isMapping = false)
    (hlower : ∀ entries, lower ≠ some (.mapping entries)) (z : Value) :
    Value.over (some (Value.over lower y)) z = Value.over lower (Value.over (some y) z) := by
  have hplain : Value.over (some y) z = z := by
    apply over_of_lower
    rintro entries heq
    cases heq
    cases hy
  rw [over_of_not_isMapping hy, hplain, over_of_lower hlower]

section Uninterrupted

/-- The lowest layer, if there is one, has no key twice and shares no mapping with `z` that `y`
interrupts. -/
def Uninterrupted (lower : Option Value) (y z : Value) : Prop :=
  ∀ below ∈ lower, below.Keyed ∧ ¬ Interrupted below y z

variable {b c : Entries}

theorem Uninterrupted.distinct {y z : Value} (h : Uninterrupted lower y z) :
    (entriesOf lower).Distinct := by
  unfold entriesOf
  split
  · exact (h _ rfl).1.distinct
  · exact .nil

theorem Uninterrupted.find? (h : Uninterrupted lower (.mapping b) (.mapping c)) {key : Key} {y z : Value}
    (hy : Entries.find? key b = some y) (hz : Entries.find? key c = some z) :
    Uninterrupted (Entries.find? key (entriesOf lower)) y z := by
  intro below hbelow
  unfold entriesOf at hbelow
  split at hbelow
  · rename_i entries
    obtain ⟨hkeyed, hfree⟩ := h _ rfl
    refine ⟨hkeyed.of_find? hbelow, fun hinterrupted => hfree ?_⟩
    exact interrupted_mapping_iff.mpr ⟨key, below, y, z, hbelow, hy, hz, hinterrupted⟩
  · cases hbelow

-- By induction on the top layer: where it holds a mapping over a mapping, the values of the three layers
-- at one key are layers of the same kind.
theorem Uninterrupted.over_over {y z : Value} (h : Uninterrupted lower y z) (hz : z.Keyed)
    (hy : y.Keyed) :
    Value.over (some (Value.over lower y)) z = Value.over lower (Value.over (some y) z) := by
  induction hz generalizing lower y with
  | @mapping c hdistinct hvalues ih =>
    cases hmapping : y.isMapping with
    | false =>
      apply over_over_of_not_isMapping hmapping
      rintro a rfl
      exact (h _ rfl).2 ⟨[], ⟨a, rfl⟩, ⟨c, rfl⟩, y, rfl, hmapping⟩
    | true =>
      cases y with
      | mapping b =>
        rw [over_mapping_entriesOf hy.distinct, over_mapping, over_mapping,
          over_mapping_entriesOf (hy.distinct.merge c)]
        congr 1
        apply Entries.merge_assoc_of_values h.distinct hy.distinct hdistinct
        intro key v w hv hw
        obtain ⟨entry, hentry, rfl⟩ := Entries.exists_entry_of_find? hw
        exact ih entry hentry (h.find? hv hw) (hy.of_find? hv)
      | _ => cases hmapping
  | _ => rfl

end Uninterrupted

end Value

namespace Entries

open Value

variable {a b c : Entries}

theorem merge_assoc (ha : (Value.mapping a).Keyed) (hb : (Value.mapping b).Keyed)
    (hc : (Value.mapping c).Keyed) (h : ¬ Interrupted (.mapping a) (.mapping b) (.mapping c)) :
    (a.merge b).merge c = a.merge (b.merge c) := by
  have hlower : Uninterrupted (some (.mapping a)) (.mapping b) (.mapping c) := by
    rintro below ⟨⟩
    exact ⟨ha, h⟩
  have hover := hlower.over_over hc hb
  simpa only [over_mapping, Value.mapping.injEq] using hover

theorem merge_self (ha : (Value.mapping a).Keyed) : a.merge a = a := by
  have hover := over_self ha
  simpa only [over_mapping, Value.mapping.injEq] using hover

theorem merge_merge_self (ha : (Value.mapping a).Keyed) (hb : (Value.mapping b).Keyed) :
    (a.merge b).merge b = a.merge b := by
  rw [merge_assoc ha hb hb (not_interrupted_self _ _), merge_self hb]

theorem overlaid_of_keyed (ha : (Value.mapping a).Keyed) (hb : (Value.mapping b).Keyed)
    (hc : (Value.mapping c).Keyed) :
    (∀ path, Overlaid (.mapping a) (.mapping b) (.mapping (a.merge b)) path) ∧
      (a.merge b).merge b = a.merge b ∧
      (¬ Interrupted (.mapping a) (.mapping b) (.mapping c) →
        (a.merge b).merge c = a.merge (b.merge c)) := by
  refine ⟨fun path => ?_, merge_merge_self ha hb, merge_assoc ha hb hc⟩
  rw [← over_mapping]
  exact overlaid_over hb _ path

-- The condition on the middle layer cannot be dropped.
example :
    ((Value.mapping ((merge [(.text "a", .mapping [(.text "x", .null)])] [(.text "a", .null)]).merge
      [(.text "a", .mapping [])])).at? [.text "a", .text "x"]).isNone = true ∧
    ((Value.mapping (merge [(.text "a", .mapping [(.text "x", .null)])] (merge [(.text "a", .null)]
      [(.text "a", .mapping [])]))).at? [.text "a", .text "x"]).isSome = true := by
  decide

def bottomLayer : Entries :=
  [(.text "crawler", .mapping [(.text "max_depth", .int 32)]), (.text "provider", .text "none")]

def middleLayer : Entries :=
  [(.text "provider", .mapping [(.text "encoding", .text "utf-8")]),
   (.text "crawler", .mapping [(.text "pragma_once", .bool true)])]

def topLayer : Entries :=
  [(.text "crawler", .mapping [(.text "max_depth", .int 4)]), (.text "provider", .null)]

theorem keyed_layers : (Value.mapping bottomLayer).Keyed ∧ (Value.mapping middleLayer).Keyed ∧
    (Value.mapping topLayer).Keyed := by
  have hsingle (key : Key) {value : Value} (h : value.Keyed) : (Value.mapping [(key, value)]).Keyed :=
    .mapping (List.pairwise_singleton _ _) (by simpa using h)
  refine ⟨.mapping (by unfold Distinct; decide) ?_, .mapping (by unfold Distinct; decide) ?_,
    .mapping (by unfold Distinct; decide) ?_⟩
  · simpa [bottomLayer] using ⟨hsingle _ (.int 32), .text "none"⟩
  · simpa [middleLayer] using ⟨hsingle _ (.text "utf-8"), hsingle _ (.bool true)⟩
  · simpa [topLayer] using ⟨hsingle _ (.int 4), .null⟩

theorem not_interrupted_layers :
    ¬ Interrupted (.mapping bottomLayer) (.mapping middleLayer) (.mapping topLayer) := by
  rw [interrupted_mapping_iff]
  rintro ⟨key, x, y, z, hx, hy, hz, h⟩
  simp only [topLayer, find?, Key.same_text_iff] at hz
  split at hz
  · subst key
    cases hx
    cases hy
    cases hz
    rw [interrupted_mapping_iff] at h
    obtain ⟨key, x, y, z, hx, hy, -, -⟩ := h
    simp only [find?, Key.same_text_iff] at hx hy
    split at hx
    · subst key
      cases hy
    · cases hx
  · split at hz
    · subst key
      cases hz
      obtain ⟨path, -, ⟨entries, hentries⟩, -⟩ := h
      cases path <;> cases hentries
    · cases hz

theorem overlaid_of_keyed_layers :
    ((Value.mapping bottomLayer).Keyed ∧ (Value.mapping middleLayer).Keyed ∧
      (Value.mapping topLayer).Keyed ∧
      ¬ Interrupted (.mapping bottomLayer) (.mapping middleLayer) (.mapping topLayer)) ∧
    ((Value.mapping (bottomLayer.merge middleLayer)).at? [.text "crawler", .text "pragma_once"] =
        some (.bool true) ∧
      (Value.mapping (bottomLayer.merge middleLayer)).at? [.text "provider"] =
        some (.mapping [(.text "encoding", .text "utf-8")]) ∧
      (Value.mapping (bottomLayer.merge middleLayer)).at? [.text "crawler", .text "max_depth"] =
        some (.int 32)) ∧
    (bottomLayer.merge middleLayer).merge middleLayer = bottomLayer.merge middleLayer ∧
    (bottomLayer.merge middleLayer).merge topLayer = bottomLayer.merge (middleLayer.merge topLayer) := by
  obtain ⟨hbottom, hmiddle, htop⟩ := keyed_layers
  obtain ⟨hoverlaid, hself, hassoc⟩ := overlaid_of_keyed hbottom hmiddle htop
  have hwhole : ¬ (Value.mapping middleLayer).CutOff [.text "crawler", .text "max_depth"] := by
    rw [cutOff_mapping_iff]
    rintro ⟨inner, ⟨⟩, hcut⟩
    rw [cutOff_mapping_iff] at hcut
    obtain ⟨inner, ⟨⟩, -⟩ := hcut
  refine ⟨⟨hbottom, hmiddle, htop, not_interrupted_layers⟩,
    ⟨(hoverlaid _).leaf _ rfl rfl, (hoverlaid _).fresh _ rfl ?_, (hoverlaid _).kept rfl hwhole⟩,
    hself, hassoc not_interrupted_layers⟩
  rintro below ⟨⟩

end Entries

end ShaderSources
