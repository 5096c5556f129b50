import ShaderSources.Provider.Catalog
import ShaderSources.Proofs.Sources
import ShaderSources.Proofs.TextCuts

namespace ShaderSources

namespace Source

open Text

/-- A hash sign and `pragma once` as words of their own, with blanks before them and between them. -/
def OnceLine (line : Text) : Prop :=
  ∃ lead mid gap rest,
    line = lead ++ '#' :: (mid ++ ("pragma".toList ++ (gap ++ ("once".toList ++ rest)))) ∧
    (∀ c ∈ lead, isSpaceOrTab c = true) ∧ (∀ c ∈ mid, isSpaceOrTab c = true) ∧
    (gap ≠ [] ∧ ∀ c ∈ gap, isSpaceOrTab c = true) ∧ ∀ c ∈ rest.head?, isWordChar c = false

structure Exposed (before : List Text) : Prop where
  outside : (carryAfter before).inComment = false
  fresh : ∀ last, before.getLast? = some last → Text.endsWith (Text.lineBody last) '\\' = false

def AsksOnce (source : Text) : Prop :=
  ∃ before text after, splitLines source = before ++ text :: after ∧ Exposed before ∧ OnceLine text

def HidesOnce (source : Text) : Prop :=
  ∃ before text after, splitLines source = before ++ text :: after ∧ ¬ Exposed before ∧ OnceLine text

theorem exposed_iff {before : List Text} : Exposed before ↔ carryAfter before = .start := by
  constructor
  · rintro ⟨houtside, hfresh⟩
    have hcontinued := not_continued_carryAfter before |>.mpr hfresh
    cases hcarry : carryAfter before with
    | mk inComment continued =>
      rw [hcarry] at houtside hcontinued
      exact congrArg₂ Carry.mk houtside hcontinued
  · intro hcarry
    exact ⟨congrArg Carry.inComment hcarry,
      not_continued_carryAfter before |>.mp (congrArg Carry.continued hcarry)⟩

instance (before : List Text) : Decidable (Exposed before) := decidable_of_iff _ exposed_iff.symm

theorem exists_split_iff {lines : List Text} {P : List Text → Text → Prop} :
    (∃ before text after, lines = before ++ text :: after ∧ P before text) ↔
      ∃ k : Fin lines.length, P (lines.take k) lines[k] := by
  constructor
  · rintro ⟨before, text, after, rfl, h⟩
    refine ⟨⟨before.length, by simp⟩, ?_⟩
    simpa using h
  · rintro ⟨k, h⟩
    refine ⟨lines.take k, lines[k], lines.drop (k + 1), ?_, h⟩
    rw [Fin.getElem_fin, ← List.drop_eq_getElem_cons k.isLt, List.take_append_drop]

theorem afterBlanks?_eq_some_iff {text rest : Text} (hrest : ∀ c ∈ rest.head?, isSpaceOrTab c = false) :
    afterBlanks? text = some rest ↔
      ∃ gap, text = gap ++ rest ∧ gap ≠ [] ∧ ∀ c ∈ gap, isSpaceOrTab c = true := by
  cases text with
  | nil =>
    rw [afterBlanks?]
    constructor
    · nofun
    · rintro ⟨gap, hgap, hne, -⟩
      exact absurd (List.append_eq_nil_iff.mp hgap.symm).1 hne
  | cons c text =>
    rw [afterBlanks?]
    split
    · rename_i hc
      rw [Option.some_inj, dropWhile_eq_iff hrest]
      constructor
      · rintro ⟨gap, rfl, hgap⟩
        exact ⟨c :: gap, rfl, by simp, List.forall_mem_cons.mpr ⟨hc, hgap⟩⟩
      · rintro ⟨gap, htext, hne, hgap⟩
        obtain ⟨d, gap, rfl⟩ := List.exists_cons_of_ne_nil hne
        cases htext
        exact ⟨gap, rfl, (List.forall_mem_cons.mp hgap).2⟩
    · rename_i hc
      constructor
      · nofun
      · rintro ⟨gap, htext, hne, hgap⟩
        obtain ⟨d, gap, rfl⟩ := List.exists_cons_of_ne_nil hne
        cases htext
        exact absurd (hgap c List.mem_cons_self) hc

theorem startsWord_eq_false_iff {text : Text} :
    startsWord text = false ↔ ∀ c ∈ text.head?, isWordChar c = false := by
  cases text with
  | nil => simp [startsWord]
  | cons c text => simp [startsWord]

-- The line as it is read: each blank is passed over, and each word taken off.
theorem isPragmaOnceLine_iff {line : Text} : isPragmaOnceLine line = true ↔
    ∃ hash word rest, line.dropWhile isSpaceOrTab = '#' :: hash ∧
      hash.dropWhile isSpaceOrTab = "pragma".toList ++ word ∧
      afterBlanks? word = some ("once".toList ++ rest) ∧ startsWord rest = false := by
  unfold isPragmaOnceLine
  constructor
  · intro h
    split at h
    · rename_i hash hhash
      split at h
      · rename_i word hword
        split at h
        · rename_i rest honce
          obtain ⟨text, htext, honce⟩ := Option.bind_eq_some_iff.mp honce
          rw [after?_eq_some_iff] at hword honce
          exact ⟨hash, word, rest, hhash, hword, honce ▸ htext, by simpa using h⟩
        · cases h
      · cases h
    · cases h
  · rintro ⟨hash, word, rest, hhash, hword, honce, hrest⟩
    simp only [hhash, hword, after?_append, honce, Option.bind_some, hrest]
    rfl

theorem onceLine_iff {line : Text} : isPragmaOnceLine line = true ↔ OnceLine line := by
  rw [isPragmaOnceLine_iff]
  constructor
  · rintro ⟨hash, word, rest, hhash, hword, honce, hrest⟩
    obtain ⟨lead, rfl, hlead⟩ := (dropWhile_eq_iff (by simp [isSpaceOrTab])).mp hhash
    obtain ⟨mid, rfl, hmid⟩ := (dropWhile_eq_iff (by simp [isSpaceOrTab])).mp hword
    obtain ⟨gap, rfl, hgap⟩ := (afterBlanks?_eq_some_iff (by simp [isSpaceOrTab])).mp honce
    exact ⟨lead, mid, gap, rest, rfl, hlead, hmid, hgap, startsWord_eq_false_iff.mp hrest⟩
  · rintro ⟨lead, mid, gap, rest, rfl, hlead, hmid, hgap, hrest⟩
    refine ⟨_, _, rest, (dropWhile_eq_iff (by simp [isSpaceOrTab])).mpr ⟨lead, rfl, hlead⟩,
      (dropWhile_eq_iff (by simp [isSpaceOrTab])).mpr ⟨mid, rfl, hmid⟩,
      (afterBlanks?_eq_some_iff (by simp [isSpaceOrTab])).mpr ⟨gap, rfl, hgap⟩,
      startsWord_eq_false_iff.mpr hrest⟩

instance (line : Text) : Decidable (OnceLine line) := decidable_of_iff _ onceLine_iff

instance (source : Text) : Decidable (AsksOnce source) := decidable_of_iff _ exists_split_iff.symm

instance (source : Text) : Decidable (HidesOnce source) := decidable_of_iff _ exists_split_iff.symm

theorem hasPragmaOnce_iff {source : Text} :
    hasPragmaOnce source = true ↔ AsksOnce source ∨ HidesOnce source := by
  rw [hasPragmaOnce, List.any_eq_true]
  constructor
  · rintro ⟨text, hmem, honce⟩
    obtain ⟨before, after, hlines⟩ := List.append_of_mem hmem
    rw [onceLine_iff] at honce
    by_cases hexposed : Exposed before
    · exact .inl ⟨before, text, after, hlines, hexposed, honce⟩
    · exact .inr ⟨before, text, after, hlines, hexposed, honce⟩
  · rintro (⟨before, text, after, hlines, -, honce⟩ | ⟨before, text, after, hlines, -, honce⟩)
    · exact ⟨text, by simp [hlines], onceLine_iff.mpr honce⟩
    · exact ⟨text, by simp [hlines], onceLine_iff.mpr honce⟩

theorem hasPragmaOnce_iff_asksOnce {source : Text} :
    (hasPragmaOnce source = true ↔ AsksOnce source) ↔ (HidesOnce source → AsksOnce source) := by
  rw [hasPragmaOnce_iff]
  exact or_iff_left_iff_imp

end Source

open Source

variable {Context Fault : Type} {provider : Provider Context Fault} {options : Options}

theorem asksOnce_of_skipped {root : Root Context} (h : Crawled provider options root) :
    (∀ source, (hasPragmaOnce source = true ↔ AsksOnce source) ↔
      (HidesOnce source → AsksOnce source)) ∧
    ((∀ T ∈ root.sources, HidesOnce T.source → AsksOnce T.source) →
      ∀ S ∈ root.sources, ∀ d name, .skipped d name ∈ S.parts →
        ∃ T ∈ root.sources, T.name = name ∧ AsksOnce T.source) := by
  refine ⟨fun source => hasPragmaOnce_iff_asksOnce, fun hshown S hS d name hskipped => ?_⟩
  obtain ⟨-, T, hT, hname, honce⟩ := h.marked hS hskipped
  exact ⟨T, hT, hname, (hasPragmaOnce_iff_asksOnce.mpr (hshown T hT)).mp honce⟩

def commented (told : String) : Catalog :=
  ⟨[("main", .text "#include \"lib\"\n#include \"lib\"\n"),
    ("lib", .text ("/*\n#pragma once\n*/" ++ told ++ "\n"))]⟩

def skipsLib : Part Value → Bool
  | .skipped _ name => name = "lib"
  | _ => false

theorem asksOnce_of_skipped_commented :
    ∃ root : Root Value, Crawled (commented "\n #\tpragma once //").provider ⟨8, true, true⟩ root ∧
      (∀ T ∈ root.sources, HidesOnce T.source → AsksOnce T.source) ∧
      (∃ T ∈ root.sources, HidesOnce T.source) ∧
      ∃ d, .skipped d "lib" ∈ root.parts ∧ ∃ T ∈ root.sources, T.name = "lib" ∧ AsksOnce T.source := by
  let provider : Provider Value Fault := (commented "\n #\tpragma once //").provider
  let lib := "/*\n#pragma once\n*/\n #\tpragma once //\n".toList
  obtain ⟨root, hroot, heq⟩ := @Walk.exists_result_eq_ok _ _ _ _
    (expandFile provider ⟨8, true, true⟩ "main" Value.null)
    (fun root => (root.sources.map Root.source, root.parts.any skipsLib))
    (["#include \"lib\"\n#include \"lib\"\n".toList, lib], true) (by decide +kernel)
  obtain ⟨hsources, hskips⟩ := Prod.mk.inj heq
  have hsource {T : Root Value} (hT : T ∈ root.sources) : T.source ∈ root.sources.map Root.source :=
    List.mem_map_of_mem hT
  rw [hsources] at hsource
  have hcrawled : Crawled provider ⟨8, true, true⟩ root := .inr ⟨"main", .null, hroot⟩
  have hshown : ∀ T ∈ root.sources, HidesOnce T.source → AsksOnce T.source := by
    intro T hT
    have hmem := hsource hT
    rw [List.mem_cons, List.mem_singleton] at hmem
    rcases hmem with h | h
    · rw [h]
      exact fun hhides => absurd hhides (by decide +kernel)
    · rw [h]
      exact fun _ => by decide +kernel
  have hlib : lib ∈ root.sources.map Root.source := by simp [hsources]
  obtain ⟨T, hT, hsame⟩ := List.mem_map.mp hlib
  obtain ⟨p, hp, hlast⟩ := List.any_eq_true.mp hskips
  cases p with
  | skipped d name =>
    obtain rfl : name = "lib" := of_decide_eq_true hlast
    exact ⟨root, hcrawled, hshown, ⟨T, hT, hsame ▸ (by decide +kernel)⟩, d, hp,
      (asksOnce_of_skipped hcrawled).2 hshown root List.mem_cons_self d "lib" hp⟩
  | _ => cases hlast

def commentedFiles (once : Bool) : Option (List String) :=
  (expandFile (commented "").provider ⟨8, true, once⟩ "main" Value.null).result.toOption.map fun root =>
    root.chunks.map Chunk.file

theorem exists_not_asksOnce :
    hasPragmaOnce "/*\n#pragma once\n*/\n".toList = true ∧ ¬ AsksOnce "/*\n#pragma once\n*/\n".toList ∧
      commentedFiles false = some ["lib", "lib"] ∧ commentedFiles true = some ["lib"] := by
  refine ⟨by decide +kernel, by decide +kernel, by decide +kernel, by decide +kernel⟩

end ShaderSources
