import Mathlib.Data.List.Induction
import Mathlib.Data.List.Nodup
import ShaderSources.Chunk.Position
import ShaderSources.Proofs.LineOrigins
import ShaderSources.Proofs.Stages

namespace ShaderSources

open Source Text

variable {Context Fault : Type}

namespace Chunk

theorem files_concat (chunks : List (Chunk Context)) (chunk : Chunk Context) :
    files (chunks ++ [chunk]) =
      if chunk.file ∈ files chunks then files chunks else files chunks ++ [chunk.file] := by
  rw [files, List.foldl_append]
  rfl

theorem nodup_files (chunks : List (Chunk Context)) : (files chunks).Nodup := by
  induction chunks using List.reverseRecOn with
  | nil => exact .nil
  | append_singleton chunks chunk ih =>
    rw [files_concat]
    split
    · exact ih
    · rename_i hnew
      rw [← List.concat_eq_append]
      exact List.Nodup.concat hnew ih

theorem mem_files {chunks : List (Chunk Context)} {name : String} :
    name ∈ files chunks ↔ ∃ chunk ∈ chunks, chunk.file = name := by
  induction chunks using List.reverseRecOn with
  | nil => simp [files]
  | append_singleton chunks chunk ih =>
    simp only [files_concat, List.mem_append, List.mem_singleton, or_and_right, exists_or,
      exists_eq_left, ← ih]
    split
    · rename_i hold
      refine ⟨.inl, ?_⟩
      rintro (h | rfl)
      · exact h
      · exact hold
    · rw [List.mem_append, List.mem_singleton, eq_comm (a := name)]

end Chunk

def Root.origin (root : Root Context) : String × Text := (root.name, root.source)

def HasOwnLine (source : Text) : Prop :=
  ∃ before text after, splitLines source = before ++ text :: after ∧ ∀ d, ¬ Live before text d

variable {provider : Provider Context Fault} {options : Options}

theorem Stage.fetched_iff {s : Stage Context} {events : List (Event Context)}
    {tree : Expansion Context} {after : Memory Context}
    (h : s.walk provider options = ⟨events, .ok (tree, after)⟩) (name : String) (source : Text) :
    Fetched provider after.asked name source ↔
      Fetched provider s.memory.asked name source ∨ (name, source) ∈ tree.sources.map Root.origin := by
  refine Stage.ok_induction (motive := fun memory _ tree after =>
      Fetched provider after.asked name source ↔
        Fetched provider memory.asked name source ∨ (name, source) ∈ tree.sources.map Root.origin)
    ?done ?verbatim ?skipped ?nested h
  case done => simp [Expansion.sources]
  case verbatim =>
    intro memory after start text events rest hrest
    exact hrest
  case skipped =>
    intro site memory after d other events rest hname hrest
    rw [hrest]
    exact or_congr_left fetched_concat_resolve
  case nested =>
    intro site memory middle after d other text child inner tree events rest hname hfetch hinner hrest
    have hentered := @fetched_concat_fetch _ _ provider _ _ _ name _ _ _ source hname hfetch
    rw [hrest, hinner, asked_remember]
    refine (or_congr_left (or_congr_left hentered)).trans ?_
    simp only [Expansion.sources, List.map_cons, List.map_append, List.mem_cons, List.mem_append,
      Root.origin, Prod.mk.injEq, or_assoc]

theorem fetched_iff_mem_sources {path : String} {context : Context} {root : Root Context}
    (h : (expandFile provider options path context).result = .ok root) (name : String)
    (source : Text) :
    Fetched provider (expandFile provider options path context).calls name source ↔
      (name, source) ∈ root.sources.map Root.origin := by
  obtain ⟨file, text, child, hname, hfetch, -⟩ := expandFile_result_eq_ok.mp h
  have hwalk := (@Opens.file _ _ _ options _ _ _ _ _ hname hfetch).walk_eq
  rw [hwalk] at h
  obtain ⟨⟨tree, after⟩, htree, rfl⟩ := Walk.eq_of_map_eq_ok h
  have hcalls : (expandFile provider options path context).calls = after.asked := by
    rw [hwalk, Walk.calls, List.filterMap_append, Stage.asked_eq htree, Stage.asked_opened]
  have hopening := @fetched_concat_fetch _ _ provider [] _ _ name _ _ _ source hname hfetch
  rw [hcalls, Stage.fetched_iff htree, Stage.asked_opened, Root.sources, List.map_cons, List.mem_cons,
    Root.origin, Prod.mk.injEq]
  exact or_congr_left (hopening.trans (or_iff_right not_fetched_nil))

theorem Crawled.hasOwnLine_iff {root S : Root Context} (h : Crawled provider options root)
    (hS : S ∈ root.sources) : HasOwnLine S.source ↔ ∃ chunk, chunk ∈ S.ownChunks := by
  constructor
  · rintro ⟨before, text, after, hsplit, hown⟩
    rcases (h.laid hS).own_or_included (k := before.length + 1) (by omega)
      (by rw [hsplit, List.length_append, List.length_cons]; omega) with
        ⟨chunk, hp, -, -⟩ | ⟨p, -, d, -, hlive⟩
    · exact ⟨chunk, Part.mem_filterMap_chunk?.mpr hp⟩
    · rw [hsplit, liveAt_iff] at hlive
      exact absurd hlive (hown d)
  · rintro ⟨chunk, hchunk⟩
    obtain ⟨front, run, back, hsplit, hne, hrun, -⟩ := h.runChunk hS hchunk
    obtain ⟨text, run, rfl⟩ := List.exists_cons_of_ne_nil hne
    refine ⟨front, text, run ++ back, hsplit, fun d hlive => ?_⟩
    have hread := hrun.of_cons.1
    rw [live_iff.mp hlive] at hread
    cases hread

theorem Crawled.mem_files_iff {root : Root Context} (h : Crawled provider options root)
    {name : String} :
    name ∈ Chunk.files root.chunks ↔
      ∃ source, (name, source) ∈ root.sources.map Root.origin ∧ HasOwnLine source := by
  rw [Chunk.mem_files]
  constructor
  · rintro ⟨chunk, hchunk, rfl⟩
    obtain ⟨S, hS, hown⟩ := Root.exists_source_of_mem hchunk
    rw [(h.runChunk hS hown).file_eq]
    exact ⟨S.source, List.mem_map_of_mem hS, (h.hasOwnLine_iff hS).mpr ⟨chunk, hown⟩⟩
  · rintro ⟨source, hmem, hline⟩
    obtain ⟨S, hS, he⟩ := List.mem_map.mp hmem
    cases he
    obtain ⟨chunk, hown⟩ := (h.hasOwnLine_iff hS).mp hline
    exact ⟨chunk, Root.mem_chunks_of_source hS hown, (h.runChunk hS hown).file_eq⟩

theorem files_of_fetched {path : String} {context : Context} {root : Root Context}
    (h : (expandFile provider options path context).result = .ok root) :
    (Chunk.files root.chunks).Nodup ∧ ∀ name, name ∈ Chunk.files root.chunks ↔
      ∃ source, Fetched provider (expandFile provider options path context).calls name source ∧
        HasOwnLine source := by
  refine ⟨Chunk.nodup_files root.chunks, fun name => ?_⟩
  have hcrawled : Crawled provider options root := .inr ⟨path, context, h⟩
  simp only [fetched_iff_mem_sources h, hcrawled.mem_files_iff]

theorem files_of_fetched_wholeHeaders :
    ∃ root, (expandFile wholeHeaders ⟨8, true, false⟩ "main" ()).result = .ok root ∧
      (Chunk.files root.chunks).Nodup ∧
      (∃ source, Fetched wholeHeaders (expandFile wholeHeaders ⟨8, true, false⟩ "main" ()).calls
        "some" source ∧ HasOwnLine source) ∧
      ¬ ∃ source, Fetched wholeHeaders (expandFile wholeHeaders ⟨8, true, false⟩ "main" ()).calls
        "both" source ∧ HasOwnLine source := by
  obtain ⟨root, hroot, hfiles⟩ := @Walk.exists_result_eq_ok _ _ _ _
    (expandFile wholeHeaders ⟨8, true, false⟩ "main" ()) (fun root => Chunk.files root.chunks)
    ["main", "some"] (by decide +kernel)
  obtain ⟨hnodup, hfetched⟩ := files_of_fetched hroot
  rw [hfiles] at hfetched
  exact ⟨root, hroot, hnodup, (hfetched "some").mp (by simp), fun h =>
    absurd ((hfetched "both").mpr h) (by simp)⟩

theorem fetched_not_mem_files :
    ∃ root, (expandFile wholeHeaders ⟨8, true, false⟩ "main" ()).result = .ok root ∧
      ¬ ∀ name, name ∈ Chunk.files root.chunks ↔ ∃ source, Fetched wholeHeaders
        (expandFile wholeHeaders ⟨8, true, false⟩ "main" ()).calls name source := by
  obtain ⟨root, hroot, hfiles⟩ := @Walk.exists_result_eq_ok _ _ _ _
    (expandFile wholeHeaders ⟨8, true, false⟩ "main" ()) (fun root => Chunk.files root.chunks)
    ["main", "some"] (by decide +kernel)
  let past : List (Call Unit) :=
    [.resolve "main" (), .fetch "main" (), .resolve "both" (), .fetch "both" ()]
  refine ⟨root, hroot, fun hall => ?_⟩
  have hempty : "none" ∈ Chunk.files root.chunks := (hall "none").mpr ⟨[], past, "none", (), (),
    by decide +kernel, rfl, rfl⟩
  rw [hfiles] at hempty
  simp at hempty

end ShaderSources
