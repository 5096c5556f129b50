import ShaderSources.Proofs.Expands
import ShaderSources.Proofs.PassageCuts

namespace ShaderSources

open Source

variable {Context Fault : Type} (provider : Provider Context Fault) (options : Options)

/-- `Replaced provider options context memory before texts result after`: the lines `texts` behind
`before` become `result`, and what the crawl knows of itself grows from `memory` to `after`. -/
inductive Replaced : Context → Memory Context → List Text → List Text → Text → Memory Context → Prop
  | done {context : Context} {memory : Memory Context} {before : List Text} :
      Replaced context memory before [] [] memory
  | kept {context : Context} {memory after : Memory Context} {before texts : List Text}
      {text result : Text} (hdead : ∀ d, ¬ Live before text d)
      (hrest : Replaced context memory (before ++ [text]) texts result after) :
      Replaced context memory before (text :: texts) (text ++ result) after
  | skipped {context : Context} {memory after : Memory Context} {before texts : List Text}
      {text result : Text} {d : Directive} {name : String} (hlive : Live before text d)
      (hname : provider.resolve memory.asked d.path context = .ok name) (hmet : name ∈ memory.once)
      (hrest : Replaced context (memory.resolved d context) (before ++ [text]) texts result after) :
      Replaced context memory before (text :: texts) result after
  | nested {context child : Context} {memory middle after : Memory Context}
      {before texts : List Text} {text source inner result : Text} {d : Directive} {name : String}
      (hlive : Live before text d)
      (hname : provider.resolve memory.asked d.path context = .ok name) (hnew : name ∉ memory.once)
      (hfetch : provider.fetch (memory.resolved d context).asked d.path context =
        .ok (source, child))
      (hinner : Replaced child
        (remember options name source (memory.fetched d context)) [] (Text.splitLines source) inner
        middle)
      (hrest : Replaced context middle (before ++ [text]) texts result after) :
      Replaced context memory before (text :: texts) (inner ++ result) after

def Replacement (asked : List (Call Context)) (name : String) (source : Text) (context : Context)
    (result : Text) : Prop :=
  ∃ after, Replaced provider options context (remember options name source ⟨[], asked⟩) []
    (Text.splitLines source) result after

variable {provider options}

theorem Replaced.unique {context : Context} {memory after last : Memory Context}
    {before texts : List Text} {result other : Text}
    (h : Replaced provider options context memory before texts result after)
    (h' : Replaced provider options context memory before texts other last) :
    result = other ∧ after = last := by
  induction h generalizing other last with
  | done =>
    cases h'
    exact ⟨rfl, rfl⟩
  | kept hdead hrest ih =>
    cases h' with
    | kept hdead' hrest' =>
      obtain ⟨rfl, rfl⟩ := ih hrest'
      exact ⟨rfl, rfl⟩
    | skipped hlive => exact absurd hlive (hdead _)
    | nested hlive => exact absurd hlive (hdead _)
  | skipped hlive hname hmet hrest ih =>
    cases h' with
    | kept hdead' => exact absurd hlive (hdead' _)
    | skipped hlive' hname' hmet' hrest' =>
      cases hlive.unique hlive'
      exact ih hrest'
    | nested hlive' hname' hnew' =>
      cases hlive.unique hlive'
      cases hname.symm.trans hname'
      exact absurd hmet hnew'
  | nested hlive hname hnew hfetch hinner hrest ihinner ihrest =>
    cases h' with
    | kept hdead' => exact absurd hlive (hdead' _)
    | skipped hlive' hname' hmet' =>
      cases hlive.unique hlive'
      cases hname.symm.trans hname'
      exact absurd hmet' hnew
    | nested hlive' hname' hnew' hfetch' hinner' hrest' =>
      cases hlive.unique hlive'
      cases hname.symm.trans hname'
      cases hfetch.symm.trans hfetch'
      obtain ⟨rfl, rfl⟩ := ihinner hinner'
      obtain ⟨rfl, rfl⟩ := ihrest hrest'
      exact ⟨rfl, rfl⟩

theorem Replaced.of_ordinaryRun {context : Context} {memory after : Memory Context}
    {before run texts : List Text} {result : Text} (hrun : OrdinaryRun before run)
    (h : Replaced provider options context memory (before ++ run) texts result after) :
    Replaced provider options context memory before (run ++ texts) (run.flatten ++ result) after := by
  induction run generalizing before with
  | nil => simpa using h
  | cons text run ih =>
    obtain ⟨hread, htail⟩ := hrun.of_cons
    have hrest := ih htail (by simpa using h)
    rw [List.flatten_cons, List.append_assoc]
    refine .kept (fun d hlive => ?_) hrest
    rw [live_iff, hread] at hlive
    cases hlive

theorem Expands.replaced {room : Nat} {site : Site Context} {memory after : Memory Context}
    {ps : List Passage} {tree : Expansion Context}
    (h : Expands provider options room site memory ps tree after) {before texts : List Text}
    (hcut : Cut before texts ps) :
    Replaced provider options site.context memory before texts
      (Chunk.join (tree.chunks site.file site.context)) after := by
  induction h generalizing before texts with
  | done =>
    cases hcut
    exact .done
  | verbatim hrest ih =>
    cases hcut with
    | verbatim hne hrun hnext hcut => exact .of_ordinaryRun hrun (ih hcut)
  | skipped hname hmet hrest ih =>
    cases hcut with
    | directive hlive hcut => exact .skipped hlive hname hmet (ih hcut)
  | nested hname hnew hcycle hfetch hinner hrest ihinner ihrest =>
    cases hcut with
    | directive hlive hcut =>
      rw [Expansion.chunks, Chunk.join_append]
      exact .nested hlive hname hnew hfetch (ihinner (cut_passages _)) (ihrest hcut)

theorem replacement_iff_of_expandBehind {asked : List (Call Context)} {name : String} {source : Text}
    {context : Context} {root : Root Context}
    (h : (expandBehind provider options asked name source context).result = .ok root) (result : Text) :
    Replacement provider options asked name source context result ↔
      result = Chunk.join root.chunks := by
  obtain ⟨tree, after, rfl, htree⟩ := expandBehind_result_eq_ok.mp h
  have hjoin := htree.replaced (cut_passages source)
  constructor
  · rintro ⟨last, hresult⟩
    exact (hresult.unique hjoin).1
  · rintro rfl
    exact ⟨after, hjoin⟩

theorem join_chunks_iff_replacement (provider : Provider Context Fault) (options : Options) :
    (∀ name source context root,
      (expandSource provider options name source context).result = .ok root →
        ∀ result, result = Chunk.join root.chunks ↔
          Replacement provider options [] name source context result) ∧
    (∀ path context root, (expandFile provider options path context).result = .ok root →
      ∃ name source child, provider.resolve [] path context = .ok name ∧
        provider.fetch [.resolve path context] path context = .ok (source, child) ∧
        ∀ result, result = Chunk.join root.chunks ↔
          Replacement provider options [.resolve path context, .fetch path context] name source child
            result) := by
  constructor
  · intro name source context root h result
    exact (replacement_iff_of_expandBehind h result).symm
  · intro path context root h
    obtain ⟨name, source, child, hname, hfetch, hroot⟩ := expandFile_result_eq_ok.mp h
    exact ⟨name, source, child, hname, hfetch, fun result =>
      (replacement_iff_of_expandBehind hroot result).symm⟩

theorem join_chunks_iff_replacement_headers :
    (∃ root, (expandSource headers ⟨8, true, true⟩ "root" "A\n#include <twice>\nZ".toList ()).result =
        .ok root ∧ Chunk.join root.chunks = "A\nx\n#pragma once\nB\nyZ".toList ∧
      ∀ result, result = Chunk.join root.chunks ↔
        Replacement headers ⟨8, true, true⟩ [] "root" "A\n#include <twice>\nZ".toList () result) ∧
    ∃ root, (expandFile headers ⟨8, true, true⟩ "main" ()).result = .ok root ∧
      Chunk.join root.chunks = "A\n#pragma once\nB\nx\nyZ".toList ∧
      ∃ name source child, headers.resolve [] "main" () = .ok name ∧
        headers.fetch [.resolve "main" ()] "main" () = .ok (source, child) ∧
        ∀ result, result = Chunk.join root.chunks ↔
          Replacement headers ⟨8, true, true⟩ [.resolve "main" (), .fetch "main" ()] name source child
            result := by
  constructor
  · obtain ⟨root, hroot, hjoin⟩ := @Walk.exists_result_eq_ok _ _ _ _
      (expandSource headers ⟨8, true, true⟩ "root" "A\n#include <twice>\nZ".toList ())
      (fun root => Chunk.join root.chunks) "A\nx\n#pragma once\nB\nyZ".toList (by decide +kernel)
    exact ⟨root, hroot, hjoin, (join_chunks_iff_replacement headers _).1 _ _ _ _ hroot⟩
  · obtain ⟨root, hroot, hjoin⟩ := @Walk.exists_result_eq_ok _ _ _ _
      (expandFile headers ⟨8, true, true⟩ "main" ())
      (fun root => Chunk.join root.chunks) "A\n#pragma once\nB\nx\nyZ".toList (by decide +kernel)
    exact ⟨root, hroot, hjoin, (join_chunks_iff_replacement headers _).2 _ _ _ hroot⟩

end ShaderSources
