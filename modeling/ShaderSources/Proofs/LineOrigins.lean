import ShaderSources.Proofs.TornLines

namespace ShaderSources

open Source Text

variable {Context Fault : Type}

namespace Chunk

/-- Every chunk but the last ends its last line. -/
def Unbroken (chunks : List (Chunk Context)) : Prop :=
  ∀ chunk ∈ chunks.dropLast, Closed chunk.source

theorem closed_join {chunks : List (Chunk Context)} (h : ∀ chunk ∈ chunks, Closed chunk.source) :
    Closed (join chunks) := by
  induction chunks with
  | nil => exact .inl rfl
  | cons chunk chunks ih =>
    have hrest := ih fun c hc => h c (List.mem_cons_of_mem _ hc)
    exact (h chunk List.mem_cons_self).append hrest

theorem Unbroken.append {front back : List (Chunk Context)}
    (hfront : ∀ chunk ∈ front, Closed chunk.source) (hback : Unbroken back) : Unbroken (front ++ back) := by
  intro chunk hchunk
  by_cases hne : back = []
  · rw [hne, List.append_nil] at hchunk
    exact hfront chunk (List.dropLast_subset _ hchunk)
  · rw [List.dropLast_append_of_ne_nil hne] at hchunk
    rcases List.mem_append.mp hchunk with hchunk | hchunk
    · exact hfront chunk hchunk
    · exact hback chunk hchunk

theorem Unbroken.split {chunks front back : List (Chunk Context)} {chunk : Chunk Context}
    (h : Unbroken chunks) (hsplit : chunks = front ++ chunk :: back) :
    Closed (join front) ∧ (back = [] ∨ Closed chunk.source) := by
  rw [Unbroken, hsplit, List.dropLast_append_of_ne_nil (List.cons_ne_nil _ _)] at h
  constructor
  · exact closed_join fun c hc => h c (List.mem_append_left _ hc)
  · cases back with
    | nil => exact .inl rfl
    | cons next back => exact .inr (h chunk (List.mem_append_right _ List.mem_cons_self))

end Chunk

variable {provider : Provider Context Fault} {options : Options}

theorem RunChunk.closed {source : Text} {file : String} {context : Context} {chunk : Chunk Context}
    (h : RunChunk (splitLines source) file context chunk) (hclosed : Closed source) :
    Closed chunk.source := by
  obtain ⟨front, run, back, hsplit, hne, hrun, rfl⟩ := h
  have hlines := splitLines_isLines source
  rw [hsplit] at hlines
  cases back with
  | nil =>
    by_cases hnil : run.flatten = []
    · exact .inl hnil
    · rw [← flatten_splitLines source, hsplit, List.append_nil, List.flatten_append,
        closed_append hnil] at hclosed
      exact hclosed
  | cons line back => exact hlines.of_append.2.terminated.2

theorem Laid.ne_nil {file : String} {context : Context} {before texts : List Text}
    {parts : List (Part Context)} (h : Laid provider file context before texts parts)
    (hne : parts ≠ []) : texts ≠ [] := by
  cases h with
  | done => exact absurd rfl hne
  | own hrun => exact List.append_ne_nil_of_left_ne_nil hrun _
  | included => exact List.cons_ne_nil _ _

theorem Crawled.closed_of_mem_chunks {root S : Root Context} (h : Crawled provider options root)
    (hclosed : ∀ S ∈ root.expansion.sources, Closed S.source) (hS : S ∈ root.expansion.sources)
    {chunk : Chunk Context} (hchunk : chunk ∈ S.chunks) : Closed chunk.source := by
  obtain ⟨R, hR, hown⟩ := Root.exists_source_of_mem hchunk
  have hR' : R ∈ root.expansion.sources := by
    rcases List.mem_cons.mp hR with rfl | hR
    · exact hS
    · exact Expansion.sources_subset hS hR
  exact (h.runChunk (List.mem_cons_of_mem _ hR') hown).closed (hclosed R hR')

def wholeHeaders : Provider Unit String where
  resolve _ path _ := .ok path
  fetch _ path _ :=
    match path with
    | "main" => .ok ("A\n#include \"both\"\nY\nZ".toList, ())
    | "both" => .ok ("#include \"none\"\n#include \"some\"\n".toList, ())
    | "some" => .ok ("x\n\n".toList, ())
    | "none" => .ok ([], ())
    | _ => .error "no such header"

end ShaderSources
