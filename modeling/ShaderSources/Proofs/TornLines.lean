import ShaderSources.Proofs.Covering

namespace ShaderSources.Chunk

open Text

variable {Context : Type}

/-- Line `k` starts behind a line feed inside a chunk that breaks off in it, and the next chunk does
not go on in that line of that file. -/
def Torn (chunks : List (Chunk Context)) (k : Nat) : Prop :=
  ∃ (front : List (Chunk Context)) (chunk next : Chunk Context) (back : List (Chunk Context)),
    chunks = front ++ chunk :: next :: back ∧ '\n' ∈ chunk.source ∧
    endsWith chunk.source '\n' = false ∧
    k = (join front).count '\n' + chunk.source.count '\n' + 1 ∧
    ¬ (next.file = chunk.file ∧ next.line = chunk.line + (chunk.source.count '\n' : Nat))

theorem Covers.take_join {chunks front : List (Chunk Context)} {chunk : Chunk Context}
    {n inner : Nat} (h : Covers chunks n front chunk inner) :
    (join chunks).take n = join front ++ chunk.source.take inner := by
  obtain ⟨⟨back, rfl⟩, rfl, hinside⟩ := h
  rw [join_append, join_cons, List.take_length_add_append,
    List.take_append_of_le_length (Nat.le_of_lt hinside)]

theorem exists_covers_lineStart {chunks : List (Chunk Context)} {k : Nat} (hk : 1 ≤ k)
    (hk' : k ≤ totalLines chunks) :
    ∃ front chunk inner, Covers chunks (lineStart (join chunks) k) front chunk inner ∧
      Closed (join front ++ chunk.source.take inner) ∧
      k = (join front).count '\n' + (chunk.source.take inner).count '\n' + 1 := by
  rw [totalLines_eq_lineCount] at hk'
  obtain ⟨before, after, hjoin, hclosed, hne, hcount, hstart⟩ := exists_lineStart hk hk'
  have hlength : before.length < (join chunks).length := by
    rw [hjoin, List.length_append]
    have := List.length_pos_iff.mpr hne
    omega
  obtain ⟨front, chunk, inner, hcovers⟩ := exists_covers hlength
  have hbefore : before = join front ++ chunk.source.take inner := by
    rw [← hcovers.take_join, hjoin, List.take_left]
  refine ⟨front, chunk, inner, hstart ▸ hcovers, hbefore ▸ hclosed, ?_⟩
  rw [← List.count_append, ← hbefore, hcount]

theorem exists_unfinished {text : Text} (hmem : '\n' ∈ text) (hend : endsWith text '\n' = false) :
    ∃ front back, text = front ++ back ∧ Closed front ∧ '\n' ∈ front ∧ back ≠ [] ∧ '\n' ∉ back := by
  have hne : text ≠ [] := List.ne_nil_of_mem hmem
  have hcount : Text.lineCount text = text.count '\n' + 1 := by simp [Text.lineCount, hne, hend]
  obtain ⟨front, back, rfl, hclosed, hback, hfront, -⟩ :=
    @exists_lineStart text (Text.lineCount text) (by omega) (Nat.le_refl _)
  have hpos := List.count_pos_iff.mpr hmem
  rw [hcount, List.count_append] at hfront
  rw [List.count_append] at hpos
  refine ⟨front, back, rfl, hclosed, ?_, hback, ?_⟩
  · exact List.count_pos_iff.mp (by omega)
  · exact List.count_eq_zero.mp (by omega)

theorem torn_iff {chunks front : List (Chunk Context)} {chunk : Chunk Context} {k inner : Nat}
    (h : Covers chunks (lineStart (join chunks) k) front chunk inner)
    (hk : k = (join front).count '\n' + (chunk.source.take inner).count '\n' + 1) :
    Torn chunks k ↔ '\n' ∈ chunk.source.take inner ∧ '\n' ∉ chunk.source.drop inner ∧
      ∃ (next : Chunk Context) (back : List (Chunk Context)),
        chunks = front ++ chunk :: next :: back ∧ ¬ (next.file = chunk.file ∧
          next.line = chunk.line + ((chunk.source.take inner).count '\n' : Nat)) := by
  constructor
  · rintro ⟨front', chunk', next, back, hsplit, hmem, hend, hline, hapart⟩
    obtain ⟨p, q, hsource, hclosed, hp, hq, hfree⟩ := exists_unfinished hmem hend
    have hjoin : join chunks = join front' ++ p ++ (q ++ join (next :: back)) := by
      rw [hsplit, join_append, join_cons, hsource]
      simp only [List.append_assoc]
    have hcount : chunk'.source.count '\n' = p.count '\n' := by
      rw [hsource, List.count_append, List.count_eq_zero.mpr hfree, Nat.add_zero]
    have hstart : lineStart (join chunks) k = (join front' ++ p).length := by
      have hk' : k = (join front' ++ p).count '\n' + 1 := by
        rw [hline, hcount, List.count_append]
      rw [hjoin, hk']
      exact lineStart_append ((closed_append (List.ne_nil_of_mem hp)).mpr hclosed) _
    have hinside : p.length < chunk'.source.length := by
      have := List.length_pos_iff.mpr hq
      rw [hsource, List.length_append]
      omega
    have hcovers : Covers chunks (lineStart (join chunks) k) front' chunk' p.length :=
      ⟨⟨next :: back, hsplit⟩, by rw [hstart, List.length_append], hinside⟩
    obtain ⟨rfl, rfl, rfl⟩ := h.unique hcovers
    have htake : chunk'.source.take p.length = p := by rw [hsource, List.take_left]
    have hdrop : chunk'.source.drop p.length = q := by rw [hsource, List.drop_left]
    rw [htake, hdrop, ← hcount]
    exact ⟨hp, hfree, next, back, hsplit, hapart⟩
  · rintro ⟨hmem, hfree, next, back, hsplit, hapart⟩
    have hcount := count_take_of_not_mem_drop hfree
    have hdrop : chunk.source.drop inner ≠ [] := by
      intro hnil
      have := List.drop_eq_nil_iff.mp hnil
      have := h.inside
      omega
    have hend : endsWith chunk.source '\n' = false := by
      rw [← List.take_append_drop inner chunk.source, endsWith_append hdrop]
      by_contra hnot
      exact hfree (mem_of_endsWith (Bool.not_eq_false _ ▸ hnot))
    rw [hcount] at hk hapart
    exact ⟨front, chunk, next, back, hsplit, List.mem_of_mem_take hmem, hend, hk, hapart⟩

theorem count_join_lt {chunks f front : List (Chunk Context)} {back : List (Chunk Context)}
    (hne : ∀ chunk ∈ chunks, chunk.source ≠ []) (hsplit : chunks = front ++ back)
    (hclosed : Closed (join front)) (hf : f <+: front) (hproper : f ≠ front) :
    (join f).count '\n' < (join front).count '\n' := by
  obtain ⟨g, rfl⟩ := hf
  cases g with
  | nil => exact absurd (List.append_nil f).symm hproper
  | cons chunk g =>
    have hchunk : chunk.source ≠ [] := hne chunk (by simp [hsplit])
    have hg : join (chunk :: g) ≠ [] := by simp [hchunk]
    rw [join_append] at hclosed ⊢
    have hmem := ((closed_append hg).mp hclosed).newline_mem hg
    have := List.count_pos_iff.mpr hmem
    rw [List.count_append]
    omega

theorem locate_of_start {chunks front back : List (Chunk Context)} {chunk : Chunk Context} {k : Nat}
    (hne : ∀ chunk ∈ chunks, chunk.source ≠ []) (hk' : k ≤ totalLines chunks)
    (hsplit : chunks = front ++ chunk :: back) (hclosed : Closed (join front))
    (hk : k = (join front).count '\n' + 1) :
    locate chunks k = .ok ⟨chunk.file, chunk.line⟩ := by
  refine locate_of_first hk.symm hk' hsplit fun f hf hproper => ?_
  rw [hk]
  exact Nat.succ_lt_succ (count_join_lt hne hsplit hclosed hf hproper)

theorem locate_of_inside {chunks front back : List (Chunk Context)} {chunk : Chunk Context}
    {k inner : Nat} (hk' : k ≤ totalLines chunks) (hsplit : chunks = front ++ chunk :: back)
    (hk : k = (join front).count '\n' + (chunk.source.take inner).count '\n' + 1)
    (hmem : '\n' ∈ chunk.source.take inner) (hlast : back = [] ∨ '\n' ∈ chunk.source.drop inner) :
    locate chunks k =
      .ok ⟨chunk.file, chunk.line + ((chunk.source.take inner).count '\n' : Nat)⟩ := by
  have hcount : chunk.source.count '\n' =
      (chunk.source.take inner).count '\n' + (chunk.source.drop inner).count '\n' := by
    rw [← List.count_append, List.take_append_drop]
  have hpos := List.count_pos_iff.mpr hmem
  have hnext : back = [] ∨ k < lineAfter (join (front ++ [chunk])) := by
    refine hlast.imp_right fun hdrop => ?_
    have := List.count_pos_iff.mpr hdrop
    rw [lineAfter, join_append, join_cons, join_nil, List.append_nil, List.count_append]
    omega
  rw [locate_of_last (by rw [lineAfter]; omega) hk' hsplit hnext, lineAfter]
  congr 2
  omega

theorem locate_of_torn {chunks front back : List (Chunk Context)} {chunk next : Chunk Context}
    {k inner : Nat} (hk' : k ≤ totalLines chunks)
    (hsplit : chunks = front ++ chunk :: next :: back)
    (hk : k = (join front).count '\n' + (chunk.source.take inner).count '\n' + 1)
    (hmem : '\n' ∈ chunk.source.take inner) (hfree : '\n' ∉ chunk.source.drop inner) :
    locate chunks k = .ok ⟨next.file, next.line⟩ := by
  have hcount := count_take_of_not_mem_drop hfree
  have hpos := List.count_pos_iff.mpr hmem
  have hjoin : lineAfter (join (front ++ [chunk])) = k := by
    rw [lineAfter, join_append, join_cons, join_nil, List.append_nil, List.count_append, hk, hcount]
  refine locate_of_first hjoin hk' (by rw [hsplit, List.append_cons]) fun f hf hproper => ?_
  obtain ⟨g, rfl⟩ := (List.prefix_concat_iff.mp hf).resolve_left hproper
  rw [join_append, List.count_append] at hk
  rw [lineAfter]
  omega

theorem locate_eq_locateOffset_iff {chunks : List (Chunk Context)}
    (hne : ∀ chunk ∈ chunks, chunk.source ≠ []) {k : Nat} (hk : 1 ≤ k)
    (hk' : k ≤ totalLines chunks) :
    ∃ place point, locate chunks k = .ok place ∧
      locateOffset chunks (lineStart (join chunks) k) = .ok point ∧
      (place = ⟨point.file, point.line⟩ ↔ ¬ Torn chunks k) := by
  obtain ⟨front, chunk, inner, hcovers, hclosed, hcount⟩ := exists_covers_lineStart hk hk'
  obtain ⟨back, hsplit⟩ := hcovers.split
  have htorn := torn_iff hcovers hcount
  have hpoint := locateOffset_eq hcovers
  -- Without a line feed before it in its chunk, the line starts where the chunk does.
  by_cases hmem : '\n' ∈ chunk.source.take inner
  · by_cases hlast : back = [] ∨ '\n' ∈ chunk.source.drop inner
    · refine ⟨_, _, locate_of_inside hk' hsplit hcount hmem hlast, hpoint, iff_of_true rfl ?_⟩
      intro htear
      obtain ⟨-, hfree, next, rest, hsplit', -⟩ := htorn.mp htear
      rw [hsplit, List.append_cancel_left_eq, List.cons.injEq] at hsplit'
      rcases hlast with hlast | hlast
      · exact absurd (hsplit'.2.symm.trans hlast) (List.cons_ne_nil _ _)
      · exact hfree hlast
    · -- The next chunk starts on the same line, and is the one found.
      obtain ⟨hback, hfree⟩ := not_or.mp hlast
      obtain ⟨next, rest, rfl⟩ := List.exists_cons_of_ne_nil hback
      refine ⟨_, _, locate_of_torn hk' hsplit hcount hmem hfree, hpoint, ?_⟩
      rw [FileLine.mk.injEq, htorn]
      constructor
      · rintro hsame ⟨-, -, next', rest', hsplit', hapart⟩
        rw [hsplit, List.append_cancel_left_eq] at hsplit'
        cases hsplit'
        exact hapart hsame
      · intro hnot
        by_contra hapart
        exact hnot ⟨hmem, hfree, next, rest, hsplit, hapart⟩
  · have htake : chunk.source.take inner = [] := by
      by_contra hnot
      exact hmem (((closed_append hnot).mp hclosed).newline_mem hnot)
    rw [htake] at hclosed hcount hpoint
    refine ⟨_, _, locate_of_start hne hk' hsplit (by simpa using hclosed) (by simpa using hcount),
      hpoint, iff_of_true (by simp) ?_⟩
    exact fun htear => hmem (htorn.mp htear).1

def brokenOff : List (Chunk Unit) :=
  [⟨['a', '\n', 'b'], "f", 1, ()⟩, ⟨['c', '\n'], "g", 1, ()⟩]

theorem locate_eq_locateOffset_iff_brokenOff :
    ((∀ chunk ∈ brokenOff, chunk.source ≠ []) ∧ 1 ≤ 2 ∧ 2 ≤ totalLines brokenOff) ∧
      ∃ place point, locate brokenOff (2 : Nat) = .ok place ∧
        locateOffset brokenOff (lineStart (join brokenOff) 2) = .ok point ∧
        (place = ⟨point.file, point.line⟩ ↔ ¬ Torn brokenOff 2) :=
  ⟨by decide, locate_eq_locateOffset_iff (by decide) (by decide) (by decide)⟩

theorem exists_locate_ne_locateOffset :
    ¬ ∀ (chunks : List (Chunk Unit)) (k : Nat), (∀ chunk ∈ chunks, chunk.source ≠ []) → 1 ≤ k →
      k ≤ totalLines chunks → ∃ place point, locate chunks k = .ok place ∧
        locateOffset chunks (lineStart (join chunks) k) = .ok point ∧
        place = ⟨point.file, point.line⟩ := by
  intro h
  obtain ⟨place, point, hplace, hpoint, hsame⟩ :=
    h brokenOff 2 (by decide) (by decide) (by decide)
  have hplace' : locate brokenOff (2 : Nat) = .ok ⟨"g", 1⟩ := by decide +kernel
  have hpoint' : locateOffset brokenOff (lineStart (join brokenOff) 2) = .ok ⟨"f", 2, 0⟩ := by
    decide +kernel
  rw [hplace', Except.ok.injEq] at hplace
  rw [hpoint', Except.ok.injEq] at hpoint
  subst hplace hpoint
  exact absurd hsame (by decide)

end ShaderSources.Chunk
