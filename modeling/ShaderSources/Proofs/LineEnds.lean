import ShaderSources.Proofs.LikeCrawls
import ShaderSources.Proofs.Lines
import ShaderSources.Proofs.PassageCuts

namespace ShaderSources

open Source

namespace Text

def withReturns (text : Text) : Text := text.flatMap fun c => if c = '\n' then ['\r', '\n'] else [c]

@[simp] theorem withReturns_append (front back : Text) :
    withReturns (front ++ back) = withReturns front ++ withReturns back :=
  List.flatMap_append

theorem withReturns_of_not_mem {text : Text} (h : '\n' ∉ text) : withReturns text = text := by
  induction text with
  | nil => rfl
  | cons c text ih =>
    simp only [List.mem_cons, not_or] at h
    have hc : ¬ c = '\n' := Ne.symm h.1
    rw [withReturns, List.flatMap_cons, if_neg hc]
    exact congrArg (List.cons c) (ih h.2)

theorem withReturns_line {body : Text} (h : '\n' ∉ body) :
    withReturns (body ++ ['\n']) = body ++ ['\r', '\n'] := by
  rw [withReturns_append, withReturns_of_not_mem h]
  rfl

theorem IsLines.splitLines_withReturns {lines : List Text} (h : IsLines lines) :
    splitLines (withReturns lines.flatten) = lines.map withReturns := by
  induction h with
  | nil => rfl
  | last hne hfree =>
    rw [List.flatten_singleton, withReturns_of_not_mem hfree, splitLines_of_not_mem hne hfree,
      List.map_singleton, withReturns_of_not_mem hfree]
  | @cons body rest hfree hrest ih =>
    have hbody : '\n' ∉ body ++ ['\r'] := by simp [hfree]
    rw [List.flatten_cons, withReturns_append, withReturns_line hfree, List.map_cons,
      withReturns_line hfree, List.append_cons, List.append_assoc, List.singleton_append,
      splitLines_body_append hbody, ih, List.append_assoc]

theorem splitLines_withReturns (text : Text) :
    splitLines (withReturns text) = (splitLines text).map withReturns := by
  have h := (splitLines_isLines text).splitLines_withReturns
  rwa [flatten_splitLines] at h

theorem exists_body_of_mem_splitLines {text line : Text} (h : line ∈ splitLines text) :
    ∃ body, '\n' ∉ body ∧ (line = body ∨ line = body ++ ['\n']) := by
  generalize hlines : splitLines text = lines at h
  have hrow := hlines ▸ splitLines_isLines text
  clear hlines
  induction hrow with
  | nil => cases h
  | @last last hne hfree =>
    rw [List.mem_singleton.mp h]
    exact ⟨last, hfree, .inl rfl⟩
  | @cons body rest hfree hrest ih =>
    rcases List.mem_cons.mp h with rfl | h
    · exact ⟨body, hfree, .inr rfl⟩
    · exact ih h

theorem lineBody_withReturns {text line : Text} (h : line ∈ splitLines text) (hfree : '\r' ∉ line) :
    lineBody (withReturns line) = lineBody line := by
  obtain ⟨body, hbody, rfl | rfl⟩ := exists_body_of_mem_splitLines h
  · rw [withReturns_of_not_mem hbody]
  · have hreturn : '\r' ∉ body := fun hmem => hfree (List.mem_append_left _ hmem)
    rw [withReturns_line hbody, List.append_cons, lineBody, lineBody, dropEnd_concat, dropEnd_concat,
      dropEnd_concat, dropEnd_of_not_mem hreturn]

theorem dropWhile_append_of_false {p : Char → Bool} {c : Char} (hc : p c = false)
    (body rest : Text) : (body ++ c :: rest).dropWhile p = body.dropWhile p ++ c :: rest := by
  induction body with
  | nil => simp [hc]
  | cons b body ih =>
    by_cases hb : p b = true
    · simp [hb, ih]
    · simp [hb]

theorem after?_append_of_not_mem {lead : Text} {c : Char} (hc : c ∉ lead) (body rest : Text) :
    after? lead (body ++ c :: rest) = (after? lead body).map (· ++ c :: rest) := by
  induction lead generalizing body with
  | nil => rfl
  | cons a lead ih =>
    simp only [List.mem_cons, not_or] at hc
    cases body with
    | nil => simp [after?, Ne.symm hc.1]
    | cons b body =>
      by_cases hab : a = b
      · simp [after?, hab, ih hc.2]
      · simp [after?, hab]

end Text

open Text

namespace Source

structure EndsPragma (c : Char) : Prop where
  space : isSpaceOrTab c = false
  word : isWordChar c = false
  hash : c ≠ '#'

theorem afterBlanks?_append {c : Char} (hc : EndsPragma c) (body rest : Text) :
    afterBlanks? (body ++ c :: rest) = (afterBlanks? body).map (· ++ c :: rest) := by
  cases body with
  | nil => simp [afterBlanks?, hc.space]
  | cons b body =>
    by_cases hb : isSpaceOrTab b = true
    · simp [afterBlanks?, hb, dropWhile_append_of_false hc.space]
    · simp [afterBlanks?, hb]

theorem EndsPragma.not_mem {c : Char} (hc : EndsPragma c) {word : Text}
    (hword : word.all isWordChar = true) : c ∉ word := by
  intro hmem
  have h := List.all_eq_true.mp hword c hmem
  rw [hc.word] at h
  cases h

theorem startsWord_append {c : Char} (hc : EndsPragma c) (body rest : Text) :
    startsWord (body ++ c :: rest) = startsWord body := by
  cases body with
  | nil => exact hc.word
  | cons b body => rfl

-- Nothing behind the body of a line counts, once the body is over.
theorem isPragmaOnceLine_append {c : Char} (hc : EndsPragma c) (body rest : Text) :
    isPragmaOnceLine (body ++ c :: rest) = isPragmaOnceLine body := by
  have hpragma : c ∉ "pragma".toList := hc.not_mem (by decide +kernel)
  have honce : c ∉ "once".toList := hc.not_mem (by decide +kernel)
  rw [isPragmaOnceLine, isPragmaOnceLine, dropWhile_append_of_false hc.space]
  cases body.dropWhile isSpaceOrTab with
  | nil => simp [hc.hash]
  | cons b body =>
    by_cases hb : b = '#'
    · simp only [hb, List.cons_append, dropWhile_append_of_false hc.space,
        after?_append_of_not_mem hpragma]
      cases after? "pragma".toList (body.dropWhile isSpaceOrTab) with
      | none => rfl
      | some body =>
        simp only [Option.map_some, afterBlanks?_append hc]
        cases afterBlanks? body with
        | none => rfl
        | some body =>
          simp only [Option.map_some, Option.bind_some, after?_append_of_not_mem honce]
          cases after? "once".toList body with
          | none => rfl
          | some body => simp only [Option.map_some, startsWord_append hc]
    · simp [hb]

theorem isPragmaOnceLine_withReturns {text line : Text} (h : line ∈ splitLines text) :
    isPragmaOnceLine (withReturns line) = isPragmaOnceLine line := by
  have hreturn : EndsPragma '\r' := ⟨by decide, by decide +kernel, by decide⟩
  have hfeed : EndsPragma '\n' := ⟨by decide, by decide +kernel, by decide⟩
  obtain ⟨body, hbody, rfl | rfl⟩ := exists_body_of_mem_splitLines h
  · rw [withReturns_of_not_mem hbody]
  · rw [withReturns_line hbody, isPragmaOnceLine_append hreturn, isPragmaOnceLine_append hfeed]

theorem hasPragmaOnce_withReturns (source : Text) :
    hasPragmaOnce (withReturns source) = hasPragmaOnce source := by
  rw [hasPragmaOnce, hasPragmaOnce, splitLines_withReturns, List.any_map]
  rw [Bool.eq_iff_iff, List.any_eq_true, List.any_eq_true]
  apply exists_congr
  intro line
  apply and_congr_right
  intro hline
  rw [Function.comp, isPragmaOnceLine_withReturns hline]

structure LineLike (rel : Text → Text → Prop) (a b : Line) : Prop where
  number : a.number = b.number
  text : rel a.text b.text
  reading : a.reading = b.reading

theorem lineLike_readLines {rel : Text → Text → Prop} {texts texts' : List Text}
    (h : List.Forall₂ (fun s t => rel s t ∧ lineBody s = lineBody t) texts texts') (carry : Carry)
    (number : Nat) : List.Forall₂ (LineLike rel) (readLines carry number texts)
      (readLines carry number texts') := by
  induction h generalizing carry number with
  | nil => exact .nil
  | cons hline hrest ih =>
    obtain ⟨htext, hbody⟩ := hline
    rw [readLines, readLines, hbody]
    exact .cons ⟨rfl, htext, rfl⟩ (ih _ _)

section

variable {rel : Text → Text → Prop}
  (happend : ∀ {a b c d}, rel a b → rel c d → rel (a ++ c) (b ++ d))

include happend

theorem passageLike_consRun {line line' : Line} (hline : LineLike rel line line')
    {ps qs : List Passage} (h : List.Forall₂ (PassageLike rel) ps qs) :
    List.Forall₂ (PassageLike rel) (Passage.consRun line.number line.text ps)
      (Passage.consRun line'.number line'.text qs) := by
  have halone : PassageLike rel (.verbatim line.number line.text)
      (.verbatim line'.number line'.text) := by
    rw [hline.number]
    exact .verbatim hline.text
  cases h with
  | nil => exact .cons halone .nil
  | cons hp hps =>
    cases hp with
    | verbatim htext =>
      rw [Passage.consRun, Passage.consRun, hline.number]
      exact .cons (.verbatim (happend hline.text htext)) hps
    | directive => exact .cons halone (.cons .directive hps)
    | malformed => exact .cons halone (.cons .malformed hps)

theorem passageLike_ofLines {lines lines' : List Line}
    (h : List.Forall₂ (LineLike rel) lines lines') :
    List.Forall₂ (PassageLike rel) (Passage.ofLines lines) (Passage.ofLines lines') := by
  induction h with
  | nil => exact .nil
  | @cons line line' lines lines' hline hrest ih =>
    rw [Passage.ofLines, Passage.ofLines, ← hline.reading]
    cases line.reading with
    | ordinary => exact passageLike_consRun happend hline ih
    | directive d => exact .cons .directive ih
    | malformed m =>
      rw [hline.number]
      exact .cons .malformed ih

end

def Returned (s t : Text) : Prop := '\r' ∉ s ∧ t = withReturns s

theorem Returned.append {a b c d : Text} (h : Returned a b) (h' : Returned c d) :
    Returned (a ++ c) (b ++ d) := by
  obtain ⟨ha, rfl⟩ := h
  obtain ⟨hc, rfl⟩ := h'
  exact ⟨by simp [ha, hc], (withReturns_append a c).symm⟩

theorem Returned.not_mem_line {s t line : Text} (h : Returned s t) (hline : line ∈ splitLines s) :
    '\r' ∉ line := by
  intro hmem
  apply h.1
  rw [← flatten_splitLines s]
  exact List.mem_flatten.mpr ⟨line, hline, hmem⟩

theorem readAlike_returned : ReadAlike Returned := by
  constructor
  · intro s t hst
    rw [passages_eq, passages_eq]
    apply passageLike_ofLines Returned.append
    obtain ⟨-, rfl⟩ := id hst
    rw [lines, lines, splitLines_withReturns]
    apply lineLike_readLines
    rw [List.forall₂_map_right_iff]
    apply List.forall₂_same.mpr
    intro line hline
    have hfree := hst.not_mem_line hline
    exact ⟨⟨hfree, rfl⟩, (lineBody_withReturns hline hfree).symm⟩
  · rintro s _ ⟨-, rfl⟩
    exact (hasPragmaOnce_withReturns s).symm

end Source

open Source

variable {Context Fault : Type}

def Provider.withReturns (provider : Provider Context Fault) : Provider Context Fault where
  resolve := provider.resolve
  fetch asked path context :=
    (provider.fetch asked path context).map fun (source, child) => (Text.withReturns source, child)

def Chunk.withReturns (chunk : Chunk Context) : Chunk Context :=
  { chunk with source := Text.withReturns chunk.source }

def Provider.FeedsOnly (provider : Provider Context Fault) : Prop :=
  ∀ asked path context source child, provider.fetch asked path context = .ok (source, child) →
    '\r' ∉ source

variable {provider : Provider Context Fault}

theorem Call.Like.eq {a b : Call Context} (h : Call.Like Eq a b) : a = b := by
  cases h with
  | resolve h => rw [h]
  | fetch h => rw [h]

theorem Call.Like.calls_eq {calls calls' : List (Call Context)}
    (h : List.Forall₂ (Call.Like Eq) calls calls') : calls = calls' := by
  have hsame := h.imp fun _ _ hcall => hcall.eq
  rwa [List.forall₂_eq_eq_eq] at hsame

theorem Provider.FeedsOnly.like (h : provider.FeedsOnly) :
    provider.Like ⟨Eq, Returned⟩ provider.withReturns := by
  constructor
  · rintro asked asked' path c _ hasked rfl
    rw [Call.Like.calls_eq hasked]
    rfl
  · rintro asked asked' path c _ hasked rfl
    rw [Call.Like.calls_eq hasked]
    change Alike _ (provider.fetch asked' path c) ((provider.fetch asked' path c).map _)
    cases hfetch : provider.fetch asked' path c with
    | error fault => exact .error fault
    | ok answer => exact .ok ⟨⟨h asked' path c _ _ hfetch, rfl⟩, rfl⟩

theorem Chunk.Like.withReturns_eq {a b : Chunk Context} (h : Chunk.Like ⟨Eq, Returned⟩ a b) :
    a.withReturns = b := by
  obtain ⟨⟨-, hsource⟩, hfile, hline, hcontext⟩ := h
  cases b
  cases hsource
  cases hfile
  cases hline
  cases hcontext
  rfl

theorem Root.Like.chunks_eq {root other : Root Context} (h : root.Like ⟨Eq, Returned⟩ other) :
    root.chunks.map Chunk.withReturns = other.chunks := by
  have hmap : List.Forall₂ Eq (root.chunks.map Chunk.withReturns) other.chunks := by
    rw [List.forall₂_map_left_iff]
    exact h.imp fun _ _ hchunk => hchunk.withReturns_eq
  rwa [List.forall₂_eq_eq_eq] at hmap

/-- The second crawl puts the same questions as the first one, and ends with the same error, or with
the same chunks but for the carriage returns. -/
structure SameButReturns (walk other : Walk Context Fault (Root Context)) : Prop where
  calls : walk.calls = other.calls
  chunks : (walk.result.map fun root => root.chunks.map Chunk.withReturns) =
    other.result.map Root.chunks

theorem Walk.Like.sameButReturns {walk other : Walk Context Fault (Root Context)}
    (h : Walk.Like ⟨Eq, Returned⟩ (Root.Like ⟨Eq, Returned⟩) walk other) :
    SameButReturns walk other := by
  obtain ⟨hcalls, hresult⟩ := h
  constructor
  · exact Call.Like.calls_eq hcalls
  · generalize walk.result = result at hresult ⊢
    generalize other.result = result' at hresult ⊢
    cases hresult with
    | error error => rfl
    | ok hroot => exact congrArg Except.ok hroot.chunks_eq

theorem sameButReturns_of_feedsOnly (h : provider.FeedsOnly) (options : Options) :
    (∀ name source context, '\r' ∉ source →
      SameButReturns (expandSource provider options name source context)
        (expandSource provider.withReturns options name (Text.withReturns source) context)) ∧
    ∀ path context, SameButReturns (expandFile provider options path context)
      (expandFile provider.withReturns options path context) := by
  constructor
  · intro name source context hfree
    have hsource : Returned source (Text.withReturns source) := ⟨hfree, rfl⟩
    exact (like_expandBehind options h.like readAlike_returned .nil name hsource rfl).sameButReturns
  · intro path context
    exact (like_expandFile options h.like readAlike_returned path rfl).sameButReturns

-- The first include line continues the line before it, whichever way that line ends.
theorem sameButReturns_of_feedsOnly_headers :
    headers.FeedsOnly ∧ '\r' ∉ "A \\\n#include <gone>\n#include <twice> // x\nZ".toList ∧
      ∃ root other,
        (expandSource headers ⟨8, true, true⟩ "root"
          "A \\\n#include <gone>\n#include <twice> // x\nZ".toList ()).result = .ok root ∧
        (expandSource headers.withReturns ⟨8, true, true⟩ "root" (Text.withReturns
          "A \\\n#include <gone>\n#include <twice> // x\nZ".toList) ()).result = .ok other ∧
        other.chunks.map Chunk.source = ["A \\\r\n#include <gone>\r\n".toList, "x\r\n".toList,
          "#pragma once\r\nB\r\n".toList, "y".toList, "Z".toList] ∧
        root.chunks.map Chunk.withReturns = other.chunks := by
  have hfeeds : headers.FeedsOnly := by
    intro _ path _ source child h
    simp only [headers] at h
    split at h
    · cases h
      decide
    · cases h
      decide
    · cases h
      decide
    · cases h
  have hfree : '\r' ∉ "A \\\n#include <gone>\n#include <twice> // x\nZ".toList := by decide
  have hsame := (sameButReturns_of_feedsOnly hfeeds ⟨8, true, true⟩).1 "root" _ () hfree
  obtain ⟨root, hroot, -⟩ := @Walk.exists_result_eq_ok _ _ _ _
    (expandSource headers ⟨8, true, true⟩ "root"
      "A \\\n#include <gone>\n#include <twice> // x\nZ".toList ()) (fun _ => ()) () (by decide +kernel)
  obtain ⟨other, hother, hsources⟩ := @Walk.exists_result_eq_ok _ _ _ _
    (expandSource headers.withReturns ⟨8, true, true⟩ "root" (Text.withReturns
      "A \\\n#include <gone>\n#include <twice> // x\nZ".toList) ())
    (fun root => root.chunks.map Chunk.source) ["A \\\r\n#include <gone>\r\n".toList, "x\r\n".toList,
      "#pragma once\r\nB\r\n".toList, "y".toList, "Z".toList] (by decide +kernel)
  have hchunks := hsame.chunks
  rw [hroot, hother] at hchunks
  exact ⟨hfeeds, hfree, root, other, hroot, hother, hsources, Except.ok.inj hchunks⟩

end ShaderSources
