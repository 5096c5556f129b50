import Mathlib.Data.List.Dedup
import ShaderSources.Proofs.DepthLimits
import ShaderSources.Proofs.ErrorChains

namespace ShaderSources

open Source Text

def Catalog.paths (catalog : Catalog) : List String := (catalog.sources.map Prod.fst).dedup

theorem Catalog.mem_paths_of_text {catalog : Catalog} {path : String} {source : Text}
    (h : catalog.text path = .ok source) : path ∈ catalog.paths := by
  rw [paths, List.mem_dedup]
  rw [text] at h
  cases hlookup : catalog.sources.lookup path with
  | none =>
    rw [hlookup] at h
    cases h
  | some value =>
    obtain ⟨front, back, hsplit, -⟩ := List.lookup_eq_some_iff.mp hlookup
    rw [hsplit]
    simp

variable {Context Fault : Type} {provider : Provider Context Fault}
  {text : String → Except Fault Text} {options : Options}

theorem ByPath.exists_text (hpath : ByPath provider text) {calls : List (Call Context)}
    {frames : List (Frame Context)} (hlinks : frames.IsChain (Frame.Leads provider calls))
    (hfirst : ∀ F ∈ frames.head?, ∃ source, text F.name = .ok source) :
    ∀ F ∈ frames, ∃ source, text F.name = .ok source := by
  induction frames with
  | nil => simp
  | cons F frames ih =>
    rw [List.forall_mem_cons]
    refine ⟨hfirst F rfl, ih hlinks.tail ?_⟩
    intro G hG
    cases frames with
    | nil => cases hG
    | cons H frames =>
      cases hG
      obtain ⟨asked, k, d, hlive, -, hname, hfetch⟩ := (List.isChain_cons_cons.mp hlinks).1
      rw [hpath.name_eq hname]
      exact ⟨_, (hpath.text_of_fetch hfetch).1⟩

theorem ByPath.length_le_of_expanding (hpath : ByPath provider text) (hon : options.detectCycles = true)
    {root S : Frame Context} {outer : List (Frame Context)} {t : Stage Context} {source : Text}
    {paths : List String} (h : Expanding provider options root outer S t)
    (hroot : text root.name = .ok source)
    (hpaths : ∀ path source, text path = .ok source → path ∈ paths) :
    (outer ++ [S]).length ≤ paths.length := by
  have htext := hpath.exists_text h.links (by
    intro F hF
    rw [h.first] at hF
    cases hF
    exact ⟨source, hroot⟩)
  have hsub : (outer ++ [S]).map Frame.name ⊆ paths := by
    intro name hname
    obtain ⟨F, hF, rfl⟩ := List.mem_map.mp hname
    obtain ⟨text, hF⟩ := htext F hF
    exact hpaths _ _ hF
  have hlength := (h.nodup hon).length_le_of_subset hsub
  rwa [List.length_map] at hlength

theorem ByPath.not_tooDeep (hpath : ByPath provider text) (hon : options.detectCycles = true)
    {paths : List String} (hpaths : ∀ path source, text path = .ok source → path ∈ paths)
    (hdepth : (paths.length : Int) ≤ options.maxDepth) (path : String) (context : Context) :
    ¬ Raises (expandFile provider options path context).result .depth := by
  cases htext : text path with
  | error fault =>
    rw [hpath.expandFile_of_error htext, raises_error]
    nofun
  | ok source =>
    rintro ⟨error, herror, hkind⟩
    have hopens : Opens provider options (expandFile provider options path context) _ path source
      context := .file (hpath.resolve_eq [] path context) (hpath.fetch_of_text htext _ context)
    rw [hopens.walk_eq] at herror
    have hwalk := congrArg Walk.result (Walk.eq_of_map_eq_error herror)
    obtain ⟨before, t, last, outer, S, -, -, hexpanding, hlocates⟩ :=
      @located_of_walk _ _ _ _ ⟨path, source, context⟩ _ error hwalk
    have hlength := hpath.length_le_of_expanding hon hexpanding htext hpaths
    cases hlocates with
    | malformed hline => cases hkind
    | provider hline hfault => cases hkind
    | cycle hline hname honce => cases hkind
    | depth hline hname hdeep => omega

theorem not_tooDeep_catalog (catalog : Catalog) (path : String) (context : Context)
    (pragmaOnce : Bool) {maxDepth : Int} (h : (catalog.paths.length : Int) ≤ maxDepth) :
    ¬ Raises (expandFile catalog.provider ⟨maxDepth, true, pragmaOnce⟩ path context).result .depth ∧
      (∀ other : Int, (catalog.paths.length : Int) ≤ other →
        expandFile catalog.provider ⟨other, true, pragmaOnce⟩ path context =
          expandFile catalog.provider ⟨maxDepth, true, pragmaOnce⟩ path context) ∧
      ((∃ root, (expandFile catalog.provider ⟨maxDepth, true, pragmaOnce⟩ path context).result =
          .ok root) ∨
        ∃ kind ∈ [IncludeError.Kind.cycle, .malformed, .provider],
          Raises (expandFile catalog.provider ⟨maxDepth, true, pragmaOnce⟩ path context).result
            kind) := by
  have hshallow {limit : Int} (hlimit : (catalog.paths.length : Int) ≤ limit) :
      ¬ Raises (expandFile catalog.provider ⟨limit, true, pragmaOnce⟩ path context).result .depth := by
    apply catalog.byPath.not_tooDeep rfl (fun _ _ => Catalog.mem_paths_of_text)
    exact hlimit
  have hsame {low high : Int} (hlow : (catalog.paths.length : Int) ≤ low) (hle : low ≤ high) :
      expandFile catalog.provider ⟨high, true, pragmaOnce⟩ path context =
        expandFile catalog.provider ⟨low, true, pragmaOnce⟩ path context := by
    have hextends : Walk.Extends (expandFile catalog.provider ⟨low, true, pragmaOnce⟩ path context)
        (expandFile catalog.provider ⟨high, true, pragmaOnce⟩ path context) :=
      extends_expandFile hle path context
    rcases hextends with he | ⟨hdeep, -⟩
    · exact he
    · exact absurd hdeep (hshallow hlow)
  refine ⟨hshallow h, ?_, ?_⟩
  · intro other hother
    rcases Int.le_total maxDepth other with hle | hle
    · exact hsame h hle
    · exact (hsame hother hle).symm
  · have hfree := hshallow h
    cases hresult : (expandFile catalog.provider ⟨maxDepth, true, pragmaOnce⟩ path context).result with
    | ok root => exact .inl ⟨root, rfl⟩
    | error error =>
      rw [hresult, raises_error] at hfree
      refine .inr ⟨error.kind, ?_, raises_error.mpr rfl⟩
      cases hkind : error.kind with
      | depth => exact absurd hkind hfree
      | cycle => simp
      | malformed => simp
      | provider => simp

theorem not_tooDeep_catalog_loops :
    (loops.paths.length : Int) ≤ 3 ∧
      ¬ Raises (expandFile loops.provider ⟨3, true, false⟩ "a" Value.null).result .depth ∧
      expandFile loops.provider ⟨900, true, false⟩ "a" Value.null =
        expandFile loops.provider ⟨3, true, false⟩ "a" Value.null ∧
      Raises (expandFile loops.provider ⟨3, true, false⟩ "a" Value.null).result .cycle := by
  have hpaths : (loops.paths.length : Int) ≤ 3 := by decide
  obtain ⟨hshallow, hsame, -⟩ := not_tooDeep_catalog loops "a" Value.null false hpaths
  exact ⟨hpaths, hshallow, hsame 900 (by decide), by decide +kernel⟩

end ShaderSources
