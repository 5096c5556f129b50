import ShaderSources.Proofs.Fallible
import ShaderSources.Proofs.FileLocations
import ShaderSources.Proofs.Pruning

namespace ShaderSources

open Source Text

def FileTree.First (tree : FileTree) (places : List Path) (location : Location) (bytes : List UInt8) :
    Prop :=
  ∃ front place back, places = front ++ place :: back ∧
    (∀ other ∈ front, tree.file? other = .ok none) ∧ tree.file? place = .ok (some (location, bytes))

def Root.location (S : Root Value) : Location := (Path.ofString S.name).names

namespace FileSearch

variable {search : FileSearch} {path : String} {context : Value} {location : Location}
  {bytes : List UInt8}

def places (search : FileSearch) (directory : Path) (path : String) : List Path :=
  if (Path.ofString path).isAbsolute then [Path.ofString path]
  else (directory :: search.includeDirs).map fun base => base.join (Path.ofString path)

structure Holds (search : FileSearch) (S : Root Value) : Prop where
  name_eq : S.name = nameOf S.location
  context_eq : S.context = .text (nameOf S.location.dropLast)
  text : ∃ bytes, search.tree.HasFile S.location bytes ∧
    search.decode bytes = .ok S.source

theorem firstFile?_eq_ok {places : List Path} :
    firstFile? search.tree places = .ok (some (location, bytes)) ↔
      search.tree.First places location bytes := by
  constructor
  · intro h
    induction places with
    | nil => cases h
    | cons place places ih =>
      rw [firstFile?] at h
      split at h
      · cases h
      · rename_i found hfile
        cases h
        exact ⟨[], place, places, rfl, by simp, hfile⟩
      · rename_i hfile
        obtain ⟨front, found, back, rfl, hfront, hfound⟩ := ih h
        exact ⟨place :: front, found, back, rfl, List.forall_mem_cons.mpr ⟨hfile, hfront⟩, hfound⟩
  · rintro ⟨front, place, back, rfl, hfront, hfile⟩
    induction front with
    | nil => rw [List.nil_append, firstFile?, hfile]
    | cons other front ih =>
      rw [List.forall_mem_cons] at hfront
      rw [List.cons_append, firstFile?, hfront.1]
      exact ih hfront.2

theorem find_eq_ok : search.find path context = .ok (location, bytes) ↔
    ∃ places, search.candidates path context = .ok places ∧
      search.tree.First places location bytes := by
  simp only [← firstFile?_eq_ok]
  constructor
  · intro h
    obtain ⟨places, hplaces, hfound⟩ := Fallible.bind_eq_ok.mp h
    obtain ⟨found, hfirst, hresult⟩ := Fallible.bind_eq_ok.mp hfound
    cases found with
    | none => cases hresult
    | some found =>
      cases hresult
      exact ⟨places, hplaces, hfirst⟩
  · rintro ⟨places, hplaces, hfirst⟩
    exact Fallible.bind_eq_ok.mpr ⟨places, hplaces, Fallible.bind_eq_ok.mpr ⟨_, hfirst, rfl⟩⟩

theorem candidates_text (search : FileSearch) (path directory : String) :
    search.candidates path (.text directory) =
      .ok (search.places (Path.ofString directory) path) := by
  rw [candidates, places]
  by_cases habsolute : (Path.ofString path).isAbsolute = true
  · simp only [habsolute, if_true]
    rfl
  · simp only [habsolute, Bool.false_eq_true, if_false]
    rfl

theorem hasFile_of_find (htree : search.tree.WellFormed)
    (h : search.find path context = .ok (location, bytes)) : search.tree.HasFile location bytes := by
  obtain ⟨places, -, front, place, back, -, -, hfile⟩ := find_eq_ok.mp h
  exact FileTree.hasFile_of_file? htree hfile

theorem resolve_of_find (h : search.find path context = .ok (location, bytes)) :
    search.resolve path context = .ok (nameOf location) := by
  rw [resolve, h]

theorem find_of_fetch {source : Text} {child : Value}
    (h : search.fetch path context = .ok (source, child)) :
    ∃ location bytes, search.find path context = .ok (location, bytes) ∧
      search.decode bytes = .ok source ∧
      child = .text (nameOf location.dropLast) := by
  obtain ⟨⟨location, bytes⟩, hfind, hdecode⟩ := Fallible.bind_eq_ok.mp h
  obtain ⟨text, htext, hresult⟩ := Fallible.bind_eq_ok.mp hdecode
  cases hresult
  exact ⟨location, bytes, hfind, htext, rfl⟩

theorem location_eq {S : Root Value} (hnames : ∀ name ∈ location, IsName name)
    (h : S.name = nameOf location) : S.location = location := by
  rw [Root.location, h, nameOf, Path.ofString_toString hnames, Path.ofLocation]

theorem holds_of_answers (htree : search.tree.WellFormed) {S : Root Value}
    (h : S.Answers search.provider path context) :
    search.Holds S ∧ ∃ bytes, search.find path context = .ok (S.location, bytes) := by
  obtain ⟨asked, hresolved, hfetch⟩ := h
  obtain ⟨location, bytes, hfind, htext, hchild⟩ := find_of_fetch hfetch
  have hname : S.name = nameOf location :=
    Except.ok.inj (hresolved.symm.trans (resolve_of_find hfind))
  have hfile := hasFile_of_find htree hfind
  obtain rfl := location_eq hfile.names hname
  exact ⟨⟨hname, hchild, bytes, hfile, htext⟩, bytes, hfind⟩

theorem first_of_answers (htree : search.tree.WellFormed) {S : Root Value}
    (h : S.Answers search.provider path context) :
    ∃ places bytes, search.candidates path context = .ok places ∧
      search.tree.First places S.location bytes := by
  obtain ⟨-, bytes, hfind⟩ := holds_of_answers htree h
  obtain ⟨places, hplaces, hfirst⟩ := find_eq_ok.mp hfind
  exact ⟨places, bytes, hplaces, hfirst⟩

theorem Holds.candidates_eq {S : Root Value} (h : search.Holds S) (path : String) :
    search.candidates path S.context =
      .ok (search.places (.ofLocation S.location.dropLast) path) := by
  obtain ⟨-, hcontext, _, hfile, -⟩ := h
  have habove : ∀ name ∈ S.location.dropLast, IsName name :=
    fun name hname => hfile.names name (List.dropLast_subset _ hname)
  rw [hcontext, candidates_text, nameOf, Path.ofString_toString habove]

theorem Holds.name_congr {S T : Root Value} (hS : search.Holds S) (hT : search.Holds T)
    (h : S.location = T.location) : S.name = T.name := by
  rw [hS.name_eq, h, ← hT.name_eq]

/-- What holds of a crawl that reads its sources from files. -/
structure Crawls (search : FileSearch) (options : Options) (path : String) (context : Value)
    (root : Root Value) : Prop where
  sources : ∀ S ∈ root.sources, search.Holds S
  chunks : ∀ chunk ∈ root.chunks, ∃ location bytes text,
    chunk.file = nameOf location ∧ chunk.context = .text (nameOf location.dropLast) ∧
    search.tree.HasFile location bytes ∧ search.decode bytes = .ok text ∧
    ∃ start : Nat, chunk.line = start + 1 ∧
      start + chunk.lineCount ≤ (splitLines text).length ∧
      chunk.source = (((splitLines text).drop start).take chunk.lineCount).flatten
  canonical : ∀ S ∈ root.sources, ∀ links, search.tree.follow links [] S.location = .ok S.location
  first : ∃ places bytes, search.candidates path context = .ok places ∧
    search.tree.First places root.location bytes
  includes : ∀ S ∈ root.sources, ∀ d inner, .nested d inner ∈ S.parts → ∃ bytes,
    search.tree.First (search.places (.ofLocation S.location.dropLast) d.path) inner.location bytes
  names : ∀ a around b beside found other, search.find a around = .ok found →
    search.find b beside = .ok other →
    (search.resolve a around = search.resolve b beside ↔ found.1 = other.1)
  skips : ∀ S ∈ root.sources, ∀ d name, .skipped d name ∈ S.parts → ∀ found,
    search.find d.path S.context = .ok found →
    ∃ T ∈ root.sources, T.location = found.1 ∧ hasPragmaOnce T.source = true
  cycles : options.detectCycles = true →
    ∀ S ∈ root.sources, ∀ T ∈ S.expansion.sources, T.location ≠ S.location
  once : options.pragmaOnce = true →
    root.sources.Pairwise fun S T => hasPragmaOnce S.source = true → S.location ≠ T.location

theorem crawls_of_expandFile (search : FileSearch) (options : Options) (path : String)
    (context : Value) (htree : search.tree.WellFormed) {root : Root Value}
    (h : (expandFile search.provider options path context).result = .ok root) :
    search.Crawls options path context root := by
  have hcrawled : Crawled search.provider options root := .inr ⟨path, context, h⟩
  obtain ⟨hroot, hsources⟩ := answers_of_expandFile h
  have hholds : ∀ S ∈ root.sources, search.Holds S := by
    intro S hS
    obtain ⟨path, context, hanswers⟩ := hsources S hS
    exact (holds_of_answers htree hanswers).1
  constructor
  case sources => exact hholds
  case chunks =>
    intro chunk hchunk
    obtain ⟨S, hS, hchunk⟩ := Root.exists_source_of_mem hchunk
    obtain ⟨hname, hcontext, bytes, hfile, htext⟩ := hholds S hS
    have hrun := hcrawled.runChunk hS hchunk
    have hlines := hrun.wholeLines (splitLines_isLines S.source)
    obtain ⟨front, run, back, -, -, -, rfl⟩ := hrun
    exact ⟨S.location, bytes, S.source, hname, hcontext, hfile, htext, hlines⟩
  case canonical =>
    intro S hS links
    obtain ⟨-, -, _, hfile, -⟩ := hholds S hS
    exact hfile.follow_eq links
  case first => exact first_of_answers htree hroot
  case includes =>
    intro S hS d inner hinner
    have hanswers := ((hcrawled.laid hS).mem_included hinner rfl).1
    obtain ⟨places, bytes, hplaces, hfirst⟩ := first_of_answers htree hanswers
    rw [(hholds S hS).candidates_eq] at hplaces
    cases hplaces
    exact ⟨bytes, hfirst⟩
  case names =>
    intro a around b beside found other ha hb
    rw [resolve_of_find ha, resolve_of_find hb, Except.ok.injEq]
    exact nameOf_inj (hasFile_of_find htree ha).names (hasFile_of_find htree hb).names
  case skips =>
    intro S hS d name hskipped found hfound
    obtain ⟨asked, hname⟩ := ((hcrawled.laid hS).mem_included hskipped rfl).1
    obtain ⟨-, T, hT, hmarked, honce⟩ := hcrawled.marked hS hskipped
    have hfile := hasFile_of_find htree hfound
    have hnameOf := Except.ok.inj (hname.symm.trans (resolve_of_find hfound))
    exact ⟨T, hT, location_eq hfile.names (hmarked.trans hnameOf), honce⟩
  case cycles =>
    intro hon S hS T hT hlocation
    have hTroot : T ∈ root.sources := Root.mem_sources_of_inside hS hT
    exact hcrawled.name_ne hon hS hT ((hholds T hTroot).name_congr (hholds S hS) hlocation)
  case once =>
    intro hon
    refine (hcrawled.sources_pairwise hon).imp_of_mem fun {S T} hS hT hname honce hlocation => ?_
    exact hname honce ((hholds S hS).name_congr (hholds T hT) hlocation)

theorem answers_of_find {text : Text} {name directory : String}
    (h : search.find path context = .ok (location, bytes))
    (htext : search.decode bytes = .ok text) (hname : nameOf location = name)
    (hdirectory : nameOf location.dropLast = directory) :
    search.resolve path context = .ok name ∧
      search.fetch path context = .ok (text, .text directory) := by
  rw [resolve_of_find h, hname, fetch, h]
  refine ⟨rfl, Fallible.bind_eq_ok.mpr ⟨_, rfl, Fallible.bind_eq_ok.mpr ⟨_, htext, ?_⟩⟩⟩
  rw [hdirectory]
  rfl

def header : Text := "#pragma once\r\nA\r\n".toList

def includer : Text := "#include \"b\"\n#include <a>\nZ".toList

def singleBytes (text : Text) : List UInt8 := text.map fun c => c.toNat.toUInt8

def linked : FileSearch where
  tree := ⟨["w"], [(["w"], .directory), (["w", "main"], .file (singleBytes includer)),
    (["w", "x"], .directory), (["w", "lib"], .directory),
    (["w", "lib", "a"], .file (singleBytes header)), (["w", "b"], .link "x/../lib/a")]⟩
  includeDirs := [.ofString "lib"]
  decode := decodeBytes "latin-1"

theorem find_linked :
    linked.find "main" .null = .ok (["w", "main"], singleBytes includer) ∧
      linked.find "b" (.text "/w") = .ok (["w", "lib", "a"], singleBytes header) ∧
      linked.find "a" (.text "/w") = .ok (["w", "lib", "a"], singleBytes header) := by
  have hmain : linked.tree.file? ⟨.root, ["w", "main"]⟩ =
      .ok (some (["w", "main"], singleBytes includer)) :=
    FileTree.file?_of_follow (by decide +kernel) (by decide +kernel) rfl rfl
  have hlink : linked.tree.file? ⟨.root, ["w", "b"]⟩ =
      .ok (some (["w", "lib", "a"], singleBytes header)) := by
    apply FileTree.file?_of_follow (by decide +kernel) (by decide +kernel)
    · change linked.tree.follow 39 (FileTree.linkBase ["w"] "x/../lib/a") ["x", "..", "lib", "a"] = _
      rw [FileTree.linkBase, if_neg (by rw [String.startsWith_string_iff]; decide +kernel)]
      rfl
    · rfl
  have hbeside : linked.tree.file? ⟨.root, ["w", "a"]⟩ = .ok none :=
    FileTree.file?_eq_none (by decide +kernel) (by decide +kernel) rfl
  have hsearched : linked.tree.file? ⟨.relative, ["lib", "a"]⟩ =
      .ok (some (["w", "lib", "a"], singleBytes header)) :=
    FileTree.file?_of_follow (by decide +kernel) (by decide +kernel) rfl rfl
  refine ⟨find_eq_ok.mpr ⟨_, rfl, [], _, _, rfl, by simp, hmain⟩, ?_, ?_⟩
  · exact find_eq_ok.mpr ⟨_, rfl, [], _, _, rfl, by simp, hlink⟩
  · exact find_eq_ok.mpr ⟨_, rfl, [_], _, _, rfl, List.forall_mem_singleton.mpr hbeside, hsearched⟩

theorem crawls_of_expandFile_linked :
    linked.tree.WellFormed ∧ ∃ root,
      (expandFile linked.provider ⟨1, true, true⟩ "main" .null).result = .ok root ∧
      linked.Crawls ⟨1, true, true⟩ "main" .null root ∧
      root.chunks = [⟨header, "/w/lib/a", 1, .text "/w/lib"⟩, ⟨['Z'], "/w/main", 3, .text "/w"⟩] := by
  have htree : linked.tree.WellFormed := by
    refine ⟨by decide +kernel, ?_, by decide +kernel⟩
    unfold FileTree.Straight
    decide +kernel
  have hdecode {text : Text}
      (h : (singleBytes text).map (fun byte => Char.ofNat byte.toNat) = text) :
      linked.decode (singleBytes text) = .ok text := by
    have hcodec : Codec.ofName? "latin-1" = some .latin1 := by decide +kernel
    have hnul : ¬ "latin-1".contains '\x00' = true := by
      rw [String.contains_char_eq]
      decide +kernel
    simp only [linked, decodeBytes, if_neg hnul, hcodec]
    exact congrArg Except.ok h
  obtain ⟨hmain, hlink, hsearched⟩ := find_linked
  have hincluder : linked.resolve "main" .null = .ok "/w/main" ∧
      linked.fetch "main" .null = .ok (includer, .text "/w") :=
    answers_of_find hmain (hdecode (by decide +kernel)) (by decide +kernel) (by decide +kernel)
  have hheader : linked.resolve "b" (.text "/w") = .ok "/w/lib/a" ∧
      linked.fetch "b" (.text "/w") = .ok (header, .text "/w/lib") :=
    answers_of_find hlink (hdecode (by decide +kernel)) (by decide +kernel) (by decide +kernel)
  have hagain : linked.resolve "a" (.text "/w") = .ok "/w/lib/a" := by
    rw [resolve_of_find hsearched, ← resolve_of_find hlink]
    exact hheader.1
  have hpassages : passages includer = [.directive ⟨"b", .quotes, 1, false⟩,
      .directive ⟨"a", .angles, 2, false⟩, .verbatim 3 ['Z']] := by decide +kernel
  have hinner : passages header = [.verbatim 1 header] := by decide +kernel
  have hexpands : ∃ after, Expands linked.provider ⟨1, true, true⟩ 1 ⟨[], "/w/main", .text "/w"⟩
      ⟨[], [.resolve "main" .null, .fetch "main" .null]⟩ (passages includer)
      (.nested ⟨"b", .quotes, 1, false⟩ "/w/lib/a" header (.text "/w/lib") (.verbatim 1 header .done)
        (.skipped ⟨"a", .angles, 2, false⟩ "/w/lib/a" (.verbatim 3 ['Z'] .done))) after := by
    rw [hpassages]
    apply Exists.intro
    apply Expands.nested hheader.1 (by simp) (by decide +kernel) hheader.2
    · rw [hinner]
      exact .verbatim .done
    · exact .skipped hagain (by decide +kernel) (.verbatim .done)
  obtain ⟨after, hexpands⟩ := hexpands
  have hroot : (expandFile linked.provider ⟨1, true, true⟩ "main" .null).result =
      .ok ⟨"/w/main", includer, .text "/w", _⟩ :=
    expandFile_result_eq_ok.mpr ⟨_, _, _, hincluder.1, hincluder.2,
      expandBehind_result_eq_ok.mpr ⟨_, after, rfl, hexpands⟩⟩
  exact ⟨htree, _, hroot, crawls_of_expandFile linked _ _ _ htree hroot, rfl⟩

end FileSearch

end ShaderSources
