import ShaderSources.Files.Search

namespace ShaderSources

structure IsName (name : String) : Prop where
  ne_empty : name ≠ ""
  ne_point : name ≠ "."
  ne_points : name ≠ ".."
  no_slash : '/' ∉ name.toList
  size_le : name.utf8ByteSize ≤ FileTree.maxNameSize

instance (name : String) : Decidable (IsName name) :=
  decidable_of_iff (name ≠ "" ∧ name ≠ "." ∧ name ≠ ".." ∧ '/' ∉ name.toList ∧
      name.utf8ByteSize ≤ FileTree.maxNameSize)
    ⟨fun ⟨empty, point, points, slash, size⟩ => ⟨empty, point, points, slash, size⟩,
      fun ⟨empty, point, points, slash, size⟩ => ⟨empty, point, points, slash, size⟩⟩

namespace Text

theorem pieces_of_not_mem {mark : Char} {text : Text} (h : mark ∉ text) :
    pieces mark text = [text] := by
  induction text with
  | nil => rfl
  | cons c text ih =>
    rw [List.mem_cons, not_or] at h
    rw [pieces, if_neg (Ne.symm h.1), ih h.2]

theorem pieces_append {mark : Char} {text : Text} (h : mark ∉ text) (rest : Text) :
    pieces mark (text ++ mark :: rest) = text :: pieces mark rest := by
  induction text with
  | nil => rw [List.nil_append, pieces, if_pos rfl]
  | cons c text ih =>
    rw [List.mem_cons, not_or] at h
    rw [List.cons_append, pieces, if_neg (Ne.symm h.1), ih h.2]

end Text

namespace Path

theorem rawNames_intercalate {names : List String} (h : ∀ name ∈ names, IsName name)
    (hne : names ≠ []) : rawNames (String.intercalate "/" names) = names := by
  induction names with
  | nil => exact absurd rfl hne
  | cons name names ih =>
    rw [List.forall_mem_cons] at h
    cases names with
    | nil =>
      rw [String.intercalate_singleton, rawNames, Text.pieces_of_not_mem h.1.no_slash]
      simp
    | cons next names =>
      have hrest := ih h.2 (List.cons_ne_nil _ _)
      rw [rawNames] at hrest ⊢
      have htext : (String.intercalate "/" (name :: next :: names)).toList =
          name.toList ++ '/' :: (String.intercalate "/" (next :: names)).toList := by
        simp
      rw [htext, Text.pieces_append h.1.no_slash, List.map_cons, hrest, String.ofList_toList]

theorem toList_toString (names : List String) :
    (ofLocation names).toString.toList = '/' :: (String.intercalate "/" names).toList := by
  simp [toString, ofLocation, Anchor.text]

theorem anchorOf_toString {names : List String} (h : ∀ name ∈ names, IsName name) :
    anchorOf (ofLocation names).toString.toList = .root := by
  rw [toList_toString]
  cases names with
  | nil => rfl
  | cons name names =>
    have hname := h name List.mem_cons_self
    have htext : ∃ rest, (String.intercalate "/" (name :: names)).toList = name.toList ++ rest := by
      cases names with
      | nil => exact ⟨[], by simp⟩
      | cons next names => exact ⟨_, by rw [String.intercalate_cons_cons, String.append_assoc,
          String.toList_append]⟩
    obtain ⟨rest, htext⟩ := htext
    rw [htext]
    -- The first name is not empty, so no second slash follows the first.
    cases hchars : name.toList with
    | nil => exact absurd (String.toList_eq_nil_iff.mp hchars) hname.ne_empty
    | cons c chars =>
      have hslash : c ≠ '/' := by
        rintro rfl
        apply hname.no_slash
        rw [hchars]
        exact List.mem_cons_self
      rw [List.cons_append]
      simp [anchorOf, hslash]

theorem ofString_toString {names : List String} (h : ∀ name ∈ names, IsName name) :
    ofString (ofLocation names).toString = ofLocation names := by
  have hraw : rawNames (ofLocation names).toString =
      "" :: rawNames (String.intercalate "/" names) := by
    rw [rawNames, toList_toString, Text.pieces, if_pos rfl, List.map_cons, rawNames]
  have hkept : names.filter (fun name => name != "" && name != ".") = names := by
    rw [List.filter_eq_self]
    intro name hname
    simp [(h name hname).ne_empty, (h name hname).ne_point]
  rw [ofString, anchorOf_toString h, hraw, ofLocation]
  cases names with
  | nil => rfl
  | cons name names =>
    rw [rawNames_intercalate h (List.cons_ne_nil _ _), List.filter_cons_of_neg (by simp), hkept]

theorem toString_inj {a b : List String} (ha : ∀ name ∈ a, IsName name)
    (hb : ∀ name ∈ b, IsName name) (h : (ofLocation a).toString = (ofLocation b).toString) :
    a = b := by
  have hpath : ofLocation a = ofLocation b := by
    rw [← ofString_toString ha, h, ofString_toString hb]
  exact congrArg names hpath

end Path

namespace FileTree

variable {tree : FileTree} {location target : Location}

/-- All that a location lies below are directories. -/
def Straight (tree : FileTree) (location : Location) : Prop :=
  ∀ n < location.length, tree.isDirectory (location.take n) = true

structure WellFormed (tree : FileTree) : Prop where
  names : ∀ entry ∈ tree.entries, ∀ name ∈ entry.1, IsName name
  straight : tree.Straight tree.here
  directory : tree.isDirectory tree.here = true

theorem straight_nil : tree.Straight [] := fun _ hn => nomatch hn

theorem Straight.dropLast (h : tree.Straight location) : tree.Straight location.dropLast := by
  intro n hn
  rw [List.length_dropLast] at hn
  rw [List.dropLast_eq_take, List.take_take, Nat.min_eq_left (by omega)]
  exact h n (by omega)

theorem Straight.concat (h : tree.Straight location) (hdirectory : tree.isDirectory location = true)
    (name : String) : tree.Straight (location ++ [name]) := by
  intro n hn
  rw [List.length_append, List.length_singleton] at hn
  rw [List.take_append_of_le_length (by omega)]
  by_cases hall : n = location.length
  · rw [hall, List.take_length]
    exact hdirectory
  · exact h n (by omega)

theorem straight_linkBase (h : tree.Straight location) (target : String) :
    tree.Straight (linkBase location target) := by
  unfold linkBase
  split
  · exact straight_nil
  · exact h

theorem straight_followNames {onLink : Location → List String → Except Obstacle Location}
    (hlink : ∀ base names target, tree.Straight base → onLink base names = .ok target →
      tree.Straight target) {names : List String} (hstart : tree.Straight location)
    (h : tree.followNames onLink location names = .ok target) : tree.Straight target := by
  induction names generalizing location with
  | nil =>
    rw [followNames] at h
    split at h
    · cases h
      exact hstart
    · cases h
  | cons name names ih =>
    rw [followNames] at h
    by_cases hdirectory : tree.isDirectory location = true
    · rw [hdirectory] at h
      simp only [Bool.not_true, Bool.false_eq_true, if_false] at h
      split at h
      · exact ih hstart h
      split at h
      · exact ih hstart.dropLast h
      split at h
      · cases h
      split at h
      · cases h
      · exact hlink _ _ _ (straight_linkBase hstart _) h
      · exact ih (hstart.concat hdirectory name) h
    · simp [hdirectory] at h

theorem straight_follow {links : Nat} {names : List String} (hstart : tree.Straight location)
    (h : tree.follow links location names = .ok target) : tree.Straight target := by
  induction links generalizing location names target with
  | zero =>
    refine straight_followNames ?_ hstart h
    intro base names target hbase h
    cases h
  | succ links ih =>
    exact straight_followNames (fun _ _ _ hbase h => ih hbase h) hstart h

theorem locate_eq {path : Path} (hcharacters : '\x00' ∉ path.toString.toList)
    (hsize : path.toString.utf8ByteSize ≤ maxPathSize) :
    tree.locate path = tree.follow maxLinks (tree.baseOf path) path.names := by
  unfold locate
  simp only [String.contains_char_eq, hcharacters, decide_false, Bool.false_eq_true, if_false]
  rw [if_neg (by omega)]

theorem file?_of_follow {place : Path} {bytes : List UInt8}
    (hcharacters : '\x00' ∉ place.toString.toList) (hsize : place.toString.utf8ByteSize ≤ maxPathSize)
    (hfollow : tree.follow maxLinks (tree.baseOf place) place.names = .ok location)
    (hentry : tree.entry? location = some (.file bytes)) :
    tree.file? place = .ok (some (location, bytes)) := by
  unfold file?
  rw [locate_eq hcharacters hsize, hfollow]
  dsimp only
  rw [hentry]

theorem file?_eq_none {place : Path} (hcharacters : '\x00' ∉ place.toString.toList)
    (hsize : place.toString.utf8ByteSize ≤ maxPathSize)
    (hfollow : tree.follow maxLinks (tree.baseOf place) place.names = .error .absent) :
    tree.file? place = .ok none := by
  unfold file?
  rw [locate_eq hcharacters hsize, hfollow]

theorem straight_locate (htree : tree.WellFormed) {path : Path}
    (h : tree.locate path = .ok location) : tree.Straight location := by
  have hbase : tree.Straight (tree.baseOf path) := by
    unfold baseOf
    split
    · exact straight_nil
    · exact htree.straight
  unfold locate at h
  dsimp only at h
  split at h
  · cases h
  split at h
  · cases h
  · exact straight_follow hbase h

/-- A file at a location that no link leads through. -/
structure HasFile (tree : FileTree) (location : Location) (bytes : List UInt8) : Prop where
  entry_eq : tree.entry? location = some (.file bytes)
  straight : tree.Straight location
  names : ∀ name ∈ location, IsName name

theorem hasFile_of_file? (htree : tree.WellFormed) {place : Path} {bytes : List UInt8}
    (h : tree.file? place = .ok (some (location, bytes))) : tree.HasFile location bytes := by
  unfold file? at h
  split at h
  · cases h
  · cases h
  · rename_i found hlocate
    split at h
    · rename_i content hentry
      cases h
      refine ⟨hentry, straight_locate htree hlocate, ?_⟩
      cases location with
      | nil => simp
      | cons name rest =>
        obtain ⟨front, back, hmem, -⟩ := List.lookup_eq_some_iff.mp hentry
        exact htree.names (name :: rest, .file bytes) (by simp [hmem])
    · cases h

-- By induction on the names that are left; what is passed before the last one is a directory.
theorem HasFile.followNames_eq {bytes : List UInt8}
    {onLink : Location → List String → Except Obstacle Location}
    (h : tree.HasFile location bytes) {front back : Location} (hsplit : location = front ++ back) :
    tree.followNames onLink front back = .ok location := by
  induction back generalizing front with
  | nil =>
    rw [List.append_nil] at hsplit
    rw [followNames, ← hsplit, h.entry_eq]
    rfl
  | cons name rest ih =>
    have hname := h.names name (by simp [hsplit])
    have hdirectory : tree.isDirectory front = true := by
      have habove := h.straight front.length (by simp [hsplit])
      rwa [hsplit, List.take_left] at habove
    have hnext : location = (front ++ [name]) ++ rest := by simp [hsplit]
    have hentry : ∃ entry, tree.entry? (front ++ [name]) = some entry ∧
        ∀ target, entry ≠ .link target := by
      cases rest with
      | nil =>
        rw [List.append_nil] at hnext
        exact ⟨.file bytes, hnext ▸ h.entry_eq, nofun⟩
      | cons next rest =>
        have habove := h.straight (front ++ [name]).length (by simp [hsplit])
        rw [hnext, List.take_left] at habove
        exact ⟨.directory, by simpa [isDirectory] using habove, nofun⟩
    obtain ⟨entry, hentry, hlink⟩ := hentry
    have hempty : ¬ (name = "" ∨ name = ".") := not_or.mpr ⟨hname.ne_empty, hname.ne_point⟩
    rw [followNames, hdirectory, if_neg (by simp), if_neg hempty, if_neg hname.ne_points,
      if_neg (Nat.not_lt.mpr hname.size_le), hentry]
    cases entry with
    | link target => exact absurd rfl (hlink target)
    | directory => exact ih hnext
    | file content => exact ih hnext

theorem HasFile.follow_eq {bytes : List UInt8} (h : tree.HasFile location bytes) (links : Nat) :
    tree.follow links [] location = .ok location := by
  cases links with
  | zero => exact h.followNames_eq (List.nil_append location).symm
  | succ links => exact h.followNames_eq (List.nil_append location).symm

end FileTree

namespace FileSearch

theorem nameOf_inj {a b : Location} (ha : ∀ name ∈ a, IsName name) (hb : ∀ name ∈ b, IsName name) :
    nameOf a = nameOf b ↔ a = b :=
  ⟨Path.toString_inj ha hb, congrArg nameOf⟩

end FileSearch

end ShaderSources
