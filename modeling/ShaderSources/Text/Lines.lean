import ShaderSources.Text.Basic

namespace ShaderSources.Text

def splitLines : Text → List Text
  | [] => []
  | c :: text =>
    if c = '\n' then ['\n'] :: splitLines text
    else match splitLines text with
      | [] => [[c]]
      | line :: rest => (c :: line) :: rest

def lineBody (line : Text) : Text := dropEnd '\r' (dropEnd '\n' line)

def lineCount (text : Text) : Nat :=
  if text = [] then 0 else text.count '\n' + if endsWith text '\n' then 0 else 1

theorem flatten_splitLines (text : Text) : (splitLines text).flatten = text := by
  induction text with
  | nil => rfl
  | cons c text ih =>
    simp only [splitLines]
    split
    · simp_all
    · split <;> simp_all

theorem ne_nil_of_mem_splitLines {text line : Text} (h : line ∈ splitLines text) : line ≠ [] := by
  induction text generalizing line with
  | nil => simp [splitLines] at h
  | cons c text ih =>
    simp only [splitLines] at h
    split at h
    · rcases List.mem_cons.1 h with rfl | h
      · simp
      · exact ih h
    · split at h <;> rename_i hs
      · simp_all
      · rcases List.mem_cons.1 h with rfl | h
        · simp
        · exact ih (hs ▸ List.mem_cons_of_mem _ h)

end ShaderSources.Text
