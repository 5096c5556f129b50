import ShaderSources.Text.Basic

namespace ShaderSources.Source

-- Outside a comment the next `/*` counts only if no `//` stands before it.
def commentOpenFrom (body : Text) (i : Nat) (inside : Bool) : Bool :=
  if i < body.length then
    if inside then
      match h : Text.findFrom? "*/".toList body i with
      | none => true
      | some closed => commentOpenFrom body (closed + 2) false
    else
      match h : Text.findFrom? "/*".toList body i with
      | none => false
      | some opened =>
        if ((Text.findFrom? "//".toList body i).any fun line => line < opened) then false
        else commentOpenFrom body (opened + 2) true
  else inside
termination_by body.length - i
decreasing_by
  all_goals
    have hbounds := Text.bounds_of_findFrom? (by decide) h
    omega

def commentOpenAfter (inside : Bool) (body : Text) : Bool := commentOpenFrom body 0 inside

def commentStates (inside : Bool) : List Text → List Bool
  | [] => []
  | body :: bodies =>
    let state := commentOpenAfter inside body
    state :: commentStates state bodies

end ShaderSources.Source
