import ShaderSources.Expansion.Error
import ShaderSources.Expansion.Provider

namespace ShaderSources

inductive Act (Context : Type)
  | call (call : Call Context)
  | skip (name : String) (line : Int)
  | enter (name : String) (line : Int)
  deriving DecidableEq, Repr

structure Event (Context : Type) where
  chain : List String
  once : List String
  act : Act Context
  deriving DecidableEq, Repr

def Event.call? {Context : Type} (event : Event Context) : Option (Call Context) :=
  match event.act with
  | .call call => some call
  | _ => none

structure Walk (Context Fault α : Type) where
  events : List (Event Context)
  result : Except (IncludeError Fault) α

namespace Walk

variable {Context Fault α β : Type}

def pure (a : α) : Walk Context Fault α := ⟨[], .ok a⟩

def fail (error : IncludeError Fault) : Walk Context Fault α := ⟨[], .error error⟩

def note (event : Event Context) : Walk Context Fault Unit := ⟨[event], .ok ()⟩

def calls (walk : Walk Context Fault α) : List (Call Context) := walk.events.filterMap Event.call?

def bind (walk : Walk Context Fault α) (next : α → Walk Context Fault β) :
    Walk Context Fault β :=
  match walk.result with
  | .error error => ⟨walk.events, .error error⟩
  | .ok a =>
    let after := next a
    ⟨walk.events ++ after.events, after.result⟩

def map (f : α → β) (walk : Walk Context Fault α) : Walk Context Fault β :=
  ⟨walk.events, walk.result.map f⟩

instance : Monad (Walk Context Fault) where
  pure := pure
  bind := bind

@[simp] theorem pure_bind (a : α) (next : α → Walk Context Fault β) :
    (pure a).bind next = next a := rfl

@[simp] theorem bind_fail (error : IncludeError Fault) (next : α → Walk Context Fault β) :
    (fail error).bind next = fail error := rfl

@[simp] theorem bind_pure (walk : Walk Context Fault α) : walk.bind pure = walk := by
  rcases walk with ⟨events, error | a⟩ <;> simp [bind, pure]

theorem map_eq_bind (f : α → β) (walk : Walk Context Fault α) :
    walk.map f = walk.bind fun a => pure (f a) := by
  rcases walk with ⟨events, error | a⟩ <;> simp [bind, pure, map, Except.map]

theorem bind_assoc {γ : Type} (walk : Walk Context Fault α) (f : α → Walk Context Fault β)
    (g : β → Walk Context Fault γ) : (walk.bind f).bind g = walk.bind fun a => (f a).bind g := by
  rcases walk with ⟨events, error | a⟩
  · rfl
  · rcases h : f a with ⟨inner, error | b⟩ <;> simp [bind, h]

end Walk

end ShaderSources
