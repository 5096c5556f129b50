import ShaderSources.Expansion.Walk
import ShaderSources.Files.Search

namespace ShaderSources

inductive Note
  | skipped (name parent : String) (line : Int)
  | entered (name parent : String) (line : Int) (depth : Nat)
  | reading (path place : String)
  | overlay (path : String)
  | relocating (count : Nat)
  deriving DecidableEq, Repr

namespace Note

def channel : Note → String
  | skipped .. => "shadercrawl.core.scanner"
  | entered .. => "shadercrawl.core.scanner"
  | reading .. => "shadercrawl.core.provider"
  | overlay _ => "shadercrawl.core.config"
  | relocating _ => "shadercrawl.core.compiler"

def message : Note → String
  | skipped name parent line => s!"Skipping {name} (pragma once) included from {parent}:{line}"
  | entered name parent line depth => s!"Including {name} from {parent}:{line} (depth {depth})"
  | reading path place => s!"Reading include {path} from {place}"
  | overlay path => s!"Loading project config overlay {path}"
  | relocating count => s!"Remapping shader compiler log over {count} chunks"

def shown (note : Note) : String := s!"{note.channel}: {note.message}"

def ofSearch (search : FileSearch) (path : String) (context : Value) : List Note :=
  match search.find path context with
  | .ok (location, _) => [reading path (FileSearch.nameOf location)]
  | .error _ => []

def ofEvent {Context : Type} (fetching : String → Context → List Note) (event : Event Context) :
    List Note :=
  match event.act, event.chain.getLast? with
  | .call (.fetch path context), _ => fetching path context
  | .skip name line, some parent => [skipped name parent line]
  | .enter name line, some parent => [entered name parent line event.chain.length]
  | _, _ => []

end Note

end ShaderSources
