import ShaderSources.Number.Numeral
import ShaderSources.Provider.Fault

namespace ShaderSources

inductive ConfigError
  | stated (message : String) (facts : Entries)
  | malformedKey (key : String)
  | unreadableOverlay (path : String)
  | overlayNotMapping (path kindName : String)
  | invalid (location detail : String)
  deriving Repr

namespace ConfigError

def message : ConfigError → String
  | stated message _ => message
  | malformedKey key => s!"Malformed SHADERCRAWL_* key: empty segment in '{key}'."
  | unreadableOverlay path => s!"Invalid YAML in {path}"
  | overlayNotMapping path kindName => s!"{path} must contain a YAML mapping, got {kindName}"
  | invalid location detail => s!"Invalid shadercrawl configuration at {location}: {detail}"

def facts : ConfigError → Entries
  | stated _ facts => facts
  | malformedKey key => [(.text "key", .text key)]
  | unreadableOverlay path => [(.text "path", .text path)]
  | overlayNotMapping path _ => [(.text "path", .text path)]
  | invalid location _ => [(.text "path", .text location)]

end ConfigError

inductive LoadError
  | config (error : ConfigError)
  | numeral (fault : Numeral.Fault)
  | fault (fault : Fault)
  deriving Repr

namespace Config

/-- Why a document has no value: it is none of its format, or reading it fails in another way. -/
inductive ReadFault
  | illFormed
  | failed (error : LoadError)
  deriving Repr

abbrev Reader := Text → Except ReadFault Value

end Config

end ShaderSources
