import ShaderSources.Number.Numeral

namespace ShaderSources.Yaml

inductive Fault
  | illFormed
  | numeral (fault : Numeral.Fault)
  deriving DecidableEq, Repr

end ShaderSources.Yaml
