import LspEndpoint.Yaml.Failure

/-!
Tokens of a YAML text. Indentation shows as tokens of its own: a block collection has a token where it
starts and one where it ends.
-/
namespace LspEndpoint.Yaml

/-- A tag as it is written: a suffix, and the handle that stands for its beginning if there is one. -/
structure TagName where
  handle : Option Text
  suffix : Text
deriving DecidableEq

inductive Directive
  | version (major minor : Nat)
  | handle (name start : Text)
  | unknown
deriving DecidableEq

inductive Token
  | directive (d : Directive)
  | documentStart
  | documentEnd
  | blockSequence
  | blockMapping
  | blockEnd
  | flowSequence
  | flowSequenceEnd
  | flowMapping
  | flowMappingEnd
  | item
  | comma
  | key
  | value
  | alias (name : Text)
  | anchor (name : Text)
  | tag (name : TagName)
  | scalar (t : Text) (isPlain : Bool)
deriving DecidableEq

end LspEndpoint.Yaml
