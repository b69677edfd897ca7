/-!
# Tokens of YAML

* `Token` is what the indicators, names and scalars of a text are read as. Tokens without a
  character of their own mark where blocks, keys and the text start and end.
* `Tag` is a tag as it is written, with the handle that a directive may replace.
-/

namespace DocSite.Yaml

/-- How a scalar is written. -/
inductive ScalarStyle where
  | plain
  | singleQuoted
  | doubleQuoted
  | literal
  | folded
deriving DecidableEq, Repr

/-- A tag as it is written. A verbatim tag has no handle. -/
structure Tag where
  handle : List Char
  suffix : List Char
deriving DecidableEq, Repr

/-- A token. -/
inductive Token where
  | versionDirective (major minor : Nat)
  | tagDirective (handle expansion : List Char)
  | documentStart
  | documentEnd
  | textEnd
  | blockSequenceStart
  | blockMappingStart
  | blockEnd
  | flowSequenceStart
  | flowSequenceEnd
  | flowMappingStart
  | flowMappingEnd
  | blockEntry
  | flowEntry
  | key
  | value
  | alias (name : List Char)
  | anchor (name : List Char)
  | tag (tag : Tag)
  | scalar (style : ScalarStyle) (text : List Char)
deriving DecidableEq, Repr

end DocSite.Yaml
