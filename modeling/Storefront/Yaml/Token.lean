import Storefront.Yaml.Node

/-!
# Tokens of a document

What a document is written with, in the order of reading. The beginning and the end of a
collection in a block are tokens of their own, and so is the beginning of a key, whether or not a
question mark stands there.
-/

namespace Storefront.Yaml

inductive Token where
  | version (major minor : Nat)
  /-- Tags with the handle begin with what it stands for. -/
  | handle (handle : String) (stands : Tag)
  | documentStart
  | documentEnd
  | blockSequenceStart
  | blockMappingStart
  | blockEnd
  | flowSequenceStart
  | flowSequenceEnd
  | flowMappingStart
  | flowMappingEnd
  /-- A dash before an item of a sequence. -/
  | item
  | comma
  | key
  | value
  | alias (name : String)
  | anchor (name : String)
  /-- A tag behind its handle, which is empty for a tag that is written in full. -/
  | tag (handle : String) (suffix : Tag)
  | scalar (style : Style) (text : String)
deriving DecidableEq

end Storefront.Yaml
