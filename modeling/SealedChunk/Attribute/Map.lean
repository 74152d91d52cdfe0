import SealedChunk.Json.Codec
import SealedChunk.Text.Blank

/-!
# Attribute maps and their canonical text

A key carries attributes: names, each with a list of values.  What is signed is their canonical
text, compact JSON with the names in order of arrival and the values in list order, so two sides
that hold the same map sign the same text.

* `AttributeMap` — the map.
* `AttributeMap.canonical`, `canonicalValues` — the canonical text of a map and of one value list.
* `AttributeMap.parse` — reads canonical text, and any other JSON of that shape.  Blank text stands
  for the empty map.
-/

namespace SealedChunk

/-- Attributes in order of arrival, each name with its values. -/
abbrev AttributeMap := OrderedMap (List String)

/-- A list of values, as an array of strings. -/
def valuesCodec : Json.Codec (List String) := .list .text

/-- The canonical text of a list of values. -/
def canonicalValues (values : List String) : String := valuesCodec.encode values

namespace AttributeMap

/-- An attribute map, as an object of arrays of strings. -/
def codec : Json.Codec AttributeMap := .ordered valuesCodec

/-- The canonical text of a map. -/
def canonical (m : AttributeMap) : String := codec.encode m

/-- Reads the text of a map. -/
def parse (text : String) : Except Json.Fault AttributeMap :=
  if Text.isBlankText text then .ok OrderedMap.empty else codec.decode text

end AttributeMap

end SealedChunk
