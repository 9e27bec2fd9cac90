import TagSearch.Preset.Tags
import TagSearch.Resolver
import TagSearch.Text.Lowercase

/-!
# Presets

A preset gives a name, and other terms for it, to a set of tags.
-/

namespace TagSearch

/-- A named set of tags. -/
structure Preset where
  name : String
  /-- Other terms for the preset. -/
  terms : List String
  tags : Tags
  /-- The entity types the preset is for; omitted, it is for all of them. -/
  types : Option (List EntityType)
  deriving DecidableEq

namespace Preset

/-- The name and the other terms of a preset. -/
def names (p : Preset) : List String :=
  p.name :: p.terms

/-- Whether a phrase is one of the names of a preset, whatever its case. -/
def isNamed (p : Preset) (phrase : String) : Bool :=
  p.names.any fun name => Text.lowercase name = Text.lowercase phrase

/-- The condition for a tag of a preset: the value `*` only asks for the key. -/
def tagCondition : String × String → Condition
  | (key, value) => if value = "*" then .hasKey key else .equals key value

/-- The meaning of a preset. -/
def resolution (p : Preset) : Resolution where
  conditions := p.tags.entries.map tagCondition
  types := p.types.elim .all .ofList

end Preset

end TagSearch
