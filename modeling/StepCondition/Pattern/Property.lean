import StepCondition.Pattern.CharSet
import StepCondition.Pattern.Property.Age
import StepCondition.Pattern.Property.Script
import StepCondition.Pattern.Property.Segmentation
import StepCondition.Pattern.Tree

/-!
# Properties by name

The set of characters that a property asks for (`propertySet?`). Names are
compared in loose form (`looseName`). A name alone is that of a binary property,
a general category or a script, in this order; a name with a value is that of a
property with many values.
-/

namespace StepCondition.Pattern

/-- A name in loose form: lower case, without blanks, underscores, dashes and
anything beyond ASCII, and without a leading `is`. -/
def looseName (name : String) : String :=
  let loose (cs : List Char) : List Char :=
    (cs.filter fun c => c.toNat < 0x80 && c ≠ ' ' && c ≠ '_' && c ≠ '-').map Char.toLower
  let letters := match name.toList with
    | i :: s :: rest =>
      if i.toLower = 'i' && s.toLower = 's' then
        let kept := loose rest
        if kept = ['c'] then ['i', 's', 'c'] else kept
      else loose (i :: s :: rest)
    | cs => loose cs
  String.ofList letters

/-- The members of a general category, a group of categories, or one of the
divisions that count as categories. -/
def categorySet? (name : String) : Option CharSet :=
  if name = "any" then some (.compl .empty)
  else if name = "ascii" then some (.range '\x00' '\x7f')
  else if name = "assigned" then
    some (.compl (.table (.ofTable GeneralCategory.unassigned)))
  else
    match categoryGroups.find? (·.1.contains name) with
    | some (_, members) =>
      some (.table (.unionAll (members.filterMap (Named.find? generalCategories))))
    | none => (Named.find? generalCategories name).map .table

/-- The members of a script. -/
def scriptSet? (name : String) : Option CharSet := (Named.find? scripts name).map .table

/-- The characters that a script uses. -/
def scriptExtensionSet? (name : String) : Option CharSet :=
  ((Named.find? scriptExtensions name).or (Named.find? scripts name)).map .table

/-- The characters assigned in a version or before it. -/
def ageSet? (name : String) : Option CharSet :=
  let upTo := ages.takeWhile (!·.names.contains name)
  (Named.find? ages name).map fun last =>
    .table (.unionAll (last :: upTo.map fun age => .ofTable age.table))

/-- The set that a name alone asks for. -/
def namedSet? (name : String) : Option CharSet :=
  ((Named.find? binaryProperties name).map .table).or <|
    (categorySet? name).or (scriptSet? name)

/-- The set that a property with a value asks for. -/
def valueSet? (property value : String) : Option CharSet :=
  if ["gc", "generalcategory"].contains property then categorySet? value
  else if ["sc", "script"].contains property then scriptSet? value
  else if ["scx", "scriptextensions"].contains property then scriptExtensionSet? value
  else if property = "age" then ageSet? value
  else if ["gcb", "graphemeclusterbreak"].contains property then
    (Named.find? graphemeBreaks value).map .table
  else if ["wb", "wordbreak"].contains property then (Named.find? wordBreaks value).map .table
  else if ["sb", "sentencebreak"].contains property then
    (Named.find? sentenceBreaks value).map .table
  else none

/-- The set of characters that a property asks for. -/
def propertySet? : PropertyQuery → Option CharSet
  | .name name => namedSet? (looseName name)
  | .value property value => valueSet? (looseName property) (looseName value)

end StepCondition.Pattern
