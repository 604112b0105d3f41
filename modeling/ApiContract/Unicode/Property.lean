import ApiContract.Unicode.Age
import ApiContract.Unicode.BinaryProperty
import ApiContract.Unicode.GeneralCategory
import ApiContract.Unicode.Script
import ApiContract.Unicode.ScriptExtension
import ApiContract.Unicode.Segmentation

/-!
The sets that patterns name by a property of characters. Names are compared without regard to case,
spaces, hyphens, underscores, or a leading `is`.
-/

namespace ApiContract.Unicode

/-- A property by its name, or by its name and a value of it. -/
inductive PropertyQuery where
  | name (text : String)
  | value (property text : String)
deriving DecidableEq, Repr

def isNameMark (c : Char) : Bool := c.toNat < 128 && c != ' ' && c != '_' && c != '-'

/-- A name as the tables have it. The abbreviation of the ISO comment keeps its `is`. -/
def normalizeName (text : String) : String :=
  let fold (chars : List Char) : List Char := (chars.filter isNameMark).map Char.toLower
  match text.toList with
  | i :: s :: rest =>
      if i.toLower = 'i' ∧ s.toLower = 's' then
        if fold rest = ['c'] then "isc" else String.ofList (fold rest)
      else String.ofList (fold (i :: s :: rest))
  | chars => String.ofList (fold chars)

/-- The characters of a general category or of a group of categories. -/
def category? (name : String) : Option CodePointSet :=
  if name = "any" then some .all
  else if name = "ascii" then some (.range 0 127)
  else if name = "assigned" then (findSet? generalCategories "cn").map CodePointSet.complement
  else match categoryGroups.find? fun group => group.names.contains name with
    | some group => (group.members.mapM (findSet? generalCategories)).map (CodePointSet.unionAll 20)
    | none => findSet? generalCategories name

/-- The characters assigned in a version or before it. -/
def assignedBy? (version : String) : Option CodePointSet :=
  if versions.any fun entry => entry.names.contains version then
    let later := versions.dropWhile fun entry => !entry.names.contains version
    some (.unionAll 20 ((versions.take (versions.length - later.length + 1)).map NamedSet.set))
  else none

/-- The set of a property that is named alone: one that characters have or have not, a category,
or a script. -/
def namedProperty? (name : String) : Option CodePointSet :=
  (findSet? binaryProperties name).or ((category? name).or (findSet? scripts name))

/-- The set of the characters with a value of a property. -/
def valuedProperty? (property value : String) : Option CodePointSet :=
  if ["gc", "generalcategory", "category"].contains property then category? value
  else if ["sc", "script"].contains property then findSet? scripts value
  else if ["scx", "scriptextensions"].contains property then findSet? scriptExtensions value
  else if property = "age" then assignedBy? value
  else if ["gcb", "graphemeclusterbreak"].contains property then findSet? graphemeBreaks value
  else if ["wb", "wordbreak"].contains property then findSet? wordBreaks value
  else if ["sb", "sentencebreak"].contains property then findSet? sentenceBreaks value
  else none

/-- The set that a query stands for; none when no table has it. -/
def PropertyQuery.set? : PropertyQuery → Option CodePointSet
  | .name text => namedProperty? (normalizeName text)
  | .value property text => valuedProperty? (normalizeName property) (normalizeName text)

end ApiContract.Unicode
