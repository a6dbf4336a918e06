/-
# Criteria.Description.Value — descriptions of values and literals

Every value is described by its kind and what it holds. A foreign value is described as its family
describes it.
-/
import Criteria.Description.Basic
import Criteria.Predicate.Literal

namespace Criteria

variable {F : Foreign}

namespace Value

mutual

/-- The structure of a value. -/
def describe : Value F → String
  | .absent => "Absent"
  | .bool b => Description.call "Bool" (Description.ofBool b)
  | .integer i => Description.call "Integer" (toString i.toInt)
  | .number x => Description.call "Number" (Description.ofFloat x)
  | .str s => Description.call "Str" (Description.ofText s)
  | .list items => Description.call "List" (Description.list (describeItems items))
  | .map entries => Description.call "Map" (Description.map (describeEntries entries))
  | .foreign item => Description.call "Opaque" (Description.call "Opaque" item.describe)

/-- The structures of the items of a list. -/
def describeItems : List (Value F) → List String
  | [] => []
  | v :: rest => describe v :: describeItems rest

/-- The keys and structures of the entries of a map. -/
def describeEntries : List (String × Value F) → List (String × String)
  | [] => []
  | (k, v) :: rest => (Description.ofText k, describe v) :: describeEntries rest

end

end Value

/-- The structure of a literal. -/
def Literal.describe : Literal F → String
  | .str s => Description.call "Str" (Description.ofText s)
  | .number x => Description.call "Number" (Description.ofFloat x)
  | .other v => Description.call "Other" v.describe

end Criteria
