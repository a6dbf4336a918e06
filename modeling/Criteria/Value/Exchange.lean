/-
# Criteria.Value.Exchange — values as JSON and back

Every value without a foreign item has a JSON document: the absent value is null, and maps are objects
in the order of their keys. With a foreign item there is none, and the error names the type of the first
item met. A codec turns the document into text and text into documents; it puts null for the floats that
are not finite.

Reading goes through the model of data that JSON shares with other formats, so a number always becomes
a float: writing and reading a value turns its whole numbers into floats and its floats that are not
finite into the absent value, and changes nothing else.
-/
import Criteria.Datum
import Criteria.Json.Codec

namespace Criteria

variable {F : Foreign}

/-- A value holds an item of the named foreign type, which cannot be written. -/
structure WriteError where
  typeName : String
  deriving DecidableEq, Repr

/-- The sentence for an item that cannot be written. -/
def WriteError.message (e : WriteError) : String :=
  "opaque value of type " ++ e.typeName ++ " cannot be serialized"

namespace Value

mutual

/-- The document of a value. -/
def toJson : Value F → Except WriteError Json
  | .absent => .ok .null
  | .bool b => .ok (.bool b)
  | .integer i => .ok (.integer i.toInt)
  | .number x => .ok (.float x)
  | .str s => .ok (.str s)
  | .list items => (itemsToJson items).map .arr
  | .map entries => (entriesToJson entries).map .obj
  | .foreign item => .error ⟨item.typeName⟩

/-- The documents of the items of a list. -/
def itemsToJson : List (Value F) → Except WriteError (List Json)
  | [] => .ok []
  | v :: rest =>
    match toJson v with
    | .error e => .error e
    | .ok j => (itemsToJson rest).map (j :: ·)

/-- The members for the entries of a map. -/
def entriesToJson : List (String × Value F) → Except WriteError (List (String × Json))
  | [] => .ok []
  | (k, v) :: rest =>
    match toJson v with
    | .error e => .error e
    | .ok j => (entriesToJson rest).map ((k, j) :: ·)

end

/-- The JSON text of a value. -/
def toJsonText (C : Json.Codec) (v : Value F) : Except WriteError String := v.toJson.map C.write

end Value

namespace Json

mutual

/-- A document as data. -/
def toDatum : Json → Datum
  | .null => .unit
  | .bool b => .bool b
  | .integer i => if i < 0 then .signed (Int64.ofInt i) else .unsigned (UInt64.ofNat i.toNat)
  | .float x => .float x
  | .str s => .str s
  | .arr items => .seq (itemsToData items)
  | .obj members => .map (membersToData members)

/-- The items of an array as data. -/
def itemsToData : List Json → List Datum
  | [] => []
  | j :: rest => toDatum j :: itemsToData rest

/-- The members of an object as data. -/
def membersToData : List (String × Json) → List (Datum × Datum)
  | [] => []
  | (k, j) :: rest => (.str k, toDatum j) :: membersToData rest

end

end Json

/-- Why a text could not be read as a value. -/
inductive ReadError where
  /-- The text is not a JSON document. -/
  | malformed
  /-- The document is not a value. -/
  | refused (refusal : Datum.Refusal)
  deriving DecidableEq, Repr

/-- The value that a JSON text stands for. -/
def Value.ofJsonText (C : Json.Codec) (text : String) : Except ReadError (Value F) :=
  match C.read? text with
  | none => .error .malformed
  | some j =>
    match Value.ofDatum j.toDatum with
    | .ok v => .ok v
    | .error refusal => .error (.refused refusal)

end Criteria
