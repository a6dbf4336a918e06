/-
# Criteria.Failure.Message — the text of a failure

An elementary failure has a fixed sentence. An aggregate joins the texts of its failures with a comma
and a blank, quotes the result and puts it in braces, so the text of a nested aggregate is escaped
once for every level above it.
-/
import Criteria.Failure.Basic
import Criteria.Text.Quoted

namespace Criteria.Failure

open Criteria.Text

/-- The text of a bundle, from the texts of its failures. -/
def bundleText (texts : List String) : String :=
  "composite error \x7b" ++ quote (", ".intercalate texts) ++ "\x7d"

mutual

/-- The text of a failure. -/
def message : Failure → String
  | .typeMismatch => "type error"
  | .aggregate fs => bundleText (messages fs)
  | .unserializable kind typeName =>
    "no serialization known for " ++ kind.name ++ " over " ++ typeName

/-- The texts of the failures of a list, in order. -/
def messages : List Failure → List String
  | [] => []
  | f :: fs => message f :: messages fs

end

theorem messages_eq_map : ∀ fs : List Failure, messages fs = fs.map message
  | [] => rfl
  | f :: fs => by rw [messages, messages_eq_map fs, List.map_cons]

end Criteria.Failure
