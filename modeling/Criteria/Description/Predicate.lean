/-
# Criteria.Description.Predicate — descriptions of predicates, kinds and failures

Every node of a predicate is described as a record around the constructor of the node. A pattern is
described by its source.
-/
import Criteria.Description.Value
import Criteria.Failure.Basic
import Criteria.Predicate.Basic

namespace Criteria

variable {F : Foreign}

/-- The constructor of a kind. It is the name of the kind, but for patterns. -/
def Kind.describe : Kind → String
  | .pattern => "RegexMatch"
  | k => k.name

/-- The structure of a pattern. -/
def Pattern.describe {E : Pattern.Engine} (p : Pattern E) : String :=
  Description.call "Pattern" (Description.ofText p.source)

/-- The structure of a test. -/
def Test.describe : Test F → String
  | .existence => Kind.existence.describe
  | .equals l => Description.call Kind.equals.describe l.describe
  | .lessThan x => Description.call Kind.lessThan.describe (Description.ofFloat x)
  | .beginsWith s => Description.call Kind.beginsWith.describe (Description.ofText s)
  | .endsWith s => Description.call Kind.endsWith.describe (Description.ofText s)
  | .contains s => Description.call Kind.contains.describe (Description.ofText s)
  | .pattern p => Description.call Kind.pattern.describe p.describe

namespace Predicate

/-- A node of a predicate. -/
def describeNode (node : String) : String := Description.record "Predicate" [("node", node)]

mutual

/-- The structure of a predicate. -/
def describe : Predicate F → String
  | .leaf t => describeNode t.describe
  | .negation p => describeNode (Description.call Kind.negation.describe (describe p))
  | .join j ps =>
    describeNode (Description.call j.kind.describe (Description.list (describeAll ps)))

/-- The structures of several predicates. -/
def describeAll : List (Predicate F) → List String
  | [] => []
  | p :: ps => describe p :: describeAll ps

end

end Predicate

namespace Failure

mutual

/-- The structure of a failure. -/
def describe : Failure → String
  | .typeMismatch => "TypeMismatch"
  | .aggregate fs =>
    Description.call "Aggregate"
      (Description.record "AggregateFailure" [("failures", Description.list (describeAll fs))])
  | .unserializable kind typeName =>
    Description.record "Unserializable"
      [("kind", kind.describe), ("type_name", Description.ofText typeName)]

/-- The structures of several failures. -/
def describeAll : List Failure → List String
  | [] => []
  | f :: fs => describe f :: describeAll fs

end

end Failure

end Criteria
