/-
# Criteria.Rendering.Compact — predicates on one line

A node is rendered as a call: the name of its kind, and in parentheses its argument or its children,
with a comma and a blank between them. Texts are quoted, floats have six decimal places.

Not every literal has a text. An equality with a literal that has none is rendered with the name of
the literal's type between angle brackets in its place, and fails; a connective fails with the
failures of its children, the negation like the joins. So the text is always there, and the failure
says where it has holes.
-/
import Criteria.Decimal.Fixed
import Criteria.Failure.Aggregate
import Criteria.Outcome
import Criteria.Predicate.Basic

namespace Criteria

open Criteria.Text

variable {F : Foreign}

/-- How many decimal places a float has in rendered text. -/
def numberPlaces : Nat := 6

/-- The text of a float. -/
def numberText (x : Float) : String := Decimal.fixed numberPlaces x

/-- A call with the given text between its parentheses. -/
def callText (kind : Kind) (argument : String) : String := kind.name ++ "(" ++ argument ++ ")"

/-- The text of a literal, if it has one. -/
def Literal.render : Literal F → Outcome String
  | .str s => .clean (quote s)
  | .number x => .clean (numberText x)
  | .other (.bool b) => .clean (if b then "true" else "false")
  | .other (.integer i) => .clean (toString i.toInt)
  | .other v => .failed ("<" ++ v.typeName ++ ">") (.unserializable .equals v.typeName)

/-- The argument of a test. -/
def Test.argument : Test F → Outcome String
  | .existence => .clean ""
  | .equals l => l.render
  | .lessThan x => .clean (numberText x)
  | .beginsWith s => .clean (quote s)
  | .endsWith s => .clean (quote s)
  | .contains s => .clean (quote s)
  | .pattern p => .clean (quote p.source)

/-- A test as a call. -/
def Test.render (t : Test F) : Outcome String := t.argument.map (callText t.kind)

/-- The texts of several outcomes, and the bundle of their failures. -/
def gather : List (Outcome String) → List String × Aggregate
  | [] => ([], .empty)
  | o :: rest =>
    let (texts, failures) := gather rest
    (o.value :: texts, .ofList (o.failure.toList ++ failures.failures))

/-- The outcome of a connective: its text from those of its children, its failure from theirs. -/
def enclose (text : List String → String) (children : List (Outcome String)) : Outcome String :=
  let (texts, failures) := gather children
  ⟨text texts, failures.collapse⟩

theorem gather_texts (os : List (Outcome String)) : (gather os).1 = os.map (·.value) := by
  induction os with
  | nil => rfl
  | cons o os ih => rw [gather, List.map_cons, ← ih]

theorem gather_failures (os : List (Outcome String)) :
    (gather os).2 = .ofList (os.flatMap fun o => o.failure.toList) := by
  induction os with
  | nil => rfl
  | cons o os ih => simp [gather, ih, Aggregate.ofList]

theorem enclose_value (f : List String → String) (os : List (Outcome String)) :
    (enclose f os).value = f (os.map (·.value)) := by
  rw [← gather_texts]
  rfl

theorem enclose_failure (f : List String → String) (os : List (Outcome String)) :
    (enclose f os).failure = (Aggregate.ofList (os.flatMap fun o => o.failure.toList)).collapse := by
  rw [← gather_failures]
  rfl

namespace Predicate

mutual

/-- A predicate on one line. -/
def compact : Predicate F → Outcome String
  | .leaf t => t.render
  | .negation p => enclose (fun texts => callText .negation (", ".intercalate texts)) [compact p]
  | .join j ps => enclose (fun texts => callText j.kind (", ".intercalate texts)) (compactAll ps)

/-- Several predicates, each on one line. -/
def compactAll : List (Predicate F) → List (Outcome String)
  | [] => []
  | p :: ps => compact p :: compactAll ps

end

/-- A predicate on one line, with placeholders where a literal has no text. -/
def text (p : Predicate F) : String := p.compact.value

theorem compactAll_eq_map : ∀ ps : List (Predicate F), compactAll ps = ps.map compact
  | [] => rfl
  | p :: ps => by rw [compactAll, compactAll_eq_map ps, List.map_cons]

theorem text_leaf (t : Test F) : (leaf t).text = callText t.kind t.argument.value := rfl

theorem text_negation (p : Predicate F) : (negation p).text = callText .negation p.text := by
  rw [text, compact, enclose_value, List.map_singleton, String.intercalate_singleton]
  rfl

theorem text_join (j : Join) (ps : List (Predicate F)) :
    (join j ps).text = callText j.kind (", ".intercalate (ps.map text)) := by
  simp only [text, compact, enclose_value, compactAll_eq_map, List.map_map]
  rfl

theorem compact_negation_failure (p : Predicate F) :
    (negation p).compact.failure = (Aggregate.ofList p.compact.failure.toList).collapse := by
  simp [compact, enclose_failure]

theorem compact_join_failure (j : Join) (ps : List (Predicate F)) :
    (join j ps).compact.failure =
      (Aggregate.ofList (ps.flatMap fun p => p.compact.failure.toList)).collapse := by
  rw [compact, enclose_failure, compactAll_eq_map, List.flatMap_map]

/-- A negation is rendered cleanly exactly when its child is. -/
theorem compact_negation_isClean_iff (p : Predicate F) :
    (negation p).compact.isClean = true ↔ p.compact.isClean = true := by
  simp [compact_negation_failure, Aggregate.collapse_eq_none_iff, Aggregate.ofList]

/-- A join is rendered cleanly exactly when every child is. -/
theorem compact_join_isClean_iff (j : Join) (ps : List (Predicate F)) :
    (join j ps).compact.isClean = true ↔ ∀ p ∈ ps, p.compact.isClean = true := by
  simp [compact_join_failure, Aggregate.collapse_eq_none_iff, Aggregate.ofList]

end Predicate

end Criteria
