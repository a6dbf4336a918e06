/-
# Criteria.Pattern.Basic — compiled patterns

What a pattern matches is decided by an `Engine`, which compiles the source of a pattern to a program
and runs programs on texts. Engines differ in the syntax that they accept, and nothing is assumed of
them here but that compiling depends on the source alone.

A pattern keeps its source beside the program, with the proof that the source compiles to it. The
source therefore determines the pattern (`ext_source`), patterns are compared by source, and compiling
the source of a pattern again gives the pattern (`compile?_source`).
-/

namespace Criteria

/-- What compiles patterns and looks for them in texts. -/
structure Pattern.Engine where
  Program : Type
  /-- The program of a source, if the source is well-formed. -/
  compile? : String → Option Program
  /-- Whether a program finds a match somewhere in a text. -/
  findsIn : Program → String → Bool

/-- A program of an engine together with the source it was compiled from. -/
structure Pattern (E : Pattern.Engine) where
  source : String
  program : E.Program
  compiles : E.compile? source = some program

namespace Pattern

variable {E : Engine}

/-- The pattern with the given source, if the source is well-formed. -/
def compile? (source : String) : Option (Pattern E) :=
  match h : E.compile? source with
  | some program => some ⟨source, program, h⟩
  | none => none

/-- Whether the pattern matches somewhere in the text. -/
def matchesIn (p : Pattern E) (text : String) : Bool := E.findsIn p.program text

instance : BEq (Pattern E) := ⟨fun p q => p.source == q.source⟩

theorem ext_source {p q : Pattern E} (h : p.source = q.source) : p = q := by
  obtain ⟨s, e, hp⟩ := p
  obtain ⟨t, f, hq⟩ := q
  simp only at h
  subst h
  have : e = f := Option.some.inj (hp.symm.trans hq)
  subst this
  rfl

instance : LawfulBEq (Pattern E) where
  eq_of_beq h := ext_source (beq_iff_eq.1 h)
  rfl {p} := (beq_self_eq_true p.source)

theorem compile?_source (p : Pattern E) : compile? p.source = some p := by
  unfold compile?
  split
  · exact congrArg some (ext_source rfl)
  · rename_i h
    rw [p.compiles] at h
    cases h

end Pattern

end Criteria
