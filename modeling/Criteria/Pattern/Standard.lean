/-
# Criteria.Pattern.Standard — an engine that runs

The engine of `Criteria.Pattern.Reader` and `Criteria.Pattern.Search`: a source is read as a regular
expression, and the expression is its own program.

It is one engine among others, and nothing that is proved of predicates depends on it. What it accepts
it matches as other engines with this syntax do, but it accepts less than they may. It refuses classes
named by a Unicode property (`\p` and `\P`), the flags `x` (blanks and remarks in a pattern) and `R`
(line ends of two characters), and `-u`, for it has no mode in which characters are bytes. Its limits
on nesting and on size are `nestLimit` and `sizeLimit`.
-/
import Criteria.Pattern.Basic
import Criteria.Pattern.Reader
import Criteria.Pattern.Search

namespace Criteria.Pattern

/-- The engine whose programs are regular expressions. -/
def Engine.standard : Engine where
  Program := Expression
  compile? source := Expression.ofText? source.toList
  findsIn e text := e.matchesIn text.toList

end Criteria.Pattern
