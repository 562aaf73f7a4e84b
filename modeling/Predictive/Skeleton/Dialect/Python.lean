import Predictive.Skeleton.Dialect

/-!
# Skeletons in Python

The procedures are functions of a parser object, which shows its next token and consumes an expected
one. An error raises an exception.
-/

namespace Predictive

open Text

namespace Python

/-- The set of these symbols; an empty pair of braces would be no set. -/
def setLiteral (symbols : List Symbol) : String :=
  if symbols = [] then "set()" else braced (symbols.map quoted)

/-- How procedures are written in Python. -/
def dialect : Dialect where
  indent := "    "
  header name := ["def " ++ name ++ "(parser):"]
  guard chained lookahead :=
    (if chained then "elif" else "if") ++ " parser.peek() in " ++ setLiteral lookahead ++ ":"
  expect terminal := ["parser.match(" ++ quoted terminal ++ ")"]
  call _ callee := [callee ++ "(parser)"]
  close := []
  failure name := ["else:", "    raise SyntaxError(" ++ quoted ("Error in " ++ name) ++ ")"]
  footer := []

end Python

end Predictive
