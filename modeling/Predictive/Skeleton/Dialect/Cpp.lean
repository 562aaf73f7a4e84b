import Predictive.Skeleton.Dialect

/-!
# Skeletons in C++

The procedures are functions without arguments. They report on the standard output which of them is
called, returned to, or left with an error, and an error ends the program.
-/

namespace Predictive

open Text

namespace Cpp

/-- A backslash stands before a double quote or a backslash. -/
def escapeChar (c : Char) : List Char :=
  if c = '\\' || c = '\x22' then ['\\', c] else [c]

/-- The characters of a string literal. -/
def literalChars (cs : List Char) : List Char :=
  '\x22' :: cs.flatMap escapeChar ++ ['\x22']

/-- A text as a string literal. -/
def literal (text : String) : String :=
  String.ofList (literalChars text.toList)

/-- The statement that reports a message with a procedure's name after it. -/
def report (message name : String) : String :=
  "std::cout << \x22" ++ message ++ " " ++ name ++ "\x22 << std::endl;"

/-- How procedures are written in C++. -/
def dialect : Dialect where
  indent := "\t"
  header name := ["void " ++ name ++ "() \x7b", "\t" ++ report "Calling" name]
  guard chained lookahead :=
    (if chained then "else " else "") ++ "if (match(" ++ braced (lookahead.map literal) ++ ")) \x7b"
  expect terminal := ["match_terminal(" ++ literal terminal ++ ");"]
  call caller callee := [callee ++ "();", report "Returned to" caller]
  close := ["\x7d"]
  failure name := ["else \x7b", "\t" ++ report "Error in" name, "\texit(1);", "\x7d"]
  footer := ["\x7d"]

end Cpp

end Predictive
