/-!
# Symbols

The symbols of a grammar are texts. Which of them are terminals, a grammar decides: those without a
rule.
-/

namespace Predictive

/-- A terminal or a non-terminal, named by its text. -/
abbrev Symbol := String

/-- Stands alone in a production for the empty string. -/
def epsilon : Symbol := "epsilon"

/-- Follows the symbols that may end the input. -/
def endMarker : Symbol := "$"

end Predictive
