import Predictive.SymbolSet
import Predictive.Text.Quoted

/-!
# Listing sets

A set is shown as its quoted members in ascending order, in braces; a list of sets stands in
brackets.
-/

namespace Predictive

open Text

/-- Symbols as they are shown, quoted and in braces, in the order given. -/
def renderMembers (symbols : List Symbol) : String :=
  braced (symbols.map quoted)

/-- The symbols of a list in ascending order, with their repetitions. -/
def sortSymbols (symbols : List Symbol) : List Symbol :=
  symbols.mergeSort fun a b => decide (a ≤ b)

/-- A collection of symbols, with its repetitions, as it is shown. -/
def renderCollection (symbols : List Symbol) : String :=
  renderMembers (sortSymbols symbols)

/-- Collections of symbols as they are shown, in brackets. -/
def renderCollections (collections : List (List Symbol)) : String :=
  bracketed (collections.map renderCollection)

/-- A set as it is shown. -/
def SymbolSet.render (set : SymbolSet) : String :=
  renderMembers set.toList

/-- A list of sets as it is shown. -/
def SymbolSet.renderAll (sets : List SymbolSet) : String :=
  bracketed (sets.map SymbolSet.render)

end Predictive
