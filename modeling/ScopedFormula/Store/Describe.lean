import ScopedFormula.Store
import ScopedFormula.Text.Quoted

/- The description of a scope: its own names, sorted, and whether something encloses it. -/
namespace ScopedFormula

def sortNames (names : List String) : List String := names.mergeSort (· ≤ ·)

def Scope.describe (s : Scope) : String :=
  "Environment \x7b vars: " ++ quotedList (sortNames (s.vars.map Prod.fst)) ++
    ", methods: " ++ quotedList (sortNames (s.methods.map Prod.fst)) ++
    ", outer: " ++ booleanText s.outer.isSome ++ " \x7d"

end ScopedFormula
