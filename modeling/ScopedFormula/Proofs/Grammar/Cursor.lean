import ScopedFormula.Proofs.Grammar.Descent

/- The rules of the grammar, read from a whole list of tokens by index. Looking up an index outside
   the list ends the reading without a result, as does a level taken off where none was entered; a
   reading that does not end has none either. -/
namespace ScopedFormula

structure TokenCursor where
  tokens : List Token
  position : Nat
  depth : Int
  deriving DecidableEq, Repr

def TokenCursor.current? (c : TokenCursor) : Option Token := c.tokens[c.position]?

def TokenCursor.previous? (c : TokenCursor) : Option Token :=
  match c.position with
  | 0 => none
  | i + 1 => c.tokens[i]?

def TokenCursor.shallower? (c : TokenCursor) : Option TokenCursor :=
  if 0 < c.depth then some { c with depth := c.depth - 1 } else none

/-- A result or an error, and in both cases the cursor as it was left. -/
abbrev Reader (α : Type) := ExceptT ParseError (StateT TokenCursor Option) α

namespace Reader

variable {α : Type}

def look (part? : TokenCursor → Option α) : Reader α :=
  fun c => (part? c).map fun a => (.ok a, c)

def current : Reader Token := look TokenCursor.current?

def previous : Reader Token := look TokenCursor.previous?

def next : Reader Unit := do
  if (← current).kind ≠ .eof then modify fun c => { c with position := c.position + 1 }

def check (kind : TokenKind) : Reader Bool := do
  return (← current).kind = kind

def refuse (fault : Fault) : Reader α := do
  throw ⟨← current, fault⟩

def matchAny (kinds : TokenKind → Bool) : Reader (Option Token) := do
  if kinds (← current).kind then
    next
    return some (← previous)
  else return none

def expect (kind : TokenKind) (fault : Fault) : Reader Token := do
  if ← check kind then
    next
    previous
  else refuse fault

def deepen : Reader Unit := do
  if maxDepth ≤ (← get).depth then refuse .tooDeep
  else modify fun c => { c with depth := c.depth + 1 }

def shallower : StateT TokenCursor Option Unit := fun c => c.shallower?.map fun c => ((), c)

def deepenBefore (kinds : TokenKind → Bool) : Reader Unit := do
  if kinds (← current).kind then deepen

abbrev nested (inner : Reader α) : Reader α := do
  deepen
  (do
    let result ← inner.run
    shallower
    return result : StateT TokenCursor Option (Except ParseError α))

end Reader

namespace Reader

variable (read : Rule → Reader Expr)

abbrev operand (level : Nat) : Reader Expr :=
  if level < postfixLevel then do
    match ← matchAny (prefixLevel? · == some level) with
    | some op => return .unary op (← nested (read (.operand level)))
    | none => read (.fold level (← read (.operand (level + 1))))
  else if level = postfixLevel then do
    let depth := (← get).depth
    read (.chain depth (← read (.operand primaryLevel)))
  else do
    let t ← current
    if t.kind = .lparen then
      let e ← nested do
        next
        read (.operand 1)
      let _ ← expect .rparen .openGrouping
      return .grouping e
    else
      match primary t with
      | .ok e =>
          next
          return e
      | .error fault => refuse fault

abbrev fold (level : Nat) (left : Expr) : Reader Expr := do
  match ← matchAny (binaryLevel? · == some level) with
  | some op => read (.fold level (.binary left op (← read (.operand (level + 1)))))
  | none => return left

abbrev chain (base : Int) (e : Expr) : Reader Expr := do
  deepenBefore fun kind => kind == .lparen || kind == .period
  match ← matchAny (· == .lparen) with
  | some _ => read (.chain base (← nested (read (.arguments e))))
  | none =>
      match ← matchAny (· == .period) with
      | some _ =>
          let name ← expect .ident .noProperty
          read (.chain base (.member e name.lexeme))
      | none =>
          modify fun c => { c with depth := base }
          return e

abbrev arguments (callee : Expr) : Reader Expr := do
  if ← check .rparen then
    let _ ← expect .rparen .openArguments
    return .call callee []
  else read (.more callee [← read (.operand 1)])

abbrev more (callee : Expr) (args : List Expr) : Reader Expr := do
  match ← matchAny (· == .comma) with
  | some _ => read (.more callee (args ++ [← read (.operand 1)]))
  | none =>
      let _ ← expect .rparen .openArguments
      return .call callee args

end Reader

-- the rules are handed on by a tactic: a call would keep its place in the file
def Rule.read : Rule → Reader Expr
  | .operand level => .operand (by apply Rule.read) level
  | .fold level left => .fold (by apply Rule.read) level left
  | .chain base e => .chain (by apply Rule.read) base e
  | .arguments callee => .arguments (by apply Rule.read) callee
  | .more callee args => .more (by apply Rule.read) callee args
partial_fixpoint

open Reader in
def Reader.parse : Reader Expr := do
  modify fun c => { c with position := 0, depth := 0 }
  let e ← (Rule.operand 1).read
  if ← check .eof then return e else refuse .trailing

def TokenCursor.at (before rest : List Token) (stop : Token) (after : List Token) (depth : Int) :
    TokenCursor :=
  ⟨before ++ (rest ++ stop :: after), before.length, depth⟩

namespace Reader

variable {α β : Type} {before after rest : List Token} {t stop : Token} {depth : Int}
  {c c' : TokenCursor} {x : Reader α} {f : α → Reader β} {kinds : TokenKind → Bool}
  {kind : TokenKind} {fault : Fault}

end Reader

end ScopedFormula
