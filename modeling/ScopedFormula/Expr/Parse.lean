import ScopedFormula.Expr

/- Parsing in one pass over the tokens. The state holds what is still open: operators that
   wait for their right operand and brackets that wait to be closed. Every decision looks at
   the state and one token, so each error is found at the token that is being read. -/
namespace ScopedFormula

inductive Fault where
  | tooDeep | trailing | noProperty | openArguments | openGrouping
  | noExpression | noInteger | noFloat | noString
  deriving DecidableEq, Repr

def Fault.text : Fault → String
  | .tooDeep => "Expression nested too deeply."
  | .trailing => "Expect end of expression."
  | .noProperty => "Expect property name after '.'."
  | .openArguments => "Expect ')' after arguments."
  | .openGrouping => "Expect ')' after expression."
  | .noExpression => "Expect expression."
  | .noInteger => "Expect integer literal value."
  | .noFloat => "Expect float literal value."
  | .noString => "Expect string literal value."

structure ParseError where
  token : Token
  fault : Fault
  deriving DecidableEq, Repr

def ParseError.text (e : ParseError) : String :=
  "parse error at " ++ toString e.token.position ++ ": " ++ e.fault.text ++
    " (found " ++ e.token.text ++ ")"

inductive Pending where
  | unary (op : Token)
  | binary (left : Expr) (op : Token)
  deriving Repr

def Pending.level : Pending → Nat
  | .unary op => (prefixLevel? op.kind).getD 0
  | .binary _ op => (binaryLevel? op.kind).getD 0

/-- The weakest level that the awaited operand may have. -/
def Pending.operandLevel : Pending → Nat
  | .unary op => (prefixLevel? op.kind).getD 0
  | .binary _ op => (binaryLevel? op.kind).getD 0 + 1

def Pending.apply : Pending → Expr → Expr
  | .unary op, e => .unary op e
  | .binary left op, e => .binary left op e

def Pending.depth : Pending → Nat
  | .unary _ => 1
  | .binary .. => 0

/-- An open bracket with the operators pending before it. The call is the step that many
    steps after its primary expression. -/
inductive Bracket where
  | grouping (before : List Pending)
  | call (before : List Pending) (callee : Expr) (steps : Nat) (args : List Expr)
  deriving Repr

/-- Operators pending since the last open bracket, the open brackets, innermost first, and
    the nesting depth that they add up to. -/
structure Frames where
  pending : List Pending
  brackets : List Bracket
  depth : Nat
  deriving Repr

/-- What was read last: an operator or an opening bracket, where the operand after a prefix
    operator is one level deeper; the opening bracket of a call; the dot of a member access;
    or a primary expression with some calls and member accesses behind it. -/
inductive State where
  | operand (fr : Frames) (deeper : Bool)
  | arguments (fr : Frames) (callee : Expr) (steps : Nat)
  | property (fr : Frames) (owner : Expr) (steps : Nat)
  | chain (fr : Frames) (e : Expr) (steps : Nat)
  deriving Repr

def State.start : State := .operand ⟨[], [], 0⟩ false

def operandLevel : List Pending → Nat
  | [] => 1
  | p :: _ => p.operandLevel

def descend (depth : Nat) : Except Fault Nat :=
  if maxDepth ≤ depth then .error .tooDeep else .ok (depth + 1)

/-- Completes the pending operators that bind at least as strongly as the level. -/
def settle (level : Nat) : List Pending → Nat → Expr → List Pending × Nat × Expr
  | [], depth, e => ([], depth, e)
  | p :: ps, depth, e =>
      if level ≤ p.level then settle level ps (depth - p.depth) (p.apply e)
      else (p :: ps, depth, e)

def primary (t : Token) : Except Fault Expr :=
  match t.kind with
  | .true => .ok (.boolean true)
  | .false => .ok (.boolean false)
  | .nil => .ok .nil
  | .integer =>
      match t.literal with
      | some (.integer n) => .ok (.integer n)
      | _ => .error .noInteger
  | .float =>
      match t.literal with
      | some (.float x) => .ok (.float x)
      | _ => .error .noFloat
  | .string =>
      match t.literal with
      | some (.string s) => .ok (.string s)
      | _ => .error .noString
  | .ident => .ok (.name t.lexeme)
  | _ => .error .noExpression

def readOperand (fr : Frames) (t : Token) : Except Fault State :=
  match prefixLevel? t.kind with
  | some level =>
      if operandLevel fr.pending ≤ level then
        .ok (.operand { fr with pending := .unary t :: fr.pending } true)
      else .error .noExpression
  | none =>
      if t.kind = .lparen then do
        let depth ← descend fr.depth
        return .operand ⟨[], .grouping fr.pending :: fr.brackets, depth⟩ false
      else do
        let e ← primary t
        return .chain fr e 0

def readClosing (fr : Frames) (e : Expr) (t : Token) : Except Fault State :=
  let (_, depth, e) := settle 0 fr.pending fr.depth e
  match fr.brackets with
  | [] => .error .trailing
  | .grouping before :: outer =>
      if t.kind = .rparen then .ok (.chain ⟨before, outer, depth - 1⟩ (.grouping e) 0)
      else .error .openGrouping
  | .call before callee steps args :: outer =>
      if t.kind = .rparen then
        .ok (.chain ⟨before, outer, depth - (steps + 1)⟩ (.call callee (args ++ [e])) steps)
      else if t.kind = .comma then
        .ok (.operand ⟨[], .call before callee steps (args ++ [e]) :: outer, depth⟩ false)
      else .error .openArguments

def State.step : State → Token → Except Fault State
  | .operand fr deeper, t => do
      let depth ← if deeper then descend fr.depth else pure fr.depth
      readOperand { fr with depth } t
  | .arguments fr callee steps, t => do
      let depth ← descend (fr.depth + steps)
      if t.kind = .rparen then return .chain fr (.call callee []) steps
      else readOperand ⟨[], .call fr.pending callee steps [] :: fr.brackets, depth⟩ t
  | .property fr owner steps, t =>
      if t.kind = .ident then .ok (.chain fr (.member owner t.lexeme) steps)
      else .error .noProperty
  | .chain fr e steps, t =>
      if t.kind = .lparen then do
        let _ ← descend (fr.depth + steps)
        return .arguments fr e (steps + 1)
      else if t.kind = .period then do
        let _ ← descend (fr.depth + steps)
        return .property fr e (steps + 1)
      else
        match binaryLevel? t.kind with
        | some level =>
            let (pending, depth, left) := settle level fr.pending fr.depth e
            .ok (.operand ⟨.binary left t :: pending, fr.brackets, depth⟩ false)
        | none => readClosing fr e t

def State.finish : State → Except Fault Expr
  | .operand fr deeper => do
      let _ ← if deeper then descend fr.depth else pure fr.depth
      throw .noExpression
  | .arguments fr _ steps => do
      let _ ← descend (fr.depth + steps)
      throw .noExpression
  | .property .. => .error .noProperty
  | .chain fr e _ =>
      match fr.brackets with
      | [] => .ok (settle 0 fr.pending fr.depth e).2.2
      | .grouping _ :: _ => .error .openGrouping
      | .call .. :: _ => .error .openArguments

def State.run (s : State) (stop : Token) : List Token → Except ParseError Expr
  | [] =>
      match s.finish with
      | .ok e => .ok e
      | .error fault => .error ⟨stop, fault⟩
  | t :: ts =>
      match s.step t with
      | .ok s' => s'.run stop ts
      | .error fault => .error ⟨t, fault⟩

def bodyTokens (ts : List Token) : List Token := ts.takeWhile (·.kind != .eof)

/-- The first end token; a list without one ends where its last token stops. -/
def stopToken (ts : List Token) : Token :=
  (ts.find? (·.kind == .eof)).getD (endToken ((ts.getLast?.map Token.stop).getD 0))

def parse (ts : List Token) : Except ParseError Expr :=
  State.start.run (stopToken ts) (bodyTokens ts)

end ScopedFormula
