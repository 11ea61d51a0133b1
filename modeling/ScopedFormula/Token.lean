/- Tokens: a kind, the characters read, the position of the first one (counted in
   characters) and, for a literal, its value. -/
namespace ScopedFormula

inductive TokenKind where
  | eof
  | lparen | rparen | lbracket | rbracket | lbrace | rbrace | comma | period
  | plus | minus | asterisk | slash | percent | power
  | and | or | bang
  | eq | notEq | lt | ltEq | gt | gtEq
  | ident | string | integer | float
  | true | false | nil
  deriving DecidableEq, Repr

def TokenKind.text : TokenKind → String
  | .eof => "end of input"
  | .lparen => "("
  | .rparen => ")"
  | .lbracket => "["
  | .rbracket => "]"
  | .lbrace => "\x7b"
  | .rbrace => "\x7d"
  | .comma => ","
  | .period => "."
  | .plus => "+"
  | .minus => "-"
  | .asterisk => "*"
  | .slash => "/"
  | .percent => "%"
  | .power => "**"
  | .and => "&&"
  | .or => "||"
  | .bang => "!"
  | .eq => "=="
  | .notEq => "!="
  | .lt => "<"
  | .ltEq => "<="
  | .gt => ">"
  | .gtEq => ">="
  | .ident => "identifier"
  | .string => "string"
  | .integer => "integer"
  | .float => "float"
  | .true => "true"
  | .false => "false"
  | .nil => "nil"

inductive Literal where
  | integer (n : Int64)
  | float (x : Float)
  | string (s : String)
  deriving DecidableEq, Repr

structure Token where
  kind : TokenKind
  lexeme : String
  position : Nat
  literal : Option Literal := none
  deriving DecidableEq, Repr

def Token.text (t : Token) : String :=
  if t.kind = .eof then t.kind.text else "'" ++ t.lexeme ++ "'"

def Token.stop (t : Token) : Nat := t.position + t.lexeme.length

def endToken (position : Nat) : Token := ⟨.eof, "", position, none⟩

end ScopedFormula
