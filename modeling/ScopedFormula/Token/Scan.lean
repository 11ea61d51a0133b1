import ScopedFormula.Text.Blank
import ScopedFormula.Number.Decimal
import ScopedFormula.Number.Limits
import ScopedFormula.Token

/- Scanning. A cursor stands before the unread characters; each call of next drops what lies
   between tokens, reads one lexeme and moves past it, so reading always makes progress. -/
namespace ScopedFormula

inductive ScanError where
  | unexpectedCharacter (c : Char) (position : Nat)
  | unterminatedString (position : Nat)
  | invalidNumber (lexeme : String) (position : Nat)
  deriving DecidableEq, Repr

def ScanError.position : ScanError → Nat
  | .unexpectedCharacter _ p => p
  | .unterminatedString p => p
  | .invalidNumber _ p => p

def ScanError.text (e : ScanError) : String :=
  "scan error at " ++ toString e.position ++ ": " ++
    match e with
    | .unexpectedCharacter c _ => "unexpected character '" ++ c.toString ++ "'"
    | .unterminatedString _ => "unterminated string"
    | .invalidNumber lexeme _ => "invalid number " ++ lexeme

structure Cursor where
  position : Nat
  rest : List Char
  deriving DecidableEq, Repr

/-- These form tokens only when doubled; one alone is dropped. -/
def isPaired (c : Char) : Bool := c == '=' || c == '&' || c == '|'

def skip (position : Nat) : List Char → Cursor
  | [] => ⟨position, []⟩
  | c :: cs =>
      if isBlank c || (isPaired c && cs.head? != some c) then skip (position + 1) cs
      else ⟨position, c :: cs⟩

def double? : Char → Char → Option TokenKind
  | '*', '*' => some .power
  | '!', '=' => some .notEq
  | '=', '=' => some .eq
  | '<', '=' => some .ltEq
  | '>', '=' => some .gtEq
  | '&', '&' => some .and
  | '|', '|' => some .or
  | _, _ => none

def single? : Char → Option TokenKind
  | '(' => some .lparen
  | ')' => some .rparen
  | '[' => some .lbracket
  | ']' => some .rbracket
  | '{' => some .lbrace
  | '}' => some .rbrace
  | ',' => some .comma
  | '.' => some .period
  | '+' => some .plus
  | '-' => some .minus
  | '*' => some .asterisk
  | '/' => some .slash
  | '%' => some .percent
  | '!' => some .bang
  | '<' => some .lt
  | '>' => some .gt
  | _ => none

/-- Kind and length of the longest symbol that starts with c. -/
def symbol? (c : Char) (cs : List Char) : Option (TokenKind × Nat) :=
  match cs.head?.bind (double? c) with
  | some kind => some (kind, 2)
  | none => (single? c).map (·, 1)

/-- Keywords are recognised in any mix of upper and lower case. -/
def keywords : List (List Char × TokenKind) :=
  [("true".toList, .true), ("false".toList, .false), ("nil".toList, .nil),
   ("and".toList, .and), ("or".toList, .or), ("not".toList, .bang)]

def wordKind (cs : List Char) : TokenKind :=
  (keywords.lookup (cs.map Char.toLower)).getD .ident

def startsWord (c : Char) : Bool := c.isAlpha || c == '_'

def inWord (c : Char) : Bool := c.isAlphanum || c == '_'

/-- The characters before the closing quote. A quote right after a backslash does not close. -/
def quoted? (quote before : Char) : List Char → Option (List Char)
  | [] => none
  | c :: cs =>
      if c == quote && before != '\\' then some []
      else (quoted? quote c cs).map (c :: ·)

structure Lexeme where
  chars : List Char
  found : Except ScanError Token

def Lexeme.token (kind : TokenKind) (chars : List Char) (position : Nat)
    (literal : Option Literal) : Lexeme :=
  ⟨chars, .ok ⟨kind, String.ofList chars, position, literal⟩⟩

def readString (position : Nat) (quote : Char) (cs : List Char) : Lexeme :=
  match quoted? quote quote cs with
  | some body =>
      .token .string (quote :: body ++ [quote]) position (some (.string (String.ofList body)))
  | none => ⟨quote :: cs, .error (.unterminatedString position)⟩

def readNumber (position : Nat) (cs : List Char) : Lexeme :=
  let whole := cs.takeWhile Char.isDigit
  match cs.dropWhile Char.isDigit with
  | '.' :: ds =>
      let fraction := ds.takeWhile Char.isDigit
      .token .float (whole ++ '.' :: fraction) position (some (.float (readFloat whole fraction)))
  | _ =>
      if digitsValue whole < integerLimit then
        .token .integer whole position (some (.integer (Int64.ofNat (digitsValue whole))))
      else ⟨whole, .error (.invalidNumber (String.ofList whole) position)⟩

def readWord (position : Nat) (cs : List Char) : Lexeme :=
  let word := cs.takeWhile inWord
  .token (wordKind word) word position none

def readLexeme (position : Nat) (c : Char) (cs : List Char) : Lexeme :=
  match symbol? c cs with
  | some (kind, n) => .token kind ((c :: cs).take n) position none
  | none =>
      if c == '"' || c == '\'' then readString position c cs
      else if c.isDigit then readNumber position (c :: cs)
      else if startsWord c then readWord position (c :: cs)
      else ⟨[c], .error (.unexpectedCharacter c position)⟩

def Cursor.next (cur : Cursor) : Except ScanError Token × Cursor :=
  match skip cur.position cur.rest with
  | ⟨p, []⟩ => (.ok (endToken p), ⟨p, []⟩)
  | ⟨p, c :: cs⟩ =>
      let l := readLexeme p c cs
      (l.found, ⟨p + l.chars.length, (c :: cs).drop l.chars.length⟩)

theorem skip_rest_le (p : Nat) (cs : List Char) : (skip p cs).rest.length ≤ cs.length := by
  induction cs generalizing p with
  | nil => simp [skip]
  | cons c cs ih =>
    simp only [skip]
    split
    · have := ih (p + 1)
      simp only [List.length_cons]
      omega
    · simp

theorem readLexeme_pos (p : Nat) (c : Char) (cs : List Char) :
    0 < (readLexeme p c cs).chars.length := by
  unfold readLexeme
  split
  · rename_i kind n h
    have : 0 < n := by
      unfold symbol? at h
      split at h
      · simp_all; omega
      · cases hs : single? c <;> simp_all; omega
    simp [Lexeme.token]
    omega
  · split
    · unfold readString
      split <;> simp [Lexeme.token]
    · split
      · rename_i digit
        unfold readNumber
        simp only [List.takeWhile_cons_of_pos digit]
        split
        · simp [Lexeme.token]
        · split <;> simp [Lexeme.token]
      · split
        · rename_i word
          have : inWord c = true := by
            simp only [startsWord, inWord, Char.isAlphanum, Bool.or_eq_true] at word ⊢
            rcases word with a | u
            · exact .inl (.inl a)
            · exact .inr u
          simp [readWord, Lexeme.token, List.takeWhile_cons_of_pos this]
        · simp

theorem next_rest_lt {cur cur' : Cursor} {t : Token} (h : cur.next = (.ok t, cur'))
    (more : t.kind ≠ .eof) : cur'.rest.length < cur.rest.length := by
  have shorter := skip_rest_le cur.position cur.rest
  unfold Cursor.next at h
  split at h
  · simp only [Prod.mk.injEq, Except.ok.injEq] at h
    exact absurd (h.1 ▸ rfl) more
  · rename_i p c cs eq
    rw [eq] at shorter
    have := readLexeme_pos p c cs
    simp only [Prod.mk.injEq] at h
    rw [← h.2]
    simp only [List.length_drop, List.length_cons] at shorter ⊢
    omega

/-- All tokens up to and with the end token, or the first error. -/
def Cursor.tokens (cur : Cursor) : Except ScanError (List Token) :=
  match h : cur.next with
  | (.error e, _) => .error e
  | (.ok t, cur') =>
      if more : t.kind ≠ .eof then
        have := next_rest_lt h more
        cur'.tokens.map (t :: ·)
      else .ok [t]
termination_by cur.rest.length

def Cursor.start (source : String) : Cursor := ⟨0, source.toList⟩

def scan (source : String) : Except ScanError (List Token) := (Cursor.start source).tokens

def Cursor.readings : Nat → Cursor → List (Except ScanError Token)
  | 0, _ => []
  | n + 1, cur => cur.next.1 :: cur.next.2.readings n

end ScopedFormula
