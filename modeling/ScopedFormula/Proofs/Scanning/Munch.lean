import Mathlib.Data.Nat.Digits.Defs
import ScopedFormula.Proofs.Scanning.Lossless

/- Each token of a text is the longest that can be read where it stands, and its lexeme by itself
   gives that token again. -/
namespace ScopedFormula

variable {p : Nat} {c : Char} {cs v w rest : List Char} {kind : TokenKind}
  {literal : Option Literal} {ts us : List Token} {t u : Token}

def decimalValue (cs : List Char) : Nat :=
  Nat.ofDigits 10 (cs.reverse.map fun c => c.toNat - '0'.toNat)

theorem digitsValue_eq (cs : List Char) : digitsValue cs = decimalValue cs := by
  induction cs using List.reverseRecOn with
  | nil => rfl
  | append_singleton cs c ih =>
    rw [digitsValue_snoc, ih, decimalValue, decimalValue, List.reverse_append]
    simp only [List.reverse_singleton, List.singleton_append, List.map_cons, Nat.ofDigits_cons]
    omega

theorem reading_string (h : Reading c v rest kind literal) (text : kind = .string) :
    ∃ body, v = body ++ [c] ∧ literal = some (.string (String.ofList body)) := by
  cases literal with
  | none => exact absurd (reading_plain h) (by simp [text, apartKinds])
  | some value =>
    cases h with
    | string quote inside => exact ⟨_, rfl, rfl⟩
    | integer digits ends fits => contradiction
    | float before after ends => contradiction

theorem reading_integer (h : Reading c v rest kind literal) (number : kind = .integer) :
    (∀ d ∈ c :: v, d.isDigit) ∧ digitsValue (c :: v) < 2 ^ 63 ∧
      literal = some (.integer (Int64.ofNat (digitsValue (c :: v)))) := by
  cases literal with
  | none => exact absurd (reading_plain h) (by simp [number, apartKinds])
  | some value =>
    cases h with
    | string quote inside => contradiction
    | integer digits ends fits => exact ⟨digits, fits, rfl⟩
    | float before after ends => contradiction

theorem tiles_alone (h : Reading c v rest kind literal) : Tiles 0 (c :: v)
    [⟨kind, String.ofList (c :: v), 0, literal⟩, endToken (c :: v).length] := by
  have alone : Reading c v [] kind literal := reading_cut h (by simp [Cut])
  have none : ∀ rest, Dropped [] rest := fun _ => trivial
  have tiles := Tiles.token (p := 0) (none _) alone (.stop (none []))
  simpa using tiles

theorem tiles_longer (h : Reading c v rest kind literal) (starts : w <+: rest) (some : w ≠ [])
    (tiles : Tiles 0 (c :: (v ++ w)) (u :: us)) : u.lexeme = String.ofList (c :: v) := by
  have same : Reading c v w kind literal := by
    refine reading_cut h fun d mem => .inl ?_
    obtain ⟨tail, rfl⟩ := starts
    rwa [List.head?_append_of_ne_nil _ some]
  have first : Cursor.tokens ⟨0, [] ++ c :: (v ++ w)⟩ = _ := tokens_reading trivial same
  rw [List.nil_append, tokens_tiles tiles] at first
  obtain ⟨after, -, both⟩ := map_eq_ok first.symm
  exact congrArg Token.lexeme (List.cons.inj both).1

/-- A token is given by its lexeme alone, and by no longer piece of the text where it stands. A
    string is what is between its quotes, an integer the value of its digits. -/
structure Maximal (text : List Char) (t : Token) : Prop where
  alone : scan t.lexeme = .ok [{ t with position := 0 }, endToken t.lexeme.length]
  longest : ∀ w u us, w <+: text.drop t.position → t.lexeme.length < w.length →
    scan (String.ofList w) = .ok (u :: us) → u.lexeme ≠ String.ofList w
  string : t.kind = .string → ∃ first s last, t.literal = some (.string s) ∧
    t.lexeme.toList = first :: s.toList ++ [last]
  integer : t.kind = .integer → (∀ d ∈ t.lexeme.toList, d.isDigit) ∧
    decimalValue t.lexeme.toList < 2 ^ 63 ∧
    ∃ n, t.literal = some (.integer n) ∧ n.toInt = decimalValue t.lexeme.toList

theorem maximal_munch {source : String} (scanned : scan source = .ok ts) (mem : t ∈ ts)
    (more : t.kind ≠ .eof) : Maximal source.toList t := by
  rcases tiles_mem (scan_ok_iff.mp scanned) mem with rfl | ⟨before, c, v, rest, kind, literal,
    text, read, rfl⟩
  · exact absurd rfl more
  refine ⟨?_, ?_, ?_, ?_⟩
  · rw [scan_ok_iff, String.toList_ofList, String.length_ofList]
    exact tiles_alone read
  · intro w u us starts longer scanned
    rw [text, Nat.zero_add, List.drop_left, ← List.cons_append] at starts
    rw [String.length_ofList] at longer
    obtain ⟨tail, rfl⟩ := List.prefix_of_prefix_length_le (List.prefix_append (c :: v) rest) starts
      (Nat.le_of_lt longer)
    have some : tail ≠ [] := by
      rintro rfl
      simp at longer
    rw [scan_ok_iff, String.toList_ofList, List.cons_append] at scanned
    rw [tiles_longer read ((List.prefix_append_right_inj _).mp starts) some scanned]
    exact fun same => some (by simpa using congrArg String.toList same)
  · intro string
    obtain ⟨body, rfl, rfl⟩ := reading_string read string
    exact ⟨c, _, c, rfl, by simp⟩
  · intro integer
    obtain ⟨digits, fits, rfl⟩ := reading_integer read integer
    rw [digitsValue_eq] at fits
    rw [String.toList_ofList]
    refine ⟨digits, fits, _, rfl, ?_⟩
    rw [digitsValue_eq, Int64.toInt_ofNat_of_lt fits]

def quotedToken : Token := ⟨.string, "'it\\'s'", 4, some (.string "it\\'s")⟩

def quotedTokens : List Token :=
  [⟨.integer, "12", 0, some (.integer 12)⟩, ⟨.ltEq, "<=", 2, none⟩, quotedToken,
    ⟨.ident, "_", 11, none⟩, endToken 12]

theorem maximal_munch_quoted : scan "12<='it\\'s'_" = .ok quotedTokens ∧
    quotedToken ∈ quotedTokens ∧ quotedToken.kind ≠ .eof ∧
    Maximal "12<='it\\'s'_".toList quotedToken := by
  have scanned : scan "12<='it\\'s'_" = .ok quotedTokens := by cbv
  have mem : quotedToken ∈ quotedTokens := by simp [quotedTokens]
  exact ⟨scanned, mem, by decide, maximal_munch scanned mem (by decide)⟩

end ScopedFormula
