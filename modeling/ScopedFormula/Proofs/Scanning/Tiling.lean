import ScopedFormula.Proofs.Scanning.Reading

/- How a text is cut into tokens: dropped characters, a token, dropped characters, a token, and so
   on up to the end or to the first error. Every text is cut in one of these two ways, and the
   scanner's answer is the one that the cut gives. -/
namespace ScopedFormula

variable {p n : Nat} {c : Char} {cs gap v rest : List Char} {ts : List Token} {t : Token}
  {e : ScanError}

def Dropped : List Char → List Char → Prop
  | [], _ => True
  | c :: cs, rest => ¬ Stands c (cs ++ rest) ∧ Dropped cs rest

/-- The text has these tokens, its first character being at position p. -/
inductive Tiles : Nat → List Char → List Token → Prop where
  | stop {p : Nat} {gap : List Char} (dropped : Dropped gap []) :
      Tiles p gap [endToken (p + gap.length)]
  | token {p : Nat} {c : Char} {gap v rest : List Char} {kind : TokenKind}
      {literal : Option Literal} {ts : List Token} (dropped : Dropped gap (c :: (v ++ rest)))
      (read : Reading c v rest kind literal)
      (after : Tiles (p + gap.length + (c :: v).length) rest ts) :
      Tiles p (gap ++ c :: (v ++ rest))
        (⟨kind, String.ofList (c :: v), p + gap.length, literal⟩ :: ts)

/-- The text has this error behind some tokens. -/
inductive Breaks : Nat → List Char → ScanError → Prop where
  | here {p : Nat} {c : Char} {gap v rest : List Char} {error : Nat → ScanError}
      (dropped : Dropped gap (c :: (v ++ rest))) (misread : Misreading c v rest error) :
      Breaks p (gap ++ c :: (v ++ rest)) (error (p + gap.length))
  | later {p : Nat} {c : Char} {gap v rest : List Char} {kind : TokenKind}
      {literal : Option Literal} {e : ScanError} (dropped : Dropped gap (c :: (v ++ rest)))
      (read : Reading c v rest kind literal)
      (after : Breaks (p + gap.length + (c :: v).length) rest e) :
      Breaks p (gap ++ c :: (v ++ rest)) e

theorem tile_length : p + (gap ++ c :: (v ++ rest)).length =
    p + gap.length + (c :: v).length + rest.length := by
  simp only [List.length_append, List.length_cons]
  omega

theorem skip_dropped (dropped : Dropped gap rest) :
    skip p (gap ++ rest) = skip (p + gap.length) rest := by
  induction gap generalizing p with
  | nil => rfl
  | cons c gap ih =>
    obtain ⟨out, others⟩ := dropped
    rw [Stands, Bool.not_eq_false] at out
    rw [List.cons_append, skip, if_pos out, ih others, List.length_cons]
    congr 1
    omega

theorem next_dropped (dropped : Dropped gap rest) :
    Cursor.next ⟨p, gap ++ rest⟩ = Cursor.next ⟨p + gap.length, rest⟩ := by
  simp only [Cursor.next, skip_dropped dropped]

theorem tokens_dropped (dropped : Dropped gap rest) :
    Cursor.tokens ⟨p, gap ++ rest⟩ = Cursor.tokens ⟨p + gap.length, rest⟩ := by
  rw [tokens_eq, next_dropped dropped, ← tokens_eq]

theorem yields_dropped (dropped : Dropped gap rest) : Yields p gap rest [] := by
  rw [Yields, tokens_dropped dropped]
  cases Cursor.tokens ⟨p + gap.length, rest⟩ <;> rfl

theorem yields_reading {kind : TokenKind} {literal : Option Literal}
    (read : Reading c v rest kind literal) :
    Yields p (c :: v) rest [⟨kind, String.ofList (c :: v), p, literal⟩] :=
  yields_lexeme (stands_reading read) (readLexeme_reading read) (reading_more read)

theorem exists_dropped (cs : List Char) : ∃ gap rest, cs = gap ++ rest ∧ Dropped gap rest ∧
    (rest = [] ∨ ∃ c ds, rest = c :: ds ∧ Stands c ds) := by
  induction cs with
  | nil => exact ⟨[], [], rfl, trivial, .inl rfl⟩
  | cons c cs ih =>
    by_cases stands : Stands c cs
    · exact ⟨[], c :: cs, rfl, trivial, .inr ⟨c, cs, rfl, stands⟩⟩
    · obtain ⟨gap, rest, rfl, dropped, first⟩ := ih
      exact ⟨c :: gap, rest, rfl, ⟨stands, dropped⟩, first⟩

/-- Every text is cut into tokens up to its end or up to an error. -/
theorem tiles_or_breaks (p : Nat) (cs : List Char) :
    (∃ ts, Tiles p cs ts) ∨ ∃ e, Breaks p cs e := by
  obtain ⟨n, length⟩ : ∃ n, cs.length = n := ⟨_, rfl⟩
  induction n using Nat.strong_induction_on generalizing p cs with
  | _ n ih =>
    obtain ⟨gap, _, rfl, dropped, rfl | ⟨c, ds, rfl, stands⟩⟩ := exists_dropped cs
    · rw [List.append_nil]
      exact .inl ⟨_, .stop dropped⟩
    · obtain ⟨v, rest, rfl, ⟨kind, literal, read⟩ | ⟨error, misread⟩⟩ := readable_of_stands stands
      · simp only [List.length_append, List.length_cons] at length
        rcases ih rest.length (by omega) (p + gap.length + (c :: v).length) rest rfl with
          ⟨ts, after⟩ | ⟨e, after⟩
        · exact .inl ⟨_, .token dropped read after⟩
        · exact .inr ⟨e, .later dropped read after⟩
      · exact .inr ⟨_, .here dropped misread⟩

theorem tokens_reading {kind : TokenKind} {literal : Option Literal}
    (dropped : Dropped gap (c :: (v ++ rest))) (read : Reading c v rest kind literal) :
    Cursor.tokens ⟨p, gap ++ c :: (v ++ rest)⟩ =
      (Cursor.tokens ⟨p + gap.length + (c :: v).length, rest⟩).map
        (⟨kind, String.ofList (c :: v), p + gap.length, literal⟩ :: ·) := by
  have first : Yields (p + gap.length) (c :: v) rest _ := yields_reading read
  rw [tokens_dropped dropped, ← List.cons_append, first]
  rfl

theorem tokens_tiles (h : Tiles p cs ts) : Cursor.tokens ⟨p, cs⟩ = .ok ts := by
  induction h with
  | @stop p gap dropped =>
    have none : Cursor.tokens ⟨p, gap ++ []⟩ = _ := tokens_dropped dropped
    rw [List.append_nil] at none
    rw [none, tokens_nil]
  | token dropped read after ih =>
    rw [tokens_reading dropped read, ih]
    rfl

theorem tokens_breaks (h : Breaks p cs e) : Cursor.tokens ⟨p, cs⟩ = .error e := by
  induction h with
  | here dropped misread =>
    rw [tokens_dropped dropped, tokens_eq, next_of_stands (stands_misreading misread),
      readLexeme_misreading misread]
  | later dropped read after ih =>
    rw [tokens_reading dropped read, ih]
    rfl

theorem tokens_ok_iff : Cursor.tokens ⟨p, cs⟩ = .ok ts ↔ Tiles p cs ts := by
  constructor
  · intro scanned
    rcases tiles_or_breaks p cs with ⟨us, tiles⟩ | ⟨e, breaks⟩
    · rw [tokens_tiles tiles] at scanned
      cases scanned
      exact tiles
    · rw [tokens_breaks breaks] at scanned
      contradiction
  · exact tokens_tiles

theorem tokens_error_iff : Cursor.tokens ⟨p, cs⟩ = .error e ↔ Breaks p cs e := by
  constructor
  · intro scanned
    rcases tiles_or_breaks p cs with ⟨us, tiles⟩ | ⟨d, breaks⟩
    · rw [tokens_tiles tiles] at scanned
      contradiction
    · rw [tokens_breaks breaks] at scanned
      cases scanned
      exact breaks
  · exact tokens_breaks

theorem scan_ok_iff {source : String} : scan source = .ok ts ↔ Tiles 0 source.toList ts :=
  tokens_ok_iff

theorem scan_error_iff {source : String} : scan source = .error e ↔ Breaks 0 source.toList e :=
  tokens_error_iff

end ScopedFormula
