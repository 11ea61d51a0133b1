import ScopedFormula.Proofs.Lexing

/- The lexical grammar, said without the scanner: which characters make up a token or an error,
   given what follows them. Of that only the next character counts, and a blank one or none ends
   every token, so what is read does not change when a text is cut or goes on there. -/
namespace ScopedFormula

variable {p : Nat} {c d : Char} {cs v rest rest' : List Char} {kind : TokenKind}
  {literal : Option Literal} {e : Nat → ScanError}

def IsQuote (c : Char) : Prop := c = '"' ∨ c = '\''

/-- What stands between two quotes: every quote in it directly follows a backslash, and the last
    character is no backslash. -/
structure Enclosed (quote : Char) (body : List Char) : Prop where
  last : (quote :: body).getLast? ≠ some '\\'
  escaped : ∀ a b, body = a ++ quote :: b → (quote :: a).getLast? = some '\\'

def WholeEnds (rest : List Char) : Prop := ∀ d ∈ rest.head?, d.isDigit = false ∧ d ≠ '.'

def DigitsEnd (rest : List Char) : Prop := ∀ d ∈ rest.head?, d.isDigit = false

/-- The character c and those of v are one token, where the rest follows. -/
inductive Reading : Char → List Char → List Char → TokenKind → Option Literal → Prop where
  | double {c d : Char} {rest : List Char} {kind : TokenKind} (pair : double? c d = some kind) :
      Reading c [d] rest kind none
  | single {c : Char} {rest : List Char} {kind : TokenKind} (symbol : single? c = some kind)
      (alone : ∀ d ∈ rest.head?, double? c d = none) : Reading c [] rest kind none
  | string {c : Char} {body rest : List Char} (quote : IsQuote c) (inside : Enclosed c body) :
      Reading c (body ++ [c]) rest .string (some (.string (String.ofList body)))
  | integer {c : Char} {w rest : List Char} (digits : ∀ d ∈ c :: w, d.isDigit)
      (ends : WholeEnds rest) (fits : digitsValue (c :: w) < 2 ^ 63) :
      Reading c w rest .integer (some (.integer (Int64.ofNat (digitsValue (c :: w)))))
  | float {c : Char} {w f rest : List Char} (before : ∀ d ∈ c :: w, d.isDigit)
      (after : ∀ d ∈ f, d.isDigit) (ends : DigitsEnd rest) :
      Reading c (w ++ '.' :: f) rest .float (some (.float (readFloat (c :: w) f)))
  | word {c : Char} {w rest : List Char} (start : startsWord c) (word : ∀ d ∈ w, inWord d)
      (ends : WordEnds rest) : Reading c w rest (wordKind (c :: w)) none

structure Unknown (c : Char) : Prop where
  blank : isBlank c = false
  paired : isPaired c = false
  symbol : single? c = none
  quote : ¬ IsQuote c
  digit : c.isDigit = false
  word : startsWord c = false

inductive Misreading : Char → List Char → List Char → (Nat → ScanError) → Prop where
  | unexpected {c : Char} {rest : List Char} (unknown : Unknown c) :
      Misreading c [] rest (.unexpectedCharacter c)
  | number {c : Char} {w rest : List Char} (digits : ∀ d ∈ c :: w, d.isDigit)
      (ends : WholeEnds rest) (large : 2 ^ 63 ≤ digitsValue (c :: w)) :
      Misreading c w rest (.invalidNumber (String.ofList (c :: w)))
  | string {c : Char} {cs : List Char} (quote : IsQuote c) (unclosed : quoted? c c cs = none) :
      Misreading c cs [] .unterminatedString

theorem double_unknown (symbol : single? c = none) (paired : isPaired c = false) :
    double? c d = none := by
  unfold double?
  split <;> first | rfl | (revert symbol paired; decide)

theorem symbol_unknown (h : Unknown c) : symbol? c cs = none := by
  cases cs with
  | nil => simp only [symbol?, List.head?_nil, Option.bind_none, h.symbol, Option.map_none]
  | cons d ds =>
    simp only [symbol?, List.head?_cons, Option.bind_some, double_unknown h.symbol h.paired,
      h.symbol, Option.map_none]

def apartKinds : List TokenKind := [.eof, .string, .integer, .float]

theorem double_kind (pair : double? c d = some kind) : kind ∉ apartKinds ∧ isBlank c = false ∧
    isBlank d = false ∧ (isPaired c → c = d) := by
  unfold double? at pair
  split at pair <;> first | contradiction | (cases pair; decide)

theorem single_kind (symbol : single? c = some kind) :
    kind ∉ apartKinds ∧ isBlank c = false ∧ isPaired c = false := by
  unfold single? at symbol
  split at symbol <;> first | contradiction | (cases symbol; decide)

theorem word_kind (w : List Char) : wordKind w ∉ apartKinds := by
  unfold wordKind
  cases found : keywords.lookup (w.map Char.toLower) with
  | none => decide
  | some kind =>
    obtain ⟨before, after, split, -⟩ := List.lookup_eq_some_iff.mp found
    have known : kind ∈ keywords.map Prod.snd := by simp [split]
    have apart : ∀ k ∈ keywords.map Prod.snd, k ∉ apartKinds := by decide
    exact apart kind known

theorem reading_plain (h : Reading c v rest kind none) : kind ∉ apartKinds := by
  cases h with
  | double pair => exact (double_kind pair).1
  | single symbol alone => exact (single_kind symbol).1
  | word start word ends => exact word_kind _

theorem reading_more (h : Reading c v rest kind literal) : kind ≠ .eof := by
  cases literal with
  | none => exact fun same => reading_plain h (by simp [same, apartKinds])
  | some value => cases h <;> decide

theorem stands_iff : Stands c cs ↔ isBlank c = false ∧ (isPaired c → cs.head? = some c) := by
  simp [Stands]

theorem stands_quote (h : IsQuote c) : Stands c cs := by
  rcases h with rfl | rfl <;> rfl

theorem stands_of_unpaired (blank : isBlank c = false) (paired : isPaired c = false) :
    Stands c cs := by
  simp only [Stands, blank, paired, Bool.false_and, Bool.or_self]

theorem stands_reading (h : Reading c v rest kind literal) : Stands c (v ++ rest) := by
  cases h with
  | double pair =>
    obtain ⟨-, blank, -, same⟩ := double_kind pair
    exact stands_iff.mpr ⟨blank, fun paired => congrArg some (same paired).symm⟩
  | single symbol alone =>
    obtain ⟨-, blank, paired⟩ := single_kind symbol
    exact stands_of_unpaired blank paired
  | string quote inside => exact stands_quote quote
  | integer digits ends fits => exact stands_inWord (inWord_of_isDigit (digits _ (by simp)))
  | float before after ends => exact stands_inWord (inWord_of_isDigit (before _ (by simp)))
  | word start word ends => exact stands_inWord (inWord_of_startsWord start)

theorem whole_ends (ends : WholeEnds rest) : DigitsEnd rest ∧ rest.head? ≠ some '.' :=
  ⟨fun d mem => (ends d mem).1, fun point => (ends '.' point).2 rfl⟩

theorem readLexeme_reading (h : Reading c v rest kind literal) :
    readLexeme p c (v ++ rest) = .token kind (c :: v) p literal := by
  cases h with
  | double pair => exact readLexeme_double pair
  | single symbol alone => exact readLexeme_single symbol (Option.bind_eq_none_iff.mpr alone)
  | string quote inside =>
    exact readLexeme_string quote (quoted_of_body inside.last inside.escaped)
  | integer digits ends fits =>
    rw [readLexeme_digits digits (whole_ends ends).1 (whole_ends ends).2, if_pos fits]
  | float before after ends => exact readLexeme_float before after ends
  | word start word ends => exact readLexeme_word start word ends

theorem stands_misreading (h : Misreading c v rest e) : Stands c (v ++ rest) := by
  cases h with
  | unexpected unknown => exact stands_of_unpaired unknown.blank unknown.paired
  | number digits ends large => exact stands_inWord (inWord_of_isDigit (digits _ (by simp)))
  | string quote unclosed => exact stands_quote quote

theorem readLexeme_misreading (h : Misreading c v rest e) :
    readLexeme p c (v ++ rest) = ⟨c :: v, .error (e p)⟩ := by
  cases h with
  | unexpected unknown =>
    have quote : (c == '"' || c == '\'') = false := by
      simpa [IsQuote] using unknown.quote
    simp only [readLexeme, symbol_unknown unknown, quote, unknown.digit, unknown.word,
      Bool.false_eq_true, if_false]
  | number digits ends large =>
    rw [readLexeme_digits digits (whole_ends ends).1 (whole_ends ends).2, if_neg (by omega)]
  | string quote unclosed =>
    rw [List.append_nil, readLexeme_quote quote]
    simp only [readString, unclosed]

theorem quoted_split {quote before : Char} {body : List Char}
    (h : quoted? quote before cs = some body) : ∃ rest, cs = body ++ quote :: rest := by
  induction cs generalizing before body with
  | nil => simp [quoted?] at h
  | cons c cs ih =>
    simp only [quoted?] at h
    split at h
    · rename_i close
      simp only [Bool.and_eq_true, beq_iff_eq] at close
      cases h
      exact ⟨cs, by rw [close.1, List.nil_append]⟩
    · obtain ⟨tail, inside, rfl⟩ := Option.map_eq_some_iff.mp h
      obtain ⟨rest, rfl⟩ := ih inside
      exact ⟨rest, rfl⟩

def Readable (c : Char) (cs : List Char) : Prop :=
  ∃ v rest, cs = v ++ rest ∧
    ((∃ kind literal, Reading c v rest kind literal) ∨ ∃ e, Misreading c v rest e)

theorem readable_symbol {n : Nat} (symbol : symbol? c cs = some (kind, n)) : Readable c cs := by
  unfold symbol? at symbol
  split at symbol
  · rename_i double
    obtain ⟨d, head, pair⟩ := Option.bind_eq_some_iff.mp double
    obtain ⟨ds, rfl⟩ := List.head?_eq_some_iff.mp head
    exact ⟨[d], ds, rfl, .inl ⟨_, _, .double pair⟩⟩
  · rename_i alone
    obtain ⟨k, single, -⟩ := Option.map_eq_some_iff.mp symbol
    exact ⟨[], cs, rfl, .inl ⟨_, _, .single single (Option.bind_eq_none_iff.mp alone)⟩⟩

theorem readable_quote (quote : IsQuote c) : Readable c cs := by
  cases inside : quoted? c c cs with
  | none => exact ⟨cs, [], by simp, .inr ⟨_, .string quote inside⟩⟩
  | some body =>
    obtain ⟨rest, rfl⟩ := quoted_split inside
    obtain ⟨last, escaped⟩ := quoted_body inside
    exact ⟨body ++ [c], rest, by simp, .inl ⟨_, _, .string quote ⟨last, escaped⟩⟩⟩

theorem dropWhile_ends (f : Char → Bool) (cs : List Char) :
    ∀ d ∈ (cs.dropWhile f).head?, f d = false := by
  intro d mem
  have stop := List.head?_dropWhile_not f cs
  rwa [Option.mem_def.mp mem] at stop

theorem readable_digit (digit : c.isDigit) : Readable c cs := by
  have digits : ∀ d ∈ c :: cs.takeWhile Char.isDigit, d.isDigit :=
    List.forall_mem_cons.mpr ⟨digit, fun d mem => List.mem_takeWhile_imp mem⟩
  have split : cs = cs.takeWhile Char.isDigit ++ cs.dropWhile Char.isDigit :=
    List.takeWhile_append_dropWhile.symm
  have ends := dropWhile_ends Char.isDigit cs
  by_cases point : (cs.dropWhile Char.isDigit).head? = some '.'
  · obtain ⟨ds, behind⟩ := List.head?_eq_some_iff.mp point
    refine ⟨cs.takeWhile Char.isDigit ++ '.' :: ds.takeWhile Char.isDigit,
      ds.dropWhile Char.isDigit, ?_, .inl ⟨_, _, .float digits
        (fun d mem => List.mem_takeWhile_imp mem) (dropWhile_ends Char.isDigit ds)⟩⟩
    rw [List.append_assoc, List.cons_append, List.takeWhile_append_dropWhile, ← behind]
    exact split
  · have whole : WholeEnds (cs.dropWhile Char.isDigit) :=
      fun d mem => ⟨ends d mem, fun same => point (same ▸ mem)⟩
    refine ⟨_, _, split, ?_⟩
    by_cases fits : digitsValue (c :: cs.takeWhile Char.isDigit) < 2 ^ 63
    · exact .inl ⟨_, _, .integer digits whole fits⟩
    · exact .inr ⟨_, .number digits whole (by omega)⟩

theorem readable_word (start : startsWord c) : Readable c cs :=
  ⟨cs.takeWhile inWord, cs.dropWhile inWord, List.takeWhile_append_dropWhile.symm,
    .inl ⟨_, _, .word start (fun _ mem => List.mem_takeWhile_imp mem) (dropWhile_ends inWord cs)⟩⟩

theorem unknown_of_none (stands : Stands c cs) (symbol : symbol? c cs = none) (quote : ¬ IsQuote c)
    (digit : c.isDigit = false) (word : startsWord c = false) : Unknown c := by
  obtain ⟨blank, paired⟩ := stands_iff.mp stands
  have alone : cs.head?.bind (double? c) = none ∧ single? c = none := by
    unfold symbol? at symbol
    split at symbol
    · contradiction
    · exact ⟨‹_›, Option.map_eq_none_iff.mp symbol⟩
  refine ⟨blank, ?_, alone.2, quote, digit, word⟩
  by_contra pair
  rw [Bool.not_eq_false] at pair
  have none : double? c c = none := by simpa [paired pair] using alone.1
  simp only [isPaired, Bool.or_eq_true, beq_iff_eq] at pair
  rcases pair with (rfl | rfl) | rfl <;> revert none <;> decide

theorem readable_of_stands (stands : Stands c cs) : Readable c cs := by
  cases symbol : symbol? c cs with
  | some found => exact readable_symbol symbol
  | none =>
    by_cases quote : IsQuote c
    · exact readable_quote quote
    · cases digit : c.isDigit with
      | true => exact readable_digit digit
      | false =>
        cases word : startsWord c with
        | true => exact readable_word word
        | false =>
          have unknown := unknown_of_none stands symbol quote digit word
          exact ⟨[], cs, rfl, .inr ⟨_, .unexpected unknown⟩⟩

def Cut (rest rest' : List Char) : Prop := ∀ d ∈ rest'.head?, d ∈ rest.head? ∨ isBlank d

theorem cut_ends {f : Char → Prop} (cut : Cut rest rest') (ends : ∀ d ∈ rest.head?, f d)
    (blank : ∀ d, isBlank d → f d) : ∀ d ∈ rest'.head?, f d := by
  intro d mem
  rcases cut d mem with same | between
  · exact ends d same
  · exact blank d between

theorem blank_outside (blank : isBlank d) : inWord d = false := by
  by_contra word
  rw [blank_inWord (by simpa using word)] at blank
  contradiction

theorem blank_digit (blank : isBlank d) : d.isDigit = false := by
  by_contra digit
  rw [blank_inWord (inWord_of_isDigit (by simpa using digit))] at blank
  contradiction

theorem whole_ends_cut (ends : WholeEnds rest) (cut : Cut rest rest') : WholeEnds rest' := by
  refine cut_ends cut ends fun d blank => ⟨blank_digit blank, ?_⟩
  rintro rfl
  revert blank
  decide

theorem reading_cut (h : Reading c v rest kind literal) (cut : Cut rest rest') :
    Reading c v rest' kind literal := by
  cases h with
  | double pair => exact .double pair
  | single symbol alone =>
    refine .single symbol (cut_ends cut alone fun d blank => ?_)
    by_contra pair
    obtain ⟨k, pair⟩ := Option.ne_none_iff_exists'.mp pair
    rw [(double_kind pair).2.2.1] at blank
    contradiction
  | string quote inside => exact .string quote inside
  | integer digits ends fits => exact .integer digits (whole_ends_cut ends cut) fits
  | float before after ends => exact .float before after (cut_ends cut ends fun _ => blank_digit)
  | word start word ends => exact .word start word (cut_ends cut ends fun _ => blank_outside)

theorem misreading_cut (h : Misreading c v rest e) (closed : e ≠ .unterminatedString)
    (cut : Cut rest rest') : Misreading c v rest' e := by
  cases h with
  | unexpected unknown => exact .unexpected unknown
  | number digits ends large => exact .number digits (whole_ends_cut ends cut) large
  | string quote unclosed => exact absurd rfl closed

end ScopedFormula
