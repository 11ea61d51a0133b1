import ScopedFormula.Expr
import ScopedFormula.Token.Scan
import ScopedFormula.Proofs.Number.Places

/- How characters are cut into tokens: what tokens a text starts with, given what follows. -/
namespace ScopedFormula

theorem tokens_eq (cur : Cursor) : cur.tokens =
    match cur.next with
    | (.error e, _) => .error e
    | (.ok t, after) => if t.kind = .eof then .ok [t] else after.tokens.map (t :: ·) := by
  rw [Cursor.tokens]
  split <;> rename_i found
  · rw [found]
  · simp only [found, ne_eq, dite_eq_ite, ite_not]

theorem map_eq_ok {ε α β : Type} {f : α → β} {x : Except ε α} {b : β} (h : x.map f = .ok b) :
    ∃ a, x = .ok a ∧ b = f a := by
  cases x with
  | error e => contradiction
  | ok a =>
    cases h
    exact ⟨a, rfl, rfl⟩

theorem tokens_nil (p : Nat) : Cursor.tokens ⟨p, []⟩ = .ok [endToken p] := by
  rw [tokens_eq]
  rfl

def Yields (p : Nat) (w rest : List Char) (ts : List Token) : Prop :=
  Cursor.tokens ⟨p, w ++ rest⟩ = (Cursor.tokens ⟨p + w.length, rest⟩).map (ts ++ ·)

variable {p : Nat} {c d : Char} {cs v w rest : List Char} {ts us : List Token} {t : Token}

theorem yields_nil : Yields p [] rest [] := by
  rw [Yields, List.nil_append]
  cases Cursor.tokens ⟨p, rest⟩ <;> rfl

theorem yields_append (first : Yields p v (w ++ rest) ts)
    (second : Yields (p + v.length) w rest us) : Yields p (v ++ w) rest (ts ++ us) := by
  unfold Yields at *
  rw [List.append_assoc, first, second, List.length_append, ← Nat.add_assoc]
  cases Cursor.tokens ⟨p + v.length + w.length, rest⟩ with
  | error e => rfl
  | ok vs => simp [Except.map]

theorem yields_blank : Yields p [' '] rest [] := by
  have same : Cursor.next ⟨p, ' ' :: rest⟩ = Cursor.next ⟨p + 1, rest⟩ := rfl
  rw [Yields, List.singleton_append, tokens_eq, same, ← tokens_eq]
  exact yields_nil

def Stands (c : Char) (cs : List Char) : Prop :=
  (isBlank c || (isPaired c && cs.head? != some c)) = false

theorem skip_stands (stands : Stands c cs) : skip p (c :: cs) = ⟨p, c :: cs⟩ := by
  rw [skip, if_neg]
  rw [stands]
  exact Bool.false_ne_true

theorem next_of_stands (stands : Stands c cs) : Cursor.next ⟨p, c :: cs⟩ =
    ((readLexeme p c cs).found, ⟨p + (readLexeme p c cs).chars.length,
      (c :: cs).drop (readLexeme p c cs).chars.length⟩) := by
  simp only [Cursor.next, skip_stands stands]

theorem yields_lexeme {kind : TokenKind} {literal : Option Literal} (stands : Stands c (w ++ rest))
    (lexeme : readLexeme p c (w ++ rest) = .token kind (c :: w) p literal) (more : kind ≠ .eof) :
    Yields p (c :: w) rest [⟨kind, String.ofList (c :: w), p, literal⟩] := by
  have next := next_of_stands (p := p) stands
  rw [lexeme, ← List.cons_append] at next
  simp only [Lexeme.token, List.drop_left] at next
  rw [Yields, tokens_eq, next]
  simp only [more, if_false]
  rfl

theorem readLexeme_single {kind : TokenKind} (single : single? c = some kind)
    (alone : rest.head?.bind (double? c) = none) :
    readLexeme p c rest = .token kind [c] p none := by
  simp only [readLexeme, symbol?, alone, single]
  rfl

theorem readLexeme_double {kind : TokenKind} (double : double? c d = some kind) :
    readLexeme p c (d :: rest) = .token kind [c, d] p none := by
  simp only [readLexeme, symbol?, List.head?_cons, Option.bind_some, double]
  rfl

theorem yields_single {kind : TokenKind} (single : single? c = some kind)
    (alone : rest.head?.bind (double? c) = none) (stands : Stands c rest) (more : kind ≠ .eof) :
    Yields p [c] rest [⟨kind, String.ofList [c], p, none⟩] :=
  yields_lexeme stands (readLexeme_single single alone) more

theorem yields_double {kind : TokenKind} (double : double? c d = some kind)
    (stands : Stands c (d :: rest)) (more : kind ≠ .eof) :
    Yields p [c, d] rest [⟨kind, String.ofList [c, d], p, none⟩] :=
  yields_lexeme stands (readLexeme_double double) more

theorem yields_operator {kind : TokenKind} {level : Nat} (known : binaryLevel? kind = some level) :
    ∃ t, t.kind = kind ∧ t.literal = none ∧ Yields p kind.text.toList (' ' :: rest) [t] := by
  cases kind <;> simp only [binaryLevel?, reduceCtorEq] at known
  case power | and | or | eq | notEq | ltEq | gtEq =>
    exact ⟨_, rfl, rfl, yields_double rfl rfl (by decide)⟩
  all_goals exact ⟨_, rfl, rfl, yields_single rfl rfl rfl (by decide)⟩

theorem double_bang (h : d ≠ '=') : double? '!' d = none := by
  unfold double?
  split <;> first | rfl | simp_all

theorem yields_prefix {kind : TokenKind} {level : Nat} (known : prefixLevel? kind = some level)
    (apart : rest.head? ≠ some '=') :
    ∃ t, t.kind = kind ∧ t.literal = none ∧ Yields p kind.text.toList rest [t] := by
  cases kind <;> simp only [prefixLevel?, reduceCtorEq] at known
  case bang =>
    refine ⟨_, rfl, rfl, yields_single rfl ?_ rfl (by decide)⟩
    cases rest with
    | nil => rfl
    | cons d ds =>
      simp only [List.head?_cons, ne_eq, Option.some.injEq] at apart
      exact double_bang apart
  case minus =>
    refine ⟨_, rfl, rfl, yields_single rfl ?_ rfl (by decide)⟩
    cases rest <;> rfl

theorem yields_lparen : Yields p ['('] rest [⟨.lparen, "(", p, none⟩] :=
  yields_single rfl (by cases rest <;> rfl) rfl (by decide)

theorem yields_rparen : Yields p [')'] rest [⟨.rparen, ")", p, none⟩] :=
  yields_single rfl (by cases rest <;> rfl) rfl (by decide)

theorem yields_comma : Yields p [','] rest [⟨.comma, ",", p, none⟩] :=
  yields_single rfl (by cases rest <;> rfl) rfl (by decide)

theorem yields_period : Yields p ['.'] rest [⟨.period, ".", p, none⟩] :=
  yields_single rfl (by cases rest <;> rfl) rfl (by decide)

theorem single_inWord (h : inWord c) : single? c = none := by
  unfold single?
  split <;> first | rfl | (revert h; decide)

theorem double_inWord (h : inWord c) : double? c d = none := by
  unfold double?
  split <;> first | rfl | (revert h; decide)

theorem inWord_ranges (h : inWord c) : 48 ≤ c.toNat ∧ c.toNat ≤ 57 ∨
    65 ≤ c.toNat ∧ c.toNat ≤ 90 ∨ 97 ≤ c.toNat ∧ c.toNat ≤ 122 ∨ c.toNat = 95 := by
  simp only [inWord, Char.isAlphanum, Char.isAlpha, Char.isUpper, Char.isLower, Char.isDigit,
    Bool.or_eq_true, Bool.and_eq_true, decide_eq_true_eq, beq_iff_eq, ge_iff_le,
    UInt32.le_iff_toNat_le] at h
  rcases h with ((upper | lower) | digit) | rfl
  · exact .inr (.inl upper)
  · exact .inr (.inr (.inl lower))
  · exact .inl digit
  · exact .inr (.inr (.inr rfl))

theorem blank_inWord (h : inWord c) : isBlank c = false := by
  have ranges := inWord_ranges h
  generalize value : isBlank c = b
  cases b with
  | false => rfl
  | true =>
    simp only [isBlank, Bool.or_eq_true, Bool.and_eq_true, decide_eq_true_eq, beq_iff_eq] at value
    omega

theorem stands_inWord (h : inWord c) : Stands c cs := by
  have paired : isPaired c = false := by
    by_contra some
    simp only [isPaired, Bool.not_eq_false, Bool.or_eq_true, beq_iff_eq] at some
    rcases some with (rfl | rfl) | rfl <;> revert h <;> decide
  simp only [Stands, blank_inWord h, paired, Bool.false_and, Bool.or_self]

theorem symbol_inWord (h : inWord c) : symbol? c cs = none := by
  cases cs with
  | nil => simp only [symbol?, List.head?_nil, Option.bind_none, single_inWord h, Option.map_none]
  | cons d ds =>
    simp only [symbol?, List.head?_cons, Option.bind_some, double_inWord h, single_inWord h,
      Option.map_none]

theorem inWord_of_startsWord (h : startsWord c) : inWord c := by
  simp only [startsWord, inWord, Char.isAlphanum, Bool.or_eq_true] at h ⊢
  rcases h with alpha | under
  · exact .inl (.inl alpha)
  · exact .inr under

theorem inWord_of_isDigit (h : c.isDigit) : inWord c := by
  simp only [inWord, Char.isAlphanum, Bool.or_eq_true]
  exact .inl (.inr h)

theorem not_digit_of_startsWord (h : startsWord c) : c.isDigit = false := by
  generalize value : c.isDigit = b
  cases b with
  | false => rfl
  | true =>
    simp only [startsWord, Char.isAlpha, Char.isUpper, Char.isLower, Char.isDigit, Bool.or_eq_true,
      Bool.and_eq_true, decide_eq_true_eq, beq_iff_eq, ge_iff_le, UInt32.le_iff_toNat_le]
      at h value
    rcases h with (upper | lower) | rfl
    · have : (65 : Nat) ≤ c.val.toNat := upper.1
      have : c.val.toNat ≤ (57 : Nat) := value.2
      omega
    · have : (97 : Nat) ≤ c.val.toNat := lower.1
      have : c.val.toNat ≤ (57 : Nat) := value.2
      omega
    · exact absurd value (by decide)

structure IsName (n : String) : Prop where
  start : ∃ c cs, n.toList = c :: cs ∧ startsWord c
  word : ∀ c ∈ n.toList, inWord c
  plain : wordKind n.toList = .ident

def WordEnds (rest : List Char) : Prop := ∀ c ∈ rest.head?, inWord c = false

theorem digits_end (ends : WordEnds rest) : ∀ c ∈ rest.head?, c.isDigit = false := by
  intro c mem
  by_contra digit
  have := inWord_of_isDigit (by simpa using digit)
  rw [ends c mem] at this
  contradiction

theorem takeWhile_ends {f : Char → Bool} (all : ∀ c ∈ w, f c)
    (ends : ∀ c ∈ rest.head?, f c = false) :
    (w ++ rest).takeWhile f = w ∧ (w ++ rest).dropWhile f = rest := by
  rw [List.takeWhile_append_of_pos all, List.dropWhile_append_of_pos all]
  cases rest with
  | nil => simp
  | cons c cs =>
    have stop : f c = false := ends c rfl
    simp [stop]

theorem readLexeme_word (start : startsWord c) (word : ∀ d ∈ w, inWord d) (ends : WordEnds rest) :
    readLexeme p c (w ++ rest) = .token (wordKind (c :: w)) (c :: w) p none := by
  have first := inWord_of_startsWord start
  have taken := (takeWhile_ends (w := c :: w) (f := inWord) (by simpa using ⟨first, word⟩) ends).1
  have quote : (c == '"' || c == '\'') = false := by
    simp only [Bool.or_eq_false_iff, beq_eq_false_iff_ne]
    constructor <;> rintro rfl <;> revert first <;> decide
  rw [List.cons_append] at taken
  simp only [readLexeme, symbol_inWord first, quote, not_digit_of_startsWord start, start,
    readWord, taken, Lexeme.token, Bool.false_eq_true, if_false, if_true]

theorem yields_word (start : startsWord c) (word : ∀ d ∈ w, inWord d) (ends : WordEnds rest)
    (more : wordKind (c :: w) ≠ .eof) :
    Yields p (c :: w) rest [⟨wordKind (c :: w), String.ofList (c :: w), p, none⟩] :=
  yields_lexeme (stands_inWord (inWord_of_startsWord start)) (readLexeme_word start word ends) more

theorem yields_name {n : String} (h : IsName n) (ends : WordEnds rest) :
    ∃ t, t.kind = .ident ∧ t.lexeme = n ∧ t.literal = none ∧ Yields p n.toList rest [t] := by
  obtain ⟨c, cs, chars, start⟩ := h.start
  have plain := h.plain
  have word := h.word
  rw [chars] at plain word
  rw [chars]
  refine ⟨_, ?_, ?_, rfl, yields_word start (fun d mem => word d (by simp [mem])) ends ?_⟩
  · exact plain
  · rw [← chars, String.ofList_toList]
  · rw [plain]
    decide

theorem readLexeme_digit (digit : c.isDigit) :
    readLexeme p c cs = readNumber p (c :: cs) := by
  have first := inWord_of_isDigit digit
  have quote : (c == '"' || c == '\'') = false := by
    simp only [Bool.or_eq_false_iff, beq_eq_false_iff_ne]
    constructor <;> rintro rfl <;> revert digit <;> decide
  simp only [readLexeme, symbol_inWord first, quote, digit, Bool.false_eq_true, if_false, if_true]

theorem readLexeme_digits (digits : ∀ d ∈ c :: w, d.isDigit)
    (ends : ∀ d ∈ rest.head?, d.isDigit = false) (whole : rest.head? ≠ some '.') :
    readLexeme p c (w ++ rest) =
      if digitsValue (c :: w) < 2 ^ 63 then
        .token .integer (c :: w) p (some (.integer (Int64.ofNat (digitsValue (c :: w)))))
      else ⟨c :: w, .error (.invalidNumber (String.ofList (c :: w)) p)⟩ := by
  obtain ⟨taken, dropped⟩ := takeWhile_ends digits ends
  rw [readLexeme_digit (digits c (by simp))]
  simp only [← List.cons_append, readNumber, taken, dropped]
  split
  · simp at whole
  · rfl

theorem readLexeme_float {f : List Char} (before : ∀ d ∈ c :: w, d.isDigit)
    (after : ∀ d ∈ f, d.isDigit) (ends : ∀ d ∈ rest.head?, d.isDigit = false) :
    readLexeme p c ((w ++ '.' :: f) ++ rest) =
      .token .float (c :: (w ++ '.' :: f)) p (some (.float (readFloat (c :: w) f))) := by
  obtain ⟨taken, dropped⟩ := takeWhile_ends before
    (show ∀ d ∈ ('.' :: (f ++ rest)).head?, d.isDigit = false by simp)
  have fraction := (takeWhile_ends after ends).1
  rw [List.cons_append] at taken dropped
  rw [List.append_assoc, List.cons_append, readLexeme_digit (before c (by simp))]
  simp only [readNumber, taken, dropped, fraction]
  rfl

theorem yields_integer {k : Nat} (fits : k < 2 ^ 63) (ends : WordEnds rest)
    (whole : rest.head? ≠ some '.') : ∃ t, t.kind = .integer ∧
      t.literal = some (.integer (Int64.ofNat k)) ∧ Yields p (Nat.toDigits 10 k) rest [t] := by
  have digits : ∀ c ∈ Nat.toDigits 10 k, c.isDigit :=
    fun c mem => Nat.isDigit_of_mem_toDigits (b := 10) (by norm_num) (by norm_num) mem
  have value := digitsValue_toDigits k
  obtain ⟨c, cs, chars⟩ := List.exists_cons_of_ne_nil (Nat.toDigits_ne_nil (b := 10) (n := k))
  rw [chars] at digits value ⊢
  have first : c.isDigit := digits c (by simp)
  have lexeme := readLexeme_digits (p := p) digits (digits_end ends) whole
  rw [value, if_pos fits] at lexeme
  exact ⟨_, rfl, rfl, yields_lexeme (stands_inWord (inWord_of_isDigit first)) lexeme (by decide)⟩

theorem yields_float {f : List Char} (present : w ≠ []) (before : ∀ c ∈ w, c.isDigit)
    (after : ∀ c ∈ f, c.isDigit) (ends : ∀ c ∈ rest.head?, c.isDigit = false) :
    ∃ t, t.kind = .float ∧ t.literal = some (.float (readFloat w f)) ∧
      Yields p (w ++ '.' :: f) rest [t] := by
  obtain ⟨c, cs, rfl⟩ := List.exists_cons_of_ne_nil present
  exact ⟨_, rfl, rfl, yields_lexeme (stands_inWord (inWord_of_isDigit (before c (by simp))))
    (readLexeme_float before after ends) (by decide)⟩

theorem quoted_body {quote before : Char} {body : List Char}
    (h : quoted? quote before cs = some body) : (before :: body).getLast? ≠ some '\\' ∧
      ∀ a b, body = a ++ quote :: b → (before :: a).getLast? = some '\\' := by
  induction cs generalizing before body with
  | nil => simp [quoted?] at h
  | cons c cs ih =>
    simp only [quoted?] at h
    split at h
    · rename_i close
      simp only [Bool.and_eq_true, bne_iff_ne] at close
      cases h
      exact ⟨by simpa using close.2, by simp⟩
    · rename_i close
      obtain ⟨tail, inside, rfl⟩ := Option.map_eq_some_iff.mp h
      obtain ⟨last, escaped⟩ := ih inside
      refine ⟨by rwa [List.getLast?_cons_cons], ?_⟩
      intro a b split
      cases a with
      | nil =>
        obtain ⟨rfl, -⟩ := List.cons.inj split
        simpa using close
      | cons d a =>
        obtain ⟨rfl, after⟩ := List.cons.inj split
        rw [List.getLast?_cons_cons]
        exact escaped a b after

theorem quoted_of_body {quote before : Char} {body : List Char}
    (last : (before :: body).getLast? ≠ some '\\')
    (escaped : ∀ a b, body = a ++ quote :: b → (before :: a).getLast? = some '\\') :
    quoted? quote before (body ++ quote :: cs) = some body := by
  induction body generalizing before with
  | nil =>
    have plain : before ≠ '\\' := by simpa using last
    simp [quoted?, plain]
  | cons c body ih =>
    rw [List.getLast?_cons_cons] at last
    have after := ih last fun a b split => by
      have := escaped (c :: a) b (by rw [split, List.cons_append])
      rwa [List.getLast?_cons_cons] at this
    have inner : ¬ (c == quote && before != '\\') = true := by
      intro close
      simp only [Bool.and_eq_true, beq_iff_eq, bne_iff_ne] at close
      have := escaped [] body (by rw [close.1, List.nil_append])
      simp only [List.getLast?_singleton, Option.some.injEq] at this
      exact close.2 this
    rw [List.cons_append, quoted?, if_neg inner, after, Option.map_some]

/-- Every double quote directly follows a backslash. -/
def QuotesEscaped (s : String) : Prop :=
  ∀ before after, s.toList = before ++ '"' :: after → before.getLast? = some '\\'

theorem quotesEscaped_of_none {s : String} (none : '"' ∉ s.toList) : QuotesEscaped s := by
  intro before after split
  exact absurd (by simp [split]) none

theorem readLexeme_quote (h : c = '"' ∨ c = '\'') : readLexeme p c cs = readString p c cs := by
  rcases h with rfl | rfl <;> cases cs <;> rfl

theorem readLexeme_string {quote : Char} {body : List Char} (h : quote = '"' ∨ quote = '\'')
    (inside : quoted? quote quote (body ++ quote :: rest) = some body) :
    readLexeme p quote ((body ++ [quote]) ++ rest) =
      .token .string (quote :: (body ++ [quote])) p (some (.string (String.ofList body))) := by
  rw [List.append_assoc, List.singleton_append, readLexeme_quote h]
  simp only [readString, inside, List.cons_append]

theorem quote_getLast {cs : List Char} :
    ('"' :: cs).getLast? = some '\\' ↔ cs.getLast? = some '\\' := by
  cases cs with
  | nil => simp
  | cons c cs => rw [List.getLast?_cons_cons]

theorem yields_string {s : String} (escaped : QuotesEscaped s)
    (closed : s.toList.getLast? ≠ some '\\') : ∃ t, t.kind = .string ∧
      t.literal = some (.string s) ∧ Yields p ('"' :: s.toList ++ ['"']) rest [t] := by
  have body : quoted? '"' '"' (s.toList ++ '"' :: rest) = some s.toList :=
    quoted_of_body (fun h => closed (quote_getLast.mp h))
      fun a b split => quote_getLast.mpr (escaped a b split)
  have lexeme := readLexeme_string (p := p) (.inl rfl) body
  rw [String.ofList_toList] at lexeme
  exact ⟨_, rfl, rfl, yields_lexeme rfl lexeme (by decide)⟩

theorem tokens_unescaped {s : String} (h : ¬ QuotesEscaped s)
    (scanned : Cursor.tokens ⟨p, '"' :: (s.toList ++ rest)⟩ = .ok ts) :
    ∃ t us, ts = t :: us ∧ t.literal ≠ some (.string s) := by
  have stands : Stands '"' (s.toList ++ rest) := rfl
  have next := next_of_stands (p := p) stands
  rw [tokens_eq, next, readLexeme_quote (.inl rfl), readString] at scanned
  cases inner : quoted? '"' '"' (s.toList ++ rest) with
  | none => simp [inner] at scanned
  | some body =>
    obtain ⟨-, escaped⟩ := quoted_body inner
    simp only [inner, Lexeme.token, reduceCtorEq, if_false] at scanned
    obtain ⟨us, -, rfl⟩ := map_eq_ok scanned
    refine ⟨_, us, rfl, ?_⟩
    intro same
    simp only [Option.some.injEq, Literal.string.injEq] at same
    subst s
    refine h fun a b split => quote_getLast.mp (escaped a b ?_)
    rw [← split, String.toList_ofList]

theorem yields_owner {n : String} {k : Nat} (h : IsName n) (ends : WordEnds rest) : ∃ t u,
    t.kind = .float ∧ u.kind = .ident ∧
      Yields p (Nat.toDigits 10 k ++ '.' :: n.toList) rest [t, u] := by
  have digits : ∀ c ∈ Nat.toDigits 10 k, c.isDigit :=
    fun c mem => Nat.isDigit_of_mem_toDigits (b := 10) (by norm_num) (by norm_num) mem
  have stop : ∀ c ∈ (n.toList ++ rest).head?, c.isDigit = false := by
    obtain ⟨c, cs, chars, start⟩ := h.start
    intro d mem
    rw [chars] at mem
    cases mem
    exact not_digit_of_startsWord start
  obtain ⟨t, float, -, first⟩ := yields_float (p := p) (f := []) Nat.toDigits_ne_nil digits
    (by simp) stop
  obtain ⟨u, ident, -, -, second⟩ :=
    yields_name (p := p + (Nat.toDigits 10 k ++ ['.']).length) h ends
  refine ⟨t, u, float, ident, ?_⟩
  have both := yields_append first second
  rwa [List.append_assoc, List.singleton_append] at both

end ScopedFormula
