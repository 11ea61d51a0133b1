import ScopedFormula.Proofs.Scanning.Calls
import ScopedFormula.Proofs.Scanning.Composition
import ScopedFormula.Proofs.Scanning.Munch

/- Scan errors are exact. What stands at the position of an error is wrong by itself, and the text
   in front of it has the tokens that were read; where the scanner comes to such a position it
   fails with that error. -/
namespace ScopedFormula

variable {cur cur' : Cursor} {ts us : List Token} {e : ScanError} {error : Nat → ScanError}
  {p q : Nat} {c d : Char} {cs gap v rest before : List Char} {kind : TokenKind}
  {literal : Option Literal}

def symbolChars : List Char :=
  ['(', ')', '[', ']', '{', '}', ',', '.', '+', '-', '*', '/', '%', '!', '=', '<', '>', '&', '|']

/-- What is wrong with a text, where the error says: a character of no use; a quote without a later
    one that does not directly follow a backslash; or digits, all that are there and without a
    point behind them, for a number that is too large. -/
inductive Faulty (text : List Char) : ScanError → Prop where
  | character {c : Char} {p : Nat} (here : text[p]? = some c) (blank : isBlank c = false)
      (word : inWord c = false) (quote : ¬ IsQuote c) (mark : c ∉ symbolChars) :
      Faulty text (.unexpectedCharacter c p)
  | string {quote : Char} {p : Nat} (here : text[p]? = some quote) (known : IsQuote quote)
      (escaped : ∀ i, p < i → text[i]? = some quote → text[i - 1]? = some '\\') :
      Faulty text (.unterminatedString p)
  | number {digits rest : List Char} {p : Nat} (here : text.drop p = digits ++ rest)
      (some : digits ≠ []) (all : ∀ d ∈ digits, d.isDigit) (ends : WholeEnds rest)
      (large : 2 ^ 63 ≤ decimalValue digits) :
      Faulty text (.invalidNumber (String.ofList digits) p)

/-- With the tokens read, and what is dropped behind them, the scanner stands at the position. -/
def Reaches (source : String) (ts : List Token) (p : Nat) : Prop :=
  ∃ cur, Gives (.start source) ts cur ∧ (skip cur.position cur.rest).position = p

theorem not_mem_symbolChars : c ∉ symbolChars ↔ single? c = none ∧ isPaired c = false := by
  constructor
  · intro other
    simp only [symbolChars, List.mem_cons, List.not_mem_nil, or_false, not_or] at other
    constructor
    · unfold single?
      split <;> first | rfl | tauto
    · simp [isPaired, other]
  · rintro ⟨single, paired⟩ mem
    have known : ∀ d ∈ symbolChars, single? d ≠ none ∨ isPaired d = true := by
      simp [symbolChars, single?, isPaired]
    rcases known c mem with symbol | pair
    · exact symbol single
    · exact Bool.false_ne_true (paired.symm.trans pair)

theorem inWord_iff : inWord c = false ↔ c.isDigit = false ∧ startsWord c = false := by
  simp only [inWord, startsWord, Char.isAlphanum, Bool.or_eq_false_iff]
  tauto

theorem unknown_iff : Unknown c ↔
    isBlank c = false ∧ inWord c = false ∧ ¬ IsQuote c ∧ c ∉ symbolChars := by
  rw [not_mem_symbolChars, inWord_iff]
  constructor
  · rintro ⟨blank, paired, symbol, quote, digit, word⟩
    exact ⟨blank, ⟨digit, word⟩, quote, symbol, paired⟩
  · rintro ⟨blank, ⟨digit, word⟩, quote, symbol, paired⟩
    exact ⟨blank, paired, symbol, quote, digit, word⟩

/-- A string is open if every later quote of its kind directly follows a backslash. -/
theorem quoted_none_iff {quote before : Char} : quoted? quote before cs = none ↔
    ∀ i : Nat, cs[i]? = some quote → (before :: cs)[i]? = some '\\' := by
  induction cs generalizing before with
  | nil => simp [quoted?]
  | cons c cs ih =>
    simp only [quoted?]
    split
    · rename_i close
      simp only [Bool.and_eq_true, beq_iff_eq, bne_iff_ne] at close
      obtain ⟨rfl, plain⟩ := close
      refine ⟨fun none => by contradiction, fun escaped => absurd (escaped 0 rfl) ?_⟩
      simpa using plain
    · rename_i inner
      rw [Option.map_eq_none_iff, ih]
      constructor
      · intro escaped i found
        cases i with
        | succ i => exact escaped i found
        | zero =>
          cases found
          by_contra plain
          exact inner (by simpa using plain)
      · exact fun escaped i found => escaped (i + 1) found

theorem getElem?_behind (before rest : List Char) (j : Nat) :
    (before ++ rest)[before.length + j]? = rest[j]? := by
  rw [List.getElem?_append_right (Nat.le_add_right _ _), Nat.add_sub_cancel_left]

theorem faulty_of_misreading (misread : Misreading c v rest error) (before : List Char) :
    Faulty (before ++ c :: (v ++ rest)) (error before.length) := by
  cases misread with
  | unexpected unknown =>
    obtain ⟨blank, word, quote, mark⟩ := unknown_iff.mp unknown
    exact .character (by simp) blank word quote mark
  | number digits ends large =>
    rw [digitsValue_eq] at large
    exact .number (by rw [List.drop_left, List.cons_append]) (by simp) digits ends large
  | string quote unclosed =>
    refine .string (by simp) quote fun i later found => ?_
    obtain ⟨j, rfl⟩ := Nat.exists_eq_add_of_lt later
    rw [Nat.add_assoc, getElem?_behind, List.append_nil, List.getElem?_cons_succ] at found
    rw [Nat.add_sub_cancel, getElem?_behind, List.append_nil]
    exact quoted_none_iff.mp unclosed j found

theorem misreading_of_faulty (faulty : Faulty (before ++ rest) e)
    (here : e.position = before.length) : ∃ c v rest' error,
      rest = c :: (v ++ rest') ∧ Misreading c v rest' error ∧ e = error before.length := by
  cases faulty with
  | @character c p found blank word quote mark =>
    obtain rfl : p = before.length := here
    have first : rest[0]? = some c := (getElem?_behind before rest 0).symm.trans found
    obtain ⟨cs, rfl⟩ := List.head?_eq_some_iff.mp (List.head?_eq_getElem?.trans first)
    exact ⟨c, [], cs, _, rfl, .unexpected (unknown_iff.mpr ⟨blank, word, quote, mark⟩), rfl⟩
  | @string quote p found known escaped =>
    obtain rfl : p = before.length := here
    have first : rest[0]? = some quote := (getElem?_behind before rest 0).symm.trans found
    obtain ⟨cs, rfl⟩ := List.head?_eq_some_iff.mp (List.head?_eq_getElem?.trans first)
    have unclosed : quoted? quote quote cs = none := by
      refine quoted_none_iff.mpr fun j again => ?_
      have slash := escaped (before.length + (j + 1)) (by omega)
        (by rwa [getElem?_behind, List.getElem?_cons_succ])
      rwa [← Nat.add_assoc, Nat.add_sub_cancel, getElem?_behind] at slash
    exact ⟨quote, cs, [], _, by rw [List.append_nil], .string known unclosed, rfl⟩
  | @number digits rest' p found some all ends large =>
    obtain rfl : p = before.length := here
    rw [List.drop_left] at found
    obtain ⟨c, w, rfl⟩ := List.exists_cons_of_ne_nil some
    rw [← digitsValue_eq] at large
    exact ⟨c, w, rest', _, found, .number all ends large, rfl⟩

theorem skip_split (cur : Cursor) : ∃ gap rest, cur.rest = gap ++ rest ∧ Dropped gap rest ∧
    skip cur.position cur.rest = ⟨cur.position + gap.length, rest⟩ := by
  obtain ⟨gap, rest, whole, dropped, first⟩ := exists_dropped cur.rest
  refine ⟨gap, rest, whole, dropped, ?_⟩
  rw [whole, skip_dropped dropped]
  rcases first with rfl | ⟨c, ds, rfl, stands⟩
  · rfl
  · exact skip_stands stands

/-- No two digits meet where the one text ends and the other begins. -/
def Parted (before rest : List Char) : Prop :=
  ∀ d ∈ rest.head?, d.isDigit → ∀ b ∈ before.getLast?, b.isDigit = false

theorem dropped_parted (dropped : Dropped gap rest) : Parted gap rest := by
  intro d first digit b last
  obtain ⟨i, found⟩ := List.mem_iff_getElem?.mp (List.mem_of_getLast? last)
  by_contra other
  exact dropped_away dropped found (stands_inWord (inWord_of_isDigit (by simpa using other)))

theorem reading_parted (read : Reading c v rest kind literal) : Parted (c :: v) rest := by
  intro d first digit b last
  cases read with
  | double pair =>
    cases last
    unfold double? at pair
    split at pair <;> first | contradiction | rfl
  | single symbol alone =>
    cases last
    by_contra other
    rw [single_inWord (inWord_of_isDigit (by simpa using other))] at symbol
    contradiction
  | string quote inside =>
    rw [← List.cons_append, List.getLast?_concat] at last
    cases last
    rcases quote with rfl | rfl <;> rfl
  | integer digits ends fits => exact absurd (ends d first).1 (by simp [digit])
  | float whole after ends => exact absurd (ends d first) (by simp [digit])
  | word start word ends => exact absurd (ends d first) (by simp [inWord_of_isDigit digit])

theorem gives_tiles (h : Gives cur ts cur')
    (stands : skip cur'.position cur'.rest = ⟨q, rest⟩) : ∃ before, cur.rest = before ++ rest ∧
      q = cur.position + before.length ∧ Tiles cur.position before (ts ++ [endToken q]) ∧
      Parted before rest := by
  induction h with
  | @nil cur =>
    obtain ⟨gap, tail, whole, dropped, same⟩ := skip_split cur
    rw [stands, Cursor.mk.injEq] at same
    obtain ⟨rfl, rfl⟩ := same
    refine ⟨gap, whole, rfl, ?_, dropped_parted dropped⟩
    exact .stop (dropped_cut (by simp [Cut]) dropped)
  | @cons cur mid cur' t ts next more after ih =>
    obtain ⟨before, whole, place, tiles, parted⟩ := ih stands
    have call := next_call cur
    rw [next] at call
    cases call with
    | stop dropped => exact absurd rfl more
    | @token p c gap v tail kind literal dropped read =>
      dsimp only at whole place tiles
      subst whole
      refine ⟨gap ++ c :: (v ++ before), by simp, ?_, ?_, ?_⟩
      · simp only [place, List.length_append, List.length_cons]
        omega
      · refine .token (dropped_cut cut_cons dropped) (reading_cut read ?_) tiles
        exact fun d mem => .inl (List.mem_head?_append_of_mem_head? mem)
      · cases before with
        | nil =>
          have edge := reading_parted read
          rw [List.nil_append] at edge
          intro d first digit b last
          rw [List.append_nil, List.getLast?_append_of_ne_nil _ (List.cons_ne_nil c v)] at last
          exact edge d first digit b last
        | cons b before =>
          intro d first digit a last
          rw [← List.cons_append, ← List.append_assoc,
            List.getLast?_append_of_ne_nil _ (List.cons_ne_nil b before)] at last
          exact parted d first digit a last

theorem tokens_error_gives (scanned : cur.tokens = .error e) :
    ∃ us cur' q c v rest error, Gives cur us cur' ∧ cur'.next.1 = .error e ∧
      skip cur'.position cur'.rest = ⟨q, c :: (v ++ rest)⟩ ∧ Misreading c v rest error ∧
      e = error q := by
  obtain ⟨us, cur', gives, last⟩ := exists_gives cur
  rw [tokens_gives gives] at scanned
  rcases last with last | ⟨e', last⟩
  · rcases next : cur'.next with ⟨found, behind⟩
    rw [next] at last
    obtain rfl : found = _ := last
    rw [tokens_eq, next] at scanned
    contradiction
  · obtain ⟨mid, call⟩ : ∃ mid, Call cur' (.error e') mid := ⟨_, last ▸ next_call cur'⟩
    cases call with
    | @error p c gap v rest error dropped misread =>
      rw [tokens_breaks (.here dropped misread)] at scanned
      cases scanned
      refine ⟨us, _, p + gap.length, c, v, rest, error, gives, last, ?_, misread, rfl⟩
      exact (skip_dropped dropped).trans (skip_stands (stands_misreading misread))

theorem tokens_gives_error (gives : Gives cur us cur')
    (stands : skip cur'.position cur'.rest = ⟨q, c :: (v ++ rest)⟩)
    (misread : Misreading c v rest error) : cur.tokens = .error (error q) := by
  obtain ⟨gap, tail, whole, dropped, same⟩ := skip_split cur'
  rw [stands, Cursor.mk.injEq] at same
  obtain ⟨rfl, rfl⟩ := same
  obtain ⟨p, cs⟩ := cur'
  obtain rfl : cs = gap ++ c :: (v ++ rest) := whole
  rw [tokens_gives gives, tokens_breaks (.here dropped misread)]
  rfl

/-- A scan fails where the text is faulty, behind tokens that the text up to there has as well; a
    number that is too large starts with its first digit there. Conversely the scanner fails where
    it comes to a faulty position. -/
theorem scan_error_exact (source : String) :
    (∀ e, scan source = .error e → Faulty source.toList e ∧
      Parted (source.toList.take e.position) (source.toList.drop e.position) ∧
      ∃ ts, Reaches source ts e.position ∧
        (Cursor.start source).readings (ts.length + 1) = ts.map .ok ++ [.error e] ∧
        scan (String.ofList (source.toList.take e.position)) =
          .ok (ts ++ [endToken e.position])) ∧
    ∀ ts e, Reaches source ts e.position → Faulty source.toList e → scan source = .error e := by
  constructor
  · intro e scanned
    obtain ⟨ts, cur, q, c, v, rest, error, gives, last, stands, misread, rfl⟩ :=
      tokens_error_gives scanned
    obtain ⟨before, whole, place, tiles, parted⟩ := gives_tiles gives stands
    have text : source.toList = before ++ c :: (v ++ rest) := whole
    obtain rfl : q = before.length := place.trans (Nat.zero_add _)
    rw [misreading_position misread, text, List.take_left, List.drop_left]
    refine ⟨faulty_of_misreading misread before, parted, ts, ⟨cur, gives, by rw [stands]⟩, ?_, ?_⟩
    · rw [readings_gives gives, Cursor.readings, last]
      rfl
    · rw [scan_ok_iff, String.toList_ofList]
      exact tiles
  · rintro ts e ⟨cur, gives, place⟩ faulty
    obtain ⟨gap, rest, whole, dropped, stands⟩ := skip_split cur
    rw [stands] at place
    dsimp only at place
    rw [place] at stands
    obtain ⟨before, text, start, -⟩ := gives_tiles gives stands
    have split : source.toList = before ++ rest := text
    have position : e.position = before.length := start.trans (Nat.zero_add _)
    rw [split] at faulty
    obtain ⟨c, v, rest', error, rfl, misread, same⟩ :=
      misreading_of_faulty faulty position
    rw [same, ← position]
    exact tokens_gives_error gives stands misread

theorem scan_error_exact_open :
    scan "a= \"b'c\\\"" = .error (.unterminatedString 3) ∧
    Faulty "a= \"b'c\\\"".toList (.unterminatedString 3) ∧
    scan "a= " = .ok [⟨.ident, "a", 0, none⟩, endToken 3] ∧
    Reaches "a 9223372036854775808" [⟨.ident, "a", 0, none⟩] 2 ∧
    Faulty "a 9223372036854775808".toList (.invalidNumber "9223372036854775808" 2) ∧
    scan "a 9223372036854775808" = .error (.invalidNumber "9223372036854775808" 2) := by
  have scanned : scan "a= \"b'c\\\"" = .error (.unterminatedString 3) := by cbv
  have reached : Reaches "a 9223372036854775808" [⟨.ident, "a", 0, none⟩] 2 :=
    ⟨⟨1, " 9223372036854775808".toList⟩, .cons (by cbv) (by decide) .nil, by cbv⟩
  have large : 2 ^ 63 ≤ decimalValue "9223372036854775808".toList := by
    rw [← digitsValue_eq]
    decide
  have here : "a 9223372036854775808".toList.drop 2 = "9223372036854775808".toList ++ [] := by
    cbv
  have digits : ∀ d ∈ "9223372036854775808".toList, d.isDigit := by simp
  have faulty : Faulty "a 9223372036854775808".toList (.invalidNumber "9223372036854775808" 2) :=
    .number here (by simp) digits (by simp [WholeEnds]) large
  exact ⟨scanned, ((scan_error_exact _).1 _ scanned).1, by cbv, reached, faulty,
    (scan_error_exact _).2 _ _ reached faulty⟩

end ScopedFormula
