import ScopedFormula.Proofs.Scanning.Tiling

/- Texts with blanks between them are scanned one by one: the first as if it were alone, the second
   as well but for its positions. -/
namespace ScopedFormula

variable {p : Nat} {c : Char} {cs v gap rest rest' tail : List Char} {kind : TokenKind}
  {literal : Option Literal} {ts : List Token} {e : ScanError} {error : Nat → ScanError}

def Token.shift (n : Nat) (t : Token) : Token := { t with position := t.position + n }

def ScanError.shift (n : Nat) : ScanError → ScanError
  | .unexpectedCharacter c p => .unexpectedCharacter c (p + n)
  | .unterminatedString p => .unterminatedString (p + n)
  | .invalidNumber lexeme p => .invalidNumber lexeme (p + n)

theorem misreading_shift (h : Misreading c v rest error) (p n : Nat) :
    (error p).shift n = error (p + n) := by
  cases h <;> rfl

theorem tile_shift (p n : Nat) : p + gap.length + (c :: v).length + n =
    p + n + gap.length + (c :: v).length := by
  omega

theorem tile_append : gap ++ c :: (v ++ rest) ++ tail = gap ++ c :: (v ++ (rest ++ tail)) := by
  simp only [List.append_assoc, List.cons_append]

theorem tiles_shift (n : Nat) (h : Tiles p cs ts) : Tiles (p + n) cs (ts.map (·.shift n)) := by
  induction h with
  | @stop p gap dropped =>
    rw [List.map_singleton, Token.shift, endToken, Nat.add_right_comm]
    exact .stop dropped
  | @token p c gap v rest kind literal ts dropped read after ih =>
    rw [tile_shift] at ih
    rw [List.map_cons, Token.shift, Nat.add_right_comm]
    exact .token dropped read ih

theorem breaks_shift (n : Nat) (h : Breaks p cs e) : Breaks (p + n) cs (e.shift n) := by
  induction h with
  | here dropped misread =>
    rw [misreading_shift misread, Nat.add_right_comm]
    exact .here dropped misread
  | later dropped read after ih =>
    rw [tile_shift] at ih
    exact .later dropped read ih

theorem stands_cut (cut : Cut rest rest') (stands : Stands c (cs ++ rest')) :
    Stands c (cs ++ rest) := by
  obtain ⟨blank, paired⟩ := stands_iff.mp stands
  refine stands_iff.mpr ⟨blank, fun pair => ?_⟩
  cases cs with
  | cons d ds => exact paired pair
  | nil =>
    rcases cut c (paired pair) with same | between
    · exact same
    · rw [blank] at between
      contradiction

theorem dropped_cut (cut : Cut rest rest') (dropped : Dropped gap rest) : Dropped gap rest' := by
  induction gap with
  | nil => trivial
  | cons c gap ih => exact ⟨fun stands => dropped.1 (stands_cut cut stands), ih dropped.2⟩

theorem dropped_blank (blank : ∀ c ∈ gap, isBlank c) : Dropped gap rest := by
  induction gap with
  | nil => trivial
  | cons c gap ih =>
    obtain ⟨first, others⟩ := List.forall_mem_cons.mp blank
    refine ⟨fun stands => ?_, ih others⟩
    rw [(stands_iff.mp stands).1] at first
    contradiction

theorem cut_cons {ds : List Char} : Cut (c :: cs) (c :: ds) := fun _ mem => .inl mem

theorem cut_append (apart : Cut [] tail) : Cut rest (rest ++ tail) := by
  cases rest with
  | nil => exact apart
  | cons c rest => exact cut_cons

theorem tiles_yields (apart : Cut [] tail) (h : Tiles p cs ts) :
    ∃ us, ts = us ++ [endToken (p + cs.length)] ∧ Yields p cs tail us := by
  induction h with
  | stop dropped => exact ⟨[], rfl, yields_dropped (dropped_cut apart dropped)⟩
  | @token p c gap v rest kind literal ts dropped read after ih =>
    obtain ⟨us, rfl, yields⟩ := ih
    -- a gap ends before its token, so only what is behind the last one meets the new text
    have first : Yields p gap ((c :: v ++ rest) ++ tail) [] :=
      yields_dropped (dropped_cut cut_cons dropped)
    have second : Yields (p + gap.length) (c :: v) (rest ++ tail)
        [⟨kind, String.ofList (c :: v), p + gap.length, literal⟩] :=
      yields_reading (reading_cut read (cut_append apart))
    refine ⟨⟨kind, String.ofList (c :: v), p + gap.length, literal⟩ :: us, ?_,
      yields_append first (yields_append second yields)⟩
    rw [List.cons_append, tile_length]

/-- The first error of a text is its first error also where more follows behind a blank, unless a
    quote is still open. -/
theorem breaks_append (apart : Cut [] tail) (closed : ∀ q, e ≠ .unterminatedString q)
    (h : Breaks p cs e) : Breaks p (cs ++ tail) e := by
  induction h with
  | @here p c gap v rest error dropped misread =>
    have other : error ≠ .unterminatedString := by
      rintro rfl
      exact closed _ rfl
    rw [tile_append]
    exact .here (dropped_cut cut_cons dropped) (misreading_cut misread other (cut_append apart))
  | later dropped read after ih =>
    rw [tile_append]
    exact .later (dropped_cut cut_cons dropped) (reading_cut read (cut_append apart)) (ih closed)

/-- A text with a blank behind it and another text behind that: first come the tokens of the one,
    then those of the other or its error, further on. An error of the first text stays the first
    error, unless a quote is open. -/
theorem scan_compositional {a w b : String} (some : w ≠ "") (blank : ∀ c ∈ w.toList, isBlank c) :
    (∀ ta, scan a = .ok (ta ++ [endToken a.length]) →
      (∀ tb, scan b = .ok tb →
        scan (a ++ w ++ b) = .ok (ta ++ tb.map (·.shift (a ++ w).length))) ∧
      ∀ e, scan b = .error e → scan (a ++ w ++ b) = .error (e.shift (a ++ w).length)) ∧
    ∀ e, scan a = .error e → (∀ p, e ≠ .unterminatedString p) →
      scan (a ++ w ++ b) = .error e := by
  have text : (a ++ w ++ b).toList = a.toList ++ (w.toList ++ b.toList) := by simp
  have apart : Cut [] (w.toList ++ b.toList) := by
    intro d mem
    have present : w.toList ≠ [] := by simpa using some
    rw [List.head?_append_of_ne_nil _ present] at mem
    exact .inr (blank d (List.mem_of_mem_head? mem))
  constructor
  · intro ta scanned
    obtain ⟨us, same, yields⟩ := tiles_yields apart (scan_ok_iff.mp scanned)
    obtain ⟨rfl, -⟩ := List.append_inj' same rfl
    have place : 0 + a.toList.length + w.toList.length = 0 + (a ++ w).length := by
      simp [String.length_toList]
    have joined : scan (a ++ w ++ b) =
        (Cursor.tokens ⟨0 + (a ++ w).length, b.toList⟩).map (ta ++ ·) := by
      rw [scan, Cursor.start, text, yields, tokens_dropped (dropped_blank blank), place]
    constructor
    · intro tb second
      rw [joined, tokens_tiles (tiles_shift _ (scan_ok_iff.mp second))]
      rfl
    · intro e second
      rw [joined, tokens_breaks (breaks_shift _ (scan_error_iff.mp second))]
      rfl
  · intro e scanned closed
    rw [scan_error_iff, text]
    exact breaks_append apart closed (scan_error_iff.mp scanned)

theorem scan_compositional_tab :
    scan "x =" = .ok ([⟨.ident, "x", 0, none⟩] ++ [endToken 3]) ∧
    scan "='y'" = .ok [⟨.string, "'y'", 1, some (.string "y")⟩, endToken 4] ∧
    scan ("x =" ++ "\t" ++ "='y'") =
      .ok [⟨.ident, "x", 0, none⟩, ⟨.string, "'y'", 5, some (.string "y")⟩, endToken 8] ∧
    scan "'y" = .error (.unterminatedString 0) ∧
    scan ("x =" ++ "\t" ++ "'y") = .error (.unterminatedString 4) ∧
    scan "x #" = .error (.unexpectedCharacter '#' 2) ∧
    scan ("x #" ++ "\t" ++ "'y") = .error (.unexpectedCharacter '#' 2) := by
  have tab : "\t" ≠ "" := by decide
  have blank : ∀ c ∈ "\t".toList, isBlank c := by
    intro c mem
    obtain rfl : c = '\t' := by simpa using mem
    decide
  have first : scan "x =" = .ok ([⟨.ident, "x", 0, none⟩] ++ [endToken 3]) := by cbv
  have second : scan "='y'" = .ok [⟨.string, "'y'", 1, some (.string "y")⟩, endToken 4] := by cbv
  have unclosed : scan "'y" = .error (.unterminatedString 0) := by cbv
  have unknown : scan "x #" = .error (.unexpectedCharacter '#' 2) := by cbv
  exact ⟨first, second, ((scan_compositional tab blank).1 _ first).1 _ second, unclosed,
    ((scan_compositional tab blank).1 _ first).2 _ unclosed, unknown,
    (scan_compositional tab blank).2 _ unknown (by simp)⟩

end ScopedFormula
