import ScopedFormula.Proofs.Scanning.Tiling

/- Nothing of a text is lost in its tokens: each lexeme stands where its token says, in order and
   without overlap, and between them there are only blanks and single =, & and |. -/
namespace ScopedFormula

variable {p i : Nat} {c : Char} {cs gap rest : List Char} {ts : List Token} {t : Token}

def Outside (ts : List Token) (i : Nat) : Prop := ∀ t ∈ ts, i < t.position ∨ t.stop ≤ i

/-- The tokens and what is between them make up the text. -/
structure Lossless (text : List Char) (ts : List Token) : Prop where
  lexeme : ∀ t ∈ ts, t.stop ≤ text.length ∧
    (text.drop t.position).take t.lexeme.length = t.lexeme.toList
  ordered : ts.Pairwise fun t u => t.position < u.position ∧ t.stop ≤ u.position
  ended : ∃ us, ts = us ++ [endToken text.length] ∧ ∀ t ∈ us, t.kind ≠ .eof
  between : ∀ i c, text[i]? = some c → Outside ts i → isBlank c ∨ c ∈ ['=', '&', '|']
  undoubled : ∀ i c, text[i]? = some c → text[i + 1]? = some c → Outside ts i →
    Outside ts (i + 1) → c ∉ ['=', '&', '|']

theorem tiles_mem (h : Tiles p cs ts) (mem : t ∈ ts) : t = endToken (p + cs.length) ∨
    ∃ before c v rest kind literal, cs = before ++ c :: (v ++ rest) ∧
      Reading c v rest kind literal ∧
      t = ⟨kind, String.ofList (c :: v), p + before.length, literal⟩ := by
  induction h with
  | stop dropped => exact .inl (List.mem_singleton.mp mem)
  | @token p c gap v rest kind literal ts dropped read after ih =>
    rcases List.mem_cons.mp mem with rfl | later
    · exact .inr ⟨gap, c, v, rest, kind, literal, rfl, read, rfl⟩
    · rcases ih later with rfl | ⟨before, d, w, tail, k, l, rfl, other, rfl⟩
      · exact .inl (by rw [tile_length])
      · refine .inr ⟨gap ++ c :: (v ++ before), d, w, tail, k, l, by simp, other, ?_⟩
        congr 1
        simp only [List.length_append, List.length_cons]
        omega

theorem tiles_bounds (h : Tiles p cs ts) (mem : t ∈ ts) :
    p ≤ t.position ∧ t.stop ≤ p + cs.length := by
  rcases tiles_mem h mem with rfl | ⟨before, c, v, rest, kind, literal, rfl, -, rfl⟩
  · simp [endToken, Token.stop]
  · simp only [Token.stop, String.length_ofList, List.length_append, List.length_cons]
    omega

theorem tiles_lexeme (h : Tiles 0 cs ts) (mem : t ∈ ts) :
    (cs.drop t.position).take t.lexeme.length = t.lexeme.toList := by
  rcases tiles_mem h mem with rfl | ⟨before, c, v, rest, kind, literal, rfl, -, rfl⟩
  · simp [endToken]
  · rw [Nat.zero_add, List.drop_left, String.length_ofList, String.toList_ofList,
      ← List.cons_append, List.take_left]

theorem tiles_ordered (h : Tiles p cs ts) :
    ts.Pairwise fun t u => t.position < u.position ∧ t.stop ≤ u.position := by
  induction h with
  | stop dropped => simp
  | token dropped read after ih =>
    refine List.pairwise_cons.mpr ⟨fun u mem => ?_, ih⟩
    have behind := (tiles_bounds after mem).1
    simp only [Token.stop, String.length_ofList, List.length_cons] at behind ⊢
    omega

theorem tiles_ended (h : Tiles p cs ts) :
    ∃ us, ts = us ++ [endToken (p + cs.length)] ∧ ∀ t ∈ us, t.kind ≠ .eof := by
  induction h with
  | stop dropped => exact ⟨[], rfl, by simp⟩
  | @token p c gap v rest kind literal ts dropped read after ih =>
    obtain ⟨us, rfl, more⟩ := ih
    refine ⟨⟨kind, String.ofList (c :: v), p + gap.length, literal⟩ :: us, ?_,
      List.forall_mem_cons.mpr ⟨reading_more read, more⟩⟩
    rw [List.cons_append, tile_length]

theorem dropped_away (dropped : Dropped gap rest) (found : gap[i]? = some c) :
    ¬ Stands c (gap.drop (i + 1) ++ rest) := by
  induction gap generalizing i with
  | nil => simp at found
  | cons d gap ih =>
    obtain ⟨away, others⟩ := dropped
    cases i with
    | zero =>
      cases found
      exact away
    | succ i => exact ih others found

theorem outside_away (h : Tiles p cs ts) (outside : Outside ts (p + i))
    (found : cs[i]? = some c) : ¬ Stands c (cs.drop (i + 1)) := by
  induction h generalizing i with
  | stop dropped =>
    have away := dropped_away dropped found
    rwa [List.append_nil] at away
  | @token p d gap v rest kind literal ts dropped read after ih =>
    obtain ⟨apart, others⟩ := List.forall_mem_cons.mp outside
    simp only [Token.stop, String.length_ofList, List.length_cons] at apart
    by_cases early : i < gap.length
    · rw [List.getElem?_append_left early] at found
      rw [List.drop_append_of_le_length early]
      exact dropped_away dropped found
    · obtain ⟨j, rfl⟩ : ∃ j, i = gap.length + (v.length + 1) + j :=
        ⟨i - (gap.length + (v.length + 1)), by omega⟩
      have split : gap ++ d :: (v ++ rest) = (gap ++ d :: v) ++ rest := by simp
      have length : gap.length + (v.length + 1) = (gap ++ d :: v).length := by simp
      have behind : Outside ts (p + gap.length + (d :: v).length + j) := by
        rw [List.length_cons, Nat.add_assoc p, Nat.add_assoc p]
        exact others
      rw [split, length, List.getElem?_append_right (Nat.le_add_right _ _),
        Nat.add_sub_cancel_left] at found
      rw [split, length, Nat.add_assoc, List.drop_length_add_append]
      exact ih behind found

theorem away_cases (away : ¬ Stands c cs) : isBlank c ∨ isPaired c ∧ cs.head? ≠ some c := by
  by_contra neither
  simp only [not_or, not_and, not_not, Bool.not_eq_true] at neither
  exact away (stands_iff.mpr neither)

theorem blank_paired (paired : isPaired c) : isBlank c = false := by
  simp only [isPaired, Bool.or_eq_true, beq_iff_eq] at paired
  rcases paired with (rfl | rfl) | rfl <;> decide

theorem paired_iff : isPaired c ↔ c ∈ ['=', '&', '|'] := by
  simp [isPaired, or_assoc]

theorem lossless_scan {source : String} (scanned : scan source = .ok ts) :
    Lossless source.toList ts := by
  have tiles := scan_ok_iff.mp scanned
  have away : ∀ {i : Nat} {c : Char}, source.toList[i]? = some c → Outside ts i →
      ¬ Stands c (source.toList.drop (i + 1)) := by
    intro i c found outside
    rw [← Nat.zero_add i] at outside
    exact outside_away tiles outside found
  refine ⟨fun t mem => ⟨?_, tiles_lexeme tiles mem⟩, tiles_ordered tiles, ?_, ?_, ?_⟩
  · simpa using (tiles_bounds tiles mem).2
  · simpa using tiles_ended tiles
  · intro i c found outside
    rcases away_cases (away found outside) with blank | ⟨paired, -⟩
    · exact .inl blank
    · exact .inr (paired_iff.mp paired)
  · intro i c found next outside _ paired
    rcases away_cases (away found outside) with blank | ⟨-, other⟩
    · rw [blank_paired (paired_iff.mpr paired)] at blank
      contradiction
    · exact other (by rw [List.head?_drop, next])

def mixedSource : String := "a = 'ü' & 15 == b"

def mixedTokens : List Token :=
  [⟨.ident, "a", 0, none⟩, ⟨.string, "'ü'", 4, some (.string "ü")⟩,
    ⟨.integer, "15", 10, some (.integer 15)⟩, ⟨.eq, "==", 13, none⟩, ⟨.ident, "b", 16, none⟩,
    endToken 17]

theorem lossless_mixed :
    scan mixedSource = .ok mixedTokens ∧ Lossless mixedSource.toList mixedTokens := by
  have scanned : scan mixedSource = .ok mixedTokens := by cbv
  exact ⟨scanned, lossless_scan scanned⟩

end ScopedFormula
