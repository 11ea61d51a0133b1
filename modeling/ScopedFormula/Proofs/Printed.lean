import ScopedFormula.Proofs.Lexed

/- The canonical text scanned. Each node's text gives the node's own tokens in front of whatever
   follows, unless a string holds an unescaped quote or an integer owns a name. -/
namespace ScopedFormula

/-- No unescaped double quote and no integer in front of a dot. -/
structure Printable (t : Expr) : Prop where
  quotes : ∀ s, Within (.string s) t → QuotesEscaped s
  owners : ∀ n m, ¬ Within (.member (.integer n) m) t

variable {e t : Expr} {ts us : List Token} {ps qs : List Piece} {p : Nat} {v w rest : List Char}

theorem printable_iff : Printable t ↔ (∀ s, t = .string s → QuotesEscaped s) ∧
    (∀ n m, t ≠ .member (.integer n) m) ∧ ∀ c ∈ t.children, Printable c := by
  constructor
  · intro h
    refine ⟨?_, ?_, fun c child => ⟨?_, ?_⟩⟩
    · rintro s rfl
      exact h.quotes s (.here _)
    · rintro n m rfl
      exact h.owners n m (.here _)
    · exact fun s inside => h.quotes s (.down inside child)
    · exact fun n m inside => h.owners n m (.down inside child)
  · rintro ⟨quotes, owners, below⟩
    constructor
    · intro s inside
      rcases within_iff.mp inside with rfl | ⟨c, child, deeper⟩
      · exact quotes s rfl
      · exact (below c child).quotes s deeper
    · intro n m inside
      rcases within_iff.mp inside with rfl | ⟨c, child, deeper⟩
      · exact owners n m rfl
      · exact (below c child).owners n m deeper

theorem printable_leaf (leaf : t.children = []) (other : ∀ s, t ≠ .string s) : Printable t := by
  refine printable_iff.mpr ⟨fun s same => absurd same (other s), ?_, by simp [leaf]⟩
  rintro n m rfl
  simp [Expr.children] at leaf

def printedFloat (x : Float) : Expr :=
  match Binary.ofFloat? x with
  | none => .name (specialText x)
  | some b => .float (Float.ofScientific (b.places floatPlaces) true floatPlaces)

theorem leaves_printedFloat : Leaves printedFloat := by
  intro x
  unfold printedFloat
  split <;> exact ⟨rfl, rfl, rfl⟩

theorem level_of_same (same : t.bare = e.remake printedFloat) : t.level = e.level := by
  have := congrArg Expr.level same
  rwa [Expr.bare, level_remake leaves_float, level_remake leaves_printedFloat] at this

theorem bare_eq {u op : Token} (kind : u.kind = op.kind) (literal : u.literal = op.literal) :
    u.bare = op.bare := by
  simp only [Token.bare, kind, literal]

/-- The text is read as the tree, up to its operators' lexemes and what floats are printed. -/
def Rereads (p : Nat) (w rest : List Char) (e : Expr) : Prop :=
  ∃ t ts, Yields p w rest ts ∧ ts.length = e.pieces.length ∧ Spells t ts ∧
    WellLevelled t ∧ t.bare = e.remake printedFloat

/-- Some token is not the one that the pieces ask for there: a string that was cut short, or a
    float in front of a name. -/
def Stumbles (p : Nat) (w rest : List Char) (ps : List Piece) : Prop :=
  ∀ us, Cursor.tokens ⟨p, w ++ rest⟩ = .ok us → ∃ pre q post a u b, ps = pre ++ q :: post ∧
    us = a ++ u :: b ∧ a.length = pre.length ∧ ¬ q.Is u ∧
      ((∃ s, .literal (.string s) ∈ ps ∧ ¬ QuotesEscaped s) ∨
        u.kind = .float ∧ ∃ y ∈ b.head?, y.kind = .ident)

theorem stumbles_left (h : Stumbles p v (w ++ rest) ps) : Stumbles p (v ++ w) rest (ps ++ qs) := by
  intro us scanned
  rw [List.append_assoc] at scanned
  obtain ⟨pre, q, post, a, u, b, rfl, same, length, other, why⟩ := h us scanned
  refine ⟨pre, q, post ++ qs, a, u, b, by simp, same, length, other, ?_⟩
  refine why.imp (fun ⟨s, mem, plain⟩ => ⟨s, ?_, plain⟩) id
  exact List.mem_append_left _ mem

theorem stumbles_right (first : Yields p v (w ++ rest) ts) (length : ts.length = ps.length)
    (h : Stumbles (p + v.length) w rest qs) : Stumbles p (v ++ w) rest (ps ++ qs) := by
  intro us scanned
  rw [List.append_assoc, first] at scanned
  obtain ⟨vs, later, rfl⟩ := map_eq_ok scanned
  obtain ⟨pre, q, post, a, u, b, rfl, rfl, same, other, why⟩ := h vs later
  refine ⟨ps ++ pre, q, post, ts ++ a, u, b, by simp, by simp, by simp [same, length], other, ?_⟩
  refine why.imp (fun ⟨s, mem, plain⟩ => ⟨s, ?_, plain⟩) id
  exact List.mem_append_right _ mem

/-- No letter, digit or underscore may follow; a dot only what can own a name. -/
def Follows (e : Expr) (rest : List Char) : Prop :=
  ∀ c ∈ rest.head?, inWord c = false ∧ (c = '.' → postfixLevel ≤ e.level ∧ ∀ n, e ≠ .integer n)

def Prints (e : Expr) : Prop := ∀ p rest, Follows e rest →
  Printable e ∧ Rereads p e.print.toList rest e ∨
    ¬ Printable e ∧ Stumbles p e.print.toList rest e.pieces

theorem follows_plain {c : Char} {cs : List Char} (word : inWord c = false) (dot : c ≠ '.') :
    Follows e (c :: cs) := by
  intro d mem
  cases mem
  exact ⟨word, fun same => absurd same dot⟩

theorem prints_string {s : String} (closed : s.toList.getLast? ≠ some '\\') :
    Prints (.string s) := by
  intro p rest follows
  have text : (Expr.string s).print.toList = '"' :: s.toList ++ ['"'] := by simp [Expr.print]
  have printable : Printable (.string s) ↔ QuotesEscaped s := by
    rw [printable_iff]
    simp [Expr.children]
  rw [printable]
  by_cases escaped : QuotesEscaped s
  · obtain ⟨t, kind, value, yields⟩ := @yields_string p rest s escaped closed
    exact .inl ⟨escaped, .string s, [t], text ▸ yields, rfl,
      .cons ⟨kind, value⟩ .nil, .string s, rfl⟩
  · refine .inr ⟨escaped, fun us scanned => ?_⟩
    rw [text, List.cons_append, List.cons_append, List.append_assoc] at scanned
    obtain ⟨t, vs, rfl, other⟩ := tokens_unescaped escaped scanned
    exact ⟨[], .literal (.string s), [], [], t, vs, rfl, rfl, rfl, fun is => other is.2,
      .inl ⟨s, by simp [Expr.pieces], escaped⟩⟩

theorem ends_of_follows (follows : Follows e rest) : WordEnds rest :=
  fun c mem => (follows c mem).1

theorem print_integer {n : Int64} (positive : 0 ≤ n.toInt) : ∃ k, k < 2 ^ 63 ∧
    Int64.ofNat k = n ∧ (Expr.integer n).print.toList = Nat.toDigits 10 k := by
  obtain ⟨k, value⟩ := Int.eq_ofNat_of_zero_le positive
  have fits : k < 2 ^ 63 := by
    have := n.toInt_lt
    omega
  refine ⟨k, fits, ?_, ?_⟩
  · rw [← Int64.toInt_inj, Int64.toInt_ofNat_of_lt fits, value]
  · rw [Expr.print, value]
    exact Nat.toList_repr

theorem prints_integer {n : Int64} (positive : 0 ≤ n.toInt) : Prints (.integer n) := by
  intro p rest follows
  obtain ⟨k, fits, back, text⟩ := print_integer positive
  have whole : rest.head? ≠ some '.' := fun dot => ((follows '.' dot).2 rfl).2 n rfl
  obtain ⟨t, kind, literal, yields⟩ := yields_integer (p := p) fits (ends_of_follows follows) whole
  rw [back] at literal
  exact .inl ⟨printable_leaf rfl (by simp), .integer n, [t], text ▸ yields, rfl,
    .cons ⟨kind, literal⟩ .nil, .integer n, rfl⟩

theorem print_float (w f : List Char) :
    (∃ ds cs, (Expr.float (readFloat w f)).print.toList = ds ++ '.' :: cs ∧ ds ≠ [] ∧
      (∀ c ∈ ds, c.isDigit) ∧ (∀ c ∈ cs, c.isDigit) ∧
        printedFloat (readFloat w f) = .float (readFloat ds cs) ∧
          (Expr.float (readFloat ds cs)).print = (Expr.float (readFloat w f)).print) ∨
      (Expr.float (readFloat w f)).print = "inf" ∧
        printedFloat (readFloat w f) = .name "inf" := by
  rcases readFloat_measured w f with finite | ⟨infinite, text⟩
  · obtain ⟨b, ds, cs, value, text, present, whole, fraction, reads, same⟩ :=
      placesText_reads (p := floatPlaces) finite
    refine .inl ⟨ds, cs, text, present, whole, fraction, ?_, same⟩
    simp only [printedFloat, value, reads]
  · refine .inr ⟨?_, ?_⟩
    · simp only [Expr.print, placesText, infinite, text]
    · simp only [printedFloat, infinite, text]

theorem isName_inf : IsName "inf" :=
  ⟨⟨'i', ['n', 'f'], rfl, by decide⟩, List.all_eq_true.mp (by decide), by decide⟩

theorem prints_float {w f : List Char} : Prints (.float (readFloat w f)) := by
  intro p rest follows
  have ends := ends_of_follows follows
  refine .inl ⟨printable_leaf rfl (by simp), ?_⟩
  rcases print_float w f with ⟨ds, cs, text, present, whole, fraction, reads, -⟩ | ⟨text, reads⟩
  · obtain ⟨t, kind, literal, yields⟩ :=
      yields_float (p := p) present whole fraction (digits_end ends)
    exact ⟨.float (readFloat ds cs), [t], text ▸ yields, rfl, .cons ⟨kind, literal⟩ .nil,
      .float _, reads.symm⟩
  · obtain ⟨t, kind, lexeme, -, yields⟩ := yields_name (p := p) isName_inf ends
    exact ⟨.name "inf", [t], text ▸ yields, rfl, .cons ⟨kind, lexeme⟩ .nil, .name _, reads.symm⟩

theorem prints_boolean (b : Bool) : Prints (.boolean b) := by
  intro p rest follows
  have ends := ends_of_follows follows
  refine .inl ⟨printable_leaf rfl (by simp), .boolean b, ?_⟩
  cases b with
  | true =>
    have kind : wordKind ['T', 'r', 'u', 'e'] = .true := by decide
    exact ⟨_, yields_word (by decide) (List.all_eq_true.mp (by decide)) ends (by decide),
      rfl, .cons kind .nil, .boolean _, rfl⟩
  | false =>
    have kind : wordKind ['F', 'a', 'l', 's', 'e'] = .false := by decide
    exact ⟨_, yields_word (by decide) (List.all_eq_true.mp (by decide)) ends (by decide),
      rfl, .cons kind .nil, .boolean _, rfl⟩

theorem prints_nil : Prints .nil := by
  intro p rest follows
  have ends := ends_of_follows follows
  have kind : wordKind ['N', 'i', 'l'] = .nil := by decide
  exact .inl ⟨printable_leaf rfl (by simp), .nil, _,
    yields_word (by decide) (List.all_eq_true.mp (by decide)) ends (by decide), rfl,
    .cons kind .nil, .nil, rfl⟩

theorem prints_name {n : String} (h : IsName n) : Prints (.name n) := by
  intro p rest follows
  obtain ⟨t, kind, lexeme, -, yields⟩ := yields_name (p := p) h (ends_of_follows follows)
  exact .inl ⟨printable_leaf rfl (by simp), .name n, [t], yields, rfl,
    .cons ⟨kind, lexeme⟩ .nil, .name n, rfl⟩

theorem prints_grouping {inner : Expr} (ih : Prints inner) : Prints (.grouping inner) := by
  intro p rest follows
  have text : (Expr.grouping inner).print.toList = ['('] ++ (inner.print.toList ++ [')']) := by
    simp [Expr.print]
  have printable : Printable (.grouping inner) ↔ Printable inner := by
    rw [printable_iff]
    simp [Expr.children]
  have pieces : (Expr.grouping inner).pieces =
      [.mark .lparen] ++ (inner.pieces ++ [.mark .rparen]) := by simp [Expr.pieces]
  rw [printable, text, pieces]
  have opening : Yields p ['('] (inner.print.toList ++ [')'] ++ rest) [⟨.lparen, "(", p, none⟩] :=
    yields_lparen
  rcases ih (p + 1) (')' :: rest) (follows_plain (by decide) (by decide)) with
    ⟨plain, t, ts, yields, length, spells, levelled, same⟩ | ⟨other, stumbles⟩
  · have whole := yields_append opening (yields_append yields yields_rparen)
    exact .inl ⟨plain, .grouping t, _, whole, by simp [Expr.pieces, length],
      spells_grouping_iff.mpr ⟨_, ts, _, rfl, rfl, spells, rfl⟩, .grouping levelled,
      congrArg Expr.grouping same⟩
  · exact .inr ⟨other, stumbles_right opening rfl (stumbles_left stumbles)⟩

theorem print_head (levelled : WellLevelled e) (lexed : Legible e) :
    ∃ c cs, e.print.toList = c :: cs ∧ c ≠ '=' := by
  induction levelled with
  | string s => exact ⟨'"', s.toList ++ ['"'], by simp [Expr.print], by decide⟩
  | integer n =>
    obtain ⟨k, -, -, text⟩ := print_integer (lexed _ (.here _))
    obtain ⟨c, cs, chars⟩ := List.exists_cons_of_ne_nil (Nat.toDigits_ne_nil (b := 10) (n := k))
    refine ⟨c, cs, text.trans chars, ?_⟩
    rintro rfl
    have digit := Nat.isDigit_of_mem_toDigits (b := 10) (n := k) (c := '=') (by norm_num)
      (by norm_num) (by simp [chars])
    exact absurd digit (by decide)
  | float x =>
    obtain ⟨w, f, rfl⟩ := (lexed _ (.here _) : (Expr.float x).Lexed)
    rcases print_float w f with ⟨ds, cs, text, present, whole, -⟩ | ⟨text, -⟩
    · obtain ⟨d, ds, rfl⟩ := List.exists_cons_of_ne_nil present
      refine ⟨d, ds ++ '.' :: cs, text, ?_⟩
      rintro rfl
      exact absurd (whole '=' (by simp)) (by decide)
    · rw [text]
      exact ⟨'i', ['n', 'f'], rfl, by decide⟩
  | boolean b => cases b <;> exact ⟨_, _, rfl, by decide⟩
  | nil => exact ⟨_, _, rfl, by decide⟩
  | name n =>
    obtain ⟨c, cs, chars, start⟩ := (lexed _ (.here _) : IsName n).start
    refine ⟨c, cs, chars, ?_⟩
    rintro rfl
    exact absurd start (by decide)
  | grouping inside ih => exact ⟨'(', _, by simp [Expr.print]; rfl, by decide⟩
  | unary known below tight ih =>
    rcases prefixLevel_cases known with ⟨kind, -⟩ | ⟨kind, -⟩
    · exact ⟨'!', _, by simp [Expr.print, kind, TokenKind.text]; rfl, by decide⟩
    · exact ⟨'-', _, by simp [Expr.print, kind, TokenKind.text]; rfl, by decide⟩
  | binary known before after loose tight first second =>
    obtain ⟨c, cs, chars, other⟩ := first (legible_child lexed (by simp [Expr.children]))
    exact ⟨c, _, by simp [Expr.print, chars]; rfl, other⟩
  | member below tight ih =>
    obtain ⟨c, cs, chars, other⟩ := ih (legible_child lexed (by simp [Expr.children]))
    exact ⟨c, _, by simp [Expr.print, chars]; rfl, other⟩
  | call below tight inside ih args =>
    obtain ⟨c, cs, chars, other⟩ := ih (legible_child lexed (by simp [Expr.children]))
    exact ⟨c, _, by simp [Expr.print, chars]; rfl, other⟩

theorem prints_unary {op : Token} {operand : Expr} {level : Nat}
    (known : prefixLevel? op.kind = some level) (tight : level ≤ operand.level)
    (plain : op.literal = none) (head : ∃ c cs, operand.print.toList = c :: cs ∧ c ≠ '=')
    (ih : Prints operand) : Prints (.unary op operand) := by
  intro p rest follows
  have text : (Expr.unary op operand).print.toList =
      op.kind.text.toList ++ operand.print.toList := by simp [Expr.print]
  have printable : Printable (.unary op operand) ↔ Printable operand := by
    rw [printable_iff]
    simp [Expr.children]
  have after : Follows operand rest := by
    intro c mem
    refine ⟨(follows c mem).1, fun dot => ?_⟩
    have low := ((follows c mem).2 dot).1
    rcases prefixLevel_cases known with ⟨-, rfl⟩ | ⟨-, rfl⟩ <;>
      simp [Expr.level, known, postfixLevel] at low
  have apart : (operand.print.toList ++ rest).head? ≠ some '=' := by
    obtain ⟨c, cs, chars, other⟩ := head
    simpa [chars] using other
  have pieces : (Expr.unary op operand).pieces = [.operator op] ++ operand.pieces := rfl
  obtain ⟨u, kind, literal, start⟩ := yields_prefix (p := p) known apart
  rw [printable, text, pieces]
  rcases ih _ rest after with ⟨good, t, ts, yields, length, spells, levelled, same⟩ |
    ⟨bad, stumbles⟩
  · have whole := yields_append start yields
    have bare : u.bare = op.bare := bare_eq kind (literal.trans plain.symm)
    refine .inl ⟨good, .unary u t, _, whole, by simp [Expr.pieces, length],
      spells_unary_iff.mpr ⟨ts, rfl, spells⟩,
      .unary (kind ▸ known) levelled (level_of_same same ▸ tight), ?_⟩
    simp only [Expr.bare, Expr.remake, bare] at same ⊢
    rw [same]
  · exact .inr ⟨bad, stumbles_right start rfl stumbles⟩

theorem prints_binary {left right : Expr} {op : Token} {level : Nat}
    (known : binaryLevel? op.kind = some level) (loose : level ≤ left.level)
    (tight : level < right.level) (plain : op.literal = none) (first : Prints left)
    (second : Prints right) : Prints (.binary left op right) := by
  intro p rest follows
  have text : (Expr.binary left op right).print.toList = left.print.toList ++
      ([' '] ++ (op.kind.text.toList ++ ([' '] ++ right.print.toList))) := by simp [Expr.print]
  have pieces : (Expr.binary left op right).pieces =
      left.pieces ++ ([] ++ ([.operator op] ++ ([] ++ right.pieces))) := by simp [Expr.pieces]
  have printable : Printable (.binary left op right) ↔ Printable left ∧ Printable right := by
    rw [printable_iff]
    simp [Expr.children]
  have after : Follows right rest := by
    intro c mem
    refine ⟨(follows c mem).1, fun dot => ?_⟩
    have low := ((follows c mem).2 dot).1
    have := binaryLevel_bounds known
    simp only [Expr.level, known, Option.getD_some, postfixLevel] at low
    omega
  rw [printable, text, pieces]
  rcases first p _ (follows_plain (c := ' ') (by decide) (by decide)) with
    ⟨good, t, ts, yields, length, spells, levelled, same⟩ | ⟨bad, stumbles⟩
  · obtain ⟨u, kind, literal, operator⟩ :=
      @yields_operator (p + left.print.toList.length + 1) (right.print.toList ++ rest) _ _ known
    rcases second _ rest after with
      ⟨good', t', ts', yields', length', spells', levelled', same'⟩ | ⟨bad', stumbles'⟩
    · have whole := yields_append yields (yields_append yields_blank
        (yields_append operator (yields_append yields_blank yields')))
      have bare : u.bare = op.bare := bare_eq kind (literal.trans plain.symm)
      refine .inl ⟨⟨good, good'⟩, .binary t u t', _, whole,
        by simp [Expr.pieces, length, length'],
        spells_binary_iff.mpr ⟨ts, ts', rfl, spells, spells'⟩,
        .binary (kind ▸ known) levelled levelled' (level_of_same same ▸ loose)
          (level_of_same same' ▸ tight), ?_⟩
      simp only [Expr.bare, Expr.remake, bare] at same same' ⊢
      rw [same, same']
    · exact .inr ⟨fun both => bad' both.2, stumbles_right yields length
        (stumbles_right yields_blank rfl (stumbles_right operator rfl
          (stumbles_right yields_blank rfl stumbles')))⟩
  · exact .inr ⟨fun both => bad both.1, stumbles_left stumbles⟩

theorem prints_integer_member {n : Int64} {m : String} (positive : 0 ≤ n.toInt) (name : IsName m) :
    Prints (.member (.integer n) m) := by
  intro p rest follows
  obtain ⟨k, -, -, digits⟩ := print_integer positive
  have text : (Expr.member (.integer n) m).print.toList = Nat.toDigits 10 k ++ '.' :: m.toList := by
    simp [Expr.print, ← digits]
  obtain ⟨t, u, float, ident, yields⟩ :=
    yields_owner (p := p) (k := k) name (ends_of_follows follows)
  refine .inr ⟨fun good => good.owners n m (.here _), fun us scanned => ?_⟩
  rw [text, yields] at scanned
  obtain ⟨vs, -, rfl⟩ := map_eq_ok scanned
  exact ⟨[], .literal (.integer n), _, [], t, u :: vs, rfl, rfl, rfl,
    fun is => absurd (float.symm.trans is.1) (by simp [Literal.kind]), .inr ⟨float, u, rfl, ident⟩⟩

theorem prints_member {owner : Expr} {n : String} (tight : postfixLevel ≤ owner.level)
    (other : ∀ k, owner ≠ .integer k) (name : IsName n) (ih : Prints owner) :
    Prints (.member owner n) := by
  intro p rest follows
  have text : (Expr.member owner n).print.toList = owner.print.toList ++ (['.'] ++ n.toList) := by
    simp [Expr.print]
  have pieces : (Expr.member owner n).pieces = owner.pieces ++ [.mark .period, .name n] := rfl
  have printable : Printable (.member owner n) ↔ Printable owner := by
    rw [printable_iff]
    simp [Expr.children, other]
  have dotted : Follows owner ('.' :: (n.toList ++ rest)) := by
    intro c mem
    cases mem
    exact ⟨by decide, fun _ => ⟨tight, other⟩⟩
  rw [printable, text, pieces]
  rcases ih p _ dotted with ⟨good, t, ts, yields, length, spells, levelled, same⟩ | ⟨bad, stumbles⟩
  · obtain ⟨u, kind, lexeme, -, last⟩ :=
      yields_name (p := p + owner.print.toList.length + 1) name (ends_of_follows follows)
    have whole := yields_append yields (yields_append yields_period last)
    refine .inl ⟨good, .member t n, _, whole, by simp [Expr.pieces, length],
      spells_member_iff.mpr ⟨ts, _, u, rfl, spells, rfl, kind, lexeme⟩,
      .member levelled (level_of_same same ▸ tight), ?_⟩
    simp only [Expr.bare, Expr.remake] at same ⊢
    rw [same]
  · exact .inr ⟨bad, stumbles_left stumbles⟩

def argumentsText (args : List Expr) : List Char := (", ".intercalate (printAll args)).toList

theorem argumentsText_cons (a b : Expr) (bs : List Expr) : argumentsText (a :: b :: bs) =
    a.print.toList ++ ([','] ++ ([' '] ++ argumentsText (b :: bs))) := by
  simp [argumentsText, printAll, String.intercalate_cons_cons]

def RereadsAll (p : Nat) (w rest : List Char) (args : List Expr) : Prop :=
  ∃ es ts, Yields p w rest ts ∧ ts.length = (separated args).length ∧
    List.Forall₂ Piece.Is (separated es) ts ∧ (∀ e ∈ es, WellLevelled e) ∧
      remakeAll .float es = remakeAll printedFloat args

theorem prints_arguments {args : List Expr} (each : ∀ a ∈ args, Prints a) :
    (∀ a ∈ args, Printable a) ∧ RereadsAll p (argumentsText args) (')' :: rest) args ∨
      ¬ (∀ a ∈ args, Printable a) ∧
        Stumbles p (argumentsText args) (')' :: rest) (separated args) := by
  induction args generalizing p with
  | nil => exact .inl ⟨by simp, [], [], yields_nil, rfl, .nil, by simp, rfl⟩
  | cons a as ih =>
    have first := each a (by simp)
    cases as with
    | nil =>
      have text : argumentsText [a] = a.print.toList := by
        simp [argumentsText, printAll, String.intercalate_singleton]
      simp only [text, separated, List.mem_singleton, forall_eq, RereadsAll]
      rcases first p (')' :: rest) (follows_plain (by decide) (by decide)) with
        ⟨good, t, ts, yields, length, spells, levelled, same⟩ | bad
      · refine .inl ⟨good, [t], ts, yields, length, spells, by simpa using levelled, ?_⟩
        exact List.cons_eq_cons.mpr ⟨same, rfl⟩
      · exact .inr bad
    | cons b bs =>
      have pieces : separated (a :: b :: bs) =
          a.pieces ++ ([.mark .comma] ++ ([] ++ separated (b :: bs))) := rfl
      rw [argumentsText_cons, pieces, List.forall_mem_cons]
      rcases first p _ (follows_plain (c := ',') (by decide) (by decide)) with
        ⟨good, t, ts, yields, length, spells, levelled, same⟩ | ⟨bad, stumbles⟩
      · rcases ih (p := p + a.print.toList.length + 1 + 1)
            (fun c mem => each c (by simp [mem])) with
          ⟨goods, es, us, yields', length', spells', levelled', same'⟩ | ⟨bads, stumbles⟩
        · have whole := yields_append yields (yields_append yields_comma
            (yields_append yields_blank yields'))
          obtain ⟨e, es, rfl⟩ : ∃ d ds, es = d :: ds := by
            cases es with
            | nil => simp [remakeAll] at same'
            | cons d ds => exact ⟨d, ds, rfl⟩
          refine .inl ⟨⟨good, goods⟩, t :: e :: es, _, whole, ?_, ?_, ?_, ?_⟩
          · rw [pieces]
            simp [length, length']
          · rw [separated]
            exact List.rel_append spells (.cons rfl spells')
          · exact List.forall_mem_cons.mpr ⟨levelled, levelled'⟩
          · exact List.cons_eq_cons.mpr ⟨same, same'⟩
        · exact .inr ⟨fun all => bads all.2, stumbles_right yields length
            (stumbles_right yields_comma rfl (stumbles_right yields_blank rfl stumbles))⟩
      · exact .inr ⟨fun all => bad all.1, stumbles_left stumbles⟩

theorem prints_call {callee : Expr} {args : List Expr} (tight : postfixLevel ≤ callee.level)
    (ih : Prints callee) (each : ∀ a ∈ args, Prints a) : Prints (.call callee args) := by
  intro p rest follows
  have text : (Expr.call callee args).print.toList =
      callee.print.toList ++ (['('] ++ (argumentsText args ++ [')'])) := by
    simp [Expr.print, argumentsText]
  have pieces : (Expr.call callee args).pieces =
      callee.pieces ++ ([.mark .lparen] ++ (separated args ++ [.mark .rparen])) := by
    simp [Expr.pieces]
  have printable : Printable (.call callee args) ↔
      Printable callee ∧ ∀ a ∈ args, Printable a := by
    rw [printable_iff]
    simp [Expr.children]
  rw [printable, text, pieces]
  rcases ih p _ (follows_plain (c := '(') (by decide) (by decide)) with
    ⟨good, t, ts, yields, length, spells, levelled, same⟩ | ⟨bad, stumbles⟩
  · rcases @prints_arguments (p + callee.print.toList.length + 1) rest args each with
      ⟨goods, es, us, yields', length', spells', levelled', same'⟩ | ⟨bads, stumbles⟩
    · have whole := yields_append yields (yields_append yields_lparen
        (yields_append yields' yields_rparen))
      refine .inl ⟨⟨good, goods⟩, .call t es, _, whole, ?_, ?_,
        .call levelled (level_of_same same ▸ tight) levelled', ?_⟩
      · rw [pieces]
        simp [length, length']
      · have split : ∀ a b : Token, ts ++ ([a] ++ (us ++ [b])) = ts ++ a :: us ++ [b] := by simp
        exact spells_call_iff.mpr ⟨ts, _, us, _, split _ _, spells, rfl, spells', rfl⟩
      · simp only [Expr.bare, Expr.remake] at same ⊢
        rw [same, same']
    · exact .inr ⟨fun all => bads all.2, stumbles_right yields length
        (stumbles_right yields_lparen rfl (stumbles_left stumbles))⟩
  · exact .inr ⟨fun all => bad all.1, stumbles_left stumbles⟩

theorem prints_levelled (levelled : WellLevelled e) (lexed : Legible e) :
    Prints e := by
  induction levelled with
  | string s => exact prints_string (lexed _ (.here _))
  | integer n => exact prints_integer (lexed _ (.here _))
  | float x =>
    obtain ⟨w, f, rfl⟩ := (lexed _ (.here _) : (Expr.float x).Lexed)
    exact prints_float
  | boolean b => exact prints_boolean b
  | nil => exact prints_nil
  | name n => exact prints_name (lexed _ (.here _))
  | grouping inside ih =>
    exact prints_grouping (ih (legible_child lexed (by simp [Expr.children])))
  | @unary op operand level known below tight ih =>
    have inside : Legible operand := legible_child lexed (by simp [Expr.children])
    exact prints_unary known tight (lexed _ (.here _)) (print_head below inside) (ih inside)
  | binary known before after loose tight first second =>
    exact prints_binary known loose tight (lexed _ (.here _))
      (first (legible_child lexed (by simp [Expr.children])))
      (second (legible_child lexed (by simp [Expr.children])))
  | @member owner n below tight ih =>
    have inside : Legible owner := legible_child lexed (by simp [Expr.children])
    have name : IsName n := lexed _ (.here _)
    by_cases integer : ∃ k, owner = .integer k
    · obtain ⟨k, rfl⟩ := integer
      exact prints_integer_member (inside _ (.here _)) name
    · exact prints_member tight (not_exists.mp integer) name (ih inside)
  | call below tight inside ih args =>
    refine prints_call tight (ih (legible_child lexed (by simp [Expr.children]))) ?_
    exact fun a mem => args a mem (legible_child lexed (by simp [Expr.children, mem]))

end ScopedFormula
