import ScopedFormula.Session
import ScopedFormula.Proofs.Grammar.Sound
import ScopedFormula.Proofs.Printed

/- The canonical text read again: which trees come back from it, and which texts come back from
   the tree that is read. -/
namespace ScopedFormula

variable {source : String} {e t u : Expr} {ts us : List Token} {p : Nat}

theorem bodyTokens_lexed (lexed : ∀ u ∈ ts, u.Lexed) : bodyTokens (ts ++ [endToken p]) = ts := by
  have more : ∀ u ∈ ts, (u.kind != .eof) = true := by
    intro u mem
    simpa using more_of_lexed (lexed u mem)
  rw [bodyTokens, List.takeWhile_append_of_pos more]
  simp [endToken]

theorem read_eq_ok (h : read source = .ok t) : ∃ ts p, scan source = .ok (ts ++ [endToken p]) ∧
    (∀ u ∈ ts, u.Lexed) ∧ WellLevelled t ∧ t.nest ≤ maxDepth ∧ Spells t ts := by
  unfold read at h
  split at h
  · contradiction
  · rename_i tokens scanned
    obtain ⟨ts, p, rfl, lexed⟩ := tokens_lexed scanned
    split at h
    · contradiction
    · rename_i x parsed
      cases h
      rw [parse, bodyTokens_lexed lexed] at parsed
      exact ⟨ts, p, scanned, lexed, run_reached start_reached parsed⟩

theorem read_of_scan (scanned : scan source = .ok (ts ++ [endToken p])) (levelled : WellLevelled t)
    (room : t.nest ≤ maxDepth) (spelled : Spells t ts) : read source = .ok t := by
  obtain ⟨us, q, same, lexed⟩ := tokens_lexed scanned
  obtain ⟨rfl, -⟩ := List.append_inj' same rfl
  have parsed : parse (ts ++ [endToken p]) = .ok t := by
    rw [parse, bodyTokens_lexed lexed]
    exact run_of_spells levelled room spelled _
  simp only [read, scanned, parsed]

def Accepted (t : Expr) : Prop := ∃ source, read source = .ok t

theorem legible_of_accepted (h : Accepted t) : Legible t := by
  obtain ⟨source, reads⟩ := h
  obtain ⟨ts, p, -, lexed, levelled, -, spelled⟩ := read_eq_ok reads
  exact legible_of_spells levelled spelled lexed

theorem levelled_of_accepted (h : Accepted t) : WellLevelled t ∧ t.nest ≤ maxDepth := by
  obtain ⟨source, reads⟩ := h
  obtain ⟨ts, p, -, -, levelled, room, -⟩ := read_eq_ok reads
  exact ⟨levelled, room⟩

theorem follows_end : Follows e [] := by
  intro c mem
  simp at mem

theorem read_print (levelled : WellLevelled t) (room : t.nest ≤ maxDepth)
    (lexed : Legible t) (printable : Printable t) :
    ∃ u, read t.print = .ok u ∧ u.bare = t.remake printedFloat := by
  rcases prints_levelled levelled lexed 0 [] follows_end with ⟨-, u, ts, yields, -, spelled,
    levelled', same⟩ | ⟨other, -⟩
  · have scanned : scan t.print = .ok (ts ++ [endToken (0 + t.print.toList.length)]) := by
      rw [Yields, List.append_nil, tokens_nil] at yields
      exact yields
    have nest := congrArg Expr.nest same
    rw [Expr.bare, nest_remake leaves_float, nest_remake leaves_printedFloat] at nest
    exact ⟨u, read_of_scan scanned levelled' (nest ▸ room) spelled, same⟩
  · exact absurd printable other

theorem print_of_same (lexed : Legible t)
    (same : u.bare = t.remake printedFloat) : u.print = t.print := by
  rw [← print_bare u, same]
  refine print_remake fun x inside => ?_
  obtain ⟨w, f, rfl⟩ := lexed _ inside
  rcases print_float w f with ⟨ds, cs, -, -, -, -, reads, text⟩ | ⟨text, reads⟩
  · rw [reads, text]
  · rw [reads, text, Expr.print]

theorem stumbles_print (accepted : Accepted t) (other : ¬ Printable t) :
    Stumbles 0 t.print.toList [] t.pieces := by
  have levelled := (levelled_of_accepted accepted).1
  rcases prints_levelled levelled (legible_of_accepted accepted) 0 [] follows_end with
    ⟨printable, -⟩ | ⟨-, stumbles⟩
  · exact absurd printable other
  · exact stumbles

theorem printable_of_read (h : read t.print = .ok t) : Printable t := by
  by_contra other
  obtain ⟨ts, p, scanned, -, -, -, spelled⟩ := read_eq_ok h
  obtain ⟨pre, q, post, a, x, b, pieces, same, length, differs, -⟩ :=
    stumbles_print ⟨_, h⟩ other _ (by rw [List.append_nil]; exact scanned)
  rw [Spells, pieces] at spelled
  obtain ⟨cs, ds, rfl, before, after⟩ := forall₂_append_iff.mp spelled
  obtain ⟨y, ds', is, -, rfl⟩ := List.forall₂_cons_left_iff.mp after
  rw [List.append_assoc, List.cons_append] at same
  obtain ⟨-, rest⟩ := List.append_inj same (before.length_eq.symm.trans length.symm)
  obtain ⟨rfl, -⟩ := List.cons.inj rest
  exact differs is

def Apart (ps : List Piece) : Prop := ps.IsChain fun q r => ¬ (q.kind = .float ∧ r.kind = .ident)

theorem apart_cons {q : Piece} {ps : List Piece} (h : Apart ps) (other : q.kind ≠ .float) :
    Apart (q :: ps) :=
  List.isChain_cons.mpr ⟨fun _ _ both => other both.1, h⟩

theorem apart_append {q : Piece} {ps qs : List Piece} (first : Apart ps) (second : Apart (q :: qs))
    (other : q.kind ≠ .ident) : Apart (ps ++ q :: qs) := by
  refine List.isChain_append.mpr ⟨first, second, fun x _ y head both => ?_⟩
  cases head
  exact other both.2

theorem apart_separated {args : List Expr} (h : ∀ a ∈ args, Apart a.pieces) :
    Apart (separated args) := by
  induction args with
  | nil => exact .nil
  | cons a as ih =>
    cases as with
    | nil => exact h a (by simp)
    | cons b bs =>
      have later := ih fun c mem => h c (by simp [mem])
      exact apart_append (h a (by simp)) (apart_cons later (by decide)) (by decide)

theorem apart_pieces (levelled : WellLevelled e) : Apart e.pieces := by
  induction levelled with
  | grouping inside ih =>
    exact apart_cons (apart_append ih (.singleton _) (by decide)) (by decide)
  | unary known below tight ih =>
    refine apart_cons ih fun same => ?_
    simp only [Piece.kind] at same
    simp [same, prefixLevel?] at known
  | binary known before after loose tight first second =>
    refine apart_append first (apart_cons second fun same => ?_) fun same => ?_
    all_goals
      simp only [Piece.kind] at same
      simp [same, binaryLevel?] at known
  | member below tight ih =>
    exact apart_append ih (apart_cons (.singleton _) (by decide)) (by decide)
  | call below tight inside ih args =>
    rw [Expr.pieces, List.append_assoc, List.cons_append]
    exact apart_append ih (apart_cons (apart_append (apart_separated args) (.singleton _)
      (by decide)) (by decide)) (by decide)
  | _ => exact .singleton _

theorem mem_separated {q : Piece} {args : List Expr} (h : q ∈ separated args) :
    q = .mark .comma ∨ ∃ a ∈ args, q ∈ a.pieces := by
  induction args with
  | nil => simp [separated] at h
  | cons a as ih =>
    cases as with
    | nil => exact .inr ⟨a, by simp, h⟩
    | cons b bs =>
      rcases List.mem_append.mp h with first | later
      · exact .inr ⟨a, by simp, first⟩
      · rcases List.mem_cons.mp later with comma | rest
        · exact .inl comma
        · rcases ih rest with comma | ⟨c, mem, inside⟩
          · exact .inl comma
          · exact .inr ⟨c, List.mem_cons_of_mem a mem, inside⟩

theorem within_of_string {s : String} (levelled : WellLevelled e)
    (h : .literal (.string s) ∈ e.pieces) : Within (.string s) e := by
  induction levelled with
  | string r =>
    obtain rfl : s = r := by simpa [Expr.pieces] using h
    exact .here _
  | grouping inside ih =>
    exact .down (ih (by simpa [Expr.pieces] using h)) (by simp [Expr.children])
  | unary known below tight ih =>
    exact .down (ih (by simpa [Expr.pieces] using h)) (by simp [Expr.children])
  | binary known before after loose tight first second =>
    simp only [Expr.pieces, List.mem_append, List.mem_cons, reduceCtorEq, false_or] at h
    rcases h with left | right
    · exact .down (first left) (by simp [Expr.children])
    · exact .down (second right) (by simp [Expr.children])
  | member below tight ih =>
    exact .down (ih (by simpa [Expr.pieces] using h)) (by simp [Expr.children])
  | call below tight inside ih args =>
    simp only [Expr.pieces, List.mem_append, List.mem_cons, reduceCtorEq, false_or,
      List.not_mem_nil, or_false] at h
    rcases h with callee | rest
    · exact .down (ih callee) (by simp [Expr.children])
    · rcases mem_separated rest with comma | ⟨a, mem, among⟩
      · contradiction
      · exact .down (args a mem among) (by simp [Expr.children, mem])
  | boolean b => cases b <;> simp [Expr.pieces] at h
  | _ => simp [Expr.pieces] at h

theorem kinds_eq {ps : List Piece} (h : List.Forall₂ Piece.Is ps ts) :
    ts.map Token.kind = ps.map Piece.kind := by
  induction h with
  | nil => rfl
  | cons head tail ih => rw [List.map_cons, List.map_cons, kind_of_is head, ih]

theorem read_print_owner (accepted : Accepted t)
    (quotes : ∀ s, Within (.string s) t → QuotesEscaped s) (other : ¬ Printable t) :
    read t.print ≠ .ok u := by
  intro reads
  obtain ⟨ts, p, scanned, -, levelled, -, spelled⟩ := read_eq_ok reads
  obtain ⟨pre, q, post, a, x, b, -, same, -, -, why⟩ :=
    stumbles_print accepted other _ (by rw [List.append_nil]; exact scanned)
  rcases why with ⟨s, mem, plain⟩ | ⟨float, y, head, ident⟩
  · exact plain (quotes s (within_of_string (levelled_of_accepted accepted).1 mem))
  · obtain ⟨cs, rfl⟩ : ∃ cs, b = y :: cs := ⟨b.tail, (List.cons_head?_tail head).symm⟩
    have before : ∃ ds, ts = a ++ x :: y :: ds := by
      rcases List.eq_nil_or_concat cs with rfl | ⟨ds, d, rfl⟩
      · have last := congrArg List.getLast? same
        simp only [List.getLast?_append, List.getLast?_singleton, List.getLast?_cons_cons,
          Option.some_or, Option.some.injEq] at last
        rw [← last] at ident
        contradiction
      · have split : a ++ x :: y :: (ds ++ [d]) = (a ++ x :: y :: ds) ++ [d] := by simp
        rw [List.concat_eq_append, split] at same
        exact ⟨ds, (List.append_inj' same rfl).1⟩
    obtain ⟨ds, rfl⟩ := before
    have chain : (List.map Piece.kind u.pieces).IsChain fun k l => ¬ (k = .float ∧ l = .ident) :=
      (List.isChain_map _).mpr (apart_pieces levelled)
    rw [← kinds_eq spelled, List.map_append, List.map_cons, List.map_cons,
      List.isChain_append_cons_cons] at chain
    exact chain.2.1 ⟨float, ident⟩

/-- The text of the tree is read, and as a tree with the same text. -/
def Reprints (t : Expr) : Prop := ∃ u, read t.print = .ok u ∧ u.print = t.print

theorem reprints_of_printable (accepted : Accepted t) (printable : Printable t) : Reprints t := by
  have lexed := legible_of_accepted accepted
  obtain ⟨levelled, room⟩ := levelled_of_accepted accepted
  obtain ⟨u, reads, same⟩ := read_print levelled room lexed printable
  exact ⟨u, reads, print_of_same lexed same⟩

/-- A text comes back exactly if it is the text of a printable tree: then that tree comes back.
    Without an unescaped quote it takes no more than that no integer owns a name. -/
theorem reprints_iff (reads : read source = .ok t) :
    (Reprints t ↔ ∃ v, Accepted v ∧ Printable v ∧ v.print = t.print) ∧
      ((∀ s, Within (.string s) t → QuotesEscaped s) →
        (Reprints t ↔ ∀ n m, ¬ Within (.member (.integer n) m) t)) := by
  have accepted : Accepted t := ⟨source, reads⟩
  refine ⟨⟨?_, ?_⟩, fun quotes => ⟨?_, fun owners => ?_⟩⟩
  · -- the tree that comes back has the same text, so it is read from its own text
    rintro ⟨u, back, same⟩
    exact ⟨u, ⟨_, back⟩, printable_of_read (same ▸ back), same⟩
  · rintro ⟨v, known, printable, same⟩
    obtain ⟨u, back, text⟩ := reprints_of_printable known printable
    exact ⟨u, same ▸ back, text.trans same⟩
  · rintro ⟨u, back, -⟩ n m inside
    have other : ¬ Printable t := fun printable => printable.owners n m inside
    exact read_print_owner accepted quotes other back
  · exact reprints_of_printable accepted ⟨quotes, owners⟩

def sumWithText : Expr := .binary (.integer 1) ⟨.plus, "+", 1, none⟩ (.string "a")

theorem printable_sumWithText : Printable sumWithText := by
  refine printable_iff.mpr ⟨by simp [sumWithText], by simp [sumWithText], ?_⟩
  simp only [sumWithText, Expr.children, List.mem_cons, List.not_mem_nil, or_false,
    forall_eq_or_imp, forall_eq]
  refine ⟨printable_leaf rfl (by simp), printable_iff.mpr ⟨?_, by simp, by simp [Expr.children]⟩⟩
  rintro s ⟨⟩
  exact quotesEscaped_of_none (by decide)

theorem reprints_sum : read "1+'a'" = .ok sumWithText ∧ Reprints sumWithText := by
  have reads : read "1+'a'" = .ok sumWithText := by cbv
  have printable := printable_sumWithText
  exact ⟨reads, ((reprints_iff reads).2 printable.quotes).mpr printable.owners⟩

/-- A double quote in a text of single quotes ends the printed text, and the blank that keeps an
    integer from a dot is not printed. -/
theorem not_reprinted : (∃ t, read "'a\"b'" = .ok t ∧ ¬ Reprints t) ∧
    ∃ t, read "1 .b" = .ok t ∧ ¬ Reprints t := by
  refine ⟨⟨.string "a\"b", by cbv, ?_⟩, .member (.integer 1) "b", by cbv, ?_⟩
  · rintro ⟨u, back, -⟩
    have fails : read (Expr.string "a\"b").print = .error (.scan (.unterminatedString 4)) := by cbv
    rw [fails] at back
    contradiction
  · rintro ⟨u, back, -⟩
    refine read_print_owner ⟨"1 .b", by cbv⟩ ?_ (fun good => good.owners 1 "b" (.here _)) back
    intro s inside
    rcases within_iff.mp inside with same | ⟨c, child, deeper⟩
    · contradiction
    · obtain rfl : c = .integer 1 := by simpa [Expr.children] using child
      cases within_leaf deeper rfl

/-- The float is finite and the same when its text is read. -/
def ReadsBack (x : Float) : Prop := read (placesText floatPlaces x) = .ok (.float x)

theorem printedFloat_of_readsBack {x : Float} (known : ∃ w f, x = readFloat w f)
    (back : ReadsBack x) : printedFloat x = .float x := by
  obtain ⟨w, f, rfl⟩ := known
  have lexed : Legible (.float (readFloat w f)) :=
    legible_of_children ⟨w, f, rfl⟩ (by simp [Expr.children])
  have room : (Expr.float (readFloat w f)).nest ≤ maxDepth := Nat.zero_le _
  obtain ⟨u, reads, same⟩ := read_print (.float _) room lexed (printable_leaf rfl (by simp))
  rw [Expr.print, back] at reads
  cases reads
  exact same.symm

/-- The canonical text of a printable tree whose floats read back is read as the same tree, up to
    what its operators were written like, and the two trees evaluate alike in every session. -/
theorem reparse_same (reads : read source = .ok t) (printable : Printable t)
    (floats : ∀ x, Within (.float x) t → ReadsBack x) : ∃ u, read t.print = .ok u ∧
      u.bare = t.bare ∧ (∀ perform scope, u.evalWith perform scope = t.evalWith perform scope) ∧
        ∀ (s : Session) scope save,
          s.step (.evalTree scope (.given u) save) = s.step (.evalTree scope (.given t) save) := by
  have accepted : Accepted t := ⟨source, reads⟩
  have lexed := legible_of_accepted accepted
  obtain ⟨levelled, room⟩ := levelled_of_accepted accepted
  obtain ⟨u, back, same⟩ := read_print levelled room lexed printable
  have bare : u.bare = t.bare :=
    same.trans (remake_congr fun x inside => printedFloat_of_readsBack (lexed _ inside)
      (floats x inside))
  refine ⟨u, back, bare, fun perform scope => evalWith_of_bare bare, fun s scope save => ?_⟩
  have eval : ∀ i, (Pure.pure u : Effect Expr) >>= (·.eval i) = Pure.pure t >>= (·.eval i) :=
    fun i => (evalWith_of_bare bare : u.evalWith Action.run i = t.evalWith Action.run i)
  simp only [Session.step, Session.tree, eval]

def floatWithQuote : Expr := .binary (.float 1.5) ⟨.plus, "+", 3, none⟩ (.string "\\\"")

theorem printable_floatWithQuote : Printable floatWithQuote := by
  refine printable_iff.mpr ⟨by simp [floatWithQuote], by simp [floatWithQuote], ?_⟩
  simp only [floatWithQuote, Expr.children, List.mem_cons, List.not_mem_nil, or_false,
    forall_eq_or_imp, forall_eq]
  refine ⟨printable_leaf rfl (by simp), printable_iff.mpr ⟨?_, by simp, by simp [Expr.children]⟩⟩
  rintro s ⟨⟩ before after split
  change ['\\', '"'] = before ++ '"' :: after at split
  rcases before with _ | ⟨b, _ | ⟨c, ds⟩⟩
  · simp at split
  · obtain ⟨rfl, -⟩ := List.cons.inj split
    rfl
  · simp at split

theorem readsBack_half : ReadsBack 1.5 := by
  have text : placesText floatPlaces 1.5 = "1.500000" := by decide +kernel
  have scanned : scan "1.500000" =
      .ok [⟨.float, "1.500000", 0, some (.float 1.5)⟩, endToken 8] := by decide +kernel
  rw [ReadsBack, text]
  simp only [read, scanned]
  rfl

theorem reparse_mixed : read "1.5+'\\\"'" = .ok floatWithQuote ∧
    ∃ u, read floatWithQuote.print = .ok u ∧ u.bare = floatWithQuote.bare := by
  have scanned : scan "1.5+'\\\"'" = .ok [⟨.float, "1.5", 0, some (.float 1.5)⟩,
      ⟨.plus, "+", 3, none⟩, ⟨.string, "'\\\"'", 4, some (.string "\\\"")⟩, endToken 8] := by
    decide +kernel
  have reads : read "1.5+'\\\"'" = .ok floatWithQuote := by
    simp only [read, scanned]
    rfl
  have floats : ∀ x, Within (.float x) floatWithQuote → ReadsBack x := by
    intro x inside
    rcases within_iff.mp inside with same | ⟨c, child, deeper⟩
    · contradiction
    · have either : c = .float 1.5 ∨ c = .string "\\\"" := by
        simpa [floatWithQuote, Expr.children] using child
      rcases either with rfl | rfl
      · cases within_leaf deeper rfl
        exact readsBack_half
      · cases within_leaf deeper rfl
  obtain ⟨u, back, same, -⟩ := reparse_same reads printable_floatWithQuote floats
  exact ⟨reads, u, back, same⟩

end ScopedFormula
