import ScopedFormula.Proofs.Lexing
import ScopedFormula.Proofs.Tree

/- What the tokens of a text can be, and so what the nodes of a tree that is read from it can be. -/
namespace ScopedFormula

variable {p : Nat} {c d : Char} {cs : List Char} {ts : List Token} {t : Token} {e x : Expr}

def Token.Lexed (t : Token) : Prop :=
  match t.kind with
  | .eof => False
  | .ident => IsName t.lexeme
  | .string => ∃ s, t.literal = some (.string s) ∧ s.toList.getLast? ≠ some '\\'
  | .integer => ∃ n, t.literal = some (.integer n) ∧ 0 ≤ n.toInt
  | .float => ∃ w f, t.literal = some (.float (readFloat w f))
  | _ => t.literal = none

theorem single_lexed {kind : TokenKind} {s : String} (h : single? c = some kind) :
    Token.Lexed ⟨kind, s, p, none⟩ := by
  unfold single? at h
  split at h <;> first | contradiction | (cases h; rfl)

theorem double_lexed {kind : TokenKind} {s : String} (h : double? c d = some kind) :
    Token.Lexed ⟨kind, s, p, none⟩ := by
  unfold double? at h
  split at h <;> first | contradiction | (cases h; rfl)

theorem word_lexed (start : startsWord c) : Token.Lexed ⟨wordKind ((c :: cs).takeWhile inWord),
    String.ofList ((c :: cs).takeWhile inWord), p, none⟩ := by
  have taken : (c :: cs).takeWhile inWord = c :: cs.takeWhile inWord :=
    List.takeWhile_cons_of_pos (inWord_of_startsWord start)
  have name : wordKind ((c :: cs).takeWhile inWord) = .ident →
      IsName (String.ofList ((c :: cs).takeWhile inWord)) := by
    intro plain
    refine ⟨⟨c, cs.takeWhile inWord, ?_, start⟩, ?_, ?_⟩
    · rw [String.toList_ofList, taken]
    · rw [String.toList_ofList]
      exact fun d mem => List.mem_takeWhile_imp mem
    · rw [String.toList_ofList, plain]
  unfold wordKind at name ⊢
  cases found : keywords.lookup (((c :: cs).takeWhile inWord).map Char.toLower) with
  | none =>
    rw [found] at name
    exact name rfl
  | some kind =>
    obtain ⟨before, after, split, -⟩ := List.lookup_eq_some_iff.mp found
    have known : kind ∈ keywords.map Prod.snd := by
      rw [split]
      simp
    simp only [keywords, List.map_cons, List.map_nil, List.mem_cons, List.not_mem_nil, or_false]
      at known
    rcases known with rfl | rfl | rfl | rfl | rfl | rfl <;> rfl

theorem number_lexed (h : (readNumber p cs).found = .ok t) : t.Lexed := by
  unfold readNumber at h
  split at h
  · cases h
    exact ⟨_, _, rfl⟩
  · dsimp only at h
    split at h
    · rename_i fits
      cases h
      refine ⟨_, rfl, ?_⟩
      rw [Int64.toInt_ofNat_of_lt fits]
      omega
    · contradiction

theorem readLexeme_lexed (h : (readLexeme p c cs).found = .ok t) : t.Lexed := by
  unfold readLexeme at h
  split at h
  · rename_i kind n symbol
    cases h
    unfold symbol? at symbol
    split at symbol
    · rename_i double
      obtain ⟨d, -, double⟩ := Option.bind_eq_some_iff.mp double
      cases symbol
      exact double_lexed double
    · obtain ⟨k, single, same⟩ := Option.map_eq_some_iff.mp symbol
      cases same
      exact single_lexed single
  · split at h
    · unfold readString at h
      split at h
      · rename_i body inside
        cases h
        refine ⟨_, rfl, fun ends => (quoted_body inside).1 ?_⟩
        rw [String.toList_ofList] at ends
        rw [List.getLast?_cons, ends, Option.getD_some]
      · contradiction
    · split at h
      · exact number_lexed h
      · split at h
        · rename_i start
          cases h
          exact word_lexed start
        · contradiction

theorem more_of_lexed (h : t.Lexed) : t.kind ≠ .eof := by
  intro stop
  simp only [Token.Lexed, stop] at h

theorem tokens_lexed {cur : Cursor} (h : cur.tokens = .ok ts) :
    ∃ us p, ts = us ++ [endToken p] ∧ ∀ t ∈ us, t.Lexed := by
  obtain ⟨n, length⟩ : ∃ n, cur.rest.length = n := ⟨_, rfl⟩
  induction n using Nat.strong_induction_on generalizing cur ts with
  | _ n ih =>
    rw [tokens_eq] at h
    split at h
    · contradiction
    · rename_i t after next
      have read := next
      unfold Cursor.next at read
      split at read
      · cases read
        cases h
        exact ⟨[], _, rfl, by simp⟩
      · have lexed := readLexeme_lexed (Prod.ext_iff.mp read).1
        have more := more_of_lexed lexed
        rw [if_neg more] at h
        obtain ⟨us, rest, rfl⟩ := map_eq_ok h
        have shorter := next_rest_lt next more
        obtain ⟨vs, p, rfl, all⟩ := ih _ (by omega) rest rfl
        exact ⟨t :: vs, p, rfl, List.forall_mem_cons.mpr ⟨lexed, all⟩⟩

def Expr.Lexed : Expr → Prop
  | .string s => s.toList.getLast? ≠ some '\\'
  | .integer n => 0 ≤ n.toInt
  | .float x => ∃ w f, x = readFloat w f
  | .unary op _ | .binary _ op _ => op.literal = none
  | .name n | .member _ n => IsName n
  | _ => True

/-- Every node is what a source can hold. -/
def Legible (t : Expr) : Prop := ∀ x, Within x t → x.Lexed

theorem legible_child {c t : Expr} (h : Legible t) (child : c ∈ t.children) : Legible c :=
  fun x inside => h x (.down inside child)

theorem legible_of_children {t : Expr} (own : t.Lexed) (h : ∀ c ∈ t.children, Legible c) :
    Legible t := by
  intro x inside
  rcases within_iff.mp inside with rfl | ⟨c, child, deeper⟩
  · exact own
  · exact h c child x deeper

theorem separated_subset {a : Expr} {args : List Expr} (h : a ∈ args) :
    a.pieces ⊆ separated args := by
  induction args with
  | nil => simp at h
  | cons b bs ih =>
    cases bs with
    | nil =>
      obtain rfl : a = b := by simpa using h
      exact fun q mem => mem
    | cons c cs =>
      rw [separated]
      rcases List.mem_cons.mp h with rfl | later
      · exact List.subset_append_left _ _
      · intro q mem
        exact List.mem_append_right _ (List.mem_cons_of_mem _ (ih later mem))

theorem pieces_within {t : Expr} (h : Within x t) : x.pieces ⊆ t.pieces := by
  induction h with
  | here => exact fun q mem => mem
  | @down c t inside child ih =>
    refine fun q mem => ?_
    have part := ih mem
    cases t with
    | grouping inner =>
      obtain rfl : c = inner := by simpa [Expr.children] using child
      simp [Expr.pieces, part]
    | unary op operand =>
      obtain rfl : c = operand := by simpa [Expr.children] using child
      simp [Expr.pieces, part]
    | binary left op right =>
      have : c = left ∨ c = right := by simpa [Expr.children] using child
      rcases this with rfl | rfl <;> simp [Expr.pieces, part]
    | member owner n =>
      obtain rfl : c = owner := by simpa [Expr.children] using child
      simp [Expr.pieces, part]
    | call callee args =>
      rcases List.mem_cons.mp child with rfl | arg
      · simp [Expr.pieces, part]
      · have := separated_subset arg part
        simp [Expr.pieces, this]
    | _ => simp [Expr.children] at child

theorem levelled_child {c t : Expr} (h : WellLevelled t) (child : c ∈ t.children) :
    WellLevelled c := by
  cases h with
  | grouping inside => exact (List.mem_singleton.mp child) ▸ inside
  | unary known below tight => exact (List.mem_singleton.mp child) ▸ below
  | binary known before after loose tight =>
    rcases List.mem_cons.mp child with rfl | last
    · exact before
    · exact (List.mem_singleton.mp last) ▸ after
  | member below tight => exact (List.mem_singleton.mp child) ▸ below
  | call below tight inside =>
    rcases List.mem_cons.mp child with rfl | arg
    · exact below
    · exact inside c arg
  | _ => simp [Expr.children] at child

theorem levelled_within {t : Expr} (h : WellLevelled t) (inside : Within x t) : WellLevelled x := by
  induction inside with
  | here => exact h
  | down inside child ih => exact ih (levelled_child h child)

theorem forall₂_mem {α β : Type} {r : α → β → Prop} {as : List α} {bs : List β}
    (h : List.Forall₂ r as bs) {a : α} (mem : a ∈ as) : ∃ b ∈ bs, r a b := by
  induction h with
  | nil => simp at mem
  | cons head tail ih =>
    rcases List.mem_cons.mp mem with rfl | later
    · exact ⟨_, by simp, head⟩
    · obtain ⟨b, among, holds⟩ := ih later
      exact ⟨b, by simp [among], holds⟩

theorem legible_of_spells (levelled : WellLevelled e) (spelled : Spells e ts)
    (lexed : ∀ t ∈ ts, t.Lexed) : Legible e := by
  intro x inside
  have part := pieces_within inside
  have own := levelled_within levelled inside
  have token : ∀ q ∈ x.pieces, ∃ u, u.Lexed ∧ q.Is u := by
    intro q mem
    obtain ⟨u, among, is⟩ := forall₂_mem spelled (part mem)
    exact ⟨u, lexed u among, is⟩
  cases own with
  | string s =>
    obtain ⟨u, known, kind, value⟩ := token (.literal (.string s)) (by simp [Expr.pieces])
    simp only [Token.Lexed, kind, Literal.kind, value, Option.some.injEq, Literal.string.injEq,
      exists_eq_left'] at known
    exact known
  | integer n =>
    obtain ⟨u, known, kind, value⟩ := token (.literal (.integer n)) (by simp [Expr.pieces])
    simp only [Token.Lexed, kind, Literal.kind, value, Option.some.injEq, Literal.integer.injEq,
      exists_eq_left'] at known
    exact known
  | float y =>
    obtain ⟨u, known, kind, value⟩ := token (.literal (.float y)) (by simp [Expr.pieces])
    simp only [Token.Lexed, kind, Literal.kind, value, Option.some.injEq, Literal.float.injEq]
      at known
    exact known
  | name n =>
    obtain ⟨u, known, kind, lexeme⟩ := token (.name n) (by simp [Expr.pieces])
    simp only [Token.Lexed, kind, lexeme] at known
    exact known
  | @member owner n below tight =>
    obtain ⟨u, known, kind, lexeme⟩ := token (.name n) (by simp [Expr.pieces])
    simp only [Token.Lexed, kind, lexeme] at known
    exact known
  | @unary op operand level known below tight =>
    obtain ⟨u, lexed, rfl⟩ := token (.operator op) (by simp [Expr.pieces])
    rcases prefixLevel_cases known with ⟨kind, -⟩ | ⟨kind, -⟩ <;>
      (simp only [Token.Lexed, kind] at lexed; exact lexed)
  | @binary left right op level known before after loose tight =>
    obtain ⟨u, lexed, rfl⟩ := token (.operator op) (by simp [Expr.pieces])
    unfold Token.Lexed at lexed
    split at lexed <;> simp_all [binaryLevel?, Expr.Lexed]
  | _ => trivial

end ScopedFormula
