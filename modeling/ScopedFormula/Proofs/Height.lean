import Mathlib.Data.List.MinMax
import ScopedFormula.Proofs.Nesting

/- How high an accepted tree can be, every node counted. A row of binary operators is read in a
   loop that the cap does not count, and each of its operators stands on top of those before it:
   rows make a tree as high as the source is long, and nothing else makes it high. -/
namespace ScopedFormula

def HeightWithin (n : Nat) (t : Expr) : Prop :=
  ∀ nodes, Path t nodes → nodes.length ≤ n

def Expr.row : Expr → Nat
  | .binary left _ _ => left.row + 1
  | _ => 0

def Rows (k : Nat) (t : Expr) : Prop := ∀ x, Within x t → x.row ≤ k

mutual
/-- The height when an operator does not stand on its left operand, but beside it. -/
def Expr.foldHeight : Expr → Nat
  | .grouping inner => inner.foldHeight + 1
  | .unary _ operand => operand.foldHeight + 1
  | .binary left _ right => max left.foldHeight (right.foldHeight + 1)
  | .member owner _ => owner.foldHeight + 1
  | .call callee args => max callee.foldHeight (foldHeightAll args) + 1
  | _ => 1

def foldHeightAll : List Expr → Nat
  | [] => 0
  | e :: es => max e.foldHeight (foldHeightAll es)
end

variable {e t u : Expr} {nodes : List Expr} {source : String} {ts : List Token}

theorem foldHeightAll_eq (args : List Expr) :
    foldHeightAll args = (args.map Expr.foldHeight).foldr max ⊥ := by
  induction args with
  | nil => rfl
  | cons a as ih =>
    rw [foldHeightAll, ih]
    rfl

/-- Below a node that nests any level may follow, and each operand on the right is of a higher
    level than its operator: there are at most nine in between. -/
theorem foldHeight_le (h : WellLevelled e) :
    e.foldHeight ≤ 9 * e.thickness + (9 - e.level) + 1 := by
  induction h with
  | grouping inside ih =>
    have := level_pos inside
    simp only [Expr.foldHeight, Expr.thickness]
    omega
  | unary known below tight ih =>
    have := level_pos below
    simp only [Expr.foldHeight, Expr.thickness]
    omega
  | @binary left right op level known before after loose tight first second =>
    have bounds := binaryLevel_bounds known
    simp only [Expr.foldHeight, Expr.thickness, Expr.level, known, Option.getD_some]
    omega
  | member below tight ih =>
    have := level_pos below
    simp only [Expr.foldHeight, Expr.thickness]
    omega
  | @call callee args below tight inside ih each =>
    have lower : ∀ a ∈ args, a.foldHeight ≤ 9 * thicknessAll args + 9 := by
      intro a mem
      have := level_pos (inside a mem)
      have := thickness_le_thicknessAll mem
      have := each a mem
      omega
    have highest : foldHeightAll args ≤ 9 * thicknessAll args + 9 := by
      rw [foldHeightAll_eq]
      exact List.max_le_of_forall_le _ _ (List.forall_mem_map.mpr lower)
    have := level_pos below
    simp only [Expr.foldHeight, Expr.thickness]
    omega
  | _ =>
    simp only [Expr.foldHeight]
    omega

theorem row_of_leaf (leaf : e.children = []) : e.row = 0 ∧ e.foldHeight = 1 := by
  cases e <;> simp_all [Expr.children, Expr.row, Expr.foldHeight]

theorem row_child {c : Expr} (child : c ∈ e.children) :
    e.row = c.row + 1 ∧ c.foldHeight ≤ e.foldHeight ∨ c.foldHeight + 1 ≤ e.foldHeight := by
  cases e with
  | grouping inner | unary op inner | member inner n =>
    obtain rfl : c = inner := by simpa [Expr.children] using child
    exact .inr (le_refl _)
  | binary left op right =>
    have either : c = left ∨ c = right := by simpa [Expr.children] using child
    rw [Expr.foldHeight]
    rcases either with rfl | rfl
    · exact .inl ⟨rfl, Nat.le_max_left _ _⟩
    · exact .inr (Nat.le_max_right _ _)
  | call callee args =>
    right
    rw [Expr.foldHeight]
    refine Nat.succ_le_succ ?_
    rcases List.mem_cons.mp child with rfl | arg
    · exact Nat.le_max_left _ _
    · rw [foldHeightAll_eq]
      exact (List.le_max_of_le (List.mem_map_of_mem arg) (le_refl _)).trans (Nat.le_max_right _ _)
  | _ => simp [Expr.children] at child

theorem path_length_rows {k : Nat} (path : Path e nodes) (rows : Rows k e) :
    nodes.length + k ≤ e.foldHeight * (k + 1) + e.row := by
  induction path with
  | leaf last =>
    obtain ⟨none, one⟩ := row_of_leaf last
    simp only [none, one, List.length_singleton]
    omega
  | @step e c nodes child path ih =>
    have below : Rows k c := fun x inside => rows x (.down inside child)
    have shorter := ih below
    have short := below c (.here c)
    rw [List.length_cons]
    rcases row_child child with ⟨longer, lower⟩ | lower
    · have := Nat.mul_le_mul_right (k + 1) lower
      omega
    · have := Nat.mul_le_mul_right (k + 1) lower
      rw [Nat.succ_mul] at this
      omega

theorem heightWithin_rows {k : Nat} (reads : read source = .ok t) (rows : Rows k t) :
    HeightWithin (75465 * (k + 1)) t := by
  intro nodes path
  obtain ⟨levelled, -⟩ := levelled_of_accepted ⟨source, reads⟩
  have most : t.foldHeight ≤ 75465 := by
    have := foldHeight_le levelled
    have := thickness_accepted reads
    have := level_pos levelled
    omega
  have := path_length_rows path rows
  have := rows t (.here t)
  have := Nat.mul_le_mul_right (k + 1) most
  omega

theorem length_le_separated {a : Expr} {args : List Expr} (h : a ∈ args) :
    a.pieces.length ≤ (separated args).length := by
  induction args with
  | nil => simp at h
  | cons b bs ih =>
    cases bs with
    | nil =>
      obtain rfl : a = b := by simpa using h
      exact le_refl _
    | cons d ds =>
      rw [separated, List.length_append, List.length_cons]
      rcases List.mem_cons.mp h with rfl | later
      · omega
      · have := ih later
        omega

theorem pieces_child {c : Expr} (child : c ∈ e.children) :
    c.pieces.length + 1 ≤ e.pieces.length := by
  cases e with
  | grouping inner | unary op inner | member inner n =>
    obtain rfl : c = inner := by simpa [Expr.children] using child
    simp [Expr.pieces]
  | binary left op right =>
    have either : c = left ∨ c = right := by simpa [Expr.children] using child
    rcases either with rfl | rfl <;>
      (simp only [Expr.pieces, List.length_append, List.length_cons]; omega)
  | call callee args =>
    simp only [Expr.pieces, List.length_append, List.length_cons]
    rcases List.mem_cons.mp child with rfl | arg
    · omega
    · have := length_le_separated arg
      omega
  | _ => simp [Expr.children] at child

theorem path_length_pieces (levelled : WellLevelled e) (path : Path e nodes) :
    nodes.length ≤ e.pieces.length := by
  induction path with
  | leaf last =>
    obtain ⟨p, ps, pieces, -⟩ := pieces_head levelled
    simp [pieces]
  | step child path ih =>
    have := ih (levelled_child levelled child)
    have := pieces_child child
    rw [List.length_cons]
    omega

theorem tokens_length {cur : Cursor} (h : cur.tokens = .ok ts) :
    ts.length ≤ cur.rest.length + 1 := by
  obtain ⟨n, length⟩ : ∃ n, cur.rest.length = n := ⟨_, rfl⟩
  induction n using Nat.strong_induction_on generalizing cur ts with
  | _ n ih =>
    rw [tokens_eq] at h
    split at h
    · contradiction
    · rename_i t after next
      split at h
      · cases h
        simp
      · rename_i more
        obtain ⟨us, rest, rfl⟩ := map_eq_ok h
        have shorter := next_rest_lt next more
        have := ih _ (by omega) rest rfl
        rw [List.length_cons]
        omega

theorem heightWithin_source (reads : read source = .ok t) : HeightWithin source.length t := by
  intro nodes path
  obtain ⟨ts, p, scanned, -, levelled, -, spelled⟩ := read_eq_ok reads
  have few := tokens_length scanned
  have same := List.Forall₂.length_eq spelled
  have := path_length_pieces levelled path
  rw [List.length_append, List.length_singleton] at few
  simp only [Cursor.start, String.length_toList] at few
  omega

def summed : Nat → Expr
  | 0 => .name "a"
  | n + 1 => .binary (summed n) ⟨.plus, "+", 0, none⟩ (.name "a")

theorem level_summed : ∀ n, 6 ≤ (summed n).level
  | 0 => by decide
  | _ + 1 => le_refl _

theorem levelled_summed : ∀ n, WellLevelled (summed n)
  | 0 => .name _
  | n + 1 => .binary rfl (levelled_summed n) (.name _) (level_summed n) (by decide)

theorem nest_summed : ∀ n, (summed n).nest = 0
  | 0 => rfl
  | n + 1 => by rw [summed, Expr.nest, nest_summed n]; rfl

theorem legible_summed : ∀ n, Legible (summed n)
  | 0 => (owner_name isName_a).legible
  | n + 1 => legible_of_children rfl (by
      simpa [summed, Expr.children] using ⟨legible_summed n, (owner_name isName_a).legible⟩)

theorem printable_summed : ∀ n, Printable (summed n)
  | 0 => (owner_name isName_a).printable
  | n + 1 => printable_iff.mpr ⟨by simp [summed], by simp [summed], by
      simpa [summed, Expr.children] using ⟨printable_summed n, (owner_name isName_a).printable⟩⟩

theorem path_summed {f : Float → Expr} (n : Nat) (same : u.bare = (summed n).remake f) :
    ∃ nodes, Path u nodes ∧ nodes.length = n + 1 := by
  induction n generalizing u with
  | zero =>
    refine ⟨[u], .leaf ?_, rfl⟩
    cases u <;> simp_all [Expr.bare, summed, Expr.remake, Expr.children]
  | succ n ih =>
    cases u with
    | binary left op right =>
      obtain ⟨before, -, -⟩ : left.bare = (summed n).remake f ∧ _ ∧ _ := by
        simpa [Expr.bare, summed, Expr.remake] using same
      obtain ⟨nodes, path, length⟩ := ih before
      refine ⟨_ :: nodes, .step (by simp [Expr.children]) path, ?_⟩
      rw [List.length_cons, length]
    | _ => simp [Expr.bare, summed, Expr.remake] at same

theorem read_summed (n : Nat) : ∃ u nodes, read (summed n).print = .ok u ∧ Path u nodes ∧
    nodes.length = n + 1 := by
  have room : (summed n).nest ≤ maxDepth := by
    rw [nest_summed]
    exact Nat.zero_le _
  obtain ⟨u, reads, same⟩ :=
    read_print (levelled_summed n) room (legible_summed n) (printable_summed n)
  obtain ⟨nodes, path, length⟩ := path_summed n same
  exact ⟨u, nodes, reads, path, length⟩

theorem exists_higher (n : Nat) : ∃ source t, read source = .ok t ∧ ¬ HeightWithin n t := by
  obtain ⟨u, nodes, reads, path, length⟩ := read_summed n
  refine ⟨_, u, reads, fun low => ?_⟩
  have := low nodes path
  omega

/-- An accepted tree is not higher than its source is long, and while no row of binary operators
    has more than k of them its height keeps to a bound that depends on k alone. Over all sources
    there is no bound. -/
theorem height_bound (reads : read source = .ok t) : HeightWithin source.length t ∧
    (∀ k, Rows k t → HeightWithin (75465 * (k + 1)) t) ∧
      ∀ n, ∃ source t, read source = .ok t ∧ ¬ HeightWithin n t :=
  ⟨heightWithin_source reads, fun _ => heightWithin_rows reads, exists_higher⟩

def difference : Expr :=
  .binary (.binary (.name "a") ⟨.minus, "-", 1, none⟩ (.name "b")) ⟨.minus, "-", 3, none⟩
    (.grouping (.name "c"))

theorem height_difference : read "a-b-(c)" = .ok difference ∧ HeightWithin 7 difference := by
  have reads : read "a-b-(c)" = .ok difference := by cbv
  exact ⟨reads, (height_bound reads).1⟩

theorem height_unbounded : ¬ ∃ n, ∀ source t, read source = .ok t → HeightWithin n t := by
  rintro ⟨n, low⟩
  obtain ⟨source, t, reads, high⟩ := exists_higher n
  exact high (low source t reads)

end ScopedFormula
