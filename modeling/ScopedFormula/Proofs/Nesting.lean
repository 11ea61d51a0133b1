import ScopedFormula.Proofs.Reprint

/- How deep an accepted tree can be. The parser counts the steps of a chain of calls and member
   accesses beside what the chain starts from, not on top of it: each level of the cap may hold a
   chain as long as the level, and the depths of the chains add up. -/
namespace ScopedFormula

def Expr.nests : Expr → Bool
  | .grouping _ | .unary .. | .member .. | .call .. => true
  | _ => false

inductive Path : Expr → List Expr → Prop where
  | leaf {e : Expr} (last : e.children = []) : Path e [e]
  | step {e c : Expr} {nodes : List Expr} (child : c ∈ e.children) (path : Path c nodes) :
      Path e (e :: nodes)

mutual
/-- The most nodes that nest on one path: the steps of a chain count on top of what they wrap. -/
def Expr.thickness : Expr → Nat
  | .grouping inner => inner.thickness + 1
  | .unary _ operand => operand.thickness + 1
  | .binary left _ right => max left.thickness right.thickness
  | .member owner _ => owner.thickness + 1
  | .call callee args => max callee.thickness (thicknessAll args) + 1
  | _ => 0

def thicknessAll : List Expr → Nat
  | [] => 0
  | e :: es => max e.thickness (thicknessAll es)
end

variable {e t o : Expr} {nodes : List Expr} {source : String}

theorem thickness_le_thicknessAll {a : Expr} {args : List Expr} (h : a ∈ args) :
    a.thickness ≤ thicknessAll args := by
  induction args with
  | nil => simp at h
  | cons b bs ih =>
    rw [thicknessAll]
    rcases List.mem_cons.mp h with rfl | later
    · exact Nat.le_max_left _ _
    · exact (ih later).trans (Nat.le_max_right _ _)

theorem thicknessAll_le {args : List Expr} {n : Nat} (h : ∀ a ∈ args, a.thickness ≤ n) :
    thicknessAll args ≤ n := by
  induction args with
  | nil => exact Nat.zero_le _
  | cons a as ih =>
    exact Nat.max_le.mpr ⟨h a (by simp), ih fun b mem => h b (by simp [mem])⟩

theorem thickness_child {c : Expr} (child : c ∈ e.children) :
    c.thickness + (if e.nests then 1 else 0) ≤ e.thickness := by
  cases e with
  | grouping inner | unary op inner | member inner n =>
    obtain rfl : c = inner := by simpa [Expr.children] using child
    exact le_refl _
  | binary left op right =>
    have either : c = left ∨ c = right := by simpa [Expr.children] using child
    rw [Expr.thickness]
    rcases either with rfl | rfl
    · exact Nat.le_max_left _ _
    · exact Nat.le_max_right _ _
  | call callee args =>
    rw [Expr.thickness]
    refine Nat.succ_le_succ ?_
    rcases List.mem_cons.mp child with rfl | arg
    · exact Nat.le_max_left _ _
    · exact (thickness_le_thicknessAll arg).trans (Nat.le_max_right _ _)
  | _ => simp [Expr.children] at child

theorem count_le_thickness (path : Path e nodes) : nodes.countP Expr.nests ≤ e.thickness := by
  induction path with
  | @leaf e last =>
    cases e <;> simp_all [Expr.children, Expr.nests]
  | step child path ih =>
    rw [List.countP_cons]
    exact (Nat.add_le_add_right ih _).trans (thickness_child child)

theorem exists_thicknessAll {a : Expr} (args : List Expr) :
    ∃ c ∈ a :: args, max a.thickness (thicknessAll args) ≤ c.thickness := by
  induction args generalizing a with
  | nil => exact ⟨a, by simp, by simp [thicknessAll]⟩
  | cons b bs ih =>
    obtain ⟨c, mem, most⟩ := ih (a := b)
    rw [thicknessAll]
    rcases le_total a.thickness c.thickness with less | more
    · exact ⟨c, List.mem_cons_of_mem _ mem, Nat.max_le.mpr ⟨less, most⟩⟩
    · exact ⟨a, by simp, Nat.max_le.mpr ⟨le_refl _, most.trans more⟩⟩

theorem exists_thickest_child (e : Expr) : e.children = [] ∧ e.thickness = 0 ∨
    ∃ c ∈ e.children, e.thickness ≤ c.thickness + (if e.nests then 1 else 0) := by
  cases e with
  | grouping inner | unary op inner | member inner n =>
    exact .inr ⟨inner, by simp [Expr.children], le_refl _⟩
  | binary left op right =>
    right
    rcases le_total left.thickness right.thickness with less | more
    · exact ⟨right, by simp [Expr.children], by simp [Expr.thickness, Expr.nests, less]⟩
    · exact ⟨left, by simp [Expr.children], by simp [Expr.thickness, Expr.nests, more]⟩
  | call callee args =>
    obtain ⟨c, mem, most⟩ := exists_thicknessAll (a := callee) args
    exact .inr ⟨c, mem, Nat.succ_le_succ most⟩
  | _ => exact .inl ⟨rfl, rfl⟩

theorem sizeOf_child {c : Expr} (child : c ∈ e.children) : sizeOf c < sizeOf e := by
  cases e with
  | call callee args =>
    rcases List.mem_cons.mp child with rfl | arg
    · simp only [Expr.call.sizeOf_spec]
      omega
    · have := List.sizeOf_lt_of_mem arg
      simp only [Expr.call.sizeOf_spec]
      omega
  | binary left op right =>
    have either : c = left ∨ c = right := by simpa [Expr.children] using child
    rcases either with rfl | rfl <;>
      (simp only [Expr.binary.sizeOf_spec]; omega)
  | grouping inner | unary op inner | member inner n =>
    obtain rfl : c = inner := by simpa [Expr.children] using child
    simp only [Expr.grouping.sizeOf_spec, Expr.unary.sizeOf_spec, Expr.member.sizeOf_spec]
    omega
  | _ => simp [Expr.children] at child

theorem exists_path (e : Expr) : ∃ nodes, Path e nodes ∧
    e.thickness ≤ nodes.countP Expr.nests := by
  rcases exists_thickest_child e with ⟨last, none⟩ | ⟨c, child, most⟩
  · exact ⟨_, .leaf last, none ▸ Nat.zero_le _⟩
  · have smaller := sizeOf_child child
    obtain ⟨nodes, path, count⟩ := exists_path c
    refine ⟨_, .step child path, ?_⟩
    rw [List.countP_cons]
    exact most.trans (Nat.add_le_add_right count _)
termination_by sizeOf e

theorem thickness_le_iff {n : Nat} :
    e.thickness ≤ n ↔ ∀ nodes, Path e nodes → nodes.countP Expr.nests ≤ n := by
  constructor
  · exact fun h nodes path => (count_le_thickness path).trans h
  · intro h
    obtain ⟨nodes, path, count⟩ := exists_path e
    exact count.trans (h nodes path)

def triangle : Nat → Nat
  | 0 => 0
  | n + 1 => triangle n + (n + 1)

theorem triangle_mono {m n : Nat} (h : m ≤ n) : triangle m ≤ triangle n := by
  induction h with
  | refl => exact le_refl _
  | step h ih => exact ih.trans (Nat.le_add_right _ _)

/-- A chain adds its steps to what the level below it can hold. -/
theorem thickness_bound (h : WellLevelled e) : e.thickness ≤ e.nest + triangle e.nest ∧
    (postfixLevel ≤ e.level → e.thickness ≤ e.steps + triangle e.nest) := by
  induction h with
  | grouping inside ih =>
    simp only [Expr.thickness, Expr.nest, Expr.steps, triangle]
    omega
  | unary known below tight ih =>
    simp only [Expr.thickness, Expr.nest, Expr.steps, triangle, Expr.level, known, Option.getD_some,
      postfixLevel]
    rcases prefixLevel_cases known with ⟨-, rfl⟩ | ⟨-, rfl⟩ <;> omega
  | @binary left right op level known before after loose tight first second =>
    have bounds := binaryLevel_bounds known
    have lower := triangle_mono (Nat.le_max_left left.nest right.nest)
    have upper := triangle_mono (Nat.le_max_right left.nest right.nest)
    simp only [Expr.thickness, Expr.nest, Expr.level, known, Option.getD_some, postfixLevel]
    omega
  | @member owner n below tight ih =>
    have chain := ih.2 tight
    have grow := triangle_mono (Nat.le_max_left owner.nest (owner.steps + 1))
    simp only [Expr.thickness, Expr.nest, Expr.steps]
    omega
  | @call callee args below tight inside ih each =>
    have chain := ih.2 tight
    have arguments : ∀ a ∈ args, a.thickness ≤ nestAll args + triangle (nestAll args) := by
      intro a mem
      have small := nest_le_nestAll mem
      have := triangle_mono small
      have := (each a mem).1
      omega
    have all := thicknessAll_le arguments
    have grow := triangle_mono
      (Nat.le_max_left callee.nest (callee.steps + 2 + nestAll args))
    -- the arguments are at least two levels down, so their own chains leave room for the call
    have deeper : triangle (nestAll args + 1) ≤
        triangle (max callee.nest (callee.steps + 2 + nestAll args)) := triangle_mono (by omega)
    rw [triangle] at deeper
    simp only [Expr.thickness, Expr.nest, Expr.steps]
    omega
  | _ => exact ⟨Nat.zero_le _, fun _ => Nat.zero_le _⟩

def Expr.wrapped? : Expr → Option Expr
  | .member owner _ => some owner
  | .call callee _ => some callee
  | _ => none

def Chained (t : Expr) : Prop :=
  ∀ x o, Within x t → x.wrapped? = some o → o.thickness ≤ o.steps

theorem chained_child {c : Expr} (h : Chained t) (child : c ∈ t.children) : Chained c :=
  fun x o inside => h x o (.down inside child)

theorem thickness_le_nest (levelled : WellLevelled e) (h : Chained e) : e.thickness ≤ e.nest := by
  induction levelled with
  | grouping inside ih | unary known below tight ih =>
    exact Nat.succ_le_succ (ih (chained_child h (by simp [Expr.children])))
  | binary known before after loose tight first second =>
    exact max_le_max (first (chained_child h (by simp [Expr.children])))
      (second (chained_child h (by simp [Expr.children])))
  | @member owner n below tight ih =>
    have short := h _ owner (.here _) rfl
    simp only [Expr.thickness, Expr.nest]
    omega
  | @call callee args below tight inside ih each =>
    have short := h _ callee (.here _) rfl
    have all : thicknessAll args ≤ nestAll args := thicknessAll_le fun a mem =>
      (each a mem (chained_child h (by simp [Expr.children, mem]))).trans (nest_le_nestAll mem)
    simp only [Expr.thickness, Expr.nest]
    omega
  | _ => exact Nat.zero_le _

mutual
theorem thickness_remake {f : Float → Expr} (leaf : ∀ x, (f x).thickness = 0) :
    ∀ e : Expr, (e.remake f).thickness = e.thickness
  | .float x => leaf x
  | .string _ | .integer _ | .boolean _ | .nil | .name _ => rfl
  | .grouping inner => congrArg (· + 1) (thickness_remake leaf inner)
  | .unary _ operand => congrArg (· + 1) (thickness_remake leaf operand)
  | .member owner _ => congrArg (· + 1) (thickness_remake leaf owner)
  | .binary left _ right => by
    rw [Expr.remake, Expr.thickness, Expr.thickness, thickness_remake leaf left,
      thickness_remake leaf right]
  | .call callee args => by
    rw [Expr.remake, Expr.thickness, Expr.thickness, thickness_remake leaf callee,
      thicknessAll_remake leaf args]

theorem thicknessAll_remake {f : Float → Expr} (leaf : ∀ x, (f x).thickness = 0) :
    ∀ es : List Expr, thicknessAll (remakeAll f es) = thicknessAll es
  | [] => rfl
  | e :: es => by
    rw [remakeAll, thicknessAll, thicknessAll, thickness_remake leaf e, thicknessAll_remake leaf es]
end

theorem thickness_of_same {u : Expr} (same : u.bare = t.remake printedFloat) :
    u.thickness = t.thickness := by
  have leaf : ∀ x, (printedFloat x).thickness = 0 := by
    intro x
    unfold printedFloat
    split <;> rfl
  have := congrArg Expr.thickness same
  rwa [Expr.bare, thickness_remake (fun _ => rfl), thickness_remake leaf] at this

def dotted : Nat → Expr → Expr
  | 0, e => e
  | k + 1, e => .member (dotted k e) "b"

def dots : Nat → String
  | 0 => ""
  | k + 1 => dots k ++ ".b"

def deepest : Nat → Expr
  | 0 => .name "a"
  | n + 1 => dotted (n + 1) (.grouping (deepest n))

structure Owner (e : Expr) : Prop where
  levelled : WellLevelled e
  tight : postfixLevel ≤ e.level
  legible : Legible e
  printable : Printable e
  other : ∀ n, e ≠ .integer n

theorem owner_name {n : String} (name : IsName n) : Owner (.name n) where
  levelled := .name n
  tight := Nat.le_succ postfixLevel
  legible := legible_of_children name (by simp [Expr.children])
  printable := printable_leaf rfl (by simp)
  other := by simp

theorem owner_grouping (h : Owner e) : Owner (.grouping e) where
  levelled := .grouping h.levelled
  tight := Nat.le_succ postfixLevel
  legible := legible_of_children trivial (by simpa [Expr.children] using h.legible)
  printable := by
    refine printable_iff.mpr ⟨by simp, by simp, ?_⟩
    simpa [Expr.children] using h.printable
  other := by simp

theorem owner_member {n : String} (h : Owner e) (name : IsName n) : Owner (.member e n) where
  levelled := .member h.levelled h.tight
  tight := le_refl _
  legible := legible_of_children name (by simpa [Expr.children] using h.legible)
  printable := by
    refine printable_iff.mpr ⟨by simp, ?_, ?_⟩
    · rintro k m same
      cases same
      exact h.other k rfl
    · simpa [Expr.children] using h.printable
  other := by simp

theorem isName_a : IsName "a" :=
  ⟨⟨'a', [], rfl, by decide⟩, List.all_eq_true.mp (by decide), by decide⟩

theorem isName_b : IsName "b" :=
  ⟨⟨'b', [], rfl, by decide⟩, List.all_eq_true.mp (by decide), by decide⟩

theorem owner_dotted (h : Owner e) : ∀ k, Owner (dotted k e)
  | 0 => h
  | k + 1 => owner_member (owner_dotted h k) isName_b

theorem owner_deepest : ∀ n, Owner (deepest n)
  | 0 => owner_name isName_a
  | n + 1 => owner_dotted (owner_grouping (owner_deepest n)) (n + 1)

theorem steps_dotted : ∀ k, (dotted k e).steps = e.steps + k
  | 0 => rfl
  | k + 1 => congrArg (· + 1) (steps_dotted k)

theorem thickness_dotted : ∀ k, (dotted k e).thickness = e.thickness + k
  | 0 => rfl
  | k + 1 => congrArg (· + 1) (thickness_dotted k)

theorem nest_dotted : ∀ k, (dotted k e).nest ≤ max e.nest (e.steps + k)
  | 0 => Nat.le_max_left _ _
  | k + 1 => by
    have := nest_dotted k
    simp only [dotted, Expr.nest, steps_dotted]
    omega

theorem print_dotted : ∀ k, (dotted k e).print = e.print ++ dots k
  | 0 => by simp [dotted, dots]
  | k + 1 => by simp [dotted, dots, Expr.print, print_dotted k, String.append_assoc]

theorem nest_deepest (n : Nat) : (deepest n).nest ≤ n := by
  induction n with
  | zero => exact le_refl _
  | succ n ih =>
    refine (nest_dotted (n + 1)).trans ?_
    simp only [Expr.nest, Expr.steps]
    omega

theorem thickness_deepest (n : Nat) : (deepest n).thickness = n + triangle n := by
  induction n with
  | zero => rfl
  | succ n ih =>
    rw [deepest, thickness_dotted, Expr.thickness, ih, triangle]
    omega

theorem exists_read (h : Owner e) (room : e.nest ≤ maxDepth) :
    ∃ u, read e.print = .ok u ∧ u.thickness = e.thickness := by
  obtain ⟨u, reads, same⟩ := read_print h.levelled room h.legible h.printable
  exact ⟨u, reads, thickness_of_same same⟩

def NestsWithin (n : Nat) (t : Expr) : Prop :=
  ∀ nodes, Path t nodes → nodes.countP Expr.nests ≤ n

theorem thickness_accepted (reads : read source = .ok t) : t.thickness ≤ 8384 := by
  have most : maxDepth + triangle maxDepth = 8384 := by decide +kernel
  obtain ⟨levelled, room⟩ := levelled_of_accepted ⟨source, reads⟩
  have := (thickness_bound levelled).1
  have := triangle_mono room
  omega

theorem exists_thickest : ∃ source t, read source = .ok t ∧ ¬ NestsWithin 8383 t := by
  have most : maxDepth + triangle maxDepth = 8384 := by decide +kernel
  obtain ⟨u, reads, thick⟩ := exists_read (owner_deepest maxDepth) (nest_deepest maxDepth)
  rw [thickness_deepest, most] at thick
  refine ⟨_, u, reads, fun few => ?_⟩
  have := thickness_le_iff.mpr few
  omega

/-- The paths of an accepted tree keep to the cap exactly if the tree is not thicker, as when
    nothing inside a chain is deeper than the chain is long. In any case they keep to 8384, and not
    always to less. -/
theorem nesting_bound (reads : read source = .ok t) :
    (NestsWithin maxDepth t ↔ t.thickness ≤ maxDepth) ∧ (Chained t → NestsWithin maxDepth t) ∧
      NestsWithin 8384 t ∧ ∃ source t, read source = .ok t ∧ ¬ NestsWithin 8383 t := by
  obtain ⟨levelled, room⟩ := levelled_of_accepted ⟨source, reads⟩
  refine ⟨thickness_le_iff.symm, fun chained => ?_, ?_, exists_thickest⟩
  · exact thickness_le_iff.mp ((thickness_le_nest levelled chained).trans room)
  · exact thickness_le_iff.mp (thickness_accepted reads)

theorem nesting_dotted : read "(a).b" = .ok (dotted 1 (.grouping (.name "a"))) ∧
    NestsWithin maxDepth (dotted 1 (.grouping (.name "a"))) := by
  have reads : read "(a).b" = .ok (dotted 1 (.grouping (.name "a"))) := by cbv
  exact ⟨reads, (nesting_bound reads).1.mpr (by decide)⟩

/-- A chain of 128 member accesses on a grouping. -/
theorem deeper_than_cap : ∃ t nodes, read ("(a)" ++ dots 128) = .ok t ∧ Path t nodes ∧
    nodes.countP Expr.nests = 129 := by
  have owner := owner_dotted (owner_grouping (owner_name isName_a)) 128
  obtain ⟨u, reads, thick⟩ := exists_read owner ((nest_dotted 128).trans (by decide))
  rw [thickness_dotted] at thick
  rw [print_dotted] at reads
  obtain ⟨nodes, path, count⟩ := exists_path u
  have := count_le_thickness path
  refine ⟨u, nodes, reads, path, ?_⟩
  simp only [Expr.thickness] at thick
  omega

end ScopedFormula
