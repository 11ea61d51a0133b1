import ScopedFormula.Builtin
import ScopedFormula.Proofs.Value.NumberOrder

/- The extremes of an argument list. The search goes through it once and keeps the best value so
   far. Among values of one kind that is the first of the greatest, or of the least. Among mixed
   numbers equality is not transitive, yet what has been passed over never wins against a later
   best, because to be less than it is. -/
namespace ScopedFormula

variable {b : Builtin} {o : Ordering} {v w best : Value}

inductive Seeks : Builtin → Ordering → Prop
  | max : Seeks .max .gt
  | min : Seeks .min .lt

section
variable {α : Type} {make : α → Value} {cmp : α → α → Ordering} {behind : α → α → Prop}
  {x y z r : α} {xs seen : List α}

/-- Items that can be compared as values; x wins against y where cmp x y is o. An item that has
    lost is behind the best one, and stays so when the best one loses. -/
structure Contest (make : α → Value) (cmp : α → α → Ordering) (o : Ordering)
    (behind : α → α → Prop) : Prop where
  asked : ∀ x, (make x).exposes .comparer = true
  ordered : ∀ x y, (make x).order (make y) = .ok (cmp x y)
  beaten : ∀ x y, cmp y x = o → behind x y
  kept : ∀ x y z, behind x y → cmp z y = o → behind x z
  passed : ∀ x y z, cmp x y ≠ o → cmp z y = o → behind x z

/-- All that stands before the best item is behind it, and nothing after it wins. -/
def Best (cmp : α → α → Ordering) (o : Ordering) (behind : α → α → Prop) (xs : List α) (r : α) :
    Prop :=
  ∃ before after, xs = before ++ r :: after ∧ (∀ x ∈ before, behind x r) ∧
    ∀ x ∈ after, cmp x r ≠ o

theorem best_single : Best cmp o behind [r] r := ⟨[], [], rfl, nofun, nofun⟩

theorem best_wins (contest : Contest make cmp o behind) (h : Best cmp o behind seen r)
    (wins : cmp x r = o) : Best cmp o behind (seen ++ [x]) x := by
  obtain ⟨before, after, rfl, first, last⟩ := h
  refine ⟨_, [], rfl, fun y member => ?_, nofun⟩
  rw [List.mem_append, List.mem_cons] at member
  rcases member with early | rfl | late
  · exact contest.kept y r x (first y early) wins
  · exact contest.beaten y x wins
  · exact contest.passed y r x (last y late) wins

theorem best_stays (h : Best cmp o behind seen r) (loses : cmp x r ≠ o) :
    Best cmp o behind (seen ++ [x]) r := by
  obtain ⟨before, after, rfl, first, last⟩ := h
  refine ⟨before, after ++ [x], by rw [List.append_assoc, List.cons_append], first, ?_⟩
  intro y member
  rw [List.mem_append, List.mem_singleton] at member
  rcases member with early | rfl
  · exact last y early
  · exact loses

theorem extreme_step (asked : v.exposes .comparer = true) {o' : Ordering}
    (given : v.order best = .ok o') (vs : List Value) :
    extreme b (· == o) best (v :: vs) = extreme b (· == o) (if o' = o then v else best) vs := by
  simp only [extreme, asked, if_true, given]
  change extreme b _ (if (o' == o) = true then v else best) vs = _
  simp only [beq_iff_eq]

/-- The search ends with the best of what it has seen and what is left. -/
theorem extreme_best (contest : Contest make cmp o behind) (h : Best cmp o behind seen x) :
    ∃ r, extreme b (· == o) (make x) (xs.map make) = .ok (make r) ∧
      Best cmp o behind (seen ++ xs) r := by
  induction xs generalizing seen x with
  | nil => exact ⟨x, rfl, by rwa [List.append_nil]⟩
  | cons y ys ih =>
    rw [List.map_cons, extreme_step (contest.asked y) (contest.ordered y x), List.append_cons]
    split
    · rename_i wins
      exact ih (best_wins contest h wins)
    · rename_i loses
      exact ih (best_stays h loses)

theorem seeks_run (seeks : Seeks b o) (args : List Value) :
    b.run args = b.extremeOf (· == o) args := by
  cases seeks <;> rfl

theorem run_best (seeks : Seeks b o) (contest : Contest make cmp o behind) (some : xs ≠ []) :
    ∃ r, b.run (xs.map make) = .ok (make r) ∧ Best cmp o behind xs r := by
  obtain ⟨x, ys, rfl⟩ := List.exists_cons_of_ne_nil some
  rw [seeks_run seeks]
  exact extreme_best contest best_single

variable {κ : Type} [LinearOrder κ] {p q t : κ}

theorem compare_through (seeks : Seeks b o) (left : compare p q = o) (right : compare q t = o) :
    compare p t = o := by
  cases seeks with
  | max =>
    rw [compare_gt_iff_gt] at *
    exact right.trans left
  | min =>
    rw [compare_lt_iff_lt] at *
    exact left.trans right

theorem compare_past (seeks : Seeks b o) (loses : compare p q ≠ o) (wins : compare t q = o) :
    compare t p = o := by
  cases seeks with
  | max =>
    rw [compare_gt_iff_gt] at *
    rw [ne_eq, compare_gt_iff_gt, not_lt] at loses
    exact loses.trans_lt wins
  | min =>
    rw [compare_lt_iff_lt] at *
    rw [ne_eq, compare_lt_iff_lt, not_lt] at loses
    exact wins.trans_le loses

theorem keyed_contest {key : α → κ} (seeks : Seeks b o)
    (asked : ∀ x, (make x).exposes .comparer = true)
    (ordered : ∀ x y, (make x).order (make y) = .ok (compare (key x) (key y))) :
    Contest make (fun x y => compare (key x) (key y)) o
      (fun x y => compare (key y) (key x) = o) where
  asked := asked
  ordered := ordered
  beaten _ _ wins := wins
  kept _ _ _ behind wins := compare_through seeks wins behind
  passed _ _ _ loses wins := compare_past seeks loses wins

/-- The call gives the first of the items that none wins against, by their keys. -/
def GivesFirst (b : Builtin) (o : Ordering) (make : α → Value) (key : α → κ) : Prop :=
  ∀ xs : List α, xs ≠ [] → ∃ before r after, xs = before ++ r :: after ∧
    b.run (xs.map make) = .ok (make r) ∧ (∀ x ∈ before, compare (key r) (key x) = o) ∧
    ∀ x ∈ after, compare (key x) (key r) ≠ o

theorem gives_first {key : α → κ} (seeks : Seeks b o)
    (asked : ∀ x, (make x).exposes .comparer = true)
    (ordered : ∀ x y, (make x).order (make y) = .ok (compare (key x) (key y))) :
    GivesFirst b o make key := by
  intro xs some
  obtain ⟨r, run, before, after, same, first, last⟩ :=
    run_best seeks (keyed_contest seeks asked ordered) some
  exact ⟨before, r, after, same, run, first, last⟩

end

theorem weigh_through (seeks : Seeks b o) {u : Value} (left : weigh u v = o)
    (right : weigh v w = o) : weigh u w = o := by
  cases seeks with
  | max => exact weigh_gt_iff.mpr (less_trans (weigh_gt_iff.mp right) (weigh_gt_iff.mp left))
  | min => exact less_trans left right

theorem weigh_beaten (seeks : Seeks b o) (wins : weigh w v = o) : weigh v w ≠ o := by
  rw [weigh_swap w v, wins]
  cases seeks <;> decide

theorem weigh_tied (seeks : Seeks b o) (left : weigh v w ≠ o) (right : weigh w v ≠ o) :
    weigh v w = .eq := by
  rw [weigh_swap v w] at right
  revert left right
  cases seeks <;> cases weigh v w <;> decide

/-- Were a value that has lost to win against a later best, it would have won against the earlier
    one. -/
theorem numeric_contest (seeks : Seeks b o) :
    Contest (fun v : { v // Numeric v } => v.val) (fun v w => weigh v w) o
      (fun v w => weigh v w ≠ o) where
  asked v := by
    obtain ⟨v, numeric⟩ := v
    cases numeric <;> rfl
  ordered v w := order_numeric v.property w.property
  beaten _ _ wins := weigh_beaten seeks wins
  kept _ _ _ loses wins later := loses (weigh_through seeks later wins)
  passed _ _ _ loses wins later := loses (weigh_through seeks later wins)

theorem run_numeric (seeks : Seeks b o) {args : List Value} (some : args ≠ [])
    (numeric : ∀ v ∈ args, Numeric v) :
    ∃ r ∈ args, b.run args = .ok r ∧ ∀ v ∈ args, weigh v r ≠ o := by
  lift args to List { v // Numeric v } using numeric
  rw [ne_eq, List.map_eq_nil_iff] at some
  obtain ⟨r, run, before, after, rfl, first, last⟩ := run_best seeks (numeric_contest seeks) some
  refine ⟨r, List.mem_map_of_mem (by simp), run, fun v member => ?_⟩
  obtain ⟨v, listed, rfl⟩ := List.mem_map.mp member
  rw [List.mem_append, List.mem_cons] at listed
  rcases listed with early | rfl | late
  · exact first v early
  · exact fun wins => weigh_beaten seeks wins wins
  · exact last v late

def NoNumber (v : Value) : Prop := ∃ x, v = .float x ∧ x.isNaN = true

theorem toFloat_unknown (h : NoNumber v) : ∃ x, v.toFloat = .ok x ∧ x.isNaN = true := by
  obtain ⟨x, rfl, unknown⟩ := h
  exact ⟨x, rfl, unknown⟩

theorem toFloat_any (h : Numeric v ∨ NoNumber v) : ∃ x, v.toFloat = .ok x := by
  rcases h with ⟨⟨⟩⟩ | ⟨x, rfl, -⟩ <;> exact ⟨_, rfl⟩

theorem number_asked (h : Numeric v ∨ NoNumber v) : v.exposes .comparer = true := by
  rcases h with ⟨⟨⟩⟩ | ⟨x, rfl, -⟩ <;> rfl

def Unordered (r : Except Failure Value) : Prop :=
  ∃ x y, (x.isNaN = true ∨ y.isNaN = true) ∧ r = .error (.unordered x y)

theorem order_fails (hv : Numeric v ∨ NoNumber v) (hw : Numeric w ∨ NoNumber w)
    (unknown : NoNumber v ∨ NoNumber w) :
    ∃ x y, (x.isNaN = true ∨ y.isNaN = true) ∧ v.order w = .error (.unordered x y) := by
  obtain ⟨x, left⟩ := toFloat_any hv
  obtain ⟨y, right⟩ := toFloat_any hw
  have either : x.isNaN = true ∨ y.isNaN = true := by
    rcases unknown with first | second
    · obtain ⟨x', given, nan⟩ := toFloat_unknown first
      cases left.symm.trans given
      exact .inl nan
    · obtain ⟨y', given, nan⟩ := toFloat_unknown second
      cases right.symm.trans given
      exact .inr nan
  exact ⟨x, y, either, (answers_unknown left right either).1⟩

theorem extreme_unknown {vs : List Value} (hbest : Numeric best ∨ NoNumber best)
    (numbers : ∀ v ∈ vs, Numeric v ∨ NoNumber v)
    (unknown : vs ≠ [] ∧ NoNumber best ∨ ∃ v ∈ vs, NoNumber v) :
    Unordered (extreme b (· == o) best vs) := by
  induction vs generalizing best with
  | nil =>
    rcases unknown with ⟨some, -⟩ | ⟨v, listed, -⟩
    · contradiction
    · cases listed
  | cons v vs ih =>
    obtain ⟨hv, rest⟩ := List.forall_mem_cons.mp numbers
    by_cases either : NoNumber v ∨ NoNumber best
    · obtain ⟨x, y, nan, fails⟩ := order_fails hv hbest either
      refine ⟨x, y, nan, ?_⟩
      simp only [extreme, number_asked hv, if_true, fails]
      rfl
    · rw [not_or] at either
      have knownV := hv.resolve_right either.1
      have knownBest := hbest.resolve_right either.2
      rw [extreme_step (number_asked hv) (order_numeric knownV knownBest)]
      have left : ∃ v ∈ vs, NoNumber v := by
        rcases unknown with ⟨-, best⟩ | ⟨u, listed, nan⟩
        · exact (either.2 best).elim
        · rcases List.mem_cons.mp listed with rfl | later
          · exact (either.1 nan).elim
          · exact ⟨u, later, nan⟩
      split
      · exact ih hv rest (.inr left)
      · exact ih hbest rest (.inr left)

theorem run_unknown (seeks : Seeks b o) {args : List Value} (several : 2 ≤ args.length)
    (numbers : ∀ v ∈ args, Numeric v ∨ NoNumber v) (unknown : ∃ v ∈ args, NoNumber v) :
    Unordered (b.run args) := by
  rcases args with _ | ⟨v, _ | ⟨w, vs⟩⟩
  · contradiction
  · simp at several
  · obtain ⟨hv, rest⟩ := List.forall_mem_cons.mp numbers
    obtain ⟨u, listed, nan⟩ := unknown
    rw [seeks_run seeks]
    refine extreme_unknown hv rest ?_
    rcases List.mem_cons.mp listed with rfl | later
    · exact .inl ⟨List.cons_ne_nil w vs, nan⟩
    · exact .inr ⟨u, later, nan⟩

/-- Among integers, strings or dates max gives the first of the greatest and min the first of the
    least. Among integers and floats it is an argument that none wins against, and that of any other
    order of the arguments compares equal to it. One that is no number leaves the rest unordered. -/
theorem extreme_argument (seeks : Seeks b o) :
    GivesFirst b o Value.integer Int64.toInt ∧ GivesFirst b o Value.string id ∧
    GivesFirst b o Value.date Date.nanos ∧
    (∀ args : List Value, args ≠ [] → (∀ v ∈ args, Numeric v) → ∃ r ∈ args,
      b.run args = .ok r ∧ (∀ v ∈ args, ∃ o', v.order r = .ok o' ∧ o' ≠ o) ∧
      ∀ args', List.Perm args' args → ∃ r', b.run args' = .ok r' ∧ r.order r' = .ok .eq) ∧
    ∀ args : List Value, 2 ≤ args.length → (∀ v ∈ args, Numeric v ∨ NoNumber v) →
      (∃ v ∈ args, NoNumber v) → Unordered (b.run args) := by
  refine ⟨gives_first seeks (fun _ => rfl) fun _ _ => rfl,
    gives_first seeks (fun _ => rfl) fun _ _ => rfl,
    gives_first seeks (fun _ => rfl) fun _ _ => rfl, ?_, fun _ => run_unknown seeks⟩
  intro args some numeric
  obtain ⟨r, member, run, loses⟩ := run_numeric seeks some numeric
  refine ⟨r, member, run, fun v listed => ?_, fun args' perm => ?_⟩
  · exact ⟨_, order_numeric (numeric v listed) (numeric r member), loses v listed⟩
  · have some' : args' ≠ [] := fun none => some (List.perm_nil.mp (none ▸ perm).symm)
    obtain ⟨r', member', run', loses'⟩ :=
      run_numeric seeks some' fun v listed => numeric v (perm.mem_iff.mp listed)
    have tied : weigh r r' = .eq := weigh_tied seeks (loses' r (perm.mem_iff.mpr member))
      (loses r' (perm.mem_iff.mp member'))
    refine ⟨r', run', ?_⟩
    rw [order_numeric (numeric r member) (numeric r' (perm.mem_iff.mp member')), tied]

theorem extreme_argument_merged :
    (∃ r, Builtin.max.run [.float 9007199254740992, .integer 9007199254740993] = .ok r ∧
      ∃ o', (Value.integer 9007199254740993).order r = .ok o' ∧ o' ≠ .gt) ∧
    Unordered (Builtin.min.run [.integer 1, .float (0 / 0)]) := by
  have known : Float.isNaN 9007199254740992 = false := by decide +kernel
  have unknown : Float.isNaN (0 / 0) = true := by decide +kernel
  obtain ⟨-, -, -, mixed, -⟩ := extreme_argument .max
  obtain ⟨-, -, -, -, unordered⟩ := extreme_argument .min
  constructor
  · obtain ⟨r, -, run, loses, -⟩ :=
      mixed [.float 9007199254740992, .integer 9007199254740993] (List.cons_ne_nil _ _)
        (List.forall_mem_cons.mpr ⟨.float known, List.forall_mem_singleton.mpr (.integer _)⟩)
    exact ⟨r, run, loses (.integer 9007199254740993) (List.mem_cons_of_mem _ List.mem_cons_self)⟩
  · exact unordered [.integer 1, .float (0 / 0)] (le_refl _)
      (List.forall_mem_cons.mpr ⟨.inl (.integer 1),
        List.forall_mem_singleton.mpr (.inr ⟨_, rfl, unknown⟩)⟩)
      ⟨.float (0 / 0), List.mem_cons_of_mem _ List.mem_cons_self, _, rfl, unknown⟩

end ScopedFormula
