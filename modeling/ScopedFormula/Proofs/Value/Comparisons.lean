import ScopedFormula.Eval
import ScopedFormula.Proofs.Number.Promotion

/- The comparison operators agree with each other. The four relational ones read the same answer,
   and it goes with that of equality wherever two values have an order. -/
namespace ScopedFormula

variable {a b : Value} {x y : Float} {k : TokenKind} {o : Ordering} {e : Failure}

theorem binary_relation {holds : Ordering → Bool} (given : relation? k = some holds) :
    a.binary k b = (a.order b).map fun o => .boolean (holds o) := by
  have apart : arithmetic? k = none := by
    revert given
    cases k <;> simp [relation?, arithmetic?]
  simp only [Value.binary, apart, given]
  cases a.order b <;> rfl

theorem binary_eq : a.binary .eq b = (a.equals "==" b).map Value.boolean := by
  change (a.equals "==" b >>= fun same => .ok (.boolean (same == true)) : Except Failure Value) = _
  simp only [beq_true]
  cases a.equals "==" b <;> rfl

theorem binary_notEq :
    a.binary .notEq b = (a.equals "!=" b).map fun same => Value.boolean !same := by
  change (a.equals "!=" b >>= fun same => .ok (.boolean (same == false)) : Except Failure Value) = _
  simp only [beq_false]
  cases a.equals "!=" b <;> rfl

def Related (a b : Value) (lt ltEq gt gtEq : Except Failure Value) : Prop :=
  a.binary .lt b = lt ∧ a.binary .ltEq b = ltEq ∧ a.binary .gt b = gt ∧ a.binary .gtEq b = gtEq

theorem related_error (fails : a.order b = .error e) :
    Related a b (.error e) (.error e) (.error e) (.error e) := by
  refine ⟨?_, ?_, ?_, ?_⟩ <;> rw [binary_relation rfl, fails] <;> rfl

theorem related_ok (given : a.order b = .ok o) :
    Related a b (.ok (.boolean (o == .lt))) (.ok (.boolean (o != .gt)))
      (.ok (.boolean (o == .gt))) (.ok (.boolean (o != .lt))) := by
  refine ⟨?_, ?_, ?_, ?_⟩ <;> rw [binary_relation rfl, given] <;> rfl

def Equated (a b : Value) (eq notEq : Except Failure Value) : Prop :=
  a.binary .eq b = eq ∧ a.binary .notEq b = notEq

theorem equated_ok {same : Bool} (given : ∀ symbol, a.equals symbol b = .ok same) :
    Equated a b (.ok (.boolean same)) (.ok (.boolean !same)) := by
  rw [Equated, binary_eq, binary_notEq, given, given]
  exact ⟨rfl, rfl⟩

theorem equated_error (fails : ∀ symbol, ∃ e, a.equals symbol b = .error e) :
    ∃ e e', Equated a b (.error e) (.error e') := by
  obtain ⟨e, left⟩ := fails "=="
  obtain ⟨e', right⟩ := fails "!="
  refine ⟨e, e', ?_, ?_⟩
  · rw [binary_eq, left]
    rfl
  · rw [binary_notEq, right]
    rfl

theorem equals_custom (c : Custom) (symbol : String) (b : Value) :
    (Value.custom c).equals symbol b =
      if c.behavior.exposed.contains .equalityComparer then c.behavior.equality b.datum
      else .error (.notSupported symbol c.name b.kind) := by
  cases b <;> rfl

theorem equals_symbol (a b : Value) : (∃ same, ∀ symbol, a.equals symbol b = .ok same) ∨
    ∀ symbol, ∃ e, a.equals symbol b = .error e := by
  cases a with
  | context => exact .inr fun _ => ⟨_, rfl⟩
  | custom c =>
    simp only [equals_custom]
    split
    · cases c.behavior.equality b.datum with
      | error e => exact .inr fun _ => ⟨e, rfl⟩
      | ok same => exact .inl ⟨same, fun _ => rfl⟩
    · exact .inr fun _ => ⟨_, rfl⟩
  | _ => cases b <;> exact .inl ⟨_, fun _ => rfl⟩

inductive Numeric : Value → Prop
  | integer (n : Int64) : Numeric (.integer n)
  | float {x : Float} (known : x.isNaN = false) : Numeric (.float x)

/-- A number as the float that it is beside a float. -/
def rank : Value → ℚ
  | .integer n => floatNumber (nearestFloat n)
  | .float x => floatNumber x
  | _ => 0

/-- Two integers are compared exactly, any other two numbers as floats. -/
def weigh : Value → Value → Ordering
  | .integer n, .integer m => compare n.toInt m.toInt
  | a, b => compare (rank a) (rank b)

theorem order_numeric (ha : Numeric a) (hb : Numeric b) : a.order b = .ok (weigh a b) := by
  cases ha with
  | integer n =>
    cases hb with
    | integer m => rfl
    | float known => exact orderFloats_known (nearestFloat_known n) known
  | float known =>
    cases hb with
    | integer m => exact orderFloats_known known (nearestFloat_known m)
    | float known' => exact orderFloats_known known known'

theorem beq_iff_toInt {n m : Int64} : (n == m) = true ↔ n.toInt = m.toInt := by
  rw [beq_iff_eq, Int64.toInt_inj]

theorem ok_tie {α : Type} [LinearOrder α] {p q : α} {same : Bool} (iff : same = true ↔ p = q) :
    (.ok same : Except Failure Bool) = .ok (compare p q == .eq) := by
  rw [Except.ok.injEq, Bool.eq_iff_iff, beq_iff_eq, compare_eq_iff_eq, iff]

theorem equals_numeric (ha : Numeric a) (hb : Numeric b) (symbol : String) :
    a.equals symbol b = .ok (weigh a b == .eq) := by
  cases ha with
  | integer n =>
    cases hb with
    | integer m => exact ok_tie beq_iff_toInt
    | float known => exact ok_tie (beq_iff_number (nearestFloat_known n) known)
  | float known =>
    cases hb with
    | integer m => exact ok_tie (beq_iff_number known (nearestFloat_known m))
    | float known' => exact ok_tie (beq_iff_number known known')

theorem weigh_swap (a b : Value) : weigh b a = (weigh a b).swap := by
  cases a <;> cases b <;> exact Std.OrientedOrd.eq_swap

/-- Two values of one kind that has an order; the numbers count as one kind. -/
inductive Comparable : Value → Value → Prop
  | numbers {a b : Value} (ha : Numeric a) (hb : Numeric b) : Comparable a b
  | strings (s t : String) : Comparable (.string s) (.string t)
  | dates (d e : Date) : Comparable (.date d) (.date e)

theorem comparable_symm (h : Comparable a b) : Comparable b a := by
  cases h with
  | numbers ha hb => exact .numbers hb ha
  | strings s t => exact .strings t s
  | dates d e => exact .dates e d

theorem order_swap (h : Comparable a b) (given : a.order b = .ok o) :
    b.order a = .ok o.swap := by
  cases h with
  | numbers ha hb =>
    rw [order_numeric ha hb] at given
    cases given
    rw [order_numeric hb ha, weigh_swap a b]
  | strings s t =>
    cases given
    exact congrArg Except.ok Std.OrientedOrd.eq_swap
  | dates d e =>
    cases given
    exact congrArg Except.ok Std.OrientedOrd.eq_swap

/-- Equality is the tie of the order. -/
theorem comparable_order (h : Comparable a b) :
    ∃ o, a.order b = .ok o ∧ ∀ symbol, a.equals symbol b = .ok (o == .eq) := by
  cases h with
  | numbers ha hb => exact ⟨_, order_numeric ha hb, equals_numeric ha hb⟩
  | strings s t => exact ⟨_, rfl, fun _ => ok_tie beq_iff_eq⟩
  | dates d e => exact ⟨_, rfl, fun _ => ok_tie beq_iff_eq⟩

theorem toFloat_given (given : a.toFloat = .ok x) :
    (∃ n, a = .integer n ∧ x = nearestFloat n) ∨ a = .float x := by
  cases a with
  | integer n => exact .inl ⟨n, rfl, (Except.ok.inj given).symm⟩
  | float x' => exact .inr (congrArg Value.float (Except.ok.inj given))
  | _ => cases given

theorem answers_unknown (left : a.toFloat = .ok x) (right : b.toFloat = .ok y)
    (unknown : x.isNaN = true ∨ y.isNaN = true) :
    a.order b = .error (.unordered x y) ∧ ∀ symbol, a.equals symbol b = .ok false := by
  have order := orderFloats_unknown unknown
  have equal : ∀ _ : String, (.ok (x == y) : Except Failure Bool) = .ok false :=
    fun _ => congrArg Except.ok (beq_unknown unknown)
  rcases toFloat_given left with ⟨n, rfl, rfl⟩ | rfl <;>
    rcases toFloat_given right with ⟨m, rfl, rfl⟩ | rfl
  · rw [nearestFloat_known, nearestFloat_known] at unknown
    simp at unknown
  · exact ⟨order, equal⟩
  · exact ⟨order, equal⟩
  · exact ⟨order, equal⟩

def Compared (a b : Value) (less same more : Bool) : Prop :=
  a.binary .lt b = .ok (.boolean less) ∧ a.binary .eq b = .ok (.boolean same) ∧
    a.binary .gt b = .ok (.boolean more)

theorem compared_ok (h : Comparable a b) (given : a.order b = .ok o) :
    Compared a b (o == .lt) (o == .eq) (o == .gt) := by
  obtain ⟨o', ordered, equal⟩ := comparable_order h
  cases given.symm.trans ordered
  obtain ⟨less, -, more, -⟩ := related_ok given
  exact ⟨less, (equated_ok equal).1, more⟩

/-- Any two values get one answer from the four relational operators and one from == and !=. Where
    the two have an order just one of <, == and > holds, and the mirrored one holds the other way
    round; beside what is no number there is no order, only inequality. -/
theorem comparison_coherent (a b : Value) :
    ((∃ e, Related a b (.error e) (.error e) (.error e) (.error e)) ∨
      ∃ less more : Bool, (less && more) = false ∧
        Related a b (.ok (.boolean less)) (.ok (.boolean !more)) (.ok (.boolean more))
          (.ok (.boolean !less))) ∧
    ((∃ e e', Equated a b (.error e) (.error e')) ∨
      ∃ same : Bool, Equated a b (.ok (.boolean same)) (.ok (.boolean !same))) ∧
    (Comparable a b → ∃ less same more : Bool, less.toNat + same.toNat + more.toNat = 1 ∧
      Compared a b less same more ∧ Compared b a more same less) ∧
    ∀ x y, a.toFloat = .ok x → b.toFloat = .ok y → x.isNaN = true ∨ y.isNaN = true →
      Related a b (.error (.unordered x y)) (.error (.unordered x y)) (.error (.unordered x y))
        (.error (.unordered x y)) ∧
      Equated a b (.ok (.boolean false)) (.ok (.boolean true)) := by
  refine ⟨?_, ?_, fun h => ?_, fun x y left right unknown => ?_⟩
  · rcases given : a.order b with e | o
    · exact .inl ⟨e, related_error given⟩
    · refine .inr ⟨o == .lt, o == .gt, ?_, related_ok given⟩
      cases o <;> rfl
  · rcases equals_symbol a b with ⟨same, given⟩ | fails
    · exact .inr ⟨same, equated_ok given⟩
    · exact .inl (equated_error fails)
  · obtain ⟨o, given, -⟩ := comparable_order h
    have back := compared_ok (comparable_symm h) (order_swap h given)
    refine ⟨_, _, _, ?_, compared_ok h given, ?_⟩
    · cases o <;> rfl
    · cases o <;> exact back
  · obtain ⟨order, equal⟩ := answers_unknown left right unknown
    exact ⟨related_error order, equated_ok equal⟩

theorem comparison_coherent_rounded :
    (∃ less same more : Bool, less.toNat + same.toNat + more.toNat = 1 ∧
      Compared (.integer 9007199254740993) (.float 9007199254740992) less same more ∧
      Compared (.float 9007199254740992) (.integer 9007199254740993) more same less) ∧
    Equated (.integer 9007199254740993) (.float (0 / 0)) (.ok (.boolean false))
      (.ok (.boolean true)) := by
  have exact : Float.isNaN 9007199254740992 = false := by decide +kernel
  have unknown : Float.isNaN (0 / 0) = true := by decide +kernel
  obtain ⟨-, -, ordered, -⟩ :=
    comparison_coherent (.integer 9007199254740993) (.float 9007199254740992)
  obtain ⟨-, -, -, unordered⟩ := comparison_coherent (.integer 9007199254740993) (.float (0 / 0))
  exact ⟨ordered (.numbers (.integer _) (.float exact)),
    (unordered _ _ rfl rfl (.inr unknown)).2⟩

end ScopedFormula
