import ScopedFormula.Proofs.Value.Comparisons

/- The order of integers and floats taken together. It is that of their floats, refined between two
   integers. Less-than is transitive; equality is not, as one float may stand for several integers,
   and that is the only way in which it fails. -/
namespace ScopedFormula

variable {a b c : Value} {k : TokenKind}

inductive Finer : Value → Value → Prop
  | integers {n m : Int64} (less : n.toInt < m.toInt) : Finer (.integer n) (.integer m)

theorem finer_rank (h : Finer a b) : rank a ≤ rank b := by
  cases h with
  | integers less => exact nearestFloat_mono less.le

theorem weigh_lt_iff : weigh a b = .lt ↔ rank a < rank b ∨ Finer a b := by
  unfold weigh
  split
  · rename_i n m
    rw [compare_lt_iff_lt]
    constructor
    · exact fun less => .inr (.integers less)
    · rintro (less | ⟨⟨less⟩⟩)
      · by_contra above
        exact not_le.mpr less (nearestFloat_mono (not_lt.mp above))
      · exact less
  · rename_i other
    rw [compare_lt_iff_lt]
    constructor
    · exact .inl
    · rintro (less | ⟨⟨less⟩⟩)
      · exact less
      · exact (other _ _ rfl rfl).elim

theorem weigh_gt_iff : weigh a b = .gt ↔ weigh b a = .lt := by
  rw [weigh_swap a b, Ordering.swap_eq_lt]

theorem not_above_iff : weigh a b ≠ .gt ↔ rank a ≤ rank b ∧ ¬Finer b a := by
  rw [ne_eq, weigh_gt_iff, weigh_lt_iff, not_or, not_lt]

theorem weigh_eq_iff : weigh a b = .eq ↔ weigh a b ≠ .gt ∧ weigh b a ≠ .gt := by
  rw [weigh_swap a b]
  cases weigh a b <;> decide

theorem less_trans (left : weigh a b = .lt) (right : weigh b c = .lt) : weigh a c = .lt := by
  rw [weigh_lt_iff] at *
  rcases left with less | ⟨⟨less⟩⟩ <;> rcases right with less' | finer
  · exact .inl (less.trans less')
  · exact .inl (less.trans_le (finer_rank finer))
  · exact .inl ((finer_rank (.integers less)).trans_lt less')
  · obtain ⟨less'⟩ := finer
    exact .inr (.integers (less.trans less'))

/-- A float between two integers, of which the first is less. -/
def Merged (a b c : Value) : Prop := Finer a c ∧ ∃ x, b = .float x

theorem merged_of_finer (hb : Numeric b) (left : weigh a b ≠ .gt) (right : weigh b c ≠ .gt)
    (finer : Finer c a) : Merged c b a := by
  refine ⟨finer, ?_⟩
  obtain ⟨less⟩ := finer
  cases hb with
  | integer n =>
    have first := compare_le_iff_le.mp left
    have second := compare_le_iff_le.mp right
    exact absurd less (not_lt.mpr (first.trans second))
  | float known => exact ⟨_, rfl⟩

theorem not_above_trans (hb : Numeric b) (left : weigh a b ≠ .gt) (right : weigh b c ≠ .gt) :
    weigh a c ≠ .gt ↔ ¬Merged c b a := by
  have rank := (not_above_iff.mp left).1.trans (not_above_iff.mp right).1
  rw [not_above_iff, and_iff_right rank]
  exact not_congr ⟨merged_of_finer hb left right, And.left⟩

theorem tie_trans (hb : Numeric b) (left : weigh a b = .eq) (right : weigh b c = .eq) :
    weigh a c = .eq ↔ ¬(Merged a b c ∨ Merged c b a) := by
  rw [weigh_eq_iff] at *
  rw [not_above_trans hb left.1 right.1, not_above_trans hb right.2 left.2, not_or, and_comm]

def Small (v : Value) : Prop := ∀ n, v = .integer n → n.toInt.natAbs ≤ 2 ^ 53

theorem finer_small (ha : Small a) (hb : Small b) (finer : Finer a b) : rank a < rank b := by
  obtain ⟨less⟩ := finer
  change floatNumber _ < floatNumber _
  rw [nearestFloat_exact (ha _ rfl), nearestFloat_exact (hb _ rfl)]
  exact_mod_cast less

theorem not_merged_small (ha : Small a) (hc : Small c) (left : weigh a b ≠ .gt)
    (right : weigh b c ≠ .gt) : ¬Merged c b a := by
  rintro ⟨finer, -⟩
  have rank := (not_above_iff.mp left).1.trans (not_above_iff.mp right).1
  exact not_le.mpr (finer_small hc ha finer) rank

def Says (k : TokenKind) (a b : Value) : Prop := a.binary k b = .ok (.boolean true)

def affirmed : Except Failure Value → Bool
  | .ok (.boolean t) => t
  | _ => false

theorem affirmed_iff : affirmed (a.binary k b) = true ↔ Says k a b := by
  unfold affirmed Says
  split
  · rename_i t given
    rw [given, Except.ok.injEq, Value.boolean.injEq]
  · rename_i other
    exact iff_of_false nofun (other true)

instance (k : TokenKind) (a b : Value) : Decidable (Says k a b) :=
  decidable_of_iff _ affirmed_iff

theorem ok_true_iff {t : Bool} :
    (.ok (.boolean t) : Except Failure Value) = .ok (.boolean true) ↔ t = true := by
  rw [Except.ok.injEq, Value.boolean.injEq]

theorem says_relation {holds : Ordering → Bool} (given : relation? k = some holds)
    (ha : Numeric a) (hb : Numeric b) : Says k a b ↔ holds (weigh a b) = true := by
  rw [Says, binary_relation given, order_numeric ha hb]
  exact ok_true_iff

theorem says_lt (ha : Numeric a) (hb : Numeric b) : Says .lt a b ↔ weigh a b = .lt := by
  rw [says_relation rfl ha hb, beq_iff_eq]

theorem says_ltEq (ha : Numeric a) (hb : Numeric b) : Says .ltEq a b ↔ weigh a b ≠ .gt := by
  rw [says_relation rfl ha hb, bne_iff_ne]

theorem says_eq (ha : Numeric a) (hb : Numeric b) : Says .eq a b ↔ weigh a b = .eq := by
  rw [Says, (equated_ok (equals_numeric ha hb)).1, ok_true_iff, beq_iff_eq]

/-- Less-than orders numbers strictly and its ties are those of equality. Equality and at-most pass
    through a number in the middle, unless that is a float and the outer two are integers that it
    merges; up to 2^53 it merges none. -/
theorem number_order (ha : Numeric a) (hb : Numeric b) (hc : Numeric c) :
    ¬Says .lt a a ∧ (Says .lt a b → Says .lt b c → Says .lt a c) ∧
    (Says .eq a b ↔ ¬Says .lt a b ∧ ¬Says .lt b a) ∧
    (Says .ltEq a b ↔ Says .lt a b ∨ Says .eq a b) ∧
    (Says .eq a b → Says .eq b c → (Says .eq a c ↔ ¬(Merged a b c ∨ Merged c b a))) ∧
    (Says .ltEq a b → Says .ltEq b c → (Says .ltEq a c ↔ ¬Merged c b a)) ∧
    (Small a → Small c → (Says .eq a b → Says .eq b c → Says .eq a c) ∧
      (Says .ltEq a b → Says .ltEq b c → Says .ltEq a c)) := by
  simp only [says_lt, says_ltEq, says_eq, ha, hb, hc]
  refine ⟨?_, less_trans, ?_, ?_, tie_trans hb, not_above_trans hb, fun smallA smallC => ⟨?_, ?_⟩⟩
  · rw [weigh_lt_iff]
    rintro (less | ⟨⟨less⟩⟩)
    · exact lt_irrefl _ less
    · exact lt_irrefl _ less
  · rw [weigh_swap a b]
    cases weigh a b <;> decide
  · cases weigh a b <;> decide
  · intro left right
    refine (tie_trans hb left right).mpr ?_
    rw [weigh_eq_iff] at left right
    exact not_or.mpr ⟨not_merged_small smallC smallA right.2 left.2,
      not_merged_small smallA smallC left.1 right.1⟩
  · intro left right
    exact (not_above_trans hb left right).mpr (not_merged_small smallA smallC left right)

theorem number_order_small : Says .lt (.integer 1) (.integer 9007199254740992) ∧
    Says .ltEq (.integer 1) (.integer 9007199254740992) := by
  have known : Float.isNaN 1.5 = false := by decide +kernel
  have small : ∀ n : Int64, n.toInt.natAbs ≤ 2 ^ 53 → Small (.integer n) := by
    rintro n bits _ ⟨⟩
    exact bits
  obtain ⟨-, less, -, -, -, -, atMost⟩ :=
    number_order (.integer 1) (.float known) (.integer 9007199254740992)
  exact ⟨less (by decide +kernel) (by decide +kernel),
    (atMost (small _ (by decide)) (small _ (by decide))).2 (by decide +kernel) (by decide +kernel)⟩

/-- 2^53 as a float is equal to both 2^53 and 2^53 + 1. -/
theorem merged_integers :
    Float.isNaN 9007199254740992 = false ∧
    Says .eq (.integer 9007199254740993) (.float 9007199254740992) ∧
    Says .eq (.float 9007199254740992) (.integer 9007199254740992) ∧
    ¬Says .eq (.integer 9007199254740993) (.integer 9007199254740992) ∧
    Says .ltEq (.integer 9007199254740993) (.float 9007199254740992) ∧
    Says .ltEq (.float 9007199254740992) (.integer 9007199254740992) ∧
    ¬Says .ltEq (.integer 9007199254740993) (.integer 9007199254740992) := by
  decide +kernel

end ScopedFormula
