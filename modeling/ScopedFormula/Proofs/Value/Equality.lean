import ScopedFormula.Proofs.Value.Exact
import ScopedFormula.Proofs.Value.Comparisons
import ScopedFormula.Value.Ask

/- The equality of the language beside that of the host. On values that neither are scopes nor made
   by the host, the first never fails, and it goes beyond the second in one way only: an integer
   counts as the float nearest to it. -/
namespace ScopedFormula

variable {a b : Value} {same : Bool}

def Value.isData : Value → Bool
  | .context _ | .custom _ => false
  | _ => true

def Value.isUnknown : Value → Bool
  | .float x => x.isNaN
  | _ => false

/-- An integer and a float, equal as floats. -/
inductive Promoted : Value → Value → Prop
  | left {n : Int64} {x : Float} (equal : (nearestFloat n == x) = true) :
      Promoted (.integer n) (.float x)
  | right {n : Int64} {x : Float} (equal : (nearestFloat n == x) = true) :
      Promoted (.float x) (.integer n)

theorem promoted_comm : Promoted a b ↔ Promoted b a := by
  constructor
  · rintro (⟨equal⟩ | ⟨equal⟩)
    · exact .right equal
    · exact .left equal
  · rintro (⟨equal⟩ | ⟨equal⟩)
    · exact .right equal
    · exact .left equal

theorem float_beq_comm (x y : Float) : (x == y) = (y == x) := by
  by_cases unknown : x.isNaN = true ∨ y.isNaN = true
  · rw [beq_unknown unknown, beq_unknown unknown.symm]
  · rw [not_or, Bool.not_eq_true, Bool.not_eq_true] at unknown
    obtain ⟨hx, hy⟩ := unknown
    rw [Bool.eq_iff_iff, beq_iff_number hx hy, beq_iff_number hy hx, eq_comm]

theorem float_beq_self (x : Float) : (x == x) = !x.isNaN := by
  cases known : x.isNaN with
  | false => exact (beq_iff_number known known).mpr rfl
  | true => exact beq_unknown (.inl known)

theorem date_beq (d e : Date) : (d.nanos == e.nanos) = (d == e) := by
  rw [Bool.eq_iff_iff, beq_iff_eq, beq_iff_eq, Date.mk.injEq]

theorem same_comm (a b : Value) : a.same b = b.same a := by
  cases a with
  | float x =>
    cases b with
    | float y => exact float_beq_comm x y
    | _ => rfl
  | null => cases b <;> rfl
  | _ => cases b <;> first | rfl | exact Bool.beq_comm

theorem same_self (data : a.isData = true) : a.same a = !a.isUnknown := by
  cases a with
  | float x => exact float_beq_self x
  | null => rfl
  | context | custom => contradiction
  | _ => exact beq_self_eq_true _

theorem equals_data (ha : a.isData = true) (hb : b.isData = true) :
    ∃ same, (∀ symbol, a.equals symbol b = .ok same) ∧
      (same = true ↔ a.same b = true ∨ Promoted a b) := by
  cases a with
  | context | custom => contradiction
  | integer n =>
    cases b with
    | context | custom => contradiction
    | integer m => exact ⟨_, fun _ => rfl, (or_iff_left nofun).symm⟩
    | float x =>
      refine ⟨_, fun _ => rfl, fun equal => .inr (.left equal), fun either => ?_⟩
      obtain ⟨equal⟩ := either.resolve_left Bool.false_ne_true
      exact equal
    | _ => exact ⟨_, fun _ => rfl, (or_iff_left nofun).symm⟩
  | float x =>
    cases b with
    | context | custom => contradiction
    | integer n =>
      refine ⟨nearestFloat n == x, fun _ => congrArg Except.ok (float_beq_comm x _),
        fun equal => .inr (.right equal), fun either => ?_⟩
      obtain _ | ⟨equal⟩ := either.resolve_left Bool.false_ne_true
      exact equal
    | _ => exact ⟨_, fun _ => rfl, (or_iff_left nofun).symm⟩
  | date d =>
    cases b with
    | context | custom => contradiction
    | date e => exact ⟨_, fun _ => rfl, by rw [date_beq]; exact (or_iff_left nofun).symm⟩
    | _ => exact ⟨_, fun _ => rfl, (or_iff_left nofun).symm⟩
  | _ =>
    cases b with
    | context | custom => contradiction
    | _ => exact ⟨_, fun _ => rfl, (or_iff_left nofun).symm⟩

/-- Without contexts and values of the host, equality never fails, whichever operand is asked, and
    its two operators, the host's way to it and the comparison of two expressions give one answer.
    It says yes where the host's equality does, and to an integer beside a float that is equal to
    its nearest float. Only what is no number is not equal to itself. -/
theorem equalities_agree (ha : a.isData = true) (hb : b.isData = true) :
    (∃ same, Equated a b (.ok (.boolean same)) (.ok (.boolean !same)) ∧
      Equated b a (.ok (.boolean same)) (.ok (.boolean !same)) ∧
      a.ask? .equalityComparer b = some (.ok (.truth same)) ∧
      (a.same b = true → same = true) ∧
      (same = true → a.same b = false → Promoted a b) ∧ (Promoted a b → same = true) ∧
      ∀ perform scope st st₁ st₂ e t f, t.kind = .eq →
        Expr.evalWith perform scope e st = (.ok a, st₁) →
        Expr.evalWith perform scope f st₁ = (.ok b, st₂) →
        Expr.evalWith perform scope (.binary e t f) st = (.ok (.boolean same), st₂)) ∧
    Equated a a (.ok (.boolean !a.isUnknown)) (.ok (.boolean a.isUnknown)) := by
  obtain ⟨same, given, yes⟩ := equals_data ha hb
  obtain ⟨same', back, yes'⟩ := equals_data hb ha
  obtain ⟨self, itself, yes''⟩ := equals_data ha ha
  have equal : same' = same := by
    rw [Bool.eq_iff_iff, yes, yes', same_comm b a, promoted_comm]
  have known : self = !a.isUnknown := by
    rw [Bool.eq_iff_iff, yes'', same_self ha]
    exact or_iff_left (by rintro ⟨⟩)
  subst equal known
  have exposed : a.exposes .equalityComparer = true := by
    cases a <;> first | rfl | contradiction
  refine ⟨⟨same', equated_ok given, equated_ok back, ?_, fun h => yes.mpr (.inl h), ?_,
    fun h => yes.mpr (.inr h), ?_⟩, ?_⟩
  · rw [Value.ask?, if_pos exposed]
    exact congrArg some (congrArg (Except.map Answer.truth) (given equalitySymbol))
  · intro equal other
    exact (yes.mp equal).resolve_left (ne_true_of_eq_false other)
  · rintro perform scope st st₁ st₂ e t f kind left right
    rw [evalWith_binary left right t, kind, (equated_ok given).1]
  · have answers := equated_ok itself
    rwa [Bool.not_not] at answers

theorem equalities_agree_merged :
    (Value.integer 9007199254740993).isData = true ∧ (Value.float 9007199254740992).isData = true ∧
    ∃ same, Equated (.integer 9007199254740993) (.float 9007199254740992) (.ok (.boolean same))
        (.ok (.boolean !same)) ∧
      Equated (.float 9007199254740992) (.integer 9007199254740993) (.ok (.boolean same))
        (.ok (.boolean !same)) ∧ same = true := by
  have equal : (nearestFloat 9007199254740993 == 9007199254740992) = true := by decide +kernel
  obtain ⟨⟨same, there, back, -, -, -, promoted, -⟩, -⟩ :=
    equalities_agree (a := .integer 9007199254740993) (b := .float 9007199254740992) rfl rfl
  exact ⟨rfl, rfl, same, there, back, promoted (.left equal)⟩

end ScopedFormula
