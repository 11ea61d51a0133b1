import ScopedFormula.Proofs.Value.Exact

/- Which operands each operator supports. A table by kinds decides it: a pair outside is refused
   with the operator's symbol and the two kinds, and a pair inside is never refused so, though the
   operation may fail in other ways. -/
namespace ScopedFormula

variable {α β : Type} {l r : Value} {k : TokenKind} {op : Arithmetic} {symbol : String}

/-- The kinds of values. What a host makes is one kind, with or without a truth. -/
inductive Kind where
  | integer | float | string | boolean | null | date | context
  | custom (truth : Bool)
  deriving DecidableEq

def Value.shape : Value → Kind
  | .integer _ => .integer
  | .float _ => .float
  | .string _ => .string
  | .boolean _ => .boolean
  | .null => .null
  | .date _ => .date
  | .context _ => .context
  | .custom c => .custom (c.behavior.exposed.contains .booleanConverter)

abbrev Table := Kind → List Kind

def Table.allows (t : Table) (l r : Value) : Bool := (t l.shape).contains r.shape

def scalingTable : Table
  | .integer | .float => [.integer, .float]
  | _ => []

def additionTable : Table
  | .integer => [.integer, .float, .string]
  | .float => [.integer, .float]
  | .string => [.integer, .float, .string, .boolean, .null]
  | .date => [.integer]
  | _ => []

def subtractionTable : Table
  | .integer | .float => [.integer, .float]
  | .date => [.integer, .date]
  | _ => []

def orderTable : Table
  | .integer | .float => [.integer, .float]
  | .string => [.string]
  | .date => [.date]
  | _ => []

def equalityTable : Table
  | .context => []
  | _ => [.integer, .float, .string, .boolean, .null, .date, .context, .custom false, .custom true]

def connectiveTable : Table
  | .boolean | .null => [.boolean, .null, .custom true]
  | _ => []

def partners : TokenKind → Table
  | .plus => additionTable
  | .minus => subtractionTable
  | .asterisk | .slash | .percent | .power => scalingTable
  | .lt | .ltEq | .gt | .gtEq => orderTable
  | .eq | .notEq => equalityTable
  | .and | .or => connectiveTable
  | _ => fun _ => []

def reported : TokenKind → String
  | .lt | .ltEq | .gt | .gtEq => "cmp"
  | k => k.text

/-- The operands are not refused for their kinds. -/
def Supported (result : Except Failure α) : Prop :=
  ∀ symbol left right, result ≠ .error (.notSupported symbol left right)

theorem supported_ok (x : α) : Supported (.ok x) := nofun

variable {t : Table} {result : Except Failure α}

theorem supported_bind {f : α → Except Failure β} (h : Supported result)
    (later : ∀ x, Supported (f x)) : Supported (result >>= f) := by
  cases result with
  | ok x => exact later x
  | error e =>
    rintro symbol left right ⟨⟩
    exact h symbol left right rfl

theorem supported_ite {c : Prop} [Decidable c] {first second : Except Failure α}
    (h : Supported first) (h' : Supported second) : Supported (if c then first else second) := by
  split
  · exact h
  · exact h'

theorem checked_supported (symbol : String) (n : Int) : Supported (checked symbol n) :=
  supported_ite (supported_ok _) nofun

theorem integers_supported (op : Arithmetic) (a b : Int64) : Supported (op.integers a b) := by
  cases op with
  | add | subtract | multiply => exact checked_supported _ _
  | divide => exact supported_ite nofun (checked_supported _ _)
  | modulo =>
    have quotient := checked_supported "%" (a.toInt.tdiv b.toInt)
    exact supported_ite nofun (supported_bind quotient fun _ => checked_supported _ _)
  | power => exact supported_ite (supported_ok _) (supported_ite nofun (checked_supported _ _))

theorem dateShift_supported (op : Arithmetic) (d : Date) (n : Int) :
    Supported (dateShift op d n) := by
  unfold dateShift
  split <;> nofun

theorem dateDifference_supported (d e : Date) : Supported (dateDifference d e) :=
  supported_ite (supported_ok _) nofun

theorem orderFloats_supported (x y : Float) : Supported (orderFloats x y) :=
  supported_ite (supported_ok _) <| supported_ite (supported_ok _) <|
    supported_ite (supported_ok _) nofun

def Dispatched (symbol : String) (t : Table) (l r : Value) (result : Except Failure α) : Prop :=
  if t.allows l r then Supported result
  else result = .error (.notSupported symbol l.kind r.kind)

theorem dispatched_inside (listed : t.allows l r = true) (h : Supported result) :
    Dispatched symbol t l r result := by
  rwa [Dispatched, if_pos listed]

theorem dispatched_outside (missing : t.allows l r = false) :
    Dispatched symbol t l r (.error (.notSupported symbol l.kind r.kind) : Except Failure α) := by
  rw [Dispatched, if_neg (ne_true_of_eq_false missing)]

theorem dispatched_bind {f : α → Except Failure β} (h : Dispatched symbol t l r result)
    (later : ∀ x, Supported (f x)) : Dispatched symbol t l r (result >>= f) := by
  revert h
  unfold Dispatched
  split
  · exact fun h => supported_bind h later
  · rintro rfl
    rfl

def Arithmetic.partners : Arithmetic → Table
  | .add => additionTable
  | .subtract => subtractionTable
  | _ => scalingTable

theorem arithmetic_dispatched (op : Arithmetic) (builtin : ∀ c, l ≠ .custom c) :
    Dispatched op.symbol op.partners l r (l.arithmetic op r) := by
  cases l with
  | integer a =>
    cases r with
    | integer b => exact dispatched_inside (by cases op <;> rfl) (integers_supported op a b)
    | float y => exact dispatched_inside (by cases op <;> rfl) (supported_ok _)
    | string t =>
      cases op with
      | add => exact dispatched_inside rfl (supported_ok _)
      | _ => exact dispatched_outside rfl
    | _ => exact dispatched_outside (by cases op <;> rfl)
  | float x =>
    cases r with
    | integer b => exact dispatched_inside (by cases op <;> rfl) (supported_ok _)
    | float y => exact dispatched_inside (by cases op <;> rfl) (supported_ok _)
    | _ => exact dispatched_outside (by cases op <;> rfl)
  | string s =>
    cases op with
    | add =>
      cases r with
      | date | context | custom => exact dispatched_outside rfl
      | _ => exact dispatched_inside rfl (supported_ok _)
    | _ => exact dispatched_outside rfl
  | date d =>
    cases r with
    | integer n =>
      cases op with
      | add => exact dispatched_inside rfl (dateShift_supported _ _ _)
      | subtract =>
        exact dispatched_inside rfl (supported_ite nofun (dateShift_supported _ _ _))
      | _ => exact dispatched_outside rfl
    | date e =>
      cases op with
      | subtract => exact dispatched_inside rfl (dateDifference_supported d e)
      | _ => exact dispatched_outside rfl
    | _ => exact dispatched_outside (by cases op <;> rfl)
  | boolean | null | context => exact dispatched_outside (by cases op <;> rfl)
  | custom c => exact (builtin c rfl).elim

theorem order_dispatched (builtin : ∀ c, l ≠ .custom c) :
    Dispatched "cmp" orderTable l r (l.order r) := by
  cases l with
  | integer a =>
    cases r with
    | integer b => exact dispatched_inside rfl (supported_ok _)
    | float y => exact dispatched_inside rfl (orderFloats_supported _ _)
    | _ => exact dispatched_outside rfl
  | float x =>
    cases r with
    | integer | float => exact dispatched_inside rfl (orderFloats_supported _ _)
    | _ => exact dispatched_outside rfl
  | string s =>
    cases r with
    | string t => exact dispatched_inside rfl (supported_ok _)
    | _ => exact dispatched_outside rfl
  | date d =>
    cases r with
    | date e => exact dispatched_inside rfl (supported_ok _)
    | _ => exact dispatched_outside rfl
  | boolean | null | context => exact dispatched_outside rfl
  | custom c => exact (builtin c rfl).elim

theorem equated_any (l r : Value) (other : l.shape ≠ .context) :
    equalityTable.allows l r = true := by
  have every : r.shape ∈ equalityTable l.shape := by
    revert other
    cases l.shape <;> cases r.shape <;> simp [equalityTable]
  exact List.contains_iff_mem.mpr every

theorem equals_dispatched (builtin : ∀ c, l ≠ .custom c) (symbol : String) :
    Dispatched symbol equalityTable l r (l.equals symbol r) := by
  cases l with
  | context => exact dispatched_outside rfl
  | custom c => exact (builtin c rfl).elim
  | _ =>
    refine dispatched_inside (equated_any _ r nofun) ?_
    cases r <;> exact supported_ok _

theorem truth_shape (r : Value) :
    [Kind.boolean, .null, .custom true].contains r.shape = r.truth?.isSome := by
  cases r with
  | custom c =>
    simp only [Value.shape, Value.truth?]
    cases c.behavior.exposed.contains .booleanConverter <;> rfl
  | _ => rfl

theorem connected_iff (builtin : ∀ c, l ≠ .custom c) :
    connectiveTable.allows l r = (l.truth?.isSome && r.truth?.isSome) := by
  cases l with
  | boolean | null => exact truth_shape r
  | custom c => exact (builtin c rfl).elim
  | _ => rfl

theorem connect_dispatched (builtin : ∀ c, l ≠ .custom c) (either : k = .and ∨ k = .or) :
    Dispatched k.text connectiveTable l r (l.connect k r) := by
  have listed := connected_iff (r := r) builtin
  unfold Value.connect
  rcases left : l.truth? with _ | x <;> rcases right : r.truth? with _ | y <;>
    rw [left, right] at listed
  · rcases either with rfl | rfl <;> exact dispatched_outside listed
  · rcases either with rfl | rfl <;> exact dispatched_outside listed
  · rcases either with rfl | rfl <;> exact dispatched_outside listed
  · rcases either with rfl | rfl <;> exact dispatched_inside listed (supported_ok _)

theorem binary_dispatched (builtin : ∀ c, l ≠ .custom c) (k : TokenKind) :
    Dispatched (reported k) (partners k) l r (l.binary k r) := by
  cases k with
  | plus => exact arithmetic_dispatched .add builtin
  | minus => exact arithmetic_dispatched .subtract builtin
  | asterisk => exact arithmetic_dispatched .multiply builtin
  | slash => exact arithmetic_dispatched .divide builtin
  | percent => exact arithmetic_dispatched .modulo builtin
  | power => exact arithmetic_dispatched .power builtin
  | lt | ltEq | gt | gtEq =>
    exact dispatched_bind (order_dispatched builtin) fun _ => supported_ok _
  | eq | notEq => exact dispatched_bind (equals_dispatched builtin _) fun _ => supported_ok _
  | and => exact connect_dispatched builtin (.inl rfl)
  | or => exact connect_dispatched builtin (.inr rfl)
  | _ => exact dispatched_outside rfl

def capability? : TokenKind → Option Capability
  | .plus => some .adder
  | .minus => some .subtractor
  | .asterisk => some .multiplexor
  | .slash => some .divider
  | .percent => some .moduler
  | .power => some .power
  | .lt | .ltEq | .gt | .gtEq => some .comparer
  | .eq | .notEq => some .equalityComparer
  | .and | .or => some .booleanConverter
  | _ => none

theorem exposes_eq_partners (builtin : ∀ c, l ≠ .custom c) {c : Capability}
    (given : capability? k = some c) : l.exposes c = !(partners k l.shape).isEmpty := by
  cases l with
  | custom c' => exact (builtin c' rfl).elim
  | _ => cases k <;> cases given <;> rfl

/-- The table decides which pairs of operands are refused, and all are refused in the same way,
    whether the left operand lacks the capability or only does not take the right one; so too when
    the operands are what two expressions come to. -/
theorem dispatch_exact (builtin : ∀ c, l ≠ .custom c) (k : TokenKind) :
    ((partners k).allows l r = true → Supported (l.binary k r)) ∧
    (l.binary k r = .error (.notSupported (reported k) l.kind r.kind) ↔
      (partners k).allows l r = false) ∧
    (∀ c, capability? k = some c → l.exposes c = !(partners k l.shape).isEmpty) ∧
    ∀ perform scope st st₁ st₂ a t b, t.kind = k →
      Expr.evalWith perform scope a st = (.ok l, st₁) →
      Expr.evalWith perform scope b st₁ = (.ok r, st₂) →
      Expr.evalWith perform scope (.binary a t b) st = (l.binary k r, st₂) := by
  have dispatched := binary_dispatched (r := r) builtin k
  unfold Dispatched at dispatched
  refine ⟨?_, ?_, fun c => exposes_eq_partners builtin, ?_⟩
  · intro listed
    rwa [if_pos listed] at dispatched
  · split at dispatched
    · rename_i listed
      rw [listed]
      exact iff_of_false (dispatched _ _ _) nofun
    · rename_i missing
      exact iff_of_true dispatched (eq_false_of_ne_true missing)
  · rintro perform scope st st₁ st₂ a t b rfl left right
    exact evalWith_binary left right t

theorem dispatch_exact_custom :
    let truthful : Behavior := ⟨[.booleanConverter], fun _ r => .ok r, .ok .null, fun _ => .ok .eq,
      fun _ => .ok true, true, none⟩
    let host : Custom := ⟨⟨0, "Host", "host"⟩, fun _ => truthful⟩
    let epoch : Date := ⟨0, by decide, by decide⟩
    Supported ((Value.boolean true).binary .and (.custom host)) ∧
    (Value.date epoch).binary .lt (.custom host) = .error (.notSupported "cmp" "Date" "Host") := by
  intro truthful host epoch
  have boolean : ∀ c, Value.boolean true ≠ .custom c := nofun
  have date : ∀ c, Value.date epoch ≠ .custom c := nofun
  exact ⟨(dispatch_exact boolean .and).1 rfl, (dispatch_exact date .lt).2.1.mpr rfl⟩

end ScopedFormula
