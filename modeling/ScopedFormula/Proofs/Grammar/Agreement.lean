import ScopedFormula.Proofs.Grammar.Viable
import ScopedFormula.Proofs.Grammar.Descent

/- The descent by rules and the pass with what is still open give one result. A rule stands for
   a stretch of the pass: from the state where it is entered to the state behind its tree, where
   operators stronger than the rule may still be pending. -/
namespace ScopedFormula

variable {m n : Nat} {fr : Frames} {s s' : State} {t stop : Token} {ts us rest : List Token}
  {e x : Expr} {k l : Nat} {fault : Fault}

abbrev Wanted := Expr → List Token → Int → State → Prop

def Mirrors (stop : Token) (s : State) (ts : List Token) (r : Report n) (want : Wanted) : Prop :=
  match r.result with
  | .error error => s.run stop ts = .error error
  | .ok e => ∃ s', s.run stop ts = s'.run stop r.left.rest ∧ want e r.left.rest r.left.depth s'

section Mirrors
open Descent

variable {c : Ledger n} {d d' : Descent n} {want want' : Wanted}

theorem mirrors_of_run {r : Report n} (same : s.run stop ts = s'.run stop us)
    (mirrors : Mirrors stop s' us r want) : Mirrors stop s ts r want := by
  unfold Mirrors at *
  rw [same]
  exact mirrors

theorem mirrors_step {r : Report n} (next : s.step t = .ok s')
    (mirrors : Mirrors stop s' ts r want) : Mirrors stop s (t :: ts) r want :=
  mirrors_of_run (run_cons next) mirrors

theorem run_refuses (next : s.step t = .error fault) :
    s.run stop (t :: ts) = .error ⟨t, fault⟩ := by
  simp only [State.run, next]

/-- What would be refused in whatever place the tokens go on, or end. -/
theorem run_refuses_next (finish : s.finish = .error fault)
    (step : ∀ t ∈ ts.head?, s.step t = .error fault) :
    s.run stop ts = .error ⟨ts.headD stop, fault⟩ := by
  cases ts with
  | nil => simp only [State.run, finish]; rfl
  | cons t ts => exact run_refuses (step t rfl)

theorem mirrors_refuseNext (finish : s.finish = .error fault)
    (step : ∀ t ∈ c.rest.head?, s.step t = .error fault) :
    Mirrors stop s c.rest (refuseNext stop fault c) want :=
  run_refuses_next finish step

theorem mirrors_weaken {r : Report n} (mirrors : Mirrors stop s ts r want)
    (weaker : ∀ e rest depth s, want e rest depth s → want' e rest depth s) :
    Mirrors stop s ts r want' := by
  unfold Mirrors at *
  split at mirrors
  · exact mirrors
  · obtain ⟨s', run, held⟩ := mirrors
    exact ⟨s', run, weaker _ _ _ _ held⟩

theorem mirrors_give (same : c.rest = ts) (held : want e ts c.depth s) :
    Mirrors stop s ts (give e c) want := by
  subst same
  exact ⟨s, rfl, held⟩

theorem mirrors_andThen {next : Expr → Descent n} (want : Wanted)
    (first : Mirrors stop s ts (d c) want)
    (second : ∀ e (l : Ledger n) s', want e l.rest l.depth s' →
      Mirrors stop s' l.rest (next e l) want') :
    Mirrors stop s ts (andThen d next c) want' := by
  unfold Mirrors at first
  unfold andThen
  split at first
  · rename_i error failed
    simp only [failed, Mirrors]
    exact first
  · rename_i e done
    obtain ⟨s', run, held⟩ := first
    simp only [done]
    exact mirrors_of_run run (second e (d c).left s' held)

theorem mirrors_deeper (depth : Nat) (same : c.depth = depth)
    (full : maxDepth ≤ depth → s.run stop ts = .error ⟨t, .tooDeep⟩)
    (room : depth + 1 ≤ maxDepth → Mirrors stop s ts (d { c with depth := depth + 1 }) want) :
    Mirrors stop s ts (deeper t d c) want := by
  unfold deeper
  rw [same]
  split
  · exact full (by omega)
  · exact room (by omega)

theorem mirrors_shallower {r : Report n}
    (inner : Mirrors stop s ts r fun e rest depth s => want e rest (depth - 1) s) :
    Mirrors stop s ts r.shallower want := inner

theorem mirrors_onNext {kind : TokenKind → Bool} {yes : (m : Nat) → m < n → Token → Descent m}
    (read : ∀ t ts (few : ts.length < n), c.rest = t :: ts → kind t.kind →
      Mirrors stop s (t :: ts) (yes ts.length few t ⟨ts, Nat.le_refl _, c.depth⟩) want)
    (other : (∀ t ∈ c.rest.head?, ¬ kind t.kind) → Mirrors stop s c.rest (d c) want) :
    Mirrors stop s c.rest (onNext kind yes d c) want := by
  obtain ⟨ts, few, depth⟩ := c
  cases ts with
  | nil => exact other (by simp)
  | cons t ts =>
    simp only [onNext]
    split
    · rename_i here
      exact read t ts few rfl here
    · rename_i here
      exact other (by simpa using here)

end Mirrors

def Closed (level : Nat) (ts : List Token) : Prop :=
  ∀ t ∈ ts.head?, t.kind ≠ .lparen ∧ t.kind ≠ .period ∧
    ∀ j, binaryLevel? t.kind = some j → j < level

/-- The state stands behind the tree; settling what is pending gives the same from the tree. -/
def Behind (fr : Frames) (level : Nat) (e : Expr) (s : State) : Prop :=
  ∃ fr' x k, s = .chain fr' x k ∧ fr'.brackets = fr.brackets ∧
    ∀ j ≤ level, settle j fr'.pending fr'.depth x = settle j fr.pending fr.depth e

def Bracketed (outer : List Bracket) (depth : Nat) : Wanted := fun e rest d s =>
  d = depth ∧ Closed 1 rest ∧ Behind ⟨[], outer, depth⟩ 0 e s

def Rule.Entry (fr : Frames) (k : Nat) (rest : List Token) (depth : Int) (s : State) : Rule → Prop
  | .operand level => s = .operand fr false ∧ depth = fr.depth ∧
      operandLevel fr.pending ≤ level ∧
      ∀ t ∈ rest.head?, ∀ j, prefixLevel? t.kind = some j → operandLevel fr.pending ≤ j → level ≤ j
  | .fold level left => Behind fr level left s ∧ depth = fr.depth ∧
      operandLevel fr.pending ≤ level ∧ Closed (level + 1) rest
  | .chain base e => s = .chain fr e k ∧ base = fr.depth ∧ depth = fr.depth + k
  | .arguments callee => s = .arguments fr callee k ∧ depth = fr.depth + k + 1 ∧
      fr.depth + k + 1 ≤ maxDepth
  | .more callee args => ∃ done last, args = done ++ [last] ∧
      Bracketed (.call fr.pending callee k done :: fr.brackets) (fr.depth + k + 1) last rest depth s

def Rule.Exit (fr : Frames) (k : Nat) : Rule → Wanted
  | .operand level, e, rest, depth, s => depth = fr.depth ∧
      (level ≤ postfixLevel → Behind fr level e s ∧ Closed level rest) ∧
      (postfixLevel < level → s = .chain fr e 0)
  | .fold level _, e, rest, depth, s => depth = fr.depth ∧ Behind fr level e s ∧ Closed level rest
  | .chain _ _, e, rest, depth, s => depth = fr.depth ∧ Closed postfixLevel rest ∧
      ∃ steps, s = .chain fr e steps
  | .arguments _, e, _, depth, s | .more _ _, e, _, depth, s =>
      depth = fr.depth + k + 1 ∧ s = .chain fr e k

/-- From wherever the rule is entered, the run comes to what the rule reports. -/
def Tracks (stop : Token) (r : Rule) (n : Nat) : Prop :=
  ∀ (c : Ledger n) (fr : Frames) (k : Nat) (s : State), r.Entry fr k c.rest c.depth s →
    Mirrors stop s c.rest (r.descent stop n c) (r.Exit fr k)

theorem deeper_run (room : fr.depth + 1 ≤ maxDepth) :
    (State.operand fr true).run stop ts = (State.operand (fr.entered true) false).run stop ts := by
  cases ts with
  | nil => simp only [State.run, State.finish, ↓reduceIte, descend_ok room]; rfl
  | cons t ts =>
    have same : (State.operand fr true).step t = (State.operand (fr.entered true) false).step t :=
      operand_step room
    simp only [State.run, same]

theorem run_full (full : ¬ s.HasRoom) : s.run stop ts = .error ⟨ts.headD stop, .tooDeep⟩ :=
  run_refuses_next (tooDeep_of_full (t := stop) full).2 fun _ _ => (tooDeep_of_full full).1

theorem chain_full (full : maxDepth ≤ fr.depth + k) (more : t.kind = .lparen ∨ t.kind = .period) :
    (State.chain fr e k).step t = .error .tooDeep := by
  have fault := descend_full (Nat.not_lt.mpr full)
  rcases more with same | same <;> simp only [State.step, same, fault] <;> rfl

theorem plain_step : (State.operand fr false).step t = readOperand fr t := rfl

theorem grouping_full (opens : t.kind = .lparen) (full : maxDepth ≤ fr.depth) :
    (State.operand fr false).step t = .error .tooDeep := by
  rw [plain_step]
  simp only [readOperand, opens, prefixLevel?, ↓reduceIte, descend_full (Nat.not_lt.mpr full)]
  rfl

theorem grouping_step (opens : t.kind = .lparen) (room : fr.depth + 1 ≤ maxDepth) :
    (State.operand fr false).step t =
      .ok (.operand ⟨[], .grouping fr.pending :: fr.brackets, fr.depth + 1⟩ false) := by
  rw [plain_step]
  simp only [readOperand, opens, prefixLevel?, ↓reduceIte, descend_ok room]
  rfl

theorem single_step (bracket : t.kind ≠ .lparen)
    (loose : ∀ j, prefixLevel? t.kind = some j → ¬ operandLevel fr.pending ≤ j) :
    (State.operand fr false).step t = (primary t).map (.chain fr · 0) := by
  rw [plain_step]
  cases known : prefixLevel? t.kind with
  | some j =>
    have value : primary t = .error .noExpression := by
      rcases prefixLevel_cases known with ⟨same, -⟩ | ⟨same, -⟩ <;> simp only [primary, same]
    simp only [readOperand, known, if_neg (loose j known), value]
    rfl
  | none =>
    simp only [readOperand, known, bracket, ↓reduceIte]
    cases primary t <;> rfl

theorem property_step (ident : t.kind = .ident) :
    (State.property fr e k).step t = .ok (.chain fr (.member e t.lexeme) k) := by
  simp only [State.step, ident, ↓reduceIte]

theorem arguments_step (closes : t.kind = .rparen) (room : fr.depth + k + 1 ≤ maxDepth) :
    (State.arguments fr e k).step t = .ok (.chain fr (.call e []) k) := by
  simp only [State.step, closes, ↓reduceIte, descend_ok room]
  rfl

theorem arguments_run (room : fr.depth + k + 1 ≤ maxDepth)
    (other : ∀ t ∈ ts.head?, t.kind ≠ .rparen) :
    (State.arguments fr e k).run stop ts = (State.operand
      ⟨[], .call fr.pending e k [] :: fr.brackets, fr.depth + k + 1⟩ false).run stop ts := by
  cases ts with
  | nil => simp only [State.run, State.finish, descend_ok room]; rfl
  | cons t ts => exact arguments_run_operand (other t rfl) room

theorem prefix_step (known : prefixLevel? t.kind = some l) (fits : operandLevel fr.pending ≤ l) :
    (State.operand fr false).step t =
      .ok (.operand { fr with pending := .unary t :: fr.pending } true) := by
  simp only [State.step, readOperand, known]
  exact if_pos fits

/-- Behind a complete operand only the end of what is open can come. -/
theorem closed_step (closed : Closed 1 ts) (head : t ∈ ts.head?) :
    (State.chain fr e k).step t = readClosing fr e t := by
  obtain ⟨call, dot, weak⟩ := closed t head
  have none : binaryLevel? t.kind = none := by
    cases known : binaryLevel? t.kind with
    | none => rfl
    | some j =>
      have := weak j known
      have := binaryLevel_bounds known
      omega
  simp only [State.step, call, dot, none, ↓reduceIte]

theorem behind_mono {level level' : Nat} (behind : Behind fr level e s) (le : level' ≤ level) :
    Behind fr level' e s := by
  obtain ⟨fr', x, k, same, brackets, settled⟩ := behind
  exact ⟨fr', x, k, same, brackets, fun j bound => settled j (Nat.le_trans bound le)⟩

theorem behind_itself {level : Nat} : Behind fr level e (.chain fr e k) :=
  ⟨fr, e, k, rfl, rfl, fun _ _ => rfl⟩

theorem behind_applied {p : Pending} {ps : List Pending} {outer : List Bracket} {depth level : Nat}
    (strong : level ≤ p.level)
    (behind : Behind ⟨p :: ps, outer, depth + p.depth⟩ level e s) :
    Behind ⟨ps, outer, depth⟩ level (p.apply e) s := by
  obtain ⟨fr', x, k, same, brackets, settled⟩ := behind
  refine ⟨fr', x, k, same, brackets, fun j bound => ?_⟩
  rw [settled j bound, settle, if_pos (Nat.le_trans bound strong), Nat.add_sub_cancel]

theorem entry_operand {level : Nat} {depth : Int} (fits : operandLevel fr.pending = level)
    (same : depth = fr.depth) :
    (Rule.operand level).Entry fr k rest depth (.operand fr false) :=
  ⟨rfl, same, Nat.le_of_eq fits, fun _ _ _ _ bound => fits ▸ bound⟩

theorem mirrors_bracketed {c : Ledger n} {outer : List Bracket} {depth : Nat}
    (tracks : Tracks stop (.operand 1) n) (same : c.depth = depth) :
    Mirrors stop (.operand ⟨[], outer, depth⟩ false) c.rest
      ((Rule.operand 1).descent stop n c) (Bracketed outer depth) := by
  refine mirrors_weaken (tracks c ⟨[], outer, depth⟩ 0 _ (entry_operand rfl same)) ?_
  rintro e rest d s ⟨back, held, -⟩
  obtain ⟨behind, closed⟩ := held (by decide)
  exact ⟨back, closed, behind_mono behind (Nat.zero_le 1)⟩

section Rules
open Descent

theorem tracks_operand {level : Nat} (weak : level < postfixLevel)
    (nests : ∀ m, m < n → Tracks stop (.operand level) m)
    (weaker : Tracks stop (.operand (level + 1)) n)
    (folds : ∀ left, Tracks stop (.fold level left) n) : Tracks stop (.operand level) n := by
  rintro c fr k s ⟨rfl, depth, fits, first⟩
  rw [Rule.descent, if_pos weak]
  refine mirrors_onNext (fun t ts less split kind => ?_) fun other => ?_
  · have known : prefixLevel? t.kind = some level := by simpa using kind
    have strength : (Pending.unary t).level = level := by simp [Pending.level, known]
    refine mirrors_step (prefix_step known fits) ?_
    refine mirrors_andThen (fun e rest depth s => depth = fr.depth ∧
      Behind ⟨.unary t :: fr.pending, fr.brackets, fr.depth + 1⟩ level e s ∧ Closed level rest)
      (mirrors_deeper _ depth (fun full => run_full fun room => Nat.not_lt.mpr full (room rfl))
        fun room => ?_) ?_
    · refine mirrors_of_run (deeper_run room) (mirrors_shallower ?_)
      refine mirrors_weaken (nests _ less ⟨ts, Nat.le_refl _, _⟩ _ 0 _ (entry_operand ?_ ?_)) ?_
      · simp [operandLevel, Pending.operandLevel, known]
      · simp [Frames.entered]
      · rintro e rest depth s ⟨back, held, -⟩
        refine ⟨?_, held (Nat.le_of_lt weak)⟩
        simp only [Frames.entered, Bool.toNat_true] at back
        omega
    · rintro e l s' ⟨back, behind, closed⟩
      refine mirrors_give rfl ⟨back, fun _ => ⟨?_, closed⟩, fun strong => by omega⟩
      exact behind_applied (Nat.le_of_eq strength.symm) behind
  · refine mirrors_andThen ((Rule.operand (level + 1)).Exit fr 0)
      (weaker c fr 0 _ ⟨rfl, depth, Nat.le_succ_of_le fits, ?_⟩) ?_
    · intro t head j known bound
      have tight := first t head j known bound
      have apart : j ≠ level := by
        rintro rfl
        exact other t head (by simpa using known)
      omega
    · rintro left l s' ⟨back, held, -⟩
      obtain ⟨behind, closed⟩ := held (Nat.succ_le_of_lt weak)
      refine mirrors_weaken (folds left l fr 0 s' ⟨behind_mono behind (Nat.le_succ _), back, fits,
        closed⟩) ?_
      exact fun e rest depth s exit => ⟨exit.1, fun _ => exit.2, fun strong => by omega⟩

theorem tracks_fold {level : Nat} {left : Expr}
    (right : ∀ m, m < n → Tracks stop (.operand (level + 1)) m)
    (folds : ∀ m, m < n → ∀ op right, Tracks stop (.fold level (.binary left op right)) m) :
    Tracks stop (.fold level left) n := by
  rintro c fr k s ⟨behind, depth, fits, closed⟩
  rw [Rule.descent]
  refine mirrors_onNext (fun t ts less split kind => ?_) fun other => ?_
  · have known : binaryLevel? t.kind = some level := by simpa using kind
    have weak : level + 1 ≤ postfixLevel := by
      have := binaryLevel_bounds known
      simp only [postfixLevel]
      omega
    have strength : (Pending.binary left t).level = level := by simp [Pending.level, known]
    -- what is pending within the left operand is settled by the operator behind it
    obtain ⟨fr', x, steps, rfl, brackets, settled⟩ := behind
    have same := settled level (Nat.le_refl _)
    rw [settle_stops (head_below known fits)] at same
    have step : (State.chain fr' x steps).step t = _ := chain_step_binary known
    rw [same, brackets] at step
    refine mirrors_step step ?_
    refine mirrors_andThen ((Rule.operand (level + 1)).Exit
      ⟨.binary left t :: fr.pending, fr.brackets, fr.depth⟩ 0)
      (right _ less ⟨ts, Nat.le_refl _, _⟩ _ 0 _ (entry_operand ?_ depth)) ?_
    · simp [operandLevel, Pending.operandLevel, known]
    · rintro e l s' ⟨back, held, -⟩
      obtain ⟨after, closed⟩ := held weak
      refine folds _ less t e l fr 0 s' ⟨?_, back, fits, closed⟩
      exact behind_applied (p := .binary left t) (Nat.le_of_eq strength.symm)
        (behind_mono after (Nat.le_succ _))
  · refine mirrors_give rfl ⟨depth, behind, fun t head => ?_⟩
    obtain ⟨call, dot, weaker⟩ := closed t head
    refine ⟨call, dot, fun j known => ?_⟩
    have apart : j ≠ level := by
      rintro rfl
      exact other t head (by simpa using known)
    have := weaker j known
    omega

theorem tracks_postfix (operand : Tracks stop (.operand primaryLevel) n)
    (chains : ∀ (c : Ledger n) e, Tracks stop (.chain c.depth e) n) :
    Tracks stop (.operand postfixLevel) n := by
  rintro c fr k s ⟨rfl, depth, fits, first⟩
  rw [Rule.descent, if_neg (Nat.lt_irrefl _), if_pos rfl]
  refine mirrors_andThen ((Rule.operand primaryLevel).Exit fr 0)
    (operand c fr 0 _ ⟨rfl, depth, Nat.le_succ_of_le fits, ?_⟩) ?_
  · intro t head j known bound
    have := first t head j known bound
    have := prefixLevel_cases known
    simp only [postfixLevel] at *
    omega
  · rintro e l s' ⟨back, -, whole⟩
    obtain rfl := whole (by decide)
    refine mirrors_weaken (chains c e l fr 0 _ ⟨rfl, depth, by simpa using back⟩) ?_
    rintro e rest depth s ⟨back, closed, steps, rfl⟩
    exact ⟨back, fun _ => ⟨behind_itself, closed⟩, fun strong => by omega⟩

theorem grouping_end {outer : List Bracket} {before : List Pending} {depth : Nat}
    {c : Ledger n} (behind : Behind ⟨[], .grouping before :: outer, depth + 1⟩ 0 e s)
    (closed : Closed 1 c.rest) (back : c.depth = depth) :
    Mirrors stop s c.rest
      (onNext (· == .rparen) (fun _ _ _ => give (.grouping e)) (refuseNext stop .openGrouping) c)
      fun e _ d s => d = depth ∧ s = .chain ⟨before, outer, depth⟩ e 0 := by
  obtain ⟨fr', x, k, rfl, brackets, settled⟩ := behind
  have all := settled 0 (Nat.le_refl _)
  refine mirrors_onNext (fun t ts less split kind => ?_) fun other => mirrors_refuseNext ?_ ?_
  · have closes : t.kind = .rparen := by simpa using kind
    have step : (State.chain fr' x k).step t = _ :=
      (closed_step closed (by simp [split])).trans (readClosing_grouping all brackets closes)
    refine mirrors_step step (mirrors_give rfl ?_)
    exact ⟨back, rfl⟩
  · simp only [State.finish, brackets]
  · intro t head
    have opened : t.kind ≠ .rparen := by simpa using other t head
    rw [closed_step closed head]
    simp only [readClosing, brackets, opened, ↓reduceIte]

theorem mirrors_single {c : Ledger n} (starts : ∀ t ∈ c.rest.head?, t.kind ≠ .lparen ∧
      ∀ j, prefixLevel? t.kind = some j → ¬ operandLevel fr.pending ≤ j) :
    Mirrors stop (.operand fr false) c.rest (single stop c)
      fun e _ d s => d = c.depth ∧ s = .chain fr e 0 := by
  obtain ⟨ts, few, d⟩ := c
  cases ts with
  | nil => simp only [Mirrors, single, refuse, State.run, State.finish]; rfl
  | cons t ts =>
    obtain ⟨bracket, loose⟩ := starts t rfl
    have step : (State.operand fr false).step t = _ := single_step bracket loose
    simp only [single]
    cases value : primary t with
    | error fault =>
      rw [value] at step
      exact run_refuses step
    | ok e =>
      rw [value] at step
      exact mirrors_step step (mirrors_give rfl ⟨rfl, rfl⟩)

theorem tracks_primary {level : Nat} (strong : ¬ level < postfixLevel)
    (stronger : level ≠ postfixLevel) (inside : ∀ m, m < n → Tracks stop (.operand 1) m) :
    Tracks stop (.operand level) n := by
  rintro c fr k s ⟨rfl, depth, fits, first⟩
  have beyond : postfixLevel < level := by omega
  rw [Rule.descent, if_neg strong, if_neg stronger]
  refine mirrors_onNext (fun t ts less split kind => ?_) fun other => ?_
  · have opens : t.kind = .lparen := by simpa using kind
    refine mirrors_andThen (fun e rest depth s => depth = fr.depth ∧ Closed 1 rest ∧
      Behind ⟨[], .grouping fr.pending :: fr.brackets, fr.depth + 1⟩ 0 e s)
      (mirrors_deeper _ depth (fun full => run_refuses (grouping_full opens full))
        fun room => ?_) ?_
    · refine mirrors_step (grouping_step opens room) (mirrors_shallower ?_)
      refine mirrors_weaken (mirrors_bracketed (inside _ less) rfl) ?_
      rintro e rest depth s ⟨back, closed, behind⟩
      exact ⟨by omega, closed, behind⟩
    · rintro e l s' ⟨back, closed, behind⟩
      refine mirrors_weaken (grouping_end behind closed back) ?_
      rintro e rest depth s ⟨back, rfl⟩
      exact ⟨back, fun weak => by omega, fun _ => rfl⟩
  · refine mirrors_weaken (mirrors_single fun t head => ⟨?_, fun j known fits => ?_⟩) ?_
    · simpa using other t head
    · have tight := first t head j known fits
      have := prefixLevel_cases known
      simp only [postfixLevel] at beyond
      omega
    · rintro e rest d s ⟨rfl, rfl⟩
      exact ⟨depth, fun weak => by omega, fun _ => rfl⟩

theorem tracks_chain {base : Int} (inside : ∀ m, m < n → Tracks stop (.arguments e) m)
    (called : ∀ m, m < n → ∀ e, Tracks stop (.chain base e) m)
    (accessed : ∀ m, m < n → ∀ k, k < m → ∀ u : Token,
      Tracks stop (.chain base (.member e u.lexeme)) k) : Tracks stop (.chain base e) n := by
  rintro c fr k s ⟨rfl, rfl, depth⟩
  rw [Rule.descent]
  refine mirrors_onNext (fun t ts less split kind => ?_) fun bracket =>
    mirrors_onNext (fun t ts less split kind => ?_) fun dot => ?_
  · have opens : t.kind = .lparen := by simpa using kind
    refine mirrors_deeper (fr.depth + k) (by simpa using depth)
      (fun full => run_refuses (chain_full full (.inl opens))) fun room => ?_
    refine mirrors_step (chain_step_call opens room) ?_
    refine mirrors_andThen (fun x _ d s => d = fr.depth + (k + 1 : Nat) ∧ s = .chain fr x (k + 1))
      (mirrors_deeper (fr.depth + (k + 1)) (by simp; omega)
        (fun full => run_full (Nat.not_lt.mpr full)) fun room => mirrors_shallower ?_) ?_
    · refine mirrors_weaken (inside _ less ⟨ts, Nat.le_refl _, _⟩ fr (k + 1) _ ⟨rfl, ?_, room⟩) ?_
      · simp
      · rintro x rest d s ⟨back, rfl⟩
        exact ⟨by omega, rfl⟩
    · rintro x l s' ⟨back, rfl⟩
      exact called _ less x l fr (k + 1) _ ⟨rfl, rfl, back⟩
  · have period : t.kind = .period := by simpa using kind
    refine mirrors_deeper (fr.depth + k) (by simpa using depth)
      (fun full => run_refuses (chain_full full (.inr period))) fun room => ?_
    refine mirrors_step (chain_step_dot period room) ?_
    refine mirrors_onNext (fun u us fewer after ident => ?_) fun other => ?_
    · refine mirrors_step (property_step (by simpa using ident)) ?_
      exact accessed _ less _ fewer u ⟨us, Nat.le_refl _, _⟩ fr (k + 1) _ ⟨rfl, rfl, by simp; omega⟩
    · refine mirrors_refuseNext rfl fun u head => ?_
      have name : u.kind ≠ .ident := by simpa using other u head
      simp only [State.step, name, ↓reduceIte]
  · refine mirrors_give rfl ⟨rfl, fun t head => ?_, k, rfl⟩
    refine ⟨by simpa using bracket t head, by simpa using dot t head, fun j known => ?_⟩
    have := binaryLevel_bounds known
    simp only [postfixLevel]
    omega

theorem tracks_arguments {callee : Expr} (first : Tracks stop (.operand 1) n)
    (others : ∀ a, Tracks stop (.more callee [a]) n) : Tracks stop (.arguments callee) n := by
  rintro c fr k s ⟨rfl, depth, room⟩
  rw [descent_arguments]
  refine mirrors_onNext (fun t ts less split kind => ?_) fun other => ?_
  · refine mirrors_step (arguments_step (by simpa using kind) room) (mirrors_give rfl ?_)
    exact ⟨depth, rfl⟩
  · refine mirrors_of_run (arguments_run room fun t head => by simpa using other t head) ?_
    refine mirrors_andThen _ (mirrors_bracketed first (by simpa using depth)) ?_
    exact fun a l s' held => others a l fr k s' ⟨[], a, rfl, held⟩

theorem tracks_more {callee : Expr} {args : List Expr}
    (next : ∀ m, m < n → Tracks stop (.operand 1) m)
    (others : ∀ m, m < n → ∀ a, Tracks stop (.more callee (args ++ [a])) m) :
    Tracks stop (.more callee args) n := by
  rintro c fr k s ⟨done, last, rfl, depth, closed, fr', x, k', rfl, brackets, settled⟩
  have all := settled 0 (Nat.le_refl _)
  rw [Rule.descent]
  refine mirrors_onNext (fun t ts less split kind => ?_) fun comma =>
    mirrors_onNext (fun t ts less split kind => ?_) fun bracket => mirrors_refuseNext ?_ ?_
  · have comma : t.kind = .comma := by simpa using kind
    have step : (State.chain fr' x k').step t = _ :=
      (closed_step closed (by simp [split])).trans (readClosing_comma all brackets comma)
    refine mirrors_step step ?_
    refine mirrors_andThen _ (mirrors_bracketed (next _ less) depth) ?_
    exact fun a l s' held => others _ less a l fr k s' ⟨done ++ [last], a, rfl, held⟩
  · have closes : t.kind = .rparen := by simpa using kind
    have step : (State.chain fr' x k').step t = _ :=
      (closed_step closed (by simp [split])).trans (readClosing_call all brackets closes)
    rw [show fr.depth + k + 1 - (k + 1) = fr.depth by omega] at step
    refine mirrors_step step (mirrors_give rfl ?_)
    exact ⟨by simpa using depth, rfl⟩
  · simp only [State.finish, brackets]
  · intro t head
    have single : t.kind ≠ .comma := by simpa using comma t head
    have opened : t.kind ≠ .rparen := by simpa using bracket t head
    rw [closed_step closed head]
    simp only [readClosing, brackets, single, opened, ↓reduceIte]

theorem descent_tracks (stop : Token) (r : Rule) (n : Nat) : Tracks stop r n := by
  induction r, n using Rule.descent.induct with
  | case1 n level weak nests weaker folds => exact tracks_operand weak nests weaker folds
  | case2 n strong operand chains => exact tracks_postfix operand chains
  | case3 n level strong stronger inside => exact tracks_primary strong stronger inside
  | case4 n level left right folds => exact tracks_fold right folds
  | case5 n base e inside called accessed => exact tracks_chain inside called accessed
  | case6 n callee first others => exact tracks_arguments first others
  | case7 n callee args next others => exact tracks_more next others

end Rules

def Report.answer (r : Report n) : Except ParseError Expr :=
  match r.result, r.left.rest with
  | .ok _, t :: _ => .error ⟨t, .trailing⟩
  | result, _ => result

theorem parse_descent (ts : List Token) : parse ts =
    ((Rule.operand 1).descent (stopToken ts) _ (.start (bodyTokens ts))).answer := by
  have mirrors : Mirrors (stopToken ts) .start (bodyTokens ts) _ (Bracketed [] 0) :=
    mirrors_bracketed (c := .start (bodyTokens ts)) (descent_tracks (stopToken ts) (.operand 1) _)
      rfl
  unfold Mirrors at mirrors
  unfold Report.answer
  rw [parse]
  split at mirrors
  · rename_i error failed
    rw [failed]
    exact mirrors
  · rename_i e done
    obtain ⟨s', run, -, closed, fr', x, k, rfl, brackets, settled⟩ := mirrors
    have all := settled 0 (Nat.le_refl _)
    refine run.trans ?_
    rw [done]
    generalize (Report.left _).rest = rest at closed
    cases rest with
    | nil => simp only [State.run, State.finish, brackets, all, settle]
    | cons t rest =>
      refine run_refuses ((closed_step closed rfl).trans ?_)
      simp only [readClosing, brackets]

/-- Behind two siblings that leave the same tokens the ledger is the same, whatever they were. -/
theorem left_eq {r r' : Report n} {floor : Int} (kept : r.Kept floor) (kept' : r'.Kept floor)
    (done : r.result = .ok e) (done' : r'.result = .ok x) (same : r.left.rest = r'.left.rest) :
    r.left = r'.left := by
  have depth : r.left.depth = r'.left.depth := (kept.back e done).trans (kept'.back x done').symm
  obtain ⟨_, ⟨rest, few, d⟩, _⟩ := r
  obtain ⟨_, ⟨rest', few', d'⟩, _⟩ := r'
  simp only at same depth
  subst same depth
  rfl

/-- The parser is the descent from the weakest level with the counter at zero, errors included. A
    rule entered with the counter between its floor and the cap gives it values between these only,
    leaves it not below the floor behind an error, and at the floor again behind a tree. So of two
    earlier siblings that leave the same tokens neither makes a difference: the next rule accepts or
    rejects alike behind both, with the same error, the same tokens left and the same values. -/
theorem depth_ledger (ts : List Token) (stop : Token) (r : Rule) (c : Ledger n)
    (low : r.floor c.depth ≤ c.depth) (cap : c.depth ≤ maxDepth) :
    parse ts = ((Rule.operand 1).descent (stopToken ts) _ (.start (bodyTokens ts))).answer ∧
    (r.descent stop n c).Kept (r.floor c.depth) ∧
    ∀ (r' : Rule) (c' : Ledger n), r'.floor c'.depth = r.floor c.depth →
      r'.floor c'.depth ≤ c'.depth → c'.depth ≤ maxDepth →
      ∀ e e', (r.descent stop n c).result = .ok e → (r'.descent stop n c').result = .ok e' →
        (r.descent stop n c).left.rest = (r'.descent stop n c').left.rest →
        ∀ next next' : Rule, next'.blank = next.blank →
          (next.descent stop n (r.descent stop n c).left).blank =
            (next'.descent stop n (r'.descent stop n c').left).blank := by
  have kept := descent_kept stop r n c low cap
  refine ⟨parse_descent ts, kept, ?_⟩
  intro r' c' floor low' cap' e e' done done' same next next' blank
  have kept' := descent_kept stop r' n c' low' cap'
  rw [floor] at kept'
  rw [left_eq kept kept' done done' same]
  exact descent_alike stop next next' n blank _

def cramped : Ledger 3 :=
  ⟨[⟨.minus, "-", 0, none⟩, ⟨.lparen, "(", 1, none⟩, ⟨.ident, "a", 2, none⟩], by decide, 127⟩

def spent (depth : Int) : Ledger 3 := ⟨[], by decide, depth⟩

theorem depth_ledger_spent :
    ((Rule.operand 1).descent (endToken 3) 3 cramped).Kept 127 ∧
    ∀ next next' : Rule, next'.blank = next.blank →
      (next.descent (endToken 3) 3
          ((Rule.chain 127 .nil).descent (endToken 3) 3 (spent 128)).left).blank =
        (next'.descent (endToken 3) 3
          ((Rule.chain 127 (.name "a")).descent (endToken 3) 3 (spent 127)).left).blank := by
  have done : ∀ e depth,
      ((Rule.chain 127 e).descent (endToken 3) 3 (spent depth)).result = .ok e ∧
      ((Rule.chain 127 e).descent (endToken 3) 3 (spent depth)).left.rest = [] := by
    intro e depth
    rw [Rule.descent]
    exact ⟨rfl, rfl⟩
  constructor
  · exact (depth_ledger [] (endToken 3) (.operand 1) cramped (by decide) (by decide)).2.1
  · have siblings :=
      (depth_ledger [] (endToken 3) (.chain 127 .nil) (spent 128) (by decide) (by decide)).2.2
    exact siblings (.chain 127 (.name "a")) (spent 127) rfl (by decide) (by decide) _ _
      (done _ _).1 (done _ _).1 ((done _ _).2.trans (done _ _).2.symm)

end ScopedFormula
