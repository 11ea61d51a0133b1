import ScopedFormula.Proofs.Grammar

/- Every well levelled tree within the nesting cap is read back from its own tokens, whatever
   operators and brackets are open before it and whatever tokens follow. Operators at its right
   edge may still be pending afterwards; settling them gives the tree. -/
namespace ScopedFormula

variable {fr fr' : Frames} {e x : Expr} {t stop : Token} {ts us rest : List Token} {k : Nat}

def Frames.entered (fr : Frames) (deeper : Bool) : Frames :=
  { fr with depth := fr.depth + deeper.toNat }

@[simp] theorem entered_pending (deeper : Bool) : (fr.entered deeper).pending = fr.pending := rfl

theorem descend_ok {depth : Nat} (room : depth + 1 ≤ maxDepth) :
    descend depth = .ok (depth + 1) := by
  simp only [descend]
  split
  · omega
  · rfl

theorem run_cons {s s' : State} (h : s.step t = .ok s') :
    s.run stop (t :: ts) = s'.run stop ts := by
  simp only [State.run, h]

theorem operand_step {deeper : Bool} (room : fr.depth + deeper.toNat ≤ maxDepth) :
    (State.operand fr deeper).step t = readOperand (fr.entered deeper) t := by
  cases deeper with
  | false => rfl
  | true => simp only [State.step, ↓reduceIte, descend_ok room]; rfl

theorem settle_stops {ps : List Pending} {level depth : Nat}
    (h : ∀ p ∈ ps.head?, p.level < level) : settle level ps depth e = (ps, depth, e) := by
  cases ps with
  | nil => rfl
  | cons p ps =>
    have := h p rfl
    simp only [settle]
    split
    · omega
    · rfl

theorem head_below {kind : TokenKind} {level : Nat} {ps : List Pending}
    (known : binaryLevel? kind = some level) (fits : operandLevel ps ≤ level) :
    ∀ p ∈ ps.head?, p.level < level := by
  cases ps with
  | nil => simp
  | cons p ps =>
    simp only [List.head?_cons, Option.mem_def, Option.some.injEq, forall_eq']
    simp only [operandLevel] at fits
    have bounds := binaryLevel_bounds known
    cases p with
    | binary left op =>
      simp only [Pending.operandLevel, Pending.level] at fits ⊢
      omega
    | unary op =>
      simp only [Pending.operandLevel, Pending.level] at fits ⊢
      cases held : prefixLevel? op.kind with
      | none => simp; omega
      | some strength =>
        have := prefixLevel_cases held
        simp only [held, Option.getD_some] at fits ⊢
        omega

theorem chain_step_binary {level : Nat} (known : binaryLevel? t.kind = some level) :
    (State.chain fr e k).step t = .ok (.operand
      ⟨.binary (settle level fr.pending fr.depth e).2.2 t ::
        (settle level fr.pending fr.depth e).1, fr.brackets,
        (settle level fr.pending fr.depth e).2.1⟩ false) := by
  have call : t.kind ≠ .lparen := by intro same; simp [same, binaryLevel?] at known
  have dot : t.kind ≠ .period := by intro same; simp [same, binaryLevel?] at known
  simp only [State.step, call, dot, known, ↓reduceIte]

theorem chain_step_closing (closes : t.kind = .rparen ∨ t.kind = .comma) :
    (State.chain fr e k).step t = readClosing fr e t := by
  rcases closes with same | same <;> simp [State.step, same, binaryLevel?]

theorem chain_step_call (opens : t.kind = .lparen) (room : fr.depth + k + 1 ≤ maxDepth) :
    (State.chain fr e k).step t = .ok (.arguments fr e (k + 1)) := by
  simp only [State.step, opens, ↓reduceIte, descend_ok room]
  rfl

theorem chain_step_dot (dot : t.kind = .period) (room : fr.depth + k + 1 ≤ maxDepth) :
    (State.chain fr e k).step t = .ok (.property fr e (k + 1)) := by
  simp only [State.step, dot, reduceCtorEq, ↓reduceIte, descend_ok room]
  rfl

structure Holds (fr fr' : Frames) (e x : Expr) (k : Nat) : Prop where
  brackets : fr'.brackets = fr.brackets
  settled : ∀ level ≤ e.level,
    settle level fr'.pending fr'.depth x = settle level fr.pending fr.depth e
  whole : postfixLevel ≤ e.level → fr' = fr ∧ x = e ∧ k = e.steps

theorem holds_itself : Holds fr fr e e e.steps :=
  ⟨rfl, fun _ _ => rfl, fun _ => ⟨rfl, rfl, rfl⟩⟩

def Reads (e : Expr) : Prop :=
  ∀ (fr : Frames) (deeper : Bool) (stop : Token) (ts rest : List Token), Spells e ts →
    operandLevel fr.pending ≤ e.level → fr.depth + deeper.toNat + e.nest ≤ maxDepth →
    ∃ fr' x k, (State.operand fr deeper).run stop (ts ++ rest) =
      (State.chain fr' x k).run stop rest ∧ Holds (fr.entered deeper) fr' e x k

theorem reads_primary (whole : e.steps = 0)
    (single : ∀ ts, Spells e ts → ∃ t, ts = [t] ∧ prefixLevel? t.kind = none ∧
      t.kind ≠ .lparen ∧ primary t = .ok e) : Reads e := by
  intro fr deeper stop ts rest spelled fits room
  obtain ⟨t, rfl, operator, bracket, value⟩ := single ts spelled
  have read : readOperand (fr.entered deeper) t = .ok (.chain (fr.entered deeper) e 0) := by
    simp only [readOperand, operator, bracket, ↓reduceIte, value]
    rfl
  refine ⟨fr.entered deeper, e, e.steps, ?_, holds_itself⟩
  rw [whole]
  exact run_cons ((operand_step (by omega)).trans read)

theorem reads_unary {op : Token} {operand : Expr} {level : Nat}
    (known : prefixLevel? op.kind = some level) (tight : level ≤ operand.level)
    (below : Reads operand) : Reads (.unary op operand) := by
  intro fr deeper stop ts rest spelled fits room
  obtain ⟨us, rfl, inner⟩ := spells_unary_iff.mp spelled
  simp only [Expr.level, known, Option.getD_some] at fits
  simp only [Expr.nest] at room
  have read : readOperand (fr.entered deeper) op = .ok (.operand
      { fr.entered deeper with pending := .unary op :: fr.pending } true) := by
    simp only [readOperand, known, entered_pending, fits, ↓reduceIte]
  obtain ⟨fr', x, k, run, brackets, settled, -⟩ := below
    { fr.entered deeper with pending := .unary op :: fr.pending } true stop us rest inner
    (by simpa [operandLevel, Pending.operandLevel, known] using tight)
    (by simp only [Frames.entered, Bool.toNat_true]; omega)
  refine ⟨fr', x, k, ?_, brackets, ?_, ?_⟩
  · rw [List.cons_append, run_cons ((operand_step (by omega)).trans read), run]
  · intro l bound
    simp only [Expr.level, known, Option.getD_some] at bound
    rw [settled l (by omega)]
    simp [Frames.entered, settle, Pending.level, known, bound, Pending.depth, Pending.apply]
  · intro strong
    have := prefixLevel_cases known
    simp only [Expr.level, known, Option.getD_some, postfixLevel] at strong
    omega

theorem reads_binary {left right : Expr} {op : Token} {level : Nat}
    (known : binaryLevel? op.kind = some level) (loose : level ≤ left.level)
    (tight : level < right.level) (before : Reads left) (after : Reads right) :
    Reads (.binary left op right) := by
  intro fr deeper stop ts rest spelled fits room
  obtain ⟨us, vs, rfl, first, second⟩ := spells_binary_iff.mp spelled
  simp only [Expr.level, known, Option.getD_some] at fits
  simp only [Expr.nest] at room
  obtain ⟨fr₁, x₁, k₁, run₁, brackets₁, settled₁, -⟩ :=
    before fr deeper stop us (op :: vs ++ rest) first (by omega) (by omega)
  have same := settled₁ level loose
  rw [entered_pending, settle_stops (head_below known fits)] at same
  have read : (State.chain fr₁ x₁ k₁).step op = .ok (.operand
      ⟨.binary left op :: fr.pending, fr.brackets, fr.depth + deeper.toNat⟩ false) := by
    rw [chain_step_binary known, same, brackets₁]
    rfl
  obtain ⟨fr₂, x₂, k₂, run₂, brackets₂, settled₂, -⟩ := after
    ⟨.binary left op :: fr.pending, fr.brackets, fr.depth + deeper.toNat⟩ false stop vs rest
    second (by simp only [operandLevel, Pending.operandLevel, known, Option.getD_some]; omega)
    (by simp only [Bool.toNat_false]; omega)
  refine ⟨fr₂, x₂, k₂, ?_, brackets₂, ?_, ?_⟩
  · rw [List.append_assoc, run₁, List.cons_append, run_cons read]
    exact run₂
  · intro l bound
    simp only [Expr.level, known, Option.getD_some] at bound
    rw [settled₂ l (by omega)]
    simp [Frames.entered, settle, Pending.level, known, bound, Pending.depth, Pending.apply]
  · intro strong
    have := binaryLevel_bounds known
    simp only [Expr.level, known, Option.getD_some, postfixLevel] at strong
    omega

theorem readClosing_grouping {before : List Pending} {outer : List Bracket} {depth : Nat}
    (settled : settle 0 fr.pending fr.depth x = ([], depth, e))
    (opened : fr.brackets = .grouping before :: outer) (closes : t.kind = .rparen) :
    readClosing fr x t = .ok (.chain ⟨before, outer, depth - 1⟩ (.grouping e) 0) := by
  simp only [readClosing, settled, opened, closes, ↓reduceIte]

theorem readClosing_call {before : List Pending} {outer : List Bracket} {depth steps : Nat}
    {callee : Expr} {args : List Expr}
    (settled : settle 0 fr.pending fr.depth x = ([], depth, e))
    (opened : fr.brackets = .call before callee steps args :: outer) (closes : t.kind = .rparen) :
    readClosing fr x t =
      .ok (.chain ⟨before, outer, depth - (steps + 1)⟩ (.call callee (args ++ [e])) steps) := by
  simp only [readClosing, settled, opened, closes, ↓reduceIte]

theorem readClosing_comma {before : List Pending} {outer : List Bracket} {depth steps : Nat}
    {callee : Expr} {args : List Expr}
    (settled : settle 0 fr.pending fr.depth x = ([], depth, e))
    (opened : fr.brackets = .call before callee steps args :: outer) (comma : t.kind = .comma) :
    readClosing fr x t =
      .ok (.operand ⟨[], .call before callee steps (args ++ [e]) :: outer, depth⟩ false) := by
  simp only [readClosing, settled, opened, comma, reduceCtorEq, ↓reduceIte]

/-- An expression between brackets is all settled when the token after it closes or separates. -/
theorem reads_inside (stop : Token) (rest : List Token) (brackets : List Bracket) (depth : Nat)
    (below : Reads e) (level : 1 ≤ e.level) (spelled : Spells e ts)
    (room : depth + e.nest ≤ maxDepth) (closes : t.kind = .rparen ∨ t.kind = .comma) :
    ∃ fr x, (State.operand ⟨[], brackets, depth⟩ false).run stop (ts ++ t :: rest) =
        (match readClosing fr x t with
          | .ok s => s.run stop rest
          | .error fault => .error ⟨t, fault⟩) ∧
      fr.brackets = brackets ∧ settle 0 fr.pending fr.depth x = ([], depth, e) := by
  obtain ⟨fr, x, k, run, same, settled, -⟩ :=
    below ⟨[], brackets, depth⟩ false stop ts (t :: rest) spelled level (by simpa using room)
  refine ⟨fr, x, ?_, same, settled 0 (by omega)⟩
  rw [run]
  cases result : readClosing fr x t <;>
    simp only [State.run, chain_step_closing closes, result]

theorem reads_grouping {inner : Expr} (level : 1 ≤ inner.level) (below : Reads inner) :
    Reads (.grouping inner) := by
  intro fr deeper stop ts rest spelled fits room
  obtain ⟨t, us, u, rfl, opening, inside, closing⟩ := spells_grouping_iff.mp spelled
  simp only [Expr.nest] at room
  have read : readOperand (fr.entered deeper) t = .ok (.operand
      ⟨[], .grouping fr.pending :: fr.brackets, fr.depth + deeper.toNat + 1⟩ false) := by
    simp only [readOperand, opening, prefixLevel?, ↓reduceIte, Frames.entered,
      descend_ok (show fr.depth + deeper.toNat + 1 ≤ maxDepth by omega)]
    rfl
  obtain ⟨fr', x, run, brackets, settled⟩ := reads_inside stop rest
    (.grouping fr.pending :: fr.brackets) (fr.depth + deeper.toNat + 1)
    below level inside (by omega) (.inl closing)
  rw [readClosing_grouping settled brackets closing] at run
  refine ⟨fr.entered deeper, .grouping inner, 0, ?_, holds_itself⟩
  rw [List.append_assoc, List.cons_append, run_cons ((operand_step (by omega)).trans read)]
  exact run

theorem reads_member {owner : Expr} {n : String} (tight : postfixLevel ≤ owner.level)
    (below : Reads owner) : Reads (.member owner n) := by
  intro fr deeper stop ts rest spelled fits room
  obtain ⟨us, t, u, rfl, first, dot, ident, rfl⟩ := spells_member_iff.mp spelled
  simp only [Expr.nest] at room
  simp only [Expr.level] at fits
  obtain ⟨fr', x, k, run, -, -, whole⟩ := below fr deeper stop us (t :: u :: rest) first
    (by omega) (by omega)
  obtain ⟨rfl, same, rfl⟩ := whole tight
  subst x
  refine ⟨fr.entered deeper, _, _, ?_, holds_itself⟩
  have access : (State.property (fr.entered deeper) owner (owner.steps + 1)).step u =
      .ok (.chain (fr.entered deeper) (.member owner u.lexeme) (owner.steps + 1)) := by
    simp only [State.step, ident, ↓reduceIte]
  rw [List.append_assoc]
  exact run.trans ((run_cons (chain_step_dot dot
    (by simp only [Frames.entered]; omega))).trans (run_cons access))

theorem reads_arguments {stop : Token} {before : List Pending} {outer : List Bracket}
    {callee : Expr}
    {steps depth : Nat} {args done : List Expr} {vs : List Token} (some : args ≠ [])
    (below : ∀ a ∈ args, Reads a ∧ 1 ≤ a.level)
    (spelled : List.Forall₂ Piece.Is (separated args) vs) (closing : t.kind = .rparen)
    (room : depth + nestAll args ≤ maxDepth) :
    (State.operand ⟨[], .call before callee steps done :: outer, depth⟩ false).run stop
        (vs ++ t :: rest) =
      (State.chain ⟨before, outer, depth - (steps + 1)⟩
        (.call callee (done ++ args)) steps).run stop rest := by
  induction args generalizing vs done with
  | nil => contradiction
  | cons a as ih =>
    obtain ⟨reads, level⟩ := below a (by simp)
    simp only [nestAll] at room
    cases as with
    | nil =>
      obtain ⟨fr, x, run, brackets, settled⟩ := reads_inside stop rest
        (.call before callee steps done :: outer) depth reads level spelled (by omega)
        (.inl closing)
      rw [run, readClosing_call settled brackets closing]
    | cons b bs =>
      simp only [separated, List.forall₂_cons_left_iff, forall₂_append_iff] at spelled
      obtain ⟨us, _, rfl, first, comma, ws, kind, tail, rfl⟩ := spelled
      obtain ⟨fr, x, run, brackets, settled⟩ := reads_inside stop (ws ++ t :: rest)
        (.call before callee steps done :: outer) depth reads level first (by omega) (.inr kind)
      rw [List.append_assoc, List.cons_append, run, readClosing_comma settled brackets kind]
      have others : ∀ c ∈ b :: bs, Reads c ∧ 1 ≤ c.level :=
        fun c hc => below c (List.mem_cons_of_mem a hc)
      exact (ih (by simp) others tail (by omega)).trans (by simp)

theorem arguments_run_operand (other : t.kind ≠ .rparen) (room : fr.depth + k + 1 ≤ maxDepth) :
    (State.arguments fr e k).run stop (t :: ts) = (State.operand
      ⟨[], .call fr.pending e k [] :: fr.brackets, fr.depth + k + 1⟩ false).run stop (t :: ts) := by
  have same : (State.arguments fr e k).step t = (State.operand
      ⟨[], .call fr.pending e k [] :: fr.brackets, fr.depth + k + 1⟩ false).step t := by
    simp only [State.step, other, ↓reduceIte, descend_ok room]
    rfl
  simp only [State.run, same]

theorem separated_head {a : Expr} {args : List Expr} {vs : List Token} (h : WellLevelled a)
    (spelled : List.Forall₂ Piece.Is (separated (a :: args)) vs) :
    ∃ v vs', vs = v :: vs' ∧ v.kind ≠ .rparen := by
  obtain ⟨p, ps, start, other⟩ := pieces_head h
  have front : ∃ qs, separated (a :: args) = p :: qs := by
    cases args <;> simp [separated, start]
  obtain ⟨qs, front⟩ := front
  rw [front, List.forall₂_cons_left_iff] at spelled
  obtain ⟨v, vs', is, -, rfl⟩ := spelled
  exact ⟨v, vs', rfl, by rw [kind_of_is is]; exact other⟩

theorem reads_call {callee : Expr} {args : List Expr} (tight : postfixLevel ≤ callee.level)
    (below : Reads callee) (levelled : ∀ a ∈ args, WellLevelled a)
    (inside : ∀ a ∈ args, Reads a) : Reads (.call callee args) := by
  intro fr deeper stop ts rest spelled fits room
  obtain ⟨us, t, vs, u, rfl, first, opening, arguments, closing⟩ := spells_call_iff.mp spelled
  simp only [Expr.nest] at room
  simp only [Expr.level] at fits
  obtain ⟨fr', x, k, run, -, -, whole⟩ := below fr deeper stop us (t :: (vs ++ u :: rest)) first
    (by omega) (by omega)
  obtain ⟨rfl, same, rfl⟩ := whole tight
  subst x
  have deep : (fr.entered deeper).depth + callee.steps + 2 + nestAll args ≤ maxDepth := by
    simp only [Frames.entered]
    omega
  refine ⟨fr.entered deeper, _, _, ?_, holds_itself⟩
  rw [List.append_assoc, List.append_assoc]
  refine run.trans ((run_cons (chain_step_call opening (by omega))).trans ?_)
  cases args with
  | nil =>
    rw [separated, List.forall₂_nil_left_iff] at arguments
    subst vs
    refine run_cons ?_
    simp only [State.step, closing, ↓reduceIte,
      descend_ok (show (fr.entered deeper).depth + (callee.steps + 1) + 1 ≤ maxDepth by omega)]
    rfl
  | cons a as =>
    obtain ⟨v, vs', rfl, other⟩ := separated_head (levelled a (by simp)) arguments
    rw [List.cons_append, arguments_run_operand other (by omega), ← List.cons_append]
    have ready : ∀ b ∈ a :: as, Reads b ∧ 1 ≤ b.level :=
      fun b hb => ⟨inside b hb, level_pos (levelled b hb)⟩
    refine (reads_arguments (by simp) ready arguments closing (by omega)).trans ?_
    have back : (fr.entered deeper).depth + (callee.steps + 1) + 1 - (callee.steps + 1 + 1) =
        (fr.entered deeper).depth := by omega
    rw [back]
    rfl

theorem reads_wellLevelled (h : WellLevelled e) : Reads e := by
  induction h with
  | string | integer | float | name | nil =>
    refine reads_primary rfl fun ts spelled => ?_
    simp only [Spells, Expr.pieces, List.forall₂_cons_left_iff, List.forall₂_nil_left_iff,
      Piece.Is, Literal.kind] at spelled
    obtain ⟨t, _, is, rfl, rfl⟩ := spelled
    exact ⟨t, rfl, by simp_all [prefixLevel?], by simp_all, by simp_all [primary]⟩
  | boolean b =>
    refine reads_primary rfl fun ts spelled => ?_
    simp only [Spells, Expr.pieces, List.forall₂_cons_left_iff, List.forall₂_nil_left_iff,
      Piece.Is] at spelled
    obtain ⟨t, _, is, rfl, rfl⟩ := spelled
    cases b <;> exact ⟨t, rfl, by simp_all [prefixLevel?], by simp_all, by simp_all [primary]⟩
  | grouping inside ih => exact reads_grouping (level_pos inside) ih
  | unary known below tight ih => exact reads_unary known tight ih
  | binary known before after loose tight first second =>
    exact reads_binary known loose tight first second
  | member below tight ih => exact reads_member tight ih
  | call below tight inside ih args => exact reads_call tight ih inside args

theorem run_of_spells (h : WellLevelled e) (room : e.nest ≤ maxDepth) (spelled : Spells e ts)
    (stop : Token) : State.start.run stop ts = .ok e := by
  obtain ⟨fr, x, k, run, brackets, settled, -⟩ := reads_wellLevelled h ⟨[], [], 0⟩ false stop ts []
    spelled (level_pos h) (by simpa using room)
  rw [List.append_nil] at run
  have none : fr.brackets = [] := brackets
  have all : settle 0 fr.pending fr.depth x = ([], 0, e) := settled 0 (by omega)
  rw [State.start, run, State.run]
  simp only [State.finish, none, all]

end ScopedFormula
