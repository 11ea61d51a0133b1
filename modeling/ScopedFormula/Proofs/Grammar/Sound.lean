import ScopedFormula.Proofs.Grammar.Complete

/- What the parser has read so far is always spelled by what it keeps: the tokens read are
   those of the open brackets, then those of the pending operators, then those of the current
   tree. Each step keeps this, together with the levels and the depth. -/
namespace ScopedFormula

variable {fr : Frames} {e : Expr} {t : Token} {ts : List Token} {base depth : Nat}
  {ps : List Pending}

inductive Waiting (base : Nat) : List Pending → Nat → List Token → Prop where
  | nil : Waiting base [] base []
  | unary {ps : List Pending} {depth level : Nat} {ts : List Token} {op : Token}
      (below : Waiting base ps depth ts) (known : prefixLevel? op.kind = some level)
      (fits : operandLevel ps ≤ level) :
      Waiting base (.unary op :: ps) (depth + 1) (ts ++ [op])
  | binary {ps : List Pending} {depth level : Nat} {ts us : List Token} {op : Token} {left : Expr}
      (below : Waiting base ps depth ts) (known : binaryLevel? op.kind = some level)
      (fits : operandLevel ps ≤ level) (before : WellLevelled left) (spelled : Spells left us)
      (loose : level ≤ left.level) (room : depth + left.nest ≤ maxDepth) :
      Waiting base (.binary left op :: ps) depth (ts ++ us ++ [op])

def Carried (base : Nat) (ps : List Pending) (depth : Nat) (e : Expr) (ts : List Token) : Prop :=
  ∃ us vs, ts = us ++ vs ∧ Waiting base ps depth us ∧ Spells e vs ∧ WellLevelled e ∧
    operandLevel ps ≤ e.level ∧ depth + e.nest ≤ maxDepth

def followed (args : List Expr) : List Piece := args.flatMap fun a => a.pieces ++ [.mark .comma]

theorem separated_snoc (args : List Expr) (e : Expr) :
    separated (args ++ [e]) = followed args ++ e.pieces := by
  induction args with
  | nil => simp [followed, separated]
  | cons a as ih =>
    have next : ∀ b bs,
        separated (a :: b :: bs) = a.pieces ++ .mark .comma :: separated (b :: bs) :=
      fun b bs => by rw [separated]
    cases as with
    | nil => simp [followed, separated]
    | cons b bs =>
      rw [List.cons_append, List.cons_append, next, ← List.cons_append, ih]
      simp [followed]

inductive Opened : List Bracket → Nat → List Token → Prop where
  | nil : Opened [] 0 []
  | grouping {bs : List Bracket} {base depth : Nat} {ps : List Pending} {ts us : List Token}
      {t : Token} (outside : Opened bs base ts) (before : Waiting base ps depth us)
      (opening : t.kind = .lparen) : Opened (.grouping ps :: bs) (depth + 1) (ts ++ us ++ [t])
  | call {bs : List Bracket} {base depth : Nat} {ps : List Pending} {callee : Expr}
      {args : List Expr} {ts us ws : List Token} {t : Token} (outside : Opened bs base ts)
      (before : Carried base ps depth callee us) (tight : postfixLevel ≤ callee.level)
      (opening : t.kind = .lparen) (levelled : ∀ a ∈ args, WellLevelled a)
      (spelled : List.Forall₂ Piece.Is (followed args) ws)
      (room : depth + callee.steps + 2 + nestAll args ≤ maxDepth) :
      Opened (.call ps callee (callee.steps + 1) args :: bs) (depth + callee.steps + 2)
        (ts ++ us ++ t :: ws)

def Ready (fr : Frames) (depth : Nat) (ts : List Token) : Prop :=
  ∃ base us vs, ts = us ++ vs ∧ Opened fr.brackets base us ∧ Waiting base fr.pending depth vs

def Held (fr : Frames) (e : Expr) (ts : List Token) : Prop :=
  ∃ base us vs, ts = us ++ vs ∧ Opened fr.brackets base us ∧
    Carried base fr.pending fr.depth e vs ∧ postfixLevel ≤ e.level

def Reached : State → List Token → Prop
  | .operand fr deeper, ts => Ready fr (fr.depth + deeper.toNat) ts ∧ fr.depth ≤ maxDepth
  | .chain fr e k, ts => Held fr e ts ∧ k = e.steps
  | .arguments fr callee k, ts =>
      ∃ us t, ts = us ++ [t] ∧ t.kind = .lparen ∧ Held fr callee us ∧ k = callee.steps + 1
  | .property fr owner k, ts =>
      ∃ us t, ts = us ++ [t] ∧ t.kind = .period ∧ Held fr owner us ∧ k = owner.steps + 1 ∧
        fr.depth + k ≤ maxDepth

theorem apply_carried {p : Pending} (h : Carried base (p :: ps) depth e ts) :
    Carried base ps (depth - p.depth) (p.apply e) ts := by
  obtain ⟨_, vs, rfl, waiting, spelled, levelled, fits, room⟩ := h
  cases waiting with
  | @unary _ depth level ts op below known lower =>
    simp only [operandLevel, Pending.operandLevel, known, Option.getD_some] at fits
    refine ⟨ts, op :: vs, by simp, below, spells_unary_iff.mpr ⟨vs, rfl, spelled⟩,
      .unary known levelled fits, ?_, ?_⟩
    · simpa [Pending.apply, Expr.level, known] using lower
    · simp only [Pending.apply, Pending.depth, Expr.nest]
      omega
  | @binary _ depth level ts us op left below known lower before first loose within =>
    simp only [operandLevel, Pending.operandLevel, known, Option.getD_some] at fits
    refine ⟨ts, us ++ op :: vs, by simp, below,
      spells_binary_iff.mpr ⟨us, vs, rfl, first, spelled⟩,
      .binary known before levelled loose (by omega), ?_, ?_⟩
    · simpa [Pending.apply, Expr.level, known] using lower
    · simp only [Pending.apply, Pending.depth, Expr.nest]
      omega

theorem settle_carried (level : Nat) (h : Carried base ps depth e ts) :
    Carried base (settle level ps depth e).1 (settle level ps depth e).2.1
      (settle level ps depth e).2.2 ts := by
  induction ps generalizing depth e with
  | nil => exact h
  | cons p ps ih =>
    simp only [settle]
    split
    · exact ih (apply_carried h)
    · exact h

theorem settle_level {level : Nat} (h : level ≤ e.level) :
    level ≤ (settle level ps depth e).2.2.level := by
  induction ps generalizing depth e with
  | nil => exact h
  | cons p ps ih =>
    simp only [settle]
    split
    · rename_i strong
      refine ih ?_
      cases p <;> exact strong
    · exact h

theorem settle_fits {level : Nat} (h : 1 ≤ level) :
    operandLevel (settle level ps depth e).1 ≤ level := by
  induction ps generalizing depth e with
  | nil => exact h
  | cons p ps ih =>
    simp only [settle]
    split
    · exact ih
    · rename_i weak
      cases p <;> simp only [operandLevel, Pending.operandLevel, Pending.level] at weak ⊢ <;> omega

theorem settle_all : (settle 0 ps depth e).1 = [] := by
  induction ps generalizing depth e with
  | nil => rfl
  | cons p ps ih => simpa only [settle, Nat.zero_le, ↓reduceIte] using ih

/-- All operators since the bracket are applied; the tree then spells what follows it. -/
theorem settle_inside (h : Carried base ps depth e ts) :
    (settle 0 ps depth e).2.1 = base ∧ Spells (settle 0 ps depth e).2.2 ts ∧
      WellLevelled (settle 0 ps depth e).2.2 ∧
      base + (settle 0 ps depth e).2.2.nest ≤ maxDepth := by
  obtain ⟨us, vs, rfl, waiting, spelled, levelled, -, room⟩ := settle_carried 0 h
  rw [settle_all] at waiting
  generalize (settle 0 ps depth e).2.1 = inner at waiting room
  cases waiting
  exact ⟨rfl, spelled, levelled, room⟩

theorem descend_eq_ok {d depth : Nat} (h : descend d = .ok depth) :
    depth = d + 1 ∧ d + 1 ≤ maxDepth := by
  simp only [descend] at h
  split at h
  · contradiction
  · simp only [Except.ok.injEq] at h
    omega

theorem primary_spells (h : primary t = .ok e) :
    Spells e [t] ∧ WellLevelled e ∧ e.level = primaryLevel ∧ e.nest = 0 ∧ e.steps = 0 := by
  have one : ∀ p : Piece, p.Is t → List.Forall₂ Piece.Is [p] [t] := fun p is => .cons is .nil
  unfold primary at h
  split at h
  · cases h
    exact ⟨one _ ‹_›, .boolean _, rfl, rfl, rfl⟩
  · cases h
    exact ⟨one _ ‹_›, .boolean _, rfl, rfl, rfl⟩
  · cases h
    exact ⟨one _ ‹_›, .nil, rfl, rfl, rfl⟩
  · split at h
    · cases h
      exact ⟨one _ ⟨‹_›, ‹_›⟩, .integer _, rfl, rfl, rfl⟩
    · contradiction
  · split at h
    · cases h
      exact ⟨one _ ⟨‹_›, ‹_›⟩, .float _, rfl, rfl, rfl⟩
    · contradiction
  · split at h
    · cases h
      exact ⟨one _ ⟨‹_›, ‹_›⟩, .string _, rfl, rfl, rfl⟩
    · contradiction
  · cases h
    exact ⟨one _ ⟨‹_›, rfl⟩, .name _, rfl, rfl, rfl⟩
  · contradiction

theorem waiting_operandLevel (h : Waiting base ps depth ts) : operandLevel ps ≤ postfixLevel := by
  cases h with
  | nil => simp [operandLevel, postfixLevel]
  | unary below known fits =>
    have := prefixLevel_cases known
    simp only [operandLevel, Pending.operandLevel, known, Option.getD_some, postfixLevel]
    omega
  | binary below known fits before spelled loose room =>
    have := binaryLevel_bounds known
    simp only [operandLevel, Pending.operandLevel, known, Option.getD_some, postfixLevel]
    omega

theorem readOperand_reached {s : State} (ready : Ready fr fr.depth ts)
    (room : fr.depth ≤ maxDepth) (h : readOperand fr t = .ok s) : Reached s (ts ++ [t]) := by
  obtain ⟨base, us, vs, rfl, outside, before⟩ := ready
  unfold readOperand at h
  split at h
  · rename_i level known
    split at h
    · rename_i fits
      cases h
      exact ⟨⟨base, us, vs ++ [t], by simp, outside, .unary before known fits⟩, room⟩
    · contradiction
  · split at h
    · rename_i opening
      cases deeper : descend fr.depth with
      | error fault => simp only [deeper] at h; contradiction
      | ok depth =>
        simp only [deeper] at h
        cases h
        obtain ⟨rfl, within⟩ := descend_eq_ok deeper
        exact ⟨⟨_, _, [], by simp, .grouping outside before opening, .nil⟩, within⟩
    · cases value : primary t with
      | error fault => simp only [value] at h; contradiction
      | ok e =>
        simp only [value] at h
        cases h
        obtain ⟨spelled, levelled, whole, flat, none⟩ := primary_spells value
        have strong : postfixLevel ≤ e.level := by simp [whole, primaryLevel, postfixLevel]
        have fits := Nat.le_trans (waiting_operandLevel before) strong
        exact ⟨⟨base, us, vs ++ [t], by simp, outside,
          ⟨vs, [t], rfl, before, spelled, levelled, fits, by omega⟩, strong⟩, none.symm⟩

theorem operand_reached {s : State} {deeper : Bool} (reached : Reached (.operand fr deeper) ts)
    (h : (State.operand fr deeper).step t = .ok s) : Reached s (ts ++ [t]) := by
  obtain ⟨ready, room⟩ := reached
  cases deeper with
  | false => exact readOperand_reached ready room h
  | true =>
    simp only [State.step, ↓reduceIte] at h
    cases entered : descend fr.depth with
    | error fault => simp only [entered] at h; contradiction
    | ok depth =>
      simp only [entered] at h
      obtain ⟨rfl, within⟩ := descend_eq_ok entered
      exact readOperand_reached ready within h

theorem arguments_reached {s : State} {callee : Expr} {k : Nat}
    (reached : Reached (.arguments fr callee k) ts)
    (h : (State.arguments fr callee k).step t = .ok s) : Reached s (ts ++ [t]) := by
  obtain ⟨_, u, rfl, opening, ⟨base, us, vs, rfl, outside, carried, tight⟩, rfl⟩ := reached
  simp only [State.step] at h
  cases inner : descend (fr.depth + (callee.steps + 1)) with
  | error fault => simp only [inner] at h; contradiction
  | ok depth =>
    obtain ⟨rfl, within⟩ := descend_eq_ok inner
    simp only [inner] at h
    change (if t.kind = .rparen then _ else _) = _ at h
    split at h
    · rename_i closing
      cases h
      obtain ⟨ws, xs, rfl, waiting, spelled, levelled, fits, room⟩ := carried
      refine ⟨⟨base, us, ws ++ (xs ++ [u, t]), by simp, outside, ⟨ws, _, rfl, waiting,
        spells_call_iff.mpr ⟨xs, u, [], t, by simp, spelled, opening, .nil, closing⟩,
        .call levelled tight (by simp), waiting_operandLevel waiting, ?_⟩, Nat.le_refl _⟩, rfl⟩
      simp only [Expr.nest, nestAll]
      omega
    · refine readOperand_reached ⟨_, us ++ vs ++ [u], [], by simp,
        .call outside carried tight opening (by simp) .nil ?_, ?_⟩ within h
      · simp only [nestAll]
        omega
      · exact .nil

theorem property_reached {s : State} {owner : Expr} {k : Nat}
    (reached : Reached (.property fr owner k) ts)
    (h : (State.property fr owner k).step t = .ok s) : Reached s (ts ++ [t]) := by
  obtain ⟨_, u, rfl, dot, ⟨base, us, vs, rfl, outside, carried, tight⟩, rfl, within⟩ := reached
  obtain ⟨ws, xs, rfl, waiting, spelled, levelled, fits, room⟩ := carried
  simp only [State.step] at h
  split at h
  · rename_i ident
    cases h
    refine ⟨⟨base, us, ws ++ (xs ++ [u, t]), by simp, outside, ⟨ws, _, rfl, waiting,
      spells_member_iff.mpr ⟨xs, u, t, rfl, spelled, dot, ident, rfl⟩,
      .member levelled tight, waiting_operandLevel waiting, ?_⟩, Nat.le_refl _⟩, rfl⟩
    simp only [Expr.nest]
    omega
  · contradiction

theorem readClosing_reached {s : State} (held : Held fr e ts) (h : readClosing fr e t = .ok s) :
    Reached s (ts ++ [t]) := by
  obtain ⟨base, us, vs, rfl, outside, carried, -⟩ := held
  obtain ⟨same, spelled, levelled, room⟩ := settle_inside carried
  unfold readClosing at h
  generalize settle 0 fr.pending fr.depth e = settled at *
  obtain ⟨_, inner, x⟩ := settled
  simp only at h same spelled levelled room
  subst inner
  split at h
  · contradiction
  · rename_i before outer opened
    rw [opened] at outside
    split at h
    · rename_i closing
      cases h
      cases outside with
      | @grouping _ base depth _ ws xs u outside waiting opening =>
        refine ⟨⟨base, ws, xs ++ (u :: vs ++ [t]), by simp, outside, ⟨xs, _, rfl, waiting,
          spells_grouping_iff.mpr ⟨u, vs, t, rfl, opening, spelled, closing⟩,
          .grouping levelled, ?_, ?_⟩, ?_⟩, rfl⟩
        · exact Nat.le_trans (waiting_operandLevel waiting) (by simp [Expr.level, primaryLevel,
            postfixLevel])
        · simp only [Expr.nest]
          omega
        · simp [Expr.level, primaryLevel, postfixLevel]
    · contradiction
  · rename_i before callee steps args outer opened
    rw [opened] at outside
    cases outside with
    | @call _ base depth _ _ _ ws xs ys u outside called tight opening inside listed within =>
      have every : ∀ a ∈ args ++ [x], WellLevelled a := by
        intro a mem
        rcases List.mem_append.mp mem with earlier | last
        · exact inside a earlier
        · rw [List.mem_singleton.mp last]
          exact levelled
      have deepest : depth + callee.steps + 2 + nestAll (args ++ [x]) ≤ maxDepth := by
        simp only [nestAll_append, nestAll]
        omega
      split at h
      · rename_i closing
        cases h
        obtain ⟨zs, cs, rfl, waiting, first, below, -, narrow⟩ := called
        refine ⟨⟨base, ws, zs ++ (cs ++ u :: (ys ++ vs) ++ [t]), by simp, outside, ⟨zs, _, rfl,
          ?_, spells_call_iff.mpr ⟨cs, u, ys ++ vs, t, rfl, first, opening, ?_, closing⟩,
          .call below tight every, waiting_operandLevel waiting, ?_⟩, Nat.le_refl _⟩, rfl⟩
        · have back : depth + callee.steps + 2 - (callee.steps + 1 + 1) = depth := by omega
          rw [back]
          exact waiting
        · rw [separated_snoc]
          exact List.rel_append listed spelled
        · simp only [Expr.nest]
          omega
      · split at h
        · rename_i comma
          cases h
          have more : List.Forall₂ Piece.Is (followed (args ++ [x])) (ys ++ (vs ++ [t])) := by
            simp only [followed, List.flatMap_append, List.flatMap_cons, List.flatMap_nil,
              List.append_nil]
            exact List.rel_append listed (List.rel_append spelled (.cons comma .nil))
          exact ⟨⟨_, ws ++ xs ++ u :: (ys ++ (vs ++ [t])), [], by simp,
            .call outside called tight opening every more deepest, .nil⟩,
            by simp only; omega⟩
        · contradiction

theorem chain_reached {s : State} {k : Nat} (reached : Reached (.chain fr e k) ts)
    (h : (State.chain fr e k).step t = .ok s) : Reached s (ts ++ [t]) := by
  obtain ⟨held, rfl⟩ := reached
  simp only [State.step] at h
  split at h
  · rename_i opening
    cases inner : descend (fr.depth + e.steps) with
    | error fault => simp only [inner] at h; contradiction
    | ok depth =>
      simp only [inner] at h
      cases h
      exact ⟨ts, t, rfl, opening, held, rfl⟩
  · split at h
    · rename_i dot
      cases inner : descend (fr.depth + e.steps) with
      | error fault => simp only [inner] at h; contradiction
      | ok depth =>
        simp only [inner] at h
        cases h
        exact ⟨ts, t, rfl, dot, held, rfl, (descend_eq_ok inner).2⟩
    · split at h
      · rename_i level known
        cases h
        obtain ⟨base, us, vs, rfl, outside, carried, tight⟩ := held
        have bounds := binaryLevel_bounds known
        simp only [postfixLevel] at tight
        have fits : operandLevel (settle level fr.pending fr.depth e).1 ≤ level :=
          settle_fits bounds.1
        have loose : level ≤ (settle level fr.pending fr.depth e).2.2.level :=
          settle_level (by omega)
        obtain ⟨ws, xs, rfl, waiting, spelled, levelled, -, room⟩ := settle_carried level carried
        exact ⟨⟨base, us, ws ++ xs ++ [t], by simp, outside,
          .binary waiting known fits levelled spelled loose room⟩,
          Nat.le_trans (Nat.le_add_right _ _) room⟩
      · exact readClosing_reached held h

theorem step_reached {s s' : State} (reached : Reached s ts) (h : s.step t = .ok s') :
    Reached s' (ts ++ [t]) := by
  cases s with
  | operand fr deeper => exact operand_reached reached h
  | arguments fr callee k => exact arguments_reached reached h
  | property fr owner k => exact property_reached reached h
  | chain fr e k => exact chain_reached reached h

theorem finish_reached {s : State} (reached : Reached s ts) (h : s.finish = .ok e) :
    WellLevelled e ∧ e.nest ≤ maxDepth ∧ Spells e ts := by
  cases s with
  | operand fr deeper =>
    cases deeper with
    | false => contradiction
    | true =>
      simp only [State.finish, ↓reduceIte] at h
      cases inner : descend fr.depth <;> simp only [inner] at h <;> contradiction
  | arguments fr callee k =>
    simp only [State.finish] at h
    cases inner : descend (fr.depth + k) <;> simp only [inner] at h <;> contradiction
  | property fr owner k => contradiction
  | chain fr x k =>
    obtain ⟨⟨base, us, vs, rfl, outside, carried, -⟩, -⟩ := reached
    simp only [State.finish] at h
    split at h
    · rename_i none
      cases h
      rw [none] at outside
      cases outside
      obtain ⟨-, spelled, levelled, room⟩ := settle_inside carried
      exact ⟨levelled, by omega, spelled⟩
    · contradiction
    · contradiction

theorem run_reached {s : State} {stop : Token} {us : List Token} (reached : Reached s ts)
    (h : s.run stop us = .ok e) : WellLevelled e ∧ e.nest ≤ maxDepth ∧ Spells e (ts ++ us) := by
  induction us generalizing s ts with
  | nil =>
    rw [List.append_nil]
    simp only [State.run] at h
    cases ended : s.finish with
    | error fault => simp [ended] at h
    | ok x =>
      simp only [ended, Except.ok.injEq] at h
      subst x
      exact finish_reached reached ended
  | cons u us ih =>
    simp only [State.run] at h
    cases next : s.step u with
    | error fault => simp [next] at h
    | ok s' =>
      simp only [next] at h
      rw [← List.singleton_append, ← List.append_assoc]
      exact ih (step_reached reached next) h

theorem start_reached : Reached .start [] :=
  ⟨⟨0, [], [], rfl, .nil, .nil⟩, by decide⟩

/-- The parser accepts exactly the spellings of well levelled trees within the nesting cap, and
    a list of tokens spells at most one of them: the answer. -/
theorem parse_eq_ok_iff (ts : List Token) (e : Expr) :
    parse ts = .ok e ↔ WellLevelled e ∧ e.nest ≤ maxDepth ∧ Spells e (bodyTokens ts) := by
  constructor
  · intro h
    exact run_reached start_reached h
  · rintro ⟨levelled, room, spelled⟩
    exact run_of_spells levelled room spelled (stopToken ts)

end ScopedFormula
