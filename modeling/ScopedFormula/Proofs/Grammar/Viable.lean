import Mathlib.Data.List.TakeWhile
import ScopedFormula.Proofs.Grammar.Sound

/- Where a failing parse stops. Up to the reported token nothing is wrong yet: the tokens before
   it can be completed. With it nothing can be mended: whatever follows, the error is the same. -/
namespace ScopedFormula

variable {fr : Frames} {s s' : State} {t stop : Token} {ts us vs rest : List Token}
  {e : Expr} {fault : Fault} {k : Nat}

def withEnd (ts : List Token) : List Token :=
  if ts.getLast?.any (·.kind == .eof) then ts
  else ts ++ [endToken ((ts.getLast?.map Token.stop).getD 0)]

def State.taken : State → List Token → Nat
  | _, [] => 0
  | s, t :: ts =>
      match s.step t with
      | .ok s' => s'.taken ts + 1
      | .error _ => 0

def stopIndex (ts : List Token) : Nat := State.start.taken (bodyTokens ts)

def Proper (ts : List Token) : Prop := ∀ t ∈ ts, t.kind ≠ .eof

theorem proper_body : Proper (bodyTokens ts) := by
  intro t mem
  simpa using List.mem_takeWhile_imp mem

theorem body_append (proper : Proper us) (rest : List Token) :
    bodyTokens (us ++ rest) = us ++ bodyTokens rest :=
  List.takeWhile_append_of_pos fun u mem => by simpa using proper u mem

theorem body_of_proper (proper : Proper ts) : bodyTokens ts = ts := by
  have body : bodyTokens (ts ++ []) = ts ++ [] := body_append proper []
  rwa [List.append_nil] at body

theorem find_proper (proper : Proper ts) : ts.find? (·.kind == .eof) = none :=
  List.find?_eq_none.mpr fun u mem => by simpa using proper u mem

theorem body_of_split (proper : Proper us) (ended : t.kind = .eof) (rest : List Token) :
    bodyTokens (us ++ t :: rest) = us ∧ stopToken (us ++ t :: rest) = t := by
  constructor
  · rw [body_append proper]
    simp [bodyTokens, ended]
  · simp [stopToken, List.find?_append, find_proper proper, ended]

theorem stopToken_kind : (stopToken ts).kind = .eof := by
  unfold stopToken
  cases found : ts.find? (·.kind == .eof) with
  | none => rfl
  | some t => simpa using List.find?_some found

theorem withEnd_of_proper (proper : Proper ts) : withEnd ts = ts ++ [stopToken ts] := by
  have unended : ts.getLast?.any (·.kind == .eof) = false := by
    cases last : ts.getLast? with
    | none => rfl
    | some t => simpa using proper t (List.mem_of_getLast? last)
  rw [withEnd, unended, stopToken, find_proper proper]
  rfl

theorem withEnd_split (ts : List Token) :
    ∃ rest, withEnd ts = bodyTokens ts ++ stopToken ts :: rest := by
  have split : ts = bodyTokens ts ++ ts.dropWhile (·.kind != .eof) :=
    List.takeWhile_append_dropWhile.symm
  cases dropped : ts.dropWhile (·.kind != .eof) with
  | nil =>
    rw [dropped, List.append_nil] at split
    have proper : Proper ts := split ▸ proper_body
    refine ⟨[], ?_⟩
    rw [← split]
    exact withEnd_of_proper proper
  | cons t after =>
    have ended : t.kind = .eof := by
      have first := List.head?_dropWhile_not (fun u : Token => u.kind != .eof) ts
      simpa [dropped] using first
    rw [dropped] at split
    have stopped : stopToken ts = t := by
      rw [split]
      exact (body_of_split proper_body ended after).2
    rw [stopped]
    unfold withEnd
    split_ifs
    · exact ⟨after, split⟩
    · exact ⟨after ++ [_], by rw [← List.cons_append, ← List.append_assoc, ← split]⟩

inductive Steps : State → List Token → State → Prop where
  | nil {s : State} : Steps s [] s
  | cons {s s' s'' : State} {t : Token} {ts : List Token} (next : s.step t = .ok s')
      (after : Steps s' ts s'') : Steps s (t :: ts) s''

theorem run_steps (h : Steps s us s') (stop : Token) (ts : List Token) :
    s.run stop (us ++ ts) = s'.run stop ts := by
  induction h with
  | nil => rfl
  | cons next after ih => rw [List.cons_append, run_cons next, ih]

theorem taken_steps (h : Steps s us s') (ts : List Token) :
    s.taken (us ++ ts) = us.length + s'.taken ts := by
  induction h with
  | nil => simp
  | cons next after ih =>
    simp only [List.cons_append, State.taken, next, ih, List.length_cons]
    omega

/-- The token is an error here; an end token is one where the expression is not finished. -/
def Refuses (s : State) (t : Token) (fault : Fault) : Prop :=
  if t.kind = .eof then s.finish = .error fault else s.step t = .error fault

/-- A failing run reads the tokens before the reported one and is refused there. -/
theorem run_refused {error : ParseError} (ended : stop.kind = .eof) (proper : Proper ts)
    (failed : s.run stop ts = .error error) : ∃ us s' rest,
      ts ++ [stop] = us ++ error.token :: rest ∧ Proper us ∧ Steps s us s' ∧
      s.taken ts = us.length ∧ Refuses s' error.token error.fault := by
  induction ts generalizing s with
  | nil =>
    simp only [State.run] at failed
    cases finished : s.finish with
    | ok e => simp [finished] at failed
    | error fault =>
      simp only [finished, Except.error.injEq] at failed
      subst error
      exact ⟨[], s, [], rfl, by simp [Proper], .nil, rfl, by simpa [Refuses, ended] using finished⟩
  | cons t ts ih =>
    obtain ⟨inner, others⟩ := List.forall_mem_cons.mp proper
    simp only [State.run] at failed
    cases next : s.step t with
    | error fault =>
      simp only [next, Except.error.injEq] at failed
      subst error
      exact ⟨[], s, ts ++ [stop], rfl, by simp [Proper], .nil, by simp [State.taken, next],
        by simpa [Refuses, inner] using next⟩
    | ok s' =>
      simp only [next] at failed
      obtain ⟨us, last, rest, split, before, steps, count, refused⟩ := ih others failed
      refine ⟨t :: us, last, rest, by simp [split], List.forall_mem_cons.mpr ⟨inner, before⟩,
        .cons next steps, ?_, refused⟩
      simp [State.taken, next, count]

theorem parse_refused (proper : Proper us) (steps : Steps .start us s)
    (refused : Refuses s t fault) : parse (us ++ t :: rest) = .error ⟨t, fault⟩ ∧
      stopIndex (us ++ t :: rest) = us.length := by
  unfold Refuses at refused
  split at refused
  · rename_i ended
    obtain ⟨body, stopped⟩ := body_of_split proper ended rest
    rw [parse, stopIndex, body, stopped]
    have run := run_steps steps t []
    have taken := taken_steps steps []
    rw [List.append_nil] at run taken
    simp only [run, State.run, refused, taken, State.taken, Nat.add_zero, and_self]
  · rename_i inner
    have body : bodyTokens (us ++ t :: rest) = us ++ t :: bodyTokens rest := by
      rw [body_append proper]
      simp [bodyTokens, inner]
    rw [parse, stopIndex, body, run_steps steps, taken_steps steps]
    simp only [State.run, State.taken, refused, Nat.add_zero, and_self]

def State.HasRoom : State → Prop
  | .operand fr deeper => deeper → fr.depth < maxDepth
  | .arguments fr _ steps => fr.depth + steps < maxDepth
  | .property .. | .chain .. => True

theorem descend_full {depth : Nat} (full : ¬ depth < maxDepth) :
    descend depth = .error .tooDeep := by
  rw [descend, if_pos (Nat.le_of_not_lt full)]

theorem tooDeep_of_full (full : ¬ s.HasRoom) :
    s.step t = .error .tooDeep ∧ s.finish = .error .tooDeep := by
  cases s with
  | operand fr deeper =>
    simp only [State.HasRoom, Classical.not_imp] at full
    obtain ⟨rfl, full⟩ := full
    simp only [State.step, State.finish, ↓reduceIte, descend_full full]
    exact ⟨rfl, rfl⟩
  | arguments fr callee steps =>
    simp only [State.HasRoom] at full
    simp only [State.step, State.finish, descend_full full]
    exact ⟨rfl, rfl⟩
  | property fr owner steps => exact absurd trivial full
  | chain fr e steps => exact absurd trivial full

theorem hasRoom_of_refused (refused : Refuses s t fault) (shallow : fault ≠ .tooDeep) :
    s.HasRoom := by
  by_contra full
  obtain ⟨step, finish⟩ := tooDeep_of_full (t := t) full
  unfold Refuses at refused
  split at refused
  · rw [finish] at refused
    cases refused
    exact shallow rfl
  · rw [step] at refused
    cases refused
    exact shallow rfl

def closingToken : Token := ⟨.rparen, ")", 0, none⟩

def nameToken : Token := ⟨.ident, "x", 0, none⟩

def Frames.closers (fr : Frames) : List Token := List.replicate fr.brackets.length closingToken

/-- The shortest way to finish: an operand or a name where one is awaited, then the brackets. -/
def State.completion : State → List Token
  | .operand fr _ | .property fr _ _ => nameToken :: fr.closers
  | .arguments fr _ _ => closingToken :: fr.closers
  | .chain fr _ _ => fr.closers

theorem closing_step {b : Bracket} {bs : List Bracket} (opened : fr.brackets = b :: bs) :
    ∃ fr' e' k', (State.chain fr e k).step closingToken = .ok (.chain fr' e' k') ∧
      fr'.brackets = bs := by
  have settled : settle 0 fr.pending fr.depth e =
      ([], (settle 0 fr.pending fr.depth e).2.1, (settle 0 fr.pending fr.depth e).2.2) :=
    Prod.ext settle_all rfl
  rw [chain_step_closing (.inl rfl)]
  cases b with
  | grouping before => exact ⟨_, _, _, readClosing_grouping settled opened rfl, rfl⟩
  | call before callee steps args => exact ⟨_, _, _, readClosing_call settled opened rfl, rfl⟩

theorem run_closers (stop : Token) (fr : Frames) (e : Expr) (k : Nat) :
    ∃ x, (State.chain fr e k).run stop fr.closers = .ok x := by
  -- on the open brackets: each one that is closed brings back other frames
  obtain ⟨brackets, opened⟩ : ∃ bs, fr.brackets = bs := ⟨_, rfl⟩
  rw [Frames.closers, opened]
  induction brackets generalizing fr e k with
  | nil =>
    refine ⟨(settle 0 fr.pending fr.depth e).2.2, ?_⟩
    simp only [List.length_nil, List.replicate_zero, State.run, State.finish, opened]
  | cons b bs ih =>
    obtain ⟨fr', e', k', next, inner⟩ := closing_step (e := e) (k := k) opened
    obtain ⟨x, done⟩ := ih fr' e' k' inner
    exact ⟨x, by rw [List.length_cons, List.replicate_succ, run_cons next, done]⟩

theorem run_completion (stop : Token) (room : s.HasRoom) :
    ∃ x, s.run stop s.completion = .ok x := by
  cases s with
  | operand fr deeper =>
    have fits : fr.depth + deeper.toNat ≤ maxDepth ∨ deeper = false := by
      cases deeper with
      | false => exact .inr rfl
      | true => exact .inl (room rfl)
    have read : (State.operand fr deeper).step nameToken =
        .ok (.chain (fr.entered deeper) (.name nameToken.lexeme) 0) := by
      rcases fits with fits | rfl
      · exact operand_step fits
      · rfl
    rw [State.completion, run_cons read]
    exact run_closers stop (fr.entered deeper) _ _
  | arguments fr callee steps =>
    have read : (State.arguments fr callee steps).step closingToken =
        .ok (.chain fr (.call callee []) steps) := by
      simp only [State.step, descend_ok room]
      rfl
    rw [State.completion, run_cons read]
    exact run_closers stop fr _ _
  | property fr owner steps =>
    have read : (State.property fr owner steps).step nameToken =
        .ok (.chain fr (.member owner nameToken.lexeme) steps) := rfl
    rw [State.completion, run_cons read]
    exact run_closers stop fr _ _
  | chain fr e steps => exact run_closers stop fr e steps

theorem proper_completion : Proper s.completion := by
  have closers : ∀ fr : Frames, Proper fr.closers := by
    intro fr t mem
    rw [List.eq_of_mem_replicate mem]
    decide
  cases s with
  | chain fr e steps => exact closers fr
  | operand fr deeper => exact List.forall_mem_cons.mpr ⟨by decide, closers fr⟩
  | property fr owner steps => exact List.forall_mem_cons.mpr ⟨by decide, closers fr⟩
  | arguments fr callee steps => exact List.forall_mem_cons.mpr ⟨by decide, closers fr⟩

/-- What is read so far can be completed, as long as there is room for another token. -/
theorem parse_completion (proper : Proper us) (steps : Steps .start us s) (room : s.HasRoom) :
    ∃ e, parse (us ++ s.completion) = .ok e := by
  have whole : Proper (us ++ s.completion) := List.forall_mem_append.mpr ⟨proper, proper_completion⟩
  obtain ⟨e, done⟩ := run_completion (stopToken (us ++ s.completion)) room
  exact ⟨e, by rw [parse, body_of_proper whole, run_steps steps, done]⟩

/-- A parse fails at the token where it stops. The tokens before it begin some list that is
    accepted, unless the nesting is reported; with it every list fails in the same way. -/
theorem viable_prefix {ts : List Token} {error : ParseError} (failed : parse ts = .error error) :
    (withEnd ts)[stopIndex ts]? = some error.token ∧
    (error.fault ≠ .tooDeep →
      ∃ us e, (withEnd ts).take (stopIndex ts) <+: us ∧ parse us = .ok e) ∧
    ∀ us, (withEnd ts).take (stopIndex ts + 1) <+: us →
      parse us = .error error ∧ stopIndex us = stopIndex ts := by
  obtain ⟨us, s, rest, split, proper, steps, count, refused⟩ :=
    run_refused stopToken_kind proper_body failed
  obtain ⟨after, parsed⟩ := withEnd_split ts
  have index : stopIndex ts = us.length := count
  have whole : withEnd ts = us ++ error.token :: (rest ++ after) := by
    rw [parsed, ← List.singleton_append, ← List.append_assoc, split, List.append_assoc,
      List.cons_append]
  refine ⟨?_, ?_, ?_⟩
  · simp [whole, index]
  · intro shallow
    obtain ⟨e, done⟩ := parse_completion proper steps (hasRoom_of_refused refused shallow)
    exact ⟨us ++ s.completion, e, by simp [whole, index], done⟩
  · intro vs starts
    have read : (withEnd ts).take (stopIndex ts + 1) = us ++ [error.token] := by
      rw [whole, index, List.take_length_add_append]
      rfl
    rw [read] at starts
    obtain ⟨more, rfl⟩ := starts
    rw [List.append_assoc, List.singleton_append, index]
    exact parse_refused proper steps refused

def danglingComma : List Token :=
  [⟨.ident, "f", 0, none⟩, ⟨.lparen, "(", 1, none⟩, ⟨.ident, "a", 2, none⟩, ⟨.comma, ",", 3, none⟩,
    ⟨.rparen, ")", 4, none⟩]

theorem viable_prefix_danglingComma :
    parse danglingComma = .error ⟨⟨.rparen, ")", 4, none⟩, .noExpression⟩ ∧
    stopIndex danglingComma = 4 ∧
    (∃ us e, danglingComma.take 4 <+: us ∧ parse us = .ok e) ∧
    ∀ us, danglingComma <+: us → parse us = .error ⟨⟨.rparen, ")", 4, none⟩, .noExpression⟩ ∧
      stopIndex us = 4 := by
  have failed : parse danglingComma = .error ⟨⟨.rparen, ")", 4, none⟩, .noExpression⟩ := rfl
  obtain ⟨-, before, behind⟩ := viable_prefix failed
  exact ⟨failed, rfl, before (by decide), behind⟩

end ScopedFormula
