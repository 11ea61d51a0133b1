import ScopedFormula.Proofs.Scanning.Tiling

/- One scanner called again and again. Whatever a call finds, it moves on behind it, so that after
   an error the next call reads further characters, and none is read twice. Scanning a text is
   calling up to the end of the text or up to the first error. -/
namespace ScopedFormula

variable {cur cur' : Cursor} {ts us : List Token} {t : Token} {r : Except ScanError Token}
  {i j k p : Nat} {c : Char} {v rest : List Char}

inductive Call : Cursor → Except ScanError Token → Cursor → Prop where
  | stop {p : Nat} {gap : List Char} (dropped : Dropped gap []) :
      Call ⟨p, gap⟩ (.ok (endToken (p + gap.length))) ⟨p + gap.length, []⟩
  | token {p : Nat} {c : Char} {gap v rest : List Char} {kind : TokenKind}
      {literal : Option Literal} (dropped : Dropped gap (c :: (v ++ rest)))
      (read : Reading c v rest kind literal) :
      Call ⟨p, gap ++ c :: (v ++ rest)⟩
        (.ok ⟨kind, String.ofList (c :: v), p + gap.length, literal⟩)
        ⟨p + gap.length + (c :: v).length, rest⟩
  | error {p : Nat} {c : Char} {gap v rest : List Char} {error : Nat → ScanError}
      (dropped : Dropped gap (c :: (v ++ rest))) (misread : Misreading c v rest error) :
      Call ⟨p, gap ++ c :: (v ++ rest)⟩ (.error (error (p + gap.length)))
        ⟨p + gap.length + (c :: v).length, rest⟩

theorem next_reading {kind : TokenKind} {literal : Option Literal}
    (read : Reading c v rest kind literal) : Cursor.next ⟨p, c :: (v ++ rest)⟩ =
      (.ok ⟨kind, String.ofList (c :: v), p, literal⟩, ⟨p + (c :: v).length, rest⟩) := by
  rw [next_of_stands (stands_reading read), readLexeme_reading read, ← List.cons_append]
  simp only [Lexeme.token, List.drop_left]

theorem next_misreading {error : Nat → ScanError} (misread : Misreading c v rest error) :
    Cursor.next ⟨p, c :: (v ++ rest)⟩ = (.error (error p), ⟨p + (c :: v).length, rest⟩) := by
  rw [next_of_stands (stands_misreading misread), readLexeme_misreading misread,
    ← List.cons_append]
  simp only [List.drop_left]

theorem next_call (cur : Cursor) : Call cur cur.next.1 cur.next.2 := by
  obtain ⟨p, cs⟩ := cur
  obtain ⟨gap, _, rfl, dropped, rfl | ⟨c, ds, rfl, stands⟩⟩ := exists_dropped cs
  · rw [next_dropped dropped, List.append_nil]
    exact .stop dropped
  · obtain ⟨v, rest, rfl, ⟨kind, literal, read⟩ | ⟨error, misread⟩⟩ := readable_of_stands stands
    · rw [next_dropped dropped, next_reading read]
      exact .token dropped read
    · rw [next_dropped dropped, next_misreading misread]
      exact .error dropped misread

def Cursor.after : Nat → Cursor → Cursor
  | 0, cur => cur
  | k + 1, cur => cur.next.2.after k

def Goes (r : Except ScanError Token) : Prop := ∀ t, r = .ok t → t.kind ≠ .eof

def told : Except ScanError Token → Nat
  | .ok t => t.position
  | .error e => e.position

def Takes (cur : Cursor) (cs : List Char) (cur' : Cursor) : Prop :=
  cur.rest = cs ++ cur'.rest ∧ cur'.position = cur.position + cs.length

theorem call_takes (h : Call cur r cur') : ∃ cs, Takes cur cs cur' := by
  cases h with
  | @stop p gap dropped => exact ⟨gap, (List.append_nil gap).symm, rfl⟩
  | @token p c gap v rest kind literal dropped read =>
    exact ⟨gap ++ c :: v, by simp, by simp only [List.length_append]; omega⟩
  | @error p c gap v rest error dropped misread =>
    exact ⟨gap ++ c :: v, by simp, by simp only [List.length_append]; omega⟩

theorem misreading_position {error : Nat → ScanError} (misread : Misreading c v rest error)
    (p : Nat) : (error p).position = p := by
  cases misread <;> rfl

theorem call_goes (h : Call cur r cur') (goes : Goes r) :
    cur.position ≤ told r ∧ told r < cur'.position := by
  cases h with
  | stop dropped => exact absurd rfl (goes _ rfl)
  | token dropped read =>
    simp only [told, List.length_cons]
    omega
  | error dropped misread =>
    simp only [told, misreading_position misread, List.length_cons]
    omega

theorem call_ends (h : Call cur r cur') (ends : ¬ Goes r) :
    r = .ok (endToken (cur.position + cur.rest.length)) ∧
      cur' = ⟨cur.position + cur.rest.length, []⟩ := by
  cases h with
  | stop dropped => exact ⟨rfl, rfl⟩
  | token dropped read =>
    refine absurd (fun t same => ?_) ends
    cases same
    exact reading_more read
  | error dropped misread => exact absurd (fun t same => by contradiction) ends

theorem takes_append {cs ds : List Char} {mid : Cursor} (first : Takes cur cs mid)
    (second : Takes mid ds cur') : Takes cur (cs ++ ds) cur' := by
  refine ⟨by rw [first.1, second.1, List.append_assoc], ?_⟩
  rw [second.2, first.2, List.length_append, Nat.add_assoc]

theorem takes_total {cs : List Char} (h : Takes cur cs cur') :
    cur'.position + cur'.rest.length = cur.position + cur.rest.length := by
  rw [h.1, h.2, List.length_append]
  omega

theorem after_takes (k : Nat) (cur : Cursor) : ∃ cs, Takes cur cs (cur.after k) := by
  induction k generalizing cur with
  | zero => exact ⟨[], rfl, rfl⟩
  | succ k ih =>
    obtain ⟨cs, first⟩ := call_takes (next_call cur)
    obtain ⟨ds, others⟩ := ih cur.next.2
    exact ⟨cs ++ ds, takes_append first others⟩

theorem after_add (j k : Nat) (cur : Cursor) : cur.after (j + k) = (cur.after j).after k := by
  induction j generalizing cur with
  | zero => rw [Nat.zero_add, Cursor.after]
  | succ j ih => rw [Nat.add_right_comm, Cursor.after, ih, Cursor.after]

theorem after_succ (k : Nat) (cur : Cursor) : cur.after (k + 1) = (cur.after k).next.2 :=
  after_add k 1 cur

theorem after_nil (k p : Nat) : Cursor.after k ⟨p, []⟩ = ⟨p, []⟩ := by
  induction k with
  | zero => rfl
  | succ k ih => exact ih

/-- Each call before the end takes a character, so there are no more of them than characters. -/
theorem exists_end (cur : Cursor) : ∃ k ≤ cur.rest.length,
    (∀ j < k, Goes (cur.after j).next.1) ∧ ¬ Goes (cur.after k).next.1 := by
  obtain ⟨n, length⟩ : ∃ n, cur.rest.length = n := ⟨_, rfl⟩
  induction n using Nat.strong_induction_on generalizing cur with
  | _ n ih =>
    by_cases goes : Goes cur.next.1
    · obtain ⟨cs, taken⟩ := call_takes (next_call cur)
      have ahead := call_goes (next_call cur) goes
      have total := takes_total taken
      obtain ⟨k, bound, before, ends⟩ := ih cur.next.2.rest.length (by omega) cur.next.2 rfl
      refine ⟨k + 1, by omega, fun j less => ?_, ends⟩
      cases j with
      | zero => exact goes
      | succ j => exact before j (by omega)
    · exact ⟨0, Nat.zero_le _, fun j less => absurd less (Nat.not_lt_zero j), goes⟩

theorem ended_after (ends : ¬ Goes (cur.after k).next.1) (later : k ≤ j) :
    (cur.after j).next.1 = .ok (endToken (cur.position + cur.rest.length)) := by
  obtain ⟨cs, taken⟩ := after_takes k cur
  obtain ⟨found, still⟩ := call_ends (next_call (cur.after k)) ends
  rw [takes_total taken] at found still
  obtain ⟨i, rfl⟩ := Nat.exists_eq_add_of_le later
  cases i with
  | zero => exact found
  | succ i =>
    rw [after_add, Cursor.after, still, after_nil]
    rfl

inductive Gives : Cursor → List Token → Cursor → Prop where
  | nil {cur : Cursor} : Gives cur [] cur
  | cons {cur mid cur' : Cursor} {t : Token} {ts : List Token} (next : cur.next = (.ok t, mid))
      (more : t.kind ≠ .eof) (after : Gives mid ts cur') : Gives cur (t :: ts) cur'

theorem gives_more (h : Gives cur us cur') : ∀ t ∈ us, t.kind ≠ .eof := by
  induction h with
  | nil => simp
  | cons next more after ih => exact List.forall_mem_cons.mpr ⟨more, ih⟩

theorem readings_gives (h : Gives cur us cur') (k : Nat) :
    cur.readings (us.length + k) = us.map .ok ++ cur'.readings k := by
  induction h with
  | nil => simp
  | cons next more after ih =>
    rw [List.length_cons, Nat.add_right_comm, Cursor.readings, next, ih, List.map_cons,
      List.cons_append]

theorem tokens_gives (h : Gives cur us cur') : cur.tokens = cur'.tokens.map (us ++ ·) := by
  induction h with
  | @nil cur => cases cur.tokens <;> rfl
  | @cons cur mid cur' t ts next more after ih =>
    rw [tokens_eq, next]
    dsimp only
    rw [if_neg more, ih]
    cases cur'.tokens <;> rfl

theorem exists_gives (cur : Cursor) : ∃ us cur', Gives cur us cur' ∧
    (cur'.next.1 = .ok (endToken (cur.position + cur.rest.length)) ∨
      ∃ e, cur'.next.1 = .error e) := by
  obtain ⟨n, length⟩ : ∃ n, cur.rest.length = n := ⟨_, rfl⟩
  induction n using Nat.strong_induction_on generalizing cur with
  | _ n ih =>
    cases found : cur.next.1 with
    | error e => exact ⟨[], cur, .nil, .inr ⟨e, found⟩⟩
    | ok t =>
      by_cases more : t.kind = .eof
      · have ends : ¬ Goes cur.next.1 := fun goes => goes t found more
        exact ⟨[], cur, .nil, .inl (call_ends (next_call cur) ends).1⟩
      · have goes : Goes cur.next.1 := by
          rw [found]
          rintro _ ⟨⟩
          exact more
        obtain ⟨cs, taken⟩ := call_takes (next_call cur)
        have ahead := call_goes (next_call cur) goes
        have total := takes_total taken
        obtain ⟨us, cur', gives, last⟩ := ih cur.next.2.rest.length (by omega) cur.next.2 rfl
        rw [total] at last
        exact ⟨t :: us, cur', .cons (Prod.ext found rfl) more gives, last⟩

theorem readings_range (m : Nat) (cur : Cursor) :
    cur.readings m = (List.range m).map fun k => (cur.after k).next.1 := by
  induction m generalizing cur with
  | zero => rfl
  | succ m ih =>
    rw [Cursor.readings, ih, List.range_succ_eq_map, List.map_cons, List.map_map]
    rfl

/-- A scanner on the text, where the k-th call takes what is between the k-th cursor and the next:
    it stays inside the text, it finds a token or an error within what it takes, it never goes
    back, and at the end it stops for good. -/
structure Advances (text : List Char) (cur : Nat → Cursor) : Prop where
  inside : ∀ k, (cur k).position ≤ text.length ∧ (cur k).rest = text.drop (cur k).position
  consumes : ∀ k, Goes (cur k).next.1 → (cur k).position ≤ told (cur k).next.1 ∧
    told (cur k).next.1 < (cur (k + 1)).position
  apart : ∀ j k, j < k → (cur (j + 1)).position ≤ (cur k).position
  ended : ∃ k ≤ text.length, (∀ j < k, Goes (cur j).next.1) ∧
    ∀ j, k ≤ j → (cur j).next.1 = .ok (endToken text.length)

/-- Calls that go on after errors make progress up to the end, which then comes again and again.
    Scanning gives the tokens of the calls up to the end, or the first error before it. -/
theorem scanning_progress (source : String) :
    Advances source.toList (fun k => (Cursor.start source).after k) ∧
    (∀ m, (Cursor.start source).readings m =
      (List.range m).map fun k => ((Cursor.start source).after k).next.1) ∧
    ∃ us, (∀ t ∈ us, t.kind ≠ .eof) ∧
      ((Cursor.start source).readings (us.length + 1) =
          us.map .ok ++ [.ok (endToken source.length)] ∧
          scan source = .ok (us ++ [endToken source.length]) ∨
        ∃ e, (Cursor.start source).readings (us.length + 1) = us.map .ok ++ [.error e] ∧
          scan source = .error e) := by
  have length : (Cursor.start source).position + (Cursor.start source).rest.length =
      source.length := by
    simp [Cursor.start, String.length_toList]
  refine ⟨⟨?_, ?_, ?_, ?_⟩, fun m => readings_range m _, ?_⟩
  · intro k
    obtain ⟨cs, whole, moved⟩ := after_takes k (.start source)
    have text : source.toList = cs ++ ((Cursor.start source).after k).rest := whole
    have position : ((Cursor.start source).after k).position = cs.length :=
      moved.trans (Nat.zero_add _)
    rw [position, text, List.drop_left, List.length_append]
    exact ⟨Nat.le_add_right _ _, rfl⟩
  · intro k goes
    have found := call_goes (next_call _) goes
    rwa [after_succ]
  · intro j k less
    obtain ⟨i, rfl⟩ := Nat.exists_eq_add_of_le less
    obtain ⟨cs, -, moved⟩ := after_takes i ((Cursor.start source).after (j + 1))
    rw [after_add (j + 1) i, moved]
    exact Nat.le_add_right _ _
  · obtain ⟨k, bound, before, ends⟩ := exists_end (.start source)
    refine ⟨k, bound, before, fun j later => ?_⟩
    rw [ended_after ends later, length, String.length_toList]
  · obtain ⟨us, cur', gives, last⟩ := exists_gives (.start source)
    rw [length] at last
    refine ⟨us, gives_more gives, ?_⟩
    have scanned : scan source = cur'.tokens.map (us ++ ·) := tokens_gives gives
    rw [scanned, readings_gives gives, tokens_eq]
    rcases next : cur'.next with ⟨found, behind⟩
    rw [next] at last
    rcases last with rfl | ⟨e, rfl⟩
    · exact .inl ⟨by rw [Cursor.readings, next]; rfl, rfl⟩
    · exact .inr ⟨e, by rw [Cursor.readings, next]; rfl, rfl⟩

theorem scanning_progress_resumes :
    (Cursor.start "#1 'a").readings 5 = [.error (.unexpectedCharacter '#' 0),
      .ok ⟨.integer, "1", 1, some (.integer 1)⟩, .error (.unterminatedString 3),
      .ok (endToken 5), .ok (endToken 5)] ∧
    ((Cursor.start "#1 'a").after 2).position ≤ 3 ∧
    3 < ((Cursor.start "#1 'a").after 3).position ∧
    scan "#1 'a" = .error (.unexpectedCharacter '#' 0) := by
  have third : ((Cursor.start "#1 'a").after 2).next.1 = .error (.unterminatedString 3) := by cbv
  have goes : Goes ((Cursor.start "#1 'a").after 2).next.1 := by
    rw [third]
    intro t same
    contradiction
  have span := (scanning_progress "#1 'a").1.consumes 2 goes
  simp only [third] at span
  exact ⟨by cbv, span.1, span.2, by cbv⟩

end ScopedFormula
