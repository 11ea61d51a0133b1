import Mathlib
import ScopedFormula.Proofs.Evaluation.Plain

/- A dialogue answers each of its lines in the scope that it began with, whatever the other lines
   are. Its output is the answers in the order of the lines, each after a prompt. -/
namespace ScopedFormula

structure Lines (text : List Char) (lines : List (List Char)) (rest : List Char) : Prop where
  whole : text = lines.flatten ++ rest
  complete : ∀ l ∈ lines, ∃ body, l = body ++ ['\n'] ∧ '\n' ∉ body
  unended : '\n' ∉ rest

def lastLine (rest : List Char) : List (List Char) := if rest = [] then [] else [rest]

variable {text rest rest' : List Char} {lines lines' : List (List Char)} {st : Store}

theorem splitLines_rest (none : '\n' ∉ rest) : splitLines rest = lastLine rest := by
  induction rest with
  | nil => rfl
  | cons c cs ih =>
    have other : c ≠ '\n' := fun same => none (same ▸ List.mem_cons_self)
    have later : '\n' ∉ cs := fun mem => none (List.mem_cons_of_mem c mem)
    rw [splitLines, if_neg other, ih later]
    cases cs <;> rfl

theorem splitLines_line {body : List Char} (none : '\n' ∉ body) (more : List Char) :
    splitLines (body ++ '\n' :: more) = (body ++ ['\n']) :: splitLines more := by
  induction body with
  | nil => rw [List.nil_append, splitLines, if_pos rfl, List.nil_append]
  | cons c cs ih =>
    have other : c ≠ '\n' := fun same => none (same ▸ List.mem_cons_self)
    have later : '\n' ∉ cs := fun mem => none (List.mem_cons_of_mem c mem)
    rw [List.cons_append, splitLines, if_neg other, ih later]
    rfl

theorem splitLines_of_lines (h : Lines text lines rest) :
    splitLines text = lines ++ lastLine rest := by
  obtain ⟨rfl, complete, none⟩ := h
  induction lines with
  | nil => exact splitLines_rest none
  | cons l ls ih =>
    obtain ⟨body, rfl, clear⟩ := complete l List.mem_cons_self
    have later := ih fun m mem => complete m (List.mem_cons_of_mem _ mem)
    rw [List.flatten_cons, List.append_assoc, List.append_assoc, List.singleton_append,
      splitLines_line clear, later]
    rfl

theorem exists_lines (text : List Char) : ∃ lines rest, Lines text lines rest := by
  induction text with
  | nil => exact ⟨[], [], rfl, by simp, by simp⟩
  | cons c cs ih =>
    obtain ⟨lines, rest, rfl, complete, none⟩ := ih
    by_cases newline : c = '\n'
    · refine ⟨[c] :: lines, rest, rfl, ?_, none⟩
      intro l mem
      rcases List.mem_cons.mp mem with rfl | later
      · exact ⟨[], by simp [newline], by simp⟩
      · exact complete l later
    · have apart : ∀ {cs : List Char}, '\n' ∉ cs → '\n' ∉ c :: cs := by
        intro cs absent mem
        rcases List.mem_cons.mp mem with same | later
        · exact newline same.symm
        · exact absent later
      cases lines with
      | nil => exact ⟨[], c :: rest, rfl, by simp, apart none⟩
      | cons l ls =>
        refine ⟨(c :: l) :: ls, rest, rfl, ?_, none⟩
        intro m mem
        rcases List.mem_cons.mp mem with rfl | later
        · obtain ⟨body, rfl, clear⟩ := complete l List.mem_cons_self
          exact ⟨c :: body, rfl, apart clear⟩
        · exact complete m (List.mem_cons_of_mem l later)

theorem lines_filter (h : Lines text lines rest) :
    (splitLines text).filter (·.getLast? == some '\n') = lines := by
  have ended : lines.filter (·.getLast? == some '\n') = lines := by
    rw [List.filter_eq_self]
    intro l mem
    obtain ⟨body, rfl, -⟩ := h.complete l mem
    simp
  have left : (lastLine rest).filter (·.getLast? == some '\n') = [] := by
    rw [List.filter_eq_nil_iff]
    intro l mem ends
    unfold lastLine at mem
    split at mem
    · contradiction
    · obtain rfl := List.mem_singleton.mp mem
      exact h.unended (List.mem_of_getLast? (by simpa using ends))
  rw [splitLines_of_lines h, List.filter_append, ended, left, List.append_nil]

theorem lines_unique (first : Lines text lines rest) (second : Lines text lines' rest') :
    lines' = lines ∧ rest' = rest := by
  obtain rfl : lines' = lines := (lines_filter second).symm.trans (lines_filter first)
  exact ⟨rfl, List.append_cancel_left (second.whole.symm.trans first.whole)⟩

/-- The answer to a line in the scope of a store: none to a blank line, else the value of what is
    left of the line when its blanks are cut, or the failure. -/
def reply (st : Store) (line : List Char) : String :=
  let source := trim (String.ofList line)
  if source.isEmpty then ""
  else
    match (evaluate startScope source st).1 with
    | .ok v => v.text ++ "\n"
    | .error e => "error: " ++ e.text ++ "\n"

def spoken (answers : List String) : String :=
  String.join (answers.map fun a => prompt ++ a) ++ prompt ++ "\n"

theorem answerLine_plain (plain : (st.scope startScope).Plain) (line : List Char) :
    answerLine (String.ofList line) st = (reply st line, st) := by
  unfold answerLine reply
  dsimp only
  split
  · rfl
  · rename_i some
    have still := (evaluate_plain plain (trim (String.ofList line))).1
    cases result : evaluate startScope (trim (String.ofList line)) st with
    | mk answer st' =>
      obtain rfl : st' = st := by rwa [result] at still
      cases answer <;> rfl

theorem dialogue_plain (plain : (st.scope startScope).Plain) (lines : List (List Char)) :
    dialogue (lines.map String.ofList) st = spoken (lines.map (reply st)) := by
  induction lines with
  | nil => rfl
  | cons l ls ih =>
    rw [List.map_cons, dialogue, answerLine_plain plain]
    simp only [ih, spoken, List.map_cons, String.join_cons, String.append_assoc]

/-- Whatever the input, its lines are determined, the dialogue ends well, and each line has the
    answer that it has alone in the scope that was started. So lines in another order have the same
    answers in that order. -/
theorem dialogue_replies {r : Request} (started : startStore r = .ok st)
    (task : r.task = .interactive) :
    (∀ input : String, ∃ lines rest, Lines input.toList lines rest ∧
      (∀ lines' rest', Lines input.toList lines' rest' → lines' = lines ∧ rest' = rest) ∧
      r.run input = ⟨0, spoken ((lines ++ lastLine rest).map (reply st)), some ""⟩) ∧
    ∀ (input input' : String) (lines lines' : List (List Char)) (rest : List Char),
      Lines input.toList lines rest → Lines input'.toList lines' rest → lines.Perm lines' →
        ∃ answers answers' last, answers.length = lines.length ∧
          answers'.length = lines'.length ∧ (lines.zip answers).Perm (lines'.zip answers') ∧
          r.run input = ⟨0, spoken (answers ++ last), some ""⟩ ∧
          r.run input' = ⟨0, spoken (answers' ++ last), some ""⟩ := by
  have plain := (startStore_plain started).plain
  have runs : ∀ {input : String} {lines rest}, Lines input.toList lines rest →
      r.run input = ⟨0, spoken ((lines ++ lastLine rest).map (reply st)), some ""⟩ := by
    intro input lines rest cut
    unfold Request.run
    rw [task, started, splitLines_of_lines cut, ← dialogue_plain plain]
    rfl
  constructor
  · intro input
    obtain ⟨lines, rest, cut⟩ := exists_lines input.toList
    exact ⟨lines, rest, cut, fun lines' rest' => lines_unique cut, runs cut⟩
  · intro input input' lines lines' rest cut cut' perm
    refine ⟨lines.map (reply st), lines'.map (reply st), (lastLine rest).map (reply st),
      List.length_map _, List.length_map _, ?_, ?_, ?_⟩
    · rw [← List.map_prod_left_eq_zip, ← List.map_prod_left_eq_zip]
      exact perm.map _
    · rw [← List.map_append]
      exact runs cut
    · rw [← List.map_append]
      exact runs cut'

def oneNamed : Store := ⟨[⟨[("a", .value (.integer 1))], [], none⟩], [], [], 0, []⟩

theorem dialogue_replies_blank :
    startStore ⟨.interactive, [("a", "1")], false⟩ = .ok oneNamed ∧
    Request.run ⟨.interactive, [("a", "1")], false⟩ "a+1\n \nb" =
      ⟨0, ">> 2\n>> >> error: identifier not found: b\n>> \n", some ""⟩ := by
  have started : startStore ⟨.interactive, [("a", "1")], false⟩ = .ok oneNamed := by
    cbv
  obtain ⟨lines, rest, -, unique, runs⟩ := (dialogue_replies started rfl).1 "a+1\n \nb"
  have cut : Lines "a+1\n \nb".toList ["a+1\n".toList, " \n".toList] "b".toList := by
    refine ⟨by decide, ?_, by decide⟩
    simp only [List.mem_cons, List.not_mem_nil, or_false, forall_eq_or_imp, forall_eq]
    exact ⟨⟨"a+1".toList, by decide, by decide⟩, " ".toList, by decide, by decide⟩
  obtain ⟨rfl, rfl⟩ := unique _ _ cut
  have answers : (["a+1\n".toList, " \n".toList] ++ lastLine "b".toList).map (reply oneNamed) =
      ["2\n", "", "error: identifier not found: b\n"] := by decide +kernel
  rw [answers] at runs
  exact ⟨started, runs⟩

end ScopedFormula
