import Mathlib.Data.List.Basic
import ScopedFormula.Store.Describe

/- Reading the description of a scope. From the text alone come the names that were listed, in their
   order, and whether something encloses the scope. -/
namespace ScopedFormula

/-- Where a reader of quoted texts is: in a text, behind a backslash, before and in the code of a
    character, behind a text. -/
inductive Quoting where
  | inside | escape | opening | code (n : Nat) | outside
  deriving DecidableEq, Repr

def hexDigit (c : Char) : Nat := if c.isDigit then c.toNat - 48 else c.toNat - 87

def escaped? : Char → Option Char
  | '0' => some '\x00'
  | 't' => some '\t'
  | 'n' => some '\n'
  | 'r' => some '\r'
  | '"' => some '"'
  | '\\' => some '\\'
  | _ => none

/-- The texts up to the bracket that closes the list; of the first one some characters are read. -/
def readTexts : Quoting → List Char → List Char → Option (List String × List Char)
  | _, _, [] => none
  | .inside, read, '"' :: cs =>
      (readTexts .outside [] cs).map fun (ss, rest) => (String.ofList read.reverse :: ss, rest)
  | .inside, read, '\\' :: cs => readTexts .escape read cs
  | .inside, read, c :: cs => readTexts .inside (c :: read) cs
  | .escape, read, 'u' :: cs => readTexts .opening read cs
  | .escape, read, c :: cs =>
      match escaped? c with
      | some d => readTexts .inside (d :: read) cs
      | none => none
  | .opening, read, '{' :: cs => readTexts (.code 0) read cs
  | .opening, _, _ :: _ => none
  | .code n, read, '}' :: cs => readTexts .inside (Char.ofNat n :: read) cs
  | .code n, read, c :: cs => readTexts (.code (16 * n + hexDigit c)) read cs
  | .outside, _, ']' :: cs => some ([], cs)
  | .outside, _, ',' :: ' ' :: '"' :: cs => readTexts .inside [] cs
  | .outside, _, _ :: _ => none

def readList : List Char → Option (List String × List Char)
  | '[' :: ']' :: cs => some ([], cs)
  | '[' :: '"' :: cs => readTexts .inside [] cs
  | _ => none

/-- The names of the variables and of the methods, and whether something encloses the scope. -/
def readDescription (text : String) : Option (List String × List String × Bool) := do
  let cs ← text.toList.dropPrefix? "Environment \x7b vars: ".toList
  let (vars, cs) ← readList cs
  let cs ← cs.dropPrefix? ", methods: ".toList
  let (methods, cs) ← readList cs
  let cs ← cs.dropPrefix? ", outer: ".toList
  if cs = "true \x7d".toList then return (vars, methods, true)
  else if cs = "false \x7d".toList then return (vars, methods, false)
  else none

variable {read cs rest : List Char} {c : Char} {n : Nat}

theorem hexDigit_digitChar (less : n < 16) : hexDigit (Nat.digitChar n) = n := by
  decide +revert

theorem digitChar_ne_brace (less : n < 16) : Nat.digitChar n ≠ '}' := by
  decide +revert

theorem readTexts_digit (less : n < 16) (k : Nat) :
    readTexts (.code k) read (Nat.digitChar n :: cs) = readTexts (.code (16 * k + n)) read cs := by
  rw [readTexts, hexDigit_digitChar less]
  exact digitChar_ne_brace less

theorem readTexts_digits (n : Nat) (cs : List Char) :
    readTexts (.code 0) read (Nat.toDigits 16 n ++ cs) = readTexts (.code n) read cs := by
  induction n using Nat.strongRecOn generalizing cs with
  | ind n ih =>
    rw [Nat.toDigits_eq_if (by decide)]
    split
    · rename_i less
      rw [List.singleton_append, readTexts_digit less, Nat.mul_zero, Nat.zero_add]
    · rename_i more
      rw [List.append_assoc, ih (n / 16) (by omega), List.singleton_append,
        readTexts_digit (Nat.mod_lt n (by decide)), Nat.div_add_mod]

theorem readTexts_codeEscape (c : Char) :
    readTexts .inside read (codeEscape c ++ cs) = readTexts .inside (c :: read) cs := by
  have split : codeEscape c ++ cs =
      '\\' :: 'u' :: '{' :: (Nat.toDigits 16 c.toNat ++ '}' :: cs) := by simp [codeEscape]
  have opened : readTexts .inside read (codeEscape c ++ cs) =
      readTexts (.code 0) read (Nat.toDigits 16 c.toNat ++ '}' :: cs) := by rw [split]; rfl
  rw [opened, readTexts_digits, readTexts, Char.ofNat_toNat]

theorem readTexts_escapeChar (c : Char) :
    readTexts .inside read (escapeChar c ++ cs) = readTexts .inside (c :: read) cs := by
  unfold escapeChar
  split
  · rfl
  · rfl
  · rfl
  · rfl
  · rfl
  · rfl
  · rename_i quote backslash
    split
    · exact readTexts_codeEscape c
    · rw [List.singleton_append, readTexts]
      · exact quote
      · exact backslash

theorem readTexts_flatMap (s : List Char) :
    readTexts .inside read (s.flatMap escapeChar ++ cs) =
      readTexts .inside (s.reverse ++ read) cs := by
  induction s generalizing read with
  | nil => rfl
  | cons c s ih =>
    rw [List.flatMap_cons, List.append_assoc, readTexts_escapeChar, ih, List.reverse_cons,
      List.append_assoc, List.singleton_append]

theorem readTexts_quoted (s : String) :
    readTexts .inside [] (s.toList.flatMap escapeChar ++ '"' :: cs) =
      (readTexts .outside [] cs).map fun (ss, rest) => (s :: ss, rest) := by
  rw [readTexts_flatMap, readTexts, List.append_nil, List.reverse_reverse, String.ofList_toList]

theorem quoted_toList (s : String) :
    (quoted s).toList = '"' :: (s.toList.flatMap escapeChar ++ ['"']) := by
  rw [quoted, String.toList_ofList, List.cons_append]

/-- A list that is not empty, behind the opening quote of its first text. -/
theorem readTexts_list (s : String) (ss : List String) (cs : List Char) : ∃ tail,
    (", ".intercalate ((s :: ss).map quoted)).toList = '"' :: tail ∧
      readTexts .inside [] (tail ++ ']' :: cs) = some (s :: ss, cs) := by
  induction ss generalizing s with
  | nil =>
    refine ⟨s.toList.flatMap escapeChar ++ ['"'], ?_, ?_⟩
    · rw [List.map_singleton, String.intercalate_singleton, quoted_toList]
    · rw [List.append_assoc, List.singleton_append, readTexts_quoted]
      rfl
  | cons t ss ih =>
    obtain ⟨tail, text, reads⟩ := ih t
    refine ⟨s.toList.flatMap escapeChar ++ '"' :: ',' :: ' ' :: '"' :: tail, ?_, ?_⟩
    · rw [List.map_cons, List.map_cons, String.intercalate_cons_cons, ← List.map_cons,
        String.toList_append, String.toList_append, text, quoted_toList]
      simp
    · rw [List.append_assoc, List.cons_append, readTexts_quoted]
      simp only [List.cons_append, readTexts, reads, Option.map_some]

theorem readList_quotedList (ss : List String) (cs : List Char) :
    readList ((quotedList ss).toList ++ cs) = some (ss, cs) := by
  rw [quotedList, String.toList_append, String.toList_append]
  cases ss with
  | nil => rfl
  | cons s ss =>
    obtain ⟨tail, text, reads⟩ := readTexts_list s ss cs
    rw [text, List.append_assoc, List.append_assoc]
    exact reads

theorem dropPrefix_append (p : String) (cs : List Char) :
    (p.toList ++ cs).dropPrefix? p.toList = some cs :=
  List.dropPrefix?_append_of_beq cs (beq_self_eq_true _)

theorem describe_toList (s : Scope) : s.describe.toList =
    "Environment \x7b vars: ".toList ++ ((quotedList (sortNames (s.vars.map Prod.fst))).toList ++
      (", methods: ".toList ++ ((quotedList (sortNames (s.methods.map Prod.fst))).toList ++
        (", outer: ".toList ++ ((booleanText s.outer.isSome).toList ++ " \x7d".toList))))) := by
  -- with variables: on the long literals themselves the rewriting does not come to an end
  have parts : ∀ a b c d e f g : String, (a ++ b ++ c ++ d ++ e ++ f ++ g).toList = a.toList ++
      (b.toList ++ (c.toList ++ (d.toList ++ (e.toList ++ (f.toList ++ g.toList))))) := by
    intro a b c d e f g
    simp only [String.toList_append, List.append_assoc]
  exact parts _ _ _ _ _ _ _

theorem readDescription_describe (s : Scope) : readDescription s.describe =
    some (sortNames (s.vars.map Prod.fst), sortNames (s.methods.map Prod.fst),
      s.outer.isSome) := by
  rw [readDescription, describe_toList]
  simp only [dropPrefix_append, readList_quotedList, Option.bind_some, bind, pure]
  cases s.outer.isSome with
  | true => exact if_pos (by decide)
  | false => exact (if_neg (by decide)).trans (if_pos (by decide))

end ScopedFormula
