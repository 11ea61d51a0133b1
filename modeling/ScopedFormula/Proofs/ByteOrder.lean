import ScopedFormula.Store.Describe

/- Texts in the order of their characters are in the order of their bytes in UTF-8: of two
   characters the lesser one has the lesser byte at the first byte where they differ. -/
namespace ScopedFormula

variable {xs ys us vs : List UInt8} {x y : UInt8} {c d : Char} {s t : String}

inductive Precedes : List UInt8 → List UInt8 → Prop where
  | here {x y : UInt8} {xs ys : List UInt8} (less : x < y) : Precedes (x :: xs) (y :: ys)
  | later {x : UInt8} {xs ys : List UInt8} (rest : Precedes xs ys) : Precedes (x :: xs) (x :: ys)

theorem precedes_append (h : Precedes xs ys) : xs ++ us < ys ++ vs := by
  induction h with
  | here less => exact .rel less
  | later _ ih => exact .cons ih

theorem precedes_byte {a b : Nat} (le : a ≤ b) (small : b < 256)
    (rest : a = b → Precedes xs ys) : Precedes (UInt8.ofNat a :: xs) (UInt8.ofNat b :: ys) := by
  rcases Nat.lt_or_eq_of_le le with less | rfl
  · refine .here ?_
    rw [UInt8.lt_iff_toNat_lt, UInt8.toNat_ofNat', UInt8.toNat_ofNat',
      Nat.mod_eq_of_lt (Nat.lt_trans less small), Nat.mod_eq_of_lt small]
    exact less
  · exact .later (rest rfl)

theorem encoded_lt (less : c < d) :
    Precedes (String.utf8EncodeChar c) (String.utf8EncodeChar d) := by
  have order : c.val.toNat < d.val.toNat := UInt32.lt_iff_toNat_lt.mp less
  have top : d.val.toNat < 1114112 := by
    have := d.valid
    rcases this with low | ⟨-, high⟩ <;> omega
  simp only [String.utf8EncodeChar]
  generalize c.val.toNat = v at order
  generalize d.val.toNat = w at order top
  -- the leading byte tells lengths apart; at equal lengths the digits are compared from the left
  repeat' split
  all_goals repeat' first | omega | refine precedes_byte (by omega) (by omega) fun _ => ?_

def utf8Bytes (s : String) : List UInt8 := s.toUTF8.data.toList

theorem utf8Bytes_eq (s : String) : utf8Bytes s = s.toList.flatMap String.utf8EncodeChar := by
  rw [utf8Bytes, String.toUTF8_eq_toByteArray, ← String.utf8Encode_toList, List.utf8Encode,
    List.toList_data_toByteArray]

theorem flatMap_lt {cs ds : List Char} (less : List.Lex (· < ·) cs ds) :
    cs.flatMap String.utf8EncodeChar < ds.flatMap String.utf8EncodeChar := by
  induction less with
  | @nil d ds =>
    rw [List.flatMap_nil, List.flatMap_cons]
    cases bytes : String.utf8EncodeChar d with
    | nil => exact absurd bytes String.utf8EncodeChar_ne_nil
    | cons b bs => exact .nil
  | @cons c cs ds _ ih =>
    rw [List.flatMap_cons, List.flatMap_cons]
    exact List.append_left_lt ih
  | @rel c cs d ds less =>
    rw [List.flatMap_cons, List.flatMap_cons]
    exact precedes_append (encoded_lt less)

theorem utf8Bytes_lt (less : s < t) : utf8Bytes s < utf8Bytes t := by
  rw [utf8Bytes_eq, utf8Bytes_eq]
  exact flatMap_lt less

theorem sortNames_perm (names : List String) : (sortNames names).Perm names :=
  List.mergeSort_perm names _

theorem sortNames_le (names : List String) : (sortNames names).Pairwise (· ≤ ·) := by
  have sorted : (sortNames names).Pairwise fun a b => decide (a ≤ b) = true :=
    List.pairwise_mergeSort (fun a b c => by simpa using String.le_trans)
      (fun a b => by simpa using String.le_total a b) names
  exact sorted.imp of_decide_eq_true

theorem sortNames_congr {names names' : List String} (perm : names.Perm names') :
    sortNames names = sortNames names' := by
  have both : (sortNames names).Perm (sortNames names') :=
    (sortNames_perm names).trans (perm.trans (sortNames_perm names').symm)
  exact both.eq_of_pairwise (fun _ _ _ _ => String.le_antisymm) (sortNames_le names)
    (sortNames_le names')

theorem sortNames_sorted {names : List String} (nodup : names.Nodup) :
    (sortNames names).Pairwise fun a b => utf8Bytes a < utf8Bytes b := by
  have apart : (sortNames names).Nodup := (sortNames_perm names).nodup_iff.mpr nodup
  refine ((sortNames_le names).and apart).imp fun {a b} both => ?_
  exact utf8Bytes_lt (String.not_le.mp fun back => both.2 (String.le_antisymm both.1 back))

end ScopedFormula
