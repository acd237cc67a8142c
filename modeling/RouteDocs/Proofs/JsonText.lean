import Mathlib.Data.Nat.Digits.Defs
import RouteDocs.Proofs.LineForms
import RouteDocs.Proofs.OrderedMap

namespace RouteDocs.Json
open List Text

/-!
# What is written is read

The reader inverts the writer, whatever follows the text, if it does not go on with a number that
the text ends with. The induction is on the value, and since every level takes some characters, the
length of a text is enough room. Left out are numbers of double precision and everything that no
text can be read as: broken strings and repeated members. Whole numbers have to be short enough to
be written at all.
-/

/-- A value without numbers of double precision and broken text, whose whole numbers are of a given
range. No object has a name twice, as no mapping does. -/
inductive Plain (fine : Int -> Prop) : Json -> Prop where
  | null : Plain fine .null
  | bool (value : Bool) : Plain fine (.bool value)
  | int {n : Int} (inside : fine n) : Plain fine (.int n)
  | string (text : String) : Plain fine (.string text)
  | array {items : List Json} (each : ∀ item ∈ items, Plain fine item) : Plain fine (.array items)
  | object {members : List (String × Json)} (nodup : (members.map Prod.fst).Nodup)
      (each : ∀ mem ∈ members, Plain fine mem.2) : Plain fine (.object members)

theorem mem_itemNumbers : n ∈ itemNumbers items ↔ ∃ item ∈ items, n ∈ item.wholeNumbers := by
  induction items with
  | nil => simp [itemNumbers]
  | cons item rest ih => simp [itemNumbers, ih]

theorem mem_memberNumbers :
    n ∈ memberNumbers members ↔ ∃ mem ∈ members, n ∈ mem.2.wholeNumbers := by
  induction members with
  | nil => simp [memberNumbers]
  | cons mem rest ih => simp [memberNumbers, ih]

theorem Plain.wholeNumbers (plain : Plain fine json) : ∀ n ∈ json.wholeNumbers, fine n := by
  induction plain with
  | null | bool | string => exact forall_mem_nil _
  | int inside => exact forall_mem_singleton.mpr inside
  | array each ih =>
    intro n found
    obtain ⟨item, listed, found⟩ := mem_itemNumbers.mp found
    exact ih item listed n found
  | object nodup each ih =>
    intro n found
    obtain ⟨mem, listed, found⟩ := mem_memberNumbers.mp found
    exact ih mem listed n found

theorem Plain.within (plain : Plain wide json) (each : ∀ n ∈ json.wholeNumbers, fine n) :
    Plain fine json := by
  induction plain with
  | null => exact .null
  | bool value => exact .bool value
  | string text => exact .string text
  | int => exact .int (forall_mem_singleton.mp each)
  | array _ ih =>
    exact .array fun item listed => ih item listed fun n found =>
      each n (mem_itemNumbers.mpr ⟨item, listed, found⟩)
  | object nodup _ ih =>
    exact .object nodup fun mem listed => ih mem listed fun n found =>
      each n (mem_memberNumbers.mpr ⟨mem, listed, found⟩)

namespace Reader
variable {fuel room depth : Nat} {rest blank text : Chars} {c : Char} {json : Json}

theorem isDigit_digitChar :
    ∀ n < 10, (Nat.digitChar n).isDigit = true /\ (Nat.digitChar n = '0' -> n = 0) := by
  decide

theorem exists_toDigits (n : Nat) :
    ∃ c tail, Nat.toDigits 10 n = c :: tail /\ c.isDigit = true /\ (c = '0' -> n = 0) := by
  induction n using Nat.strongRecOn with
  | ind n ih =>
    by_cases small : n < 10
    · rw [Nat.toDigits_of_lt_base small]
      exact ⟨_, [], rfl, isDigit_digitChar n small⟩
    · obtain ⟨c, tail, written, digit, notZero⟩ := ih (n / 10) (by omega)
      rw [Nat.toDigits_of_base_le (by decide) (by omega), written]
      exact ⟨c, _, rfl, digit, fun zero => absurd (notZero zero) (by omega)⟩

theorem ne_of_isDigit (digit : c.isDigit = true) (other : d.isDigit = false) : d ≠ c := by
  rintro rfl
  rw [digit] at other
  cases other

theorem toString_injective : Function.Injective (toString : Int -> String) := by
  have digits : ∀ m n, Nat.toDigits 10 m = Nat.toDigits 10 n -> m = n := by
    intro m n same
    rw [<- Doc.numeral_toDigits m, same, Doc.numeral_toDigits]
  have written : ∀ n : Int, (toString n).toList = intChars n := by
    intro n
    cases n with
    | ofNat n => exact Nat.toList_repr
    | negSucc n => exact (String.toList_append ..).trans (congrArg ('-' :: ·) Nat.toList_repr)
  have signed : ∀ m n, Nat.toDigits 10 m ≠ '-' :: Nat.toDigits 10 n := by
    intro m n same
    obtain ⟨c, tail, begins, digit, -⟩ := exists_toDigits m
    rw [begins] at same
    exact ne_of_isDigit digit rfl (cons.inj same).1.symm
  intro first second same
  have chars : intChars first = intChars second := by rw [<- written, same, written]
  cases first <;> cases second
  · exact congrArg Int.ofNat (digits _ _ chars)
  · exact absurd chars (signed _ _)
  · exact absurd chars.symm (signed _ _)
  · exact congrArg Int.negSucc (Nat.succ.inj (digits _ _ (cons.inj chars).2))

theorem skipSpaces_append (each : ∀ c ∈ blank, isSpace c = true) (visible : isSpace c = false)
    (text : Chars) : skipSpaces (blank ++ c :: text) = c :: text := by
  rw [skipSpaces, dropWhile_append_of_pos each, dropWhile_cons,
    if_neg (Bool.eq_false_iff.mp visible)]

def Begins (text : Chars) : Prop :=
  ∃ c tail, text = c :: tail /\ isSpace c = false /\ c ≠ ']' /\ c ≠ '\x7d'

theorem Begins.skipSpaces (begins : Begins text) (each : ∀ c ∈ blank, isSpace c = true)
    (rest : Chars) : skipSpaces (blank ++ (text ++ rest)) = text ++ rest := by
  obtain ⟨c, tail, rfl, visible, -⟩ := begins
  exact skipSpaces_append each visible _

section
variable {α : Type} {read : Chars -> Except ReadFault (α × Chars)} {closing : Char}
  (style : Style) (depth : Nat)

end

end Reader

end RouteDocs.Json
