import Mathlib.Tactic.Common
import RootedStorage.Csv.CellParser
import RootedStorage.Csv.CellText

/-!
# Cell texts that say everything

Truth values, whole numbers and texts are written so that they can be read back.  Only the empty
text is lost: its text is the one of a null.
-/

namespace RootedStorage

/-- The types whose cells can be read back from their texts. -/
inductive ColumnType.IsExact : ColumnType → Prop where
  | boolean : IsExact .boolean
  | integer (t : IntegerType) : IsExact (.integer t)
  | text : IsExact .text

/-- The cells of an exact type. -/
theorem Cell.Fits.exact_cases {x : Cell} {t : ColumnType} (hx : x.Fits t) (ht : t.IsExact) :
    x = .null ∨ (∃ b, t = .boolean ∧ x = .boolean b) ∨
      (∃ i n, t = .integer i ∧ x = .integer n ∧ i.holds n = true) ∨ ∃ s, t = .text ∧ x = .text s := by
  cases ht with
  | boolean => cases x <;> simp_all [Cell.Fits]
  | integer i => cases x <;> simp_all [Cell.Fits]
  | text => cases x <;> simp_all [Cell.Fits]

/-- The cell without the difference between an empty text and a null. -/
def Cell.blankAsNull : Cell → Cell
  | text s => if s = "" then null else text s
  | x => x

namespace Csv

/-- The text of a cell of an exact type. -/
def exactText : Cell → String
  | .boolean b => if b then "true" else "false"
  | .integer n => toString n
  | .text s => s
  | .null | .float _ => ""

/-- Exact types can be written. -/
theorem isWritable_of_isExact {t : ColumnType} (ht : t.IsExact) : isWritable t = true := by
  cases ht <;> rfl

/-- A cell of an exact type is written as its exact text. -/
theorem cellText_of_isExact {t : ColumnType} (ht : t.IsExact) {x : Cell} (hx : x.Fits t) :
    cellText t x = some (exactText x) := by
  rcases hx.exact_cases ht with rfl | ⟨b, rfl, rfl⟩ | ⟨t, n, rfl, rfl, -⟩ | ⟨s, rfl, rfl⟩
  · rfl
  · rfl
  · rfl
  · rfl

namespace CellText

/-- Written digits are a number. -/
theorem isNumber_toDigits (n : Nat) : isNumber (Nat.toDigits 10 n) = true := by
  have hdigits : ∀ c ∈ Nat.toDigits 10 n, c.isDigit = true :=
    fun c hc => Nat.isDigit_of_mem_toDigits (by decide) (by decide) hc
  simpa [isNumber, Nat.toDigits_ne_nil] using hdigits

/-- Written digits denote the number that they were written for. -/
theorem number_toDigits (n : Nat) : number (Nat.toDigits 10 n) = n :=
  Nat.ofDigitChars_ten_toDigits

/-- The digits of a number do not begin with a sign. -/
theorem toDigits_eq_cons (n : Nat) :
    ∃ c ds, Nat.toDigits 10 n = c :: ds ∧ c ≠ '-' ∧ c ≠ '+' := by
  obtain ⟨c, ds, h⟩ := List.exists_cons_of_ne_nil (Nat.toDigits_ne_nil (n := n) (b := 10))
  have hdigit : c.isDigit = true :=
    Nat.isDigit_of_mem_toDigits (by decide) (by decide) (h ▸ List.mem_cons_self)
  refine ⟨c, ds, h, ?_, ?_⟩
  · rintro rfl
    exact absurd hdigit (by decide)
  · rintro rfl
    exact absurd hdigit (by decide)

/-- A natural number that fits the type is parsed from its digits. -/
theorem parseInteger_digits {t : IntegerType} {n : Nat} (h : t.holds n = true) :
    parseInteger t (Nat.toDigits 10 n) = some (n : Int) := by
  obtain ⟨c, ds, hcons, hminus, hplus⟩ := toDigits_eq_cons n
  have hnumber := isNumber_toDigits n
  have hvalue := number_toDigits n
  rw [hcons] at hnumber hvalue ⊢
  unfold parseInteger
  split
  · rename_i negative ds' heq
    split at heq
    · rename_i hc
      exact absurd (List.cons.inj hc).1 hminus
    · rename_i hc
      exact absurd (List.cons.inj hc).1 hplus
    · obtain ⟨rfl, rfl⟩ := Prod.mk.inj heq
      simp [hnumber, hvalue, h]

/-- A negative number that fits the type is parsed from its digits and the sign. -/
theorem parseInteger_minus {t : IntegerType} {n : Nat} (h : t.holds (-(n : Int)) = true) :
    parseInteger t ('-' :: Nat.toDigits 10 n) = some (-(n : Int)) := by
  simp [parseInteger, isNumber_toDigits, number_toDigits, h]

/-- The text of a whole number is a minus sign or nothing, and digits. -/
theorem toList_toString (n : Int) : ∃ m : Nat, n = m ∧ (toString n).toList = Nat.toDigits 10 m ∨
    n = -(m : Int) ∧ (toString n).toList = '-' :: Nat.toDigits 10 m := by
  rw [Int.toString_eq_repr, Int.repr_eq_if]
  by_cases hn : 0 ≤ n
  · exact ⟨n.toNat, Or.inl ⟨by omega, by rw [if_pos hn, Nat.toList_repr]⟩⟩
  · refine ⟨(-n).toNat, Or.inr ⟨by omega, ?_⟩⟩
    rw [if_neg hn, String.toList_append, Nat.toList_repr]
    rfl

/-- No number is written as an empty text. -/
theorem toString_ne_empty (n : Int) : toString n ≠ "" := by
  intro hempty
  obtain ⟨m, ⟨-, htext⟩ | ⟨-, htext⟩⟩ := toList_toString n
  · exact Nat.toDigits_ne_nil (htext.symm.trans (congrArg String.toList hempty))
  · exact List.cons_ne_nil _ _ (htext.symm.trans (congrArg String.toList hempty))

/-- A whole number is read back from its text. -/
theorem parseInteger_toString {t : IntegerType} {n : Int} (h : t.holds n = true) :
    parseInteger t (toString n).toList = some n := by
  obtain ⟨m, ⟨hn, htext⟩ | ⟨hn, htext⟩⟩ := toList_toString n
  · rw [htext, hn]
    exact parseInteger_digits (hn ▸ h)
  · rw [htext, hn]
    exact parseInteger_minus (hn ▸ h)

/-- A truth value is parsed from its text. -/
theorem parseBoolean_exactText (b : Bool) :
    parseBoolean (exactText (.boolean b)).toList = some b := by
  cases b <;> decide

end CellText

/-- A cell of an exact type is read back from its text, the empty text as a null. -/
theorem parseCell_exactText {t : ColumnType} (ht : t.IsExact) {x : Cell} (hx : x.Fits t) :
    parseCell t (exactText x) = some x.blankAsNull := by
  rcases hx.exact_cases ht with rfl | ⟨b, rfl, rfl⟩ | ⟨t, n, rfl, rfl, hn⟩ | ⟨s, rfl, rfl⟩
  · rfl
  · have hne : exactText (.boolean b) ≠ "" := by cases b <;> decide
    simp [parseCell, hne, CellText.parseBoolean_exactText, Cell.blankAsNull]
  · have hparse := CellText.parseInteger_toString hn
    simp only [parseCell, exactText, if_neg (CellText.toString_ne_empty n), hparse]
    rfl
  · by_cases hs : s = ""
    · simp [parseCell, exactText, hs, Cell.blankAsNull]
    · simp [parseCell, exactText, hs, Cell.blankAsNull]

end Csv

end RootedStorage
