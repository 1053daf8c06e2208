import DocSuite.Check.Ledger

/-!
Names of the functions that checks make. Main statement: the number in such a name can be read back,
so that functions with different numbers have different names.
-/
namespace DocSuite.Ledger

/-- The characters of a name in front of its number. -/
def thunkStart : List Char := "__mddoctest_thunk_".toList

/-- The number in the name of a function that a check makes. -/
def thunkNumber? (name : String) : Option Nat :=
  let digits := (name.toList.drop thunkStart.length).takeWhile Char.isDigit
  let number := Nat.ofDigitChars 10 digits 0
  if name = thunkName number then some number else none

theorem toList_intText (number : Nat) :
    (Value.intText number).toList = Nat.toDigits 10 number := by
  have hpositive : ¬ (number : Int) < 0 := by omega
  simp only [Value.intText, Int.natAbs_natCast, if_neg hpositive, String.toList_ofList]

theorem toList_intText_between (start stop : String) (number : Nat) :
    (start ++ Value.intText number ++ stop).toList =
      start.toList ++ (Nat.toDigits 10 number ++ stop.toList) := by
  rw [String.toList_append, String.toList_append, toList_intText, List.append_assoc]

theorem toList_thunkName (number : Nat) :
    (thunkName number).toList = thunkStart ++ (Nat.toDigits 10 number ++ "__".toList) :=
  toList_intText_between _ _ number

theorem thunkNumber?_thunkName (number : Nat) : thunkNumber? (thunkName number) = some number := by
  have hdigits : ∀ c ∈ Nat.toDigits 10 number, c.isDigit = true := fun c hc =>
    Nat.isDigit_of_mem_toDigits (by omega) (by omega) hc
  have hrest : "__".toList.takeWhile Char.isDigit = [] := by decide
  have hread : ((thunkName number).toList.drop thunkStart.length).takeWhile Char.isDigit =
      Nat.toDigits 10 number := by
    rw [toList_thunkName, List.drop_left, List.takeWhile_append_of_pos hdigits, hrest,
      List.append_nil]
  have hnumber : Nat.ofDigitChars 10 (Nat.toDigits 10 number) 0 = number :=
    Nat.ofDigitChars_toDigits (by omega) (by omega)
  simp only [thunkNumber?, hread, hnumber, if_true]

theorem thunkName_injective : Function.Injective thunkName := by
  intro m n h
  have hm := thunkNumber?_thunkName m
  rw [h, thunkNumber?_thunkName, Option.some.injEq] at hm
  exact hm.symm

end DocSuite.Ledger
