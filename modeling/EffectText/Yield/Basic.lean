import EffectText.Number.Shortest

/-! # Yields

    A **yield** is one of the seven things that cities produce. **Yields** are an
    amount of each, as single-precision numbers.
-/

namespace EffectText

/-- **Yield**: one of the seven things that cities produce. -/
inductive Yield where
  | production
  | food
  | gold
  | science
  | culture
  | happiness
  | faith
  deriving DecidableEq, Repr, Inhabited

namespace Yield

/-- Every yield, in the order in which they are listed. -/
def all : List Yield := [.production, .food, .gold, .science, .culture, .happiness, .faith]

/-- The name of a yield. -/
def name : Yield → String
  | .production => "Production"
  | .food => "Food"
  | .gold => "Gold"
  | .science => "Science"
  | .culture => "Culture"
  | .happiness => "Happiness"
  | .faith => "Faith"

/-- The yield of exactly this name. -/
def ofName? (name : String) : Option Yield := all.find? (·.name == name)

theorem mem_all (yield : Yield) : yield ∈ all := by cases yield <;> decide

end Yield

/-- **Yields**: an amount of each yield. All amounts are zero unless given. -/
structure Yields where
  production : Single := .zero
  food : Single := .zero
  gold : Single := .zero
  science : Single := .zero
  culture : Single := .zero
  happiness : Single := .zero
  faith : Single := .zero
  deriving DecidableEq, Repr

namespace Yields

/-! ## One yield at a time -/

/-- No yields at all. -/
def none : Yields := {}

instance : Inhabited Yields := ⟨none⟩

/-- The amount of one yield. -/
def get (amounts : Yields) : Yield → Single
  | .production => amounts.production
  | .food => amounts.food
  | .gold => amounts.gold
  | .science => amounts.science
  | .culture => amounts.culture
  | .happiness => amounts.happiness
  | .faith => amounts.faith

/-- Adds to the amount of one yield. -/
def addTo (amounts : Yields) (yield : Yield) (amount : Single) : Yields :=
  match yield with
  | .production => { amounts with production := amounts.production + amount }
  | .food => { amounts with food := amounts.food + amount }
  | .gold => { amounts with gold := amounts.gold + amount }
  | .science => { amounts with science := amounts.science + amount }
  | .culture => { amounts with culture := amounts.culture + amount }
  | .happiness => { amounts with happiness := amounts.happiness + amount }
  | .faith => { amounts with faith := amounts.faith + amount }

@[simp] theorem get_none (yield : Yield) : none.get yield = .zero := by cases yield <;> rfl

@[simp] theorem get_addTo_self (amounts : Yields) (yield : Yield) (amount : Single) :
    (amounts.addTo yield amount).get yield = amounts.get yield + amount := by
  cases yield <;> rfl

@[simp] theorem get_addTo_ne (amounts : Yields) (yield other : Yield) (amount : Single)
    (h : other ≠ yield) : (amounts.addTo yield amount).get other = amounts.get other := by
  cases yield <;> cases other <;> first | rfl | exact absurd rfl h

/-! ## All yields together -/

/-- Adds amounts one by one, each to its yield. -/
def addAll (amounts : Yields) (terms : List (Yield × Single)) : Yields :=
  terms.foldl (fun sum (yield, amount) => sum.addTo yield amount) amounts

/-- The sum, yield by yield. -/
def plus (a b : Yields) : Yields :=
  a.addAll (Yield.all.map fun yield => (yield, b.get yield))

/-- Every amount multiplied by `factor`. -/
def times (amounts : Yields) (factor : Single) : Yields :=
  none.addAll (Yield.all.map fun yield => (yield, amounts.get yield * factor))

/-- All amounts are zero. -/
def isEmpty (amounts : Yields) : Bool := Yield.all.all fun yield => (amounts.get yield).isZero

/-- The yields whose amount is not zero, with their amounts. -/
def nonzero (amounts : Yields) : List (Yield × Single) :=
  (Yield.all.map fun yield => (yield, amounts.get yield)).filter fun (_, amount) =>
    !amount.isZero

instance : Add Yields := ⟨plus⟩

/-! ## Text -/

/-- The text of one amount: a plus or minus, the magnitude, a space, the name. -/
def termText (yield : Yield) (amount : Single) : String :=
  (if amount.isPositive then "+" else "-") ++ amount.abs.toText ++ " " ++ yield.name

/-- **Text** of yields: those that are not zero, joined by commas. -/
def toText (amounts : Yields) : String :=
  ", ".intercalate (amounts.nonzero.map fun (yield, amount) => termText yield amount)

end Yields

end EffectText
