import EffectText.Text.Category.Letters
import EffectText.Text.Category.Marks
import EffectText.Text.Category.Signs
import EffectText.Text.Digit

/-! # General categories

    Every code point has one general category of Unicode. The categories have names and
    abbreviations, and so have some groups of them.
-/

namespace EffectText.Text

/-- **Group** of general categories: its names, in lower case and without underscores,
    and its code points. -/
structure CategoryGroup where
  names : List String
  ranges : CodeRanges
  deriving DecidableEq, Repr

namespace Category

/-- The ranges of the category `Nd`. -/
def decimalNumberRanges : CodeRanges :=
  CodeRanges.ofUnordered (decimalZeros.map fun start => (start, start + 9))

/-- The surrogates, which no text has. -/
def surrogateRanges : CodeRanges := [(0xD800, 0xDFFF)]

/-- The ranges of all letters. -/
def letterRanges : CodeRanges :=
  .unionAll [uppercaseLetterRanges, lowercaseLetterRanges, titlecaseLetterRanges,
    modifierLetterRanges, otherLetterRanges]

/-- The ranges of the letters that have a case. -/
def casedLetterRanges : CodeRanges :=
  .unionAll [uppercaseLetterRanges, lowercaseLetterRanges, titlecaseLetterRanges]

/-- The ranges of all marks. -/
def markRanges : CodeRanges :=
  .unionAll [nonspacingMarkRanges, spacingMarkRanges, enclosingMarkRanges]

/-- The ranges of all numbers. -/
def numberRanges : CodeRanges :=
  .unionAll [decimalNumberRanges, letterNumberRanges, otherNumberRanges]

/-- The ranges of all symbols. -/
def symbolRanges : CodeRanges :=
  .unionAll [mathSymbolRanges, currencySymbolRanges, modifierSymbolRanges, otherSymbolRanges]

/-- The ranges of all punctuation. -/
def punctuationRanges : CodeRanges :=
  .unionAll [connectorPunctuationRanges, dashPunctuationRanges, openPunctuationRanges,
    closePunctuationRanges, initialPunctuationRanges, finalPunctuationRanges,
    otherPunctuationRanges]

/-- The ranges of all separators. -/
def separatorRanges : CodeRanges :=
  .unionAll [spaceSeparatorRanges, lineSeparatorRanges, paragraphSeparatorRanges]

/-- The ranges of all code points that are neither letters nor marks nor numbers nor
    symbols nor punctuation nor separators. -/
def otherRanges : CodeRanges :=
  .complement (.unionAll [letterRanges, markRanges, numberRanges, symbolRanges,
    punctuationRanges, separatorRanges])

/-- The ranges of the code points without a character. -/
def unassignedRanges : CodeRanges :=
  .diff otherRanges (.unionAll [controlRanges, formatRanges, surrogateRanges, privateUseRanges])

/-- All categories and groups of them. -/
def groups : List CategoryGroup :=
  [⟨["l", "letter"], letterRanges⟩,
   ⟨["lu", "uppercaseletter"], uppercaseLetterRanges⟩,
   ⟨["ll", "lowercaseletter"], lowercaseLetterRanges⟩,
   ⟨["lt", "titlecaseletter"], titlecaseLetterRanges⟩,
   ⟨["lc", "casedletter"], casedLetterRanges⟩,
   ⟨["lm", "modifierletter"], modifierLetterRanges⟩,
   ⟨["lo", "otherletter"], otherLetterRanges⟩,
   ⟨["m", "mark", "combiningmark"], markRanges⟩,
   ⟨["mn", "nonspacingmark"], nonspacingMarkRanges⟩,
   ⟨["mc", "spacingmark"], spacingMarkRanges⟩,
   ⟨["me", "enclosingmark"], enclosingMarkRanges⟩,
   ⟨["n", "number"], numberRanges⟩,
   ⟨["nd", "decimalnumber", "digit"], decimalNumberRanges⟩,
   ⟨["nl", "letternumber"], letterNumberRanges⟩,
   ⟨["no", "othernumber"], otherNumberRanges⟩,
   ⟨["p", "punctuation", "punct"], punctuationRanges⟩,
   ⟨["pc", "connectorpunctuation"], connectorPunctuationRanges⟩,
   ⟨["pd", "dashpunctuation"], dashPunctuationRanges⟩,
   ⟨["ps", "openpunctuation"], openPunctuationRanges⟩,
   ⟨["pe", "closepunctuation"], closePunctuationRanges⟩,
   ⟨["pi", "initialpunctuation"], initialPunctuationRanges⟩,
   ⟨["pf", "finalpunctuation"], finalPunctuationRanges⟩,
   ⟨["po", "otherpunctuation"], otherPunctuationRanges⟩,
   ⟨["s", "symbol"], symbolRanges⟩,
   ⟨["sm", "mathsymbol"], mathSymbolRanges⟩,
   ⟨["sc", "currencysymbol"], currencySymbolRanges⟩,
   ⟨["sk", "modifiersymbol"], modifierSymbolRanges⟩,
   ⟨["so", "othersymbol"], otherSymbolRanges⟩,
   ⟨["z", "separator"], separatorRanges⟩,
   ⟨["zs", "spaceseparator"], spaceSeparatorRanges⟩,
   ⟨["zl", "lineseparator"], lineSeparatorRanges⟩,
   ⟨["zp", "paragraphseparator"], paragraphSeparatorRanges⟩,
   ⟨["c", "other"], otherRanges⟩,
   ⟨["cc", "control", "cntrl"], controlRanges⟩,
   ⟨["cf", "format"], formatRanges⟩,
   ⟨["cs", "surrogate"], surrogateRanges⟩,
   ⟨["co", "privateuse"], privateUseRanges⟩,
   ⟨["cn", "unassigned"], unassignedRanges⟩]

end Category

end EffectText.Text
