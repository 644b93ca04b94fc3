import Patrol.Unicode.Category
import Patrol.Unicode.Property

/-! Classes of characters built from the general category and the properties. -/
namespace Patrol.Unicode
open CodeSet (unionAll)
open Category Property

def letter : CodeSet :=
  unionAll [uppercaseLetter, lowercaseLetter, titlecaseLetter, modifierLetter, otherLetter]

def casedLetter : CodeSet := unionAll [uppercaseLetter, lowercaseLetter, titlecaseLetter]

def mark : CodeSet := unionAll [nonspacingMark, spacingMark, enclosingMark]

def number : CodeSet := unionAll [decimalNumber, letterNumber, otherNumber]

def punctuation : CodeSet :=
  unionAll [connectorPunctuation, dashPunctuation, openPunctuation, closePunctuation,
    initialPunctuation, finalPunctuation, otherPunctuation]

def symbol : CodeSet := unionAll [mathSymbol, currencySymbol, modifierSymbol, otherSymbol]

def separator : CodeSet := unionAll [spaceSeparator, lineSeparator, paragraphSeparator]

/-- Controls, formats, private use and what is not assigned. -/
def other : CodeSet := unionAll [control, format, privateUse, unassigned]

def alphabetic : CodeSet := unionAll [letter, letterNumber, otherAlphabetic]

def lowercase : CodeSet := lowercaseLetter.union otherLowercase

def uppercase : CodeSet := uppercaseLetter.union otherUppercase

def cased : CodeSet := unionAll [lowercase, uppercase, titlecaseLetter]

def math : CodeSet := mathSymbol.union otherMath

/-- What joins the character before it in one cluster. -/
def graphemeExtend : CodeSet := unionAll [nonspacingMark, enclosingMark, otherGraphemeExtend]

/-- What can begin a cluster of its own. -/
def graphemeBase : CodeSet :=
  unionAll [letter, spacingMark, number, punctuation, symbol, spaceSeparator]
    |>.diff otherGraphemeExtend

def identifierStart : CodeSet := (letter.union letterNumber).symmDiff identifierStartExceptions

def identifierContinue : CodeSet :=
  unionAll [identifierStart, nonspacingMark, spacingMark, decimalNumber, connectorPunctuation]
    |>.symmDiff identifierContinueExceptions

def caseIgnorable : CodeSet :=
  unionAll [nonspacingMark, enclosingMark, format, modifierLetter, modifierSymbol]
    |>.symmDiff caseIgnorableExceptions

def changesWhenLowercased : CodeSet :=
  (uppercase.union titlecaseLetter).symmDiff lowercasedExceptions

def changesWhenUppercased : CodeSet :=
  (lowercase.union titlecaseLetter).symmDiff uppercasedExceptions

def changesWhenTitlecased : CodeSet := changesWhenUppercased.symmDiff titlecasedExceptions

def changesWhenCasefolded : CodeSet := changesWhenLowercased.symmDiff casefoldedExceptions

def changesWhenCasemapped : CodeSet :=
  unionAll [changesWhenLowercased, changesWhenUppercased, changesWhenTitlecased]

/-- The characters of words: letters and their like, marks, digits, connectors and joiners. -/
def word : CodeSet :=
  unionAll [alphabetic, mark, decimalNumber, connectorPunctuation, joinControl]

def alphanumeric : CodeSet := alphabetic.union number

/-- What shows nothing of its own, or shows differently in each place: controls, formats, private
use, unassigned codes and all separators except the space. -/
def unprintable : CodeSet := (other.union separator).diff (.single 0x20)

end Patrol.Unicode

namespace Patrol

/-- The character is blank. -/
def isBlank (c : Char) : Bool := Unicode.Property.whiteSpace.contains c.toNat

/-! The classes hold no other ASCII characters than those known by name, so that ASCII is decided
without a table. -/

def isAscii (c : Char) : Bool := c.toNat < 0x80

/-- The characters of words in ASCII. -/
def isAsciiWordChar (c : Char) : Bool := c.isAlphanum || c == '_'

/-- The character belongs to words. -/
def isWordChar (c : Char) : Bool :=
  if isAscii c then isAsciiWordChar c else Unicode.word.contains c.toNat

/-- The character is a letter, a number or counts as alphabetic. -/
def isAlphanumeric (c : Char) : Bool :=
  if isAscii c then c.isAlphanum else Unicode.alphanumeric.contains c.toNat

/-- The character is a letter or counts as one. -/
def isAlphabetic (c : Char) : Bool :=
  if isAscii c then c.isAlpha else Unicode.alphabetic.contains c.toNat

end Patrol
