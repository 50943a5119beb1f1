import KeyedState.Unicode.BinaryProperty

/-!
# The newest characters

The tables of properties are those of version 16.0 of the standard. What is compared, quoted or
checked without a table that patterns name follows version 17.0, and here is what that adds. The
letters and digits are those of the tables together with the newest ones.
-/

namespace KeyedState

namespace Newest

/-- The characters that version 17.0 assigns first. -/
def assigned : CharSet := .ofLines
  ["88F C5C CDC 1ACF-1ADD 1AE0-1AEB 20C1 2B96 A7CE-A7CF A7D2 A7D4 A7F1 FBC3-FBD2 FD90-FD91",
   "FDC8-FDCE 10940-10959 10EC5-10EC7 10ED0-10ED8 10EFA-10EFB 11B60-11B67 11DB0-11DDB",
   "11DE0-11DE9 16EA0-16EB8 16EBB-16ED3 16FF2-16FF6 187F8-187FF 18D09-18D1E 18D80-18DF2",
   "1CCFA-1CCFC 1CEBA-1CED0 1CEE0-1CEF0 1E6C0-1E6DE 1E6E0-1E6F5 1E6FE-1E6FF 1F6D8 1F777-1F77A",
   "1F8D0-1F8D8 1FA54-1FA57 1FA8A 1FA8E 1FAC8 1FACD 1FAEA 1FAEF 1FBFA 2B73A-2B73F 2CEA2-2CEAD",
   "323B0-33479"]

/-- Those that are alphabetic. -/
def alphabetic : CharSet := .ofLines
  ["88F C5C CDC A7CE-A7CF A7D2 A7D4 A7F1 10940-10959 10EC5-10EC7 10EFA-10EFB 11B60-11B67",
   "11DB0-11DDB 16EA0-16EB8 16EBB-16ED3 16FF2-16FF6 187F8-187FF 18D09-18D1E 18D80-18DF2",
   "1E6C0-1E6DE 1E6E0-1E6F5 1E6FE-1E6FF 2B73A-2B73F 2CEA2-2CEAD 323B0-33479"]

/-- Those that are numbers. -/
def numbers : CharSet := .ofText "11DE0-11DE9 16FF4-16FF6"

/-- Those that extend the character before them. -/
def graphemeExtend : CharSet := .ofLines
  ["1ACF-1ADD 1AE0-1AEB 10EFA-10EFB 11B60 11B62-11B64 11B66 1E6E3 1E6E6 1E6EE-1E6EF 1E6F5"]

/-- Those that have case. -/
def cased : CharSet := .ofText "A7CE-A7CF A7D2 A7D4 A7F1 16EA0-16EB8 16EBB-16ED3"

/-- The characters that have case no more. -/
def uncased : CharSet := .ofText "295"

/-- Those that do not count for the case of their neighbours. -/
def caseIgnorable : CharSet := .ofLines
  ["1ACF-1ADD 1AE0-1AEB A7F1 10EC5 10EFA-10EFB 11B60 11B62-11B64 11B66 11DD9 16FF2-16FF3 1E6E3",
   "1E6E6 1E6EE-1E6EF 1E6F5 1E6FF"]

end Newest

/-! ## Letters and digits -/

/-- Whether a character is alphabetic. -/
def isAlphabetic (c : Char) : Bool := BinaryProperty.alphabetic.has c || Newest.alphabetic.has c

/-- The numbers of all kinds. -/
def numbers : CharSet :=
  (GeneralCategory.union [.decimalNumber, .letterNumber, .otherNumber]).union Newest.numbers

/-- Whether a character is alphabetic or a number. -/
def isAlphanumeric (c : Char) : Bool := isAlphabetic c || numbers.has c

end KeyedState
