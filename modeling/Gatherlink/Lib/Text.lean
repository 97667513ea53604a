import Mathlib

/-! Texts as lists of characters: lines, surrounding white space and decimal numbers. -/

namespace Gatherlink.Lib.Text

/-- The characters with the Unicode property White_Space. -/
def isWhitespace (char : Char) : Bool :=
  let code := char.toNat
  (9 ≤ code && code ≤ 13) || code == 0x20 || code == 0x85 || code == 0xA0 || code == 0x1680 ||
    (0x2000 ≤ code && code ≤ 0x200A) || code == 0x2028 || code == 0x2029 || code == 0x202F || code == 0x205F ||
    code == 0x3000

/-- The lines of a text. A carriage return before the line feed stays: `trim` takes it away. -/
def lines : List Char → List (List Char)
  | [] => []
  | char :: rest =>
      if char = '\n' then [] :: lines rest
      else
        match lines rest with
        | [] => [[char]]
        | line :: more => (char :: line) :: more

def trim (line : List Char) : List Char :=
  ((line.dropWhile isWhitespace).reverse.dropWhile isWhitespace).reverse

/-- The text before and after the first equals sign. -/
def splitOnce (line : List Char) : Option (List Char × List Char) :=
  match line.dropWhile (· != '=') with
  | [] => none
  | _ :: value => some (line.takeWhile (· != '='), value)

def parseDigits (digits : List Char) : Option Nat :=
  if digits.isEmpty || !digits.all Char.isDigit then none
  else some (digits.foldl (fun value digit => 10 * value + (digit.toNat - '0'.toNat)) 0)

def parseSigned : List Char → Option Int
  | '+' :: digits => (parseDigits digits).map fun value => (value : Int)
  | '-' :: digits => (parseDigits digits).map fun value => -(value : Int)
  | digits => (parseDigits digits).map fun value => (value : Int)

end Gatherlink.Lib.Text
