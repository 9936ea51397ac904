import Formwork.Text.Table.Alphanumeric
import Formwork.Text.Table.Digit
import Formwork.Text.Table.LowerCase
import Formwork.Text.Table.Unprintable

/-! # Classes of characters

White space, digits, word characters, printable characters and letter case. ASCII
is decided by the definitions themselves, everything beyond it by the tables.
-/

namespace Formwork.Text

/-- Whether a code point lies in one of the ranges. -/
def inRanges (ranges : Array (Nat × Nat)) (code : Nat) : Bool :=
  ranges.any fun range => range.1 ≤ code && code ≤ range.2

/-- The ranges of white space: the ASCII blanks and separators, and Unicode's spaces. -/
def blankRanges : List (Nat × Nat) :=
  [(0x9, 0xd), (0x1c, 0x20), (0x85, 0x85), (0xa0, 0xa0), (0x1680, 0x1680), (0x2000, 0x200a),
   (0x2028, 0x2029), (0x202f, 0x202f), (0x205f, 0x205f), (0x3000, 0x3000)]

def isBlank (c : Char) : Bool :=
  blankRanges.any fun range => range.1 ≤ c.toNat && c.toNat ≤ range.2

def isDecimal (c : Char) : Bool :=
  if c.toNat < 128 then c.isDigit else inRanges Table.digit c.toNat

/-- A letter or a number of any kind. -/
def isAlphanumeric (c : Char) : Bool :=
  if c.toNat < 128 then c.isAlphanum else inRanges Table.alphanumeric c.toNat

/-- A character of a word: a letter, a number or the underscore. -/
def isWord (c : Char) : Bool := isAlphanumeric c || c == '_'

/-- A character that quoting may show as it is. -/
def isPrintable (c : Char) : Bool :=
  if c.toNat < 128 then 32 ≤ c.toNat && c.toNat < 127 else !inRanges Table.unprintable c.toNat

namespace Table.CapitalRun

/-- The small letter of a capital of the run. -/
def small? (run : CapitalRun) (code : Nat) : Option Nat :=
  if run.first ≤ code && code ≤ run.last && (code - run.first) % run.stride == 0 then
    some (code + run.offset).toNat
  else none

/-- The capital of the run with a given small letter. -/
def capital? (run : CapitalRun) (code : Nat) : Option Nat :=
  let capital := (code - run.offset).toNat
  if run.small? capital == some code then some capital else none

end Table.CapitalRun

/-- The small letter of a character, itself when it has none. -/
def lowerChar (c : Char) : Char :=
  if c.toNat < 128 then c.toLower
  else match Table.capitals.findSome? (·.small? c.toNat) with
    | some code => Char.ofNat code
    | none => c

/-- The capitals whose small letter is the given one. -/
def capitalsOf (c : Char) : List Char :=
  let ascii := if 'a' ≤ c && c ≤ 'z' then [c.toUpper] else []
  ascii ++ (Table.capitals.toList.filterMap (·.capital? c.toNat)).map Char.ofNat

/-- Lower case, character by character. A capital I with a dot keeps the dot as a
    combining character. -/
def lower (text : List Char) : List Char :=
  text.flatMap fun c => if c == 'İ' then ['i', '\u0307'] else [lowerChar c]

/-- Upper case as far as its result is ASCII: also the dotless i and the long s have
    plain capitals. -/
def upperAscii (text : List Char) : List Char :=
  text.map fun c => if c == 'ı' then 'I' else if c == 'ſ' then 'S' else c.toUpper

/-- Text without the white space at its two ends. -/
def strip (text : List Char) : List Char :=
  ((text.dropWhile isBlank).reverse.dropWhile isBlank).reverse

def isInfix (part : List Char) : List Char → Bool
  | [] => part.isEmpty
  | c :: rest => part.isPrefixOf (c :: rest) || isInfix part rest

end Formwork.Text
