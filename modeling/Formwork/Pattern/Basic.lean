import Formwork.Text.Class

/-! # Patterns

Regular expressions over Unicode text, as trees. Options such as the disregard of case
are settled when a pattern is read, so each leaf carries those that apply to it.
Characters are code points, because a pattern may name one that no text contains.
-/

namespace Formwork.Pattern

/-- How a leaf treats letter case. -/
inductive CaseMode where
  /-- Letters of different case differ. -/
  | exact
  /-- Case is disregarded for ASCII letters. -/
  | ascii
  /-- Case is disregarded for all letters. -/
  | unicode
  deriving Repr, DecidableEq

/-- The classes of characters with a name of their own. -/
inductive CategoryKind where
  | digit
  | space
  | word
  deriving Repr, DecidableEq

/-- A class of characters or its complement, over ASCII alone or over all of Unicode. -/
structure Category where
  kind : CategoryKind
  negated : Bool
  ascii : Bool
  deriving Repr, DecidableEq

/-- One part of a set of characters. -/
inductive SetItem where
  | code (code : Nat)
  | range (first last : Nat)
  | category (category : Category)
  deriving Repr, DecidableEq

/-- Conditions on a place in the text. -/
inductive Anchor where
  | textStart
  | textEnd
  /-- The end, or before a line break that ends the text. -/
  | lastLineEnd
  | lineStart
  | lineEnd
  /-- Between a word character and another one; the second flag asks for the opposite. -/
  | wordBoundary (ascii negated : Bool)
  deriving Repr, DecidableEq

/-- In which order numbers of repetitions are tried. -/
inductive Greed where
  /-- Most first. -/
  | greedy
  /-- Fewest first. -/
  | lazy
  /-- As many as possible, never fewer. -/
  | possessive
  deriving Repr, DecidableEq

/-- A pattern. -/
inductive Node where
  | empty
  | code (mode : CaseMode) (code : Nat)
  /-- Any character; line breaks only with the flag. -/
  | any (lineBreaks : Bool)
  | set (mode : CaseMode) (negated : Bool) (items : List SetItem)
  | anchor (anchor : Anchor)
  | sequence (first second : Node)
  | alternative (first second : Node)
  | repeat (least : Nat) (most : Option Nat) (greed : Greed) (body : Node)
  /-- A group; with an index it captures what it matches. -/
  | group (index : Option Nat) (body : Node)
  /-- What a group captured, once more. -/
  | reference (mode : CaseMode) (index : Nat)
  /-- What follows the place. -/
  | lookAhead (negated : Bool) (body : Node)
  /-- What precedes the place, a given number of characters. -/
  | lookBehind (negated : Bool) (width : Nat) (body : Node)
  /-- One of two patterns, by whether a group has captured something. -/
  | ifCaptured (index : Nat) (yes no : Node)
  /-- The first way in which the body matches, and no other. -/
  | atomic (body : Node)
  deriving Repr

/-- Groups of small letters that share a capital. -/
def sameCapital : List (List Nat) :=
  [[105, 305], [115, 383], [181, 956], [837, 953, 8126], [912, 8147], [944, 8163], [946, 976],
   [949, 1013], [952, 977], [954, 1008], [960, 982], [961, 1009], [962, 963], [966, 981],
   [1074, 7296], [1076, 7297], [1086, 7298], [1089, 7299], [1090, 7300, 7301], [1098, 7302],
   [1123, 7303], [7304, 42571], [7777, 7835], [64261, 64262]]

/-- The small letters that count as a given one when case is disregarded. -/
def relatives (code : Nat) : List Nat :=
  (sameCapital.find? (·.contains code)).getD [code]

def smallLetter (code : Nat) : Nat :=
  if code.isValidChar then (Text.lowerChar (Char.ofNat code)).toNat else code

/-- The code points with the small letter `code`, itself among them. -/
def withSmallLetter (code : Nat) : List Nat :=
  code :: (Text.capitalsOf (Char.ofNat code)).map Char.toNat

def asciiSmallLetter (code : Nat) : Nat :=
  if 'A'.toNat ≤ code && code ≤ 'Z'.toNat then code + 32 else code

namespace Category

def holds (category : Category) (c : Char) : Bool :=
  let inside := match category.kind, category.ascii with
    | .digit, true => c.isDigit
    | .digit, false => Text.isDecimal c
    | .space, true => c == ' ' || ('\t' ≤ c && c ≤ '\r')
    | .space, false => Text.isBlank c
    | .word, true => c.isAlphanum || c == '_'
    | .word, false => Text.isWord c
  inside != category.negated

end Category

namespace CaseMode

/-- The code points that a character of the text may stand for. -/
def variants (mode : CaseMode) (c : Char) : List Nat :=
  match mode with
  | .exact => [c.toNat]
  | .ascii =>
      let small := asciiSmallLetter c.toNat
      if 'a'.toNat ≤ small && small ≤ 'z'.toNat then [small, small - 32] else [c.toNat]
  | .unicode => (relatives (smallLetter c.toNat)).flatMap withSmallLetter

/-- The form of a character that classes are asked about. -/
def classForm (mode : CaseMode) (c : Char) : Char :=
  match mode with
  | .exact => c
  | .ascii => Char.ofNat (asciiSmallLetter c.toNat)
  | .unicode => Text.lowerChar c

end CaseMode

namespace SetItem

def holds (mode : CaseMode) (c : Char) : SetItem → Bool
  | .code other => (mode.variants c).contains other
  | .range first last => (mode.variants c).any fun code => first ≤ code && code ≤ last
  | .category kind => kind.holds (mode.classForm c)

end SetItem

def setHolds (mode : CaseMode) (items : List SetItem) (c : Char) : Bool :=
  items.any fun item => item.holds mode c

end Formwork.Pattern
