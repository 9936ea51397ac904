import Formwork.Value.Text

/-! # Message templates

A template is a text with places to fill in. A place opens with a percent sign, then come
flags, a width and a precision, all of which may be left out, and a letter says how the
argument is written. Two percent signs stand for one. Every argument has to be used.
-/

namespace Formwork.Template

/-- Why a template cannot be filled in. -/
inductive Fault where
  /-- There are more places than arguments. -/
  | missingArgument
  /-- There are more arguments than places. -/
  | unusedArgument
  /-- An argument is of a kind that its place does not take. -/
  | wrongKind
  /-- A letter that stands for no way of writing. -/
  | unknownLetter
  /-- The template ends within a place. -/
  | incomplete
  deriving Repr, DecidableEq

/-- How a place is filled. -/
structure Place where
  /-- Fill up on the right. -/
  alignLeft : Bool := false
  /-- Fill up numbers with zeros. -/
  zeros : Bool := false
  /-- Show the sign of positive numbers. -/
  plus : Bool := false
  /-- Leave a blank for the sign of positive numbers. -/
  blank : Bool := false
  /-- Show the base of numbers. -/
  showBase : Bool := false
  width : Option Nat := none
  precision : Option Nat := none
  deriving Repr, DecidableEq

/-- A part of a template. -/
inductive Piece where
  | text (c : Char)
  | fill (place : Place) (letter : Char)
  deriving Repr, DecidableEq

namespace Place

def withDigit (n : Nat) (c : Char) : Nat := 10 * n + (c.toNat - '0'.toNat)

/-- A place with one more character of its description; none when the character is none of
    it. -/
def extend? (place : Place) (c : Char) : Option Place :=
  match place.width, place.precision with
  | _, some n =>
      if isAsciiDigit c then some { place with precision := some (withDigit n c) } else none
  | some n, none =>
      if isAsciiDigit c then some { place with width := some (withDigit n c) }
      else if c == '.' then some { place with precision := some 0 }
      else none
  | none, none => match c with
      | '-' => some { place with alignLeft := true }
      | '0' => some { place with zeros := true }
      | '+' => some { place with plus := true }
      | ' ' => some { place with blank := true }
      | '#' => some { place with showBase := true }
      | '.' => some { place with precision := some 0 }
      | _ => if isAsciiDigit c then some { place with width := some (withDigit 0 c) } else none

/-- How many characters are missing to the width. -/
def missing (place : Place) (length : Nat) : Nat := place.width.getD 0 - length

def writeText (place : Place) (text : List Char) : List Char :=
  let text := match place.precision with
    | some limit => text.take limit
    | none => text
  let filling := List.replicate (place.missing text.length) ' '
  if place.alignLeft then text ++ filling else filling ++ text

/-- A number in a place: its sign and what stands before its digits, and its digits. -/
def writeNumber (place : Place) (negative : Bool) (base digits : List Char) : List Char :=
  let sign := if negative then ['-'] else if place.plus then ['+']
    else if place.blank then [' '] else []
  let front := sign ++ (if place.showBase then base else [])
  let missing := place.missing (front.length + digits.length)
  if place.alignLeft then front ++ digits ++ List.replicate missing ' '
  else if place.zeros then front ++ List.replicate missing '0' ++ digits
  else List.replicate missing ' ' ++ front ++ digits

/-- A whole number in a place, in a base. -/
def writeInt (place : Place) (base : Nat) (mark : List Char) (n : Int) : List Char :=
  let digits := Nat.toDigits base n.natAbs
  let zeros := List.replicate (place.precision.getD 0 - digits.length) '0'
  place.writeNumber (n < 0) mark (zeros ++ digits)

/-- A floating number in a place, with a fixed number of digits after the point. -/
def writeFixed (place : Place) (x : Binary64) : List Char :=
  match x with
  | .nan => { place with zeros := false }.writeNumber false [] "nan".toList
  | .infinite negative => { place with zeros := false }.writeNumber negative [] "inf".toList
  | .finite negative units =>
      let places := place.precision.getD 6
      let digits := Nat.toDigits 10 (roundedQuotient (units * Nat.pow 10 places) Binary64.one)
      let digits := List.replicate (places + 1 - digits.length) '0' ++ digits
      let whole := digits.take (digits.length - places)
      let fraction := digits.drop (digits.length - places)
      place.writeNumber negative [] (whole ++ if places = 0 then [] else '.' :: fraction)

end Place

/-- The whole number that a value is written as; a floating number loses its fraction. -/
def wholeOf? : Value → Option Int
  | .bool b => some (if b then 1 else 0)
  | .int n => some n
  | .float (.finite negative units) =>
      let size : Int := (units / Binary64.one : Nat)
      some (if negative then -size else size)
  | _ => none

/-- The whole number that a value is. -/
def exactWholeOf? : Value → Option Int
  | .bool b => some (if b then 1 else 0)
  | .int n => some n
  | _ => none

/-- The floating number that a value is written as. -/
def floatOf? : Value → Option Binary64
  | .bool b => some (Binary64.ofInt (if b then 1 else 0))
  | .int n => some (Binary64.ofInt n)
  | .float x => some x
  | _ => none

def plain (c : Char) : List Char :=
  if c.toNat < 0x80 then [c]
  else if c.toNat < 0x100 then '\\' :: 'x' :: Text.Quoted.hex 2 c.toNat
  else if c.toNat < 0x10000 then '\\' :: 'u' :: Text.Quoted.hex 4 c.toNat
  else '\\' :: 'U' :: Text.Quoted.hex 8 c.toNat

def write (place : Place) (letter : Char) (argument : Value) : Except Fault (List Char) :=
  let number {α : Type} (write : α → List Char) : Option α → Except Fault (List Char)
    | some n => .ok (write n)
    | none => .error .wrongKind
  match letter with
  | 's' => .ok (place.writeText argument.text.toList)
  | 'r' => .ok (place.writeText argument.shown.toList)
  | 'a' => .ok (place.writeText (argument.shown.toList.flatMap plain))
  | 'd' | 'i' | 'u' => number (place.writeInt 10 []) (wholeOf? argument)
  | 'o' => number (place.writeInt 8 ['0', 'o']) (exactWholeOf? argument)
  | 'x' => number (place.writeInt 16 ['0', 'x']) (exactWholeOf? argument)
  | 'X' => (number (place.writeInt 16 ['0', 'x']) (exactWholeOf? argument)).map
      (·.map Char.toUpper)
  | 'f' | 'F' => number place.writeFixed (floatOf? argument)
  | _ => .error .unknownLetter

/-- The parts of a template. A place that is under way is given. -/
def pieces : Option Place → List Char → Except Fault (List Piece)
  | none, [] => .ok []
  | some _, [] => .error .incomplete
  | none, c :: rest =>
      if c == '%' then pieces (some {}) rest
      else do return .text c :: (← pieces none rest)
  | some place, c :: rest => match place.extend? c with
      | some place => pieces (some place) rest
      | none => do return .fill place c :: (← pieces none rest)

/-- The text of parts whose places are filled with arguments, one after the other. -/
def fillPieces : List Piece → List Value → Except Fault (List Char)
  | [], [] => .ok []
  | [], _ :: _ => .error .unusedArgument
  | .text c :: rest, arguments => do return c :: (← fillPieces rest arguments)
  | .fill place letter :: rest, arguments =>
      if letter == '%' then do return '%' :: (← fillPieces rest arguments)
      else match arguments with
        | [] => .error .missingArgument
        | argument :: others => do
            return (← write place letter argument) ++ (← fillPieces rest others)

/-- The text of a template whose places are filled with arguments. -/
def fill (template : String) (arguments : List Value) : Except Fault String := do
  return String.ofList (← fillPieces (← pieces none template.toList) arguments)

end Formwork.Template
