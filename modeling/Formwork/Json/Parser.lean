import Formwork.Number.Decimal
import Formwork.Value.Basic

/-! # Reading JSON

A reader for JSON documents, which also takes `NaN`, `Infinity` and `-Infinity`. A
number with a point or an exponent is floating, any other is whole. A repeated key keeps
its first place and its last value. A document that opens with a byte order mark is
refused. How many digits whole numbers have and how deep lists and objects are nested is
limited by the host, and the depth also by how deep the reader itself was called.
-/

namespace Formwork.Json

/-- Why a text is not read as a document. -/
inductive Fault where
  /-- It is none. -/
  | malformed
  /-- A whole number in it has too many digits. -/
  | longNumber
  /-- Lists and objects in it are nested too deep. -/
  | tooDeep
  deriving Repr, DecidableEq

/-- What a host lets its reader take. -/
structure Limits where
  digits : Nat := 4300
  depth : Nat := 990
  /-- Whether an escape may be half a code point without the other half. -/
  halves : Bool := true
  deriving Repr, DecidableEq

/-- White space between the tokens of a document. -/
def isSpace (c : Char) : Bool := c == ' ' || c == '\t' || c == '\n' || c == '\r'

/-- The text after its leading white space. -/
def skipSpace (text : List Char) : List Char := text.dropWhile isSpace

def hexDigit? (c : Char) : Option Nat :=
  if '0' ≤ c && c ≤ '9' then some (c.toNat - '0'.toNat)
  else if 'a' ≤ c && c ≤ 'f' then some (c.toNat - 'a'.toNat + 10)
  else if 'A' ≤ c && c ≤ 'F' then some (c.toNat - 'A'.toNat + 10)
  else none

/-- The value of a run of hexadecimal digits. -/
def hexValue? (digits : List Char) : Option Nat :=
  digits.foldl (fun value c => do return 16 * (← value) + (← hexDigit? c)) (some 0)

/-- The first half of a code point written as two escapes. -/
def isHighSurrogate (code : Nat) : Bool := 0xd800 ≤ code && code < 0xdc00

/-- The second half of a code point written as two escapes. -/
def isLowSurrogate (code : Nat) : Bool := 0xdc00 ≤ code && code < 0xe000

/-- The character that an escape of one letter stands for. -/
def simpleEscape? : Char → Option Char
  | '"' => some '"'
  | '\\' => some '\\'
  | '/' => some '/'
  | 'b' => some '\x08'
  | 'f' => some '\x0c'
  | 'n' => some '\n'
  | 'r' => some '\r'
  | 't' => some '\t'
  | _ => none

/-- The character of a code. Half a code point has none; one of those in the last plane, which
    are for private use, stands in for it. -/
def charOfCode (code : Nat) : Char :=
  if isHighSurrogate code || isLowSurrogate code then Char.ofNat (0x100000 + code)
  else Char.ofNat code

/-- The rest of a string after its opening quote, with the text behind it. -/
def stringBody? (halves : Bool) : List Char → Option (List Char × List Char)
  | [] => none
  | '"' :: rest => some ([], rest)
  | '\\' :: 'u' :: a :: b :: c :: d :: rest => do
      let code ← hexValue? [a, b, c, d]
      let alone := do
        let (body, rest') ← stringBody? halves rest
        some (charOfCode code :: body, rest')
      if isHighSurrogate code then
        match rest with
        | '\\' :: 'u' :: e :: f :: g :: h :: rest' => do
            let next ← hexValue? [e, f, g, h]
            if isLowSurrogate next then
              let (body, rest'') ← stringBody? halves rest'
              let pair := 0x10000 + (code - 0xd800) * 0x400 + (next - 0xdc00)
              some (Char.ofNat pair :: body, rest'')
            else if halves then alone else none
        | _ => if halves then alone else none
      else if isLowSurrogate code && !halves then none
      else alone
  | '\\' :: e :: rest => do
      let c ← simpleEscape? e
      let (body, rest') ← stringBody? halves rest
      some (c :: body, rest')
  | c :: rest =>
      if c.toNat < 0x20 then none
      else do
        let (body, rest') ← stringBody? halves rest
        some (c :: body, rest')

/-- The leading run of digits, and what follows it. -/
def spanDigits (text : List Char) : List Char × List Char := text.span isAsciiDigit

/-- A fraction: a point and at least one digit. -/
def fraction? : List Char → Option (List Char × List Char)
  | '.' :: rest =>
      let (digits, rest') := spanDigits rest
      if digits.isEmpty then none else some (digits, rest')
  | _ => none

/-- An exponent: its mark, a sign perhaps, and at least one digit. -/
def exponent? (text : List Char) : Option (Int × List Char) :=
  match text with
  | mark :: rest =>
      if mark == 'e' || mark == 'E' then
        let (negative, rest) := match rest with
          | '-' :: rest => (true, rest)
          | '+' :: rest => (false, rest)
          | rest => (false, rest)
        let (digits, rest) := spanDigits rest
        if digits.isEmpty then none
        else
          let size : Int := digitsValue digits
          some (if negative then -size else size, rest)
      else none
  | [] => none

/-- An unsigned number: no zero leads a longer whole part. -/
def unsigned (limits : Limits) (negative : Bool) (text : List Char) :
    Except Fault (Value × List Char) :=
  let (digits, rest) := spanDigits text
  match digits with
  | [] => .error .malformed
  | first :: others =>
      -- a leading zero ends the whole part
      let (whole, rest) := if first == '0' then (['0'], others ++ rest) else (digits, rest)
      let fraction := fraction? rest
      let afterFraction := (fraction.map (·.2)).getD rest
      let exponent := exponent? afterFraction
      if fraction.isNone && exponent.isNone then
        if limits.digits < whole.length then .error .longNumber
        else
          let size : Int := digitsValue whole
          .ok (.int (if negative then -size else size), rest)
      else
        let power := (exponent.map (·.1)).getD 0
        let decimal := Decimal.ofParts whole ((fraction.map (·.1)).getD []) power
        .ok (.float (decimal.toBinary64 negative), (exponent.map (·.2)).getD afterFraction)

/-- The text behind a word that it starts with. -/
def word? (word : String) (text : List Char) : Option (List Char) :=
  if word.toList.isPrefixOf text then some (text.drop word.length) else none

def words : List (String × Value) :=
  [("null", .null), ("true", .bool true), ("false", .bool false), ("NaN", .float .nan),
   ("Infinity", .float (.infinite false))]

def scalar (limits : Limits) (text : List Char) : Except Fault (Value × List Char) :=
  match text with
  | '-' :: rest =>
      match word? "Infinity" rest with
      | some rest' => .ok (.float (.infinite true), rest')
      | none => unsigned limits true rest
  | _ =>
      match words.findSome? fun entry => (word? entry.1 text).map fun rest => (entry.2, rest) with
      | some found => .ok found
      | none => unsigned limits false text

def string (limits : Limits) (text : List Char) : Except Fault (String × List Char) :=
  match stringBody? limits.halves text with
  | some (body, rest) => .ok (String.ofList body, rest)
  | none => .error .malformed

/-- How much deeper lists and objects may go inside one more. -/
def inside : Nat → Except Fault Nat
  | 0 => .error .tooDeep
  | room + 1 => .ok room

variable (limits : Limits)

mutual

/-- A value at the front of a text, read with as much fuel as the text has characters. -/
def value : Nat → Nat → List Char → Except Fault (Value × List Char)
  | 0, _, _ => .error .malformed
  | fuel + 1, room, text => match skipSpace text with
      | '"' :: rest => do
          let (text, rest') ← string limits rest
          return (.str text, rest')
      | '[' :: rest => do
          let room ← inside room
          match skipSpace rest with
          | ']' :: rest' => return (.list [], rest')
          | rest' =>
              let (found, rest'') ← items fuel room rest'
              return (.list found, rest'')
      | '\x7b' :: rest => do
          let room ← inside room
          match skipSpace rest with
          | '\x7d' :: rest' => return (.object [], rest')
          | rest' =>
              let (found, rest'') ← entries fuel room rest'
              return (.object (Entries.ofList found), rest'')
      | rest => scalar limits rest

/-- The items of a list up to its closing bracket. -/
def items : Nat → Nat → List Char → Except Fault (List Value × List Char)
  | 0, _, _ => .error .malformed
  | fuel + 1, room, text => do
      let (item, rest) ← value fuel room text
      match skipSpace rest with
      | ',' :: rest' =>
          let (found, rest'') ← items fuel room rest'
          return (item :: found, rest'')
      | ']' :: rest' => return ([item], rest')
      | _ => throw .malformed

/-- The entries of an object up to its closing brace, in the order of the text. -/
def entries : Nat → Nat → List Char → Except Fault (List (String × Value) × List Char)
  | 0, _, _ => .error .malformed
  | fuel + 1, room, text => match skipSpace text with
      | '"' :: rest => do
          let (name, rest) ← string limits rest
          match skipSpace rest with
          | ':' :: rest =>
              let (item, rest) ← value fuel room rest
              match skipSpace rest with
              | ',' :: rest' =>
                  let (found, rest'') ← entries fuel room rest'
                  return ((name, item) :: found, rest'')
              | '\x7d' :: rest' => return ([(name, item)], rest')
              | _ => throw .malformed
          | _ => throw .malformed
      | _ => .error .malformed

end

/-- The value that a whole document stands for. -/
def parse (text : List Char) : Except Fault Value := do
  let (found, rest) ← value limits (text.length + 1) limits.depth text
  if (skipSpace rest).isEmpty then return found else throw .malformed

/-- The value of a document, if it can be read. -/
def parse? (text : List Char) : Option Value := (parse limits text).toOption

end Formwork.Json
