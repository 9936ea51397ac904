import Formwork.Number.Decimal
import Formwork.Text.Quoted
import Formwork.Value.Basic

/-! # Writing JSON

A document is written on one line. What differs between its uses, the separators, the
characters that are escaped and the spelling of floating numbers, is a `Style`.
-/

namespace Formwork.Json

/-- How a document is written. -/
structure Style where
  /-- Between two items or entries. -/
  comma : String
  /-- Between a name and its value. -/
  colon : String
  /-- Whether everything that is not printable ASCII is escaped. -/
  asciiOnly : Bool
  /-- The spelling of floating numbers. -/
  decimal : DecimalStyle
  deriving Repr, DecidableEq

/-- A code unit of sixteen bits as an escape. -/
def unitEscape (unit : Nat) : List Char := '\\' :: 'u' :: Text.Quoted.hex 4 unit

/-- A character of a string. Beyond the sixteen-bit range an escape is a pair, but half of one
    for what stands in for a half. -/
def escape (style : Style) (c : Char) : List Char :=
  match c with
  | '"' => ['\\', '"']
  | '\\' => ['\\', '\\']
  | '\x08' => ['\\', 'b']
  | '\x0c' => ['\\', 'f']
  | '\n' => ['\\', 'n']
  | '\r' => ['\\', 'r']
  | '\t' => ['\\', 't']
  | c =>
      if c.toNat < 0x20 then unitEscape c.toNat
      else if !style.asciiOnly || c.toNat < 0x7f then [c]
      else if c.toNat < 0x10000 then unitEscape c.toNat
      else if 0x10d800 ≤ c.toNat && c.toNat < 0x10e000 then unitEscape (c.toNat - 0x100000)
      else
        let offset := c.toNat - 0x10000
        unitEscape (0xd800 + offset / 0x400) ++ unitEscape (0xdc00 + offset % 0x400)

def writeString (style : Style) (text : String) : String :=
  String.ofList ('"' :: text.toList.flatMap (escape style) ++ ['"'])

mutual

def write (style : Style) : Value → String
  | .null => "null"
  | .bool b => if b then "true" else "false"
  | .int n => toString n
  | .float x => style.decimal.write x
  | .str s => writeString style s
  | .list items => "[" ++ writeItems style items ++ "]"
  | .object entries => "\x7b" ++ writeEntries style entries ++ "\x7d"

def writeItems (style : Style) : List Value → String
  | [] => ""
  | [item] => write style item
  | item :: rest => write style item ++ style.comma ++ writeItems style rest

def writeEntries (style : Style) : List (String × Value) → String
  | [] => ""
  | [(name, value)] => writeString style name ++ style.colon ++ write style value
  | (name, value) :: rest =>
      writeString style name ++ style.colon ++ write style value ++ style.comma
        ++ writeEntries style rest

end

end Formwork.Json
