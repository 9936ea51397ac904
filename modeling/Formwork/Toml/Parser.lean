import Formwork.Calendar.Date
import Formwork.Json.Parser
import Formwork.Toml.Table

/-! # Reading TOML

A reader for TOML documents, version 1.0. A line ends with a line feed, a carriage return
perhaps before it. Dates and times are checked but not worked with: each stands as a list
of its one text.
-/

namespace Formwork.Toml

/-! ## Characters -/

/-- The text with every line ended by a line feed alone. -/
def unifyLines : List Char → List Char
  | '\r' :: '\n' :: rest => '\n' :: unifyLines rest
  | c :: rest => c :: unifyLines rest
  | [] => []

/-- White space within a line. -/
def isBlank (c : Char) : Bool := c == ' ' || c == '\t'

/-- The text after its leading white space. -/
def skipBlanks (text : List Char) : List Char := text.dropWhile isBlank

/-- A character that no line may contain: a control other than a tabulator. -/
def isIllegal (c : Char) : Bool := (c.toNat < 0x20 || c.toNat == 0x7f) && c != '\t'

/-- A character of a key without quotes. -/
def isBare (c : Char) : Bool := c.isAlphanum || c == '-' || c == '_'

/-- The text after a comment, if it starts with one; none when the comment is illegal. -/
def skipComment? : List Char → Option (List Char)
  | '#' :: rest =>
      let (comment, after) := rest.span (· != '\n')
      if comment.any isIllegal then none else some after
  | text => some text

/-- The text after white space, line ends and comments; the flag says whether a comment is
    under way. -/
def skipLines? : Bool → List Char → Option (List Char)
  | _, [] => some []
  | true, c :: rest =>
      if c == '\n' then skipLines? false rest
      else if isIllegal c then none
      else skipLines? true rest
  | false, '#' :: rest => skipLines? true rest
  | false, c :: rest => if isBlank c || c == '\n' then skipLines? false rest else some (c :: rest)

/-! ## Strings -/

/-- The character of a code point, if it is one that texts can hold. -/
def charOfCode? (code : Nat) : Option Char :=
  if code < 0xd800 || (0xdfff < code && code < 0x110000) then some (Char.ofNat code) else none

/-- The character that an escape of one letter stands for. -/
def simpleEscape? : Char → Option Char
  | 'b' => some '\x08'
  | 't' => some '\t'
  | 'n' => some '\n'
  | 'f' => some '\x0c'
  | 'r' => some '\r'
  | '"' => some '"'
  | '\\' => some '\\'
  | _ => none

/-- A text read from the front of another, and what follows it. -/
abbrev Front := Option (List Char × List Char)

/-- Put a character before a text that was read. -/
def Front.before (c : Char) (front : Front) : Front :=
  front.map fun (body, rest) => (c :: body, rest)

/-- The rest of a string in one line after its opening quote. -/
def lineBody? : List Char → Front
  | [] => none
  | '"' :: rest => some ([], rest)
  | '\\' :: 'u' :: a :: b :: c :: d :: rest => do
      let char ← charOfCode? (← Json.hexValue? [a, b, c, d])
      Front.before char (lineBody? rest)
  | '\\' :: 'U' :: a :: b :: c :: d :: e :: f :: g :: h :: rest => do
      let char ← charOfCode? (← Json.hexValue? [a, b, c, d, e, f, g, h])
      Front.before char (lineBody? rest)
  | '\\' :: e :: rest => do Front.before (← simpleEscape? e) (lineBody? rest)
  | c :: rest => if isIllegal c then none else Front.before c (lineBody? rest)

/-- What a string over several lines is skipping. -/
inductive Skipping where
  | nothing
  /-- Blanks up to the end of the line, which has to come. -/
  | toLineEnd
  /-- All white space. -/
  | space
  deriving Repr, DecidableEq

/-- One or two more quotes after the three that end a string belong to the string. -/
def moreQuotes (quote : Char) : List Char → List Char × List Char
  | a :: b :: rest =>
      if a == quote then
        if b == quote then ([quote, quote], rest) else ([quote], b :: rest)
      else ([], a :: b :: rest)
  | [a] => if a == quote then ([quote], []) else ([], [a])
  | [] => ([], [])

/-- The rest of a string over several lines after its opening quotes. -/
def linesBody? : Skipping → List Char → Front
  | _, [] => none
  | .toLineEnd, c :: rest =>
      if isBlank c then linesBody? .toLineEnd rest
      else if c == '\n' then linesBody? .space rest
      else none
  | .space, ' ' :: rest => linesBody? .space rest
  | .space, '\t' :: rest => linesBody? .space rest
  | .space, '\n' :: rest => linesBody? .space rest
  | _, '"' :: '"' :: '"' :: rest => some (moreQuotes '"' rest)
  | _, '\\' :: ' ' :: rest => linesBody? .toLineEnd rest
  | _, '\\' :: '\t' :: rest => linesBody? .toLineEnd rest
  | _, '\\' :: '\n' :: rest => linesBody? .space rest
  | _, '\\' :: 'u' :: a :: b :: c :: d :: rest => do
      let char ← charOfCode? (← Json.hexValue? [a, b, c, d])
      Front.before char (linesBody? .nothing rest)
  | _, '\\' :: 'U' :: a :: b :: c :: d :: e :: f :: g :: h :: rest => do
      let char ← charOfCode? (← Json.hexValue? [a, b, c, d, e, f, g, h])
      Front.before char (linesBody? .nothing rest)
  | _, '\\' :: e :: rest => do Front.before (← simpleEscape? e) (linesBody? .nothing rest)
  | _, c :: rest =>
      if isIllegal c && c != '\n' then none else Front.before c (linesBody? .nothing rest)

/-- The rest of a string in one line without escapes after its opening quote. -/
def literalBody? : List Char → Front
  | [] => none
  | '\'' :: rest => some ([], rest)
  | c :: rest => if isIllegal c then none else Front.before c (literalBody? rest)

/-- The rest of a string over several lines without escapes after its opening quotes. -/
def literalLinesBody? : List Char → Front
  | [] => none
  | '\'' :: '\'' :: '\'' :: rest => some (moreQuotes '\'' rest)
  | c :: rest =>
      if isIllegal c && c != '\n' then none else Front.before c (literalLinesBody? rest)

/-- The text after a line end that it starts with. -/
def skipLineEnd : List Char → List Char
  | '\n' :: rest => rest
  | text => text

def string? : List Char → Front
  | '"' :: '"' :: '"' :: rest => linesBody? .nothing (skipLineEnd rest)
  | '"' :: rest => lineBody? rest
  | '\'' :: '\'' :: '\'' :: rest => literalLinesBody? (skipLineEnd rest)
  | '\'' :: rest => literalBody? rest
  | _ => none

/-! ## Keys -/

def keyPart? (text : List Char) : Option (String × List Char) :=
  match text with
  | '"' :: rest => (lineBody? rest).map fun (body, after) => (String.ofList body, after)
  | '\'' :: rest => (literalBody? rest).map fun (body, after) => (String.ofList body, after)
  | _ =>
      let (part, after) := text.span isBare
      if part.isEmpty then none else some (String.ofList part, after)

/-- The parts of a key, with white space around the dots between them; no more parts than
    there is fuel. -/
def keyParts? : Nat → List Char → Option (List String × List Char)
  | 0, _ => none
  | fuel + 1, text => do
      let (part, rest) ← keyPart? text
      match skipBlanks rest with
      | '.' :: rest =>
          let (parts, rest) ← keyParts? fuel (skipBlanks rest)
          return (part :: parts, rest)
      | rest => return ([part], rest)

/-- A key: the names that lead to it, and its own. -/
structure Path where
  parents : List String
  name : String

/-- A key, and the text after it and the white space behind it. -/
def key? (text : List Char) : Option (Path × List Char) := do
  let (parts, rest) ← keyParts? (text.length + 1) text
  let name ← parts.getLast?
  return (⟨parts.dropLast, name⟩, rest)

/-! ## Numbers, dates and times -/

/-- Digits that follow a digit, each perhaps after an underscore. -/
def moreDigits (isDigit : Char → Bool) : List Char → List Char × List Char
  | '_' :: c :: rest =>
      if isDigit c then
        let (digits, after) := moreDigits isDigit rest
        (c :: digits, after)
      else ([], '_' :: c :: rest)
  | c :: rest =>
      if isDigit c then
        let (digits, after) := moreDigits isDigit rest
        (c :: digits, after)
      else ([], c :: rest)
  | [] => ([], [])

/-- A run of digits, with single underscores between them perhaps. -/
def digitRun? (isDigit : Char → Bool) : List Char → Front
  | [] => none
  | c :: rest =>
      if isDigit c then
        let (digits, after) := moreDigits isDigit rest
        some (c :: digits, after)
      else none

def valueInBase (base : Nat) (digits : List Char) : Nat :=
  digits.foldl (fun value c => base * value + (Json.hexDigit? c).getD 0) 0

def isDigitOf (base : Nat) (c : Char) : Bool := (Json.hexDigit? c).any (· < base)

/-- A whole number in a base other than ten. -/
def basedNumber? : List Char → Option (Value × List Char)
  | '0' :: mark :: rest => do
      let base ← [('x', 16), ('o', 8), ('b', 2)].lookup mark
      let (digits, after) ← digitRun? (isDigitOf base) rest
      return (.int (valueInBase base digits), after)
  | _ => none

/-- A sign that may be left out: whether it is a minus, and the text after it. -/
def sign : List Char → Bool × List Char
  | '-' :: rest => (true, rest)
  | '+' :: rest => (false, rest)
  | text => (false, text)

/-- The part of a number before its point: no zero leads further digits. -/
def wholePart? : List Char → Front
  | '0' :: rest => some (['0'], rest)
  | text => digitRun? isAsciiDigit text

def fraction? : List Char → Front
  | '.' :: rest => digitRun? isAsciiDigit rest
  | _ => none

def exponent? : List Char → Option (Int × List Char)
  | mark :: rest =>
      if mark == 'e' || mark == 'E' then do
        let (negative, rest) := sign rest
        let (digits, after) ← digitRun? isAsciiDigit rest
        let size : Int := digitsValue digits
        return (if negative then -size else size, after)
      else none
  | [] => none

def decimalNumber? (text : List Char) : Option (Value × List Char) := do
  let (negative, unsigned) := sign text
  let (whole, rest) ← wholePart? unsigned
  let fraction := fraction? rest
  let afterFraction := (fraction.map (·.2)).getD rest
  let exponent := exponent? afterFraction
  if fraction.isNone && exponent.isNone then
    let size : Int := digitsValue whole
    return (.int (if negative then -size else size), rest)
  else
    let power := (exponent.map (·.1)).getD 0
    let decimal := Decimal.ofParts whole ((fraction.map (·.1)).getD []) power
    return (.float (decimal.toBinary64 negative), (exponent.map (·.2)).getD afterFraction)

/-- Infinity or nan, with a sign perhaps. -/
def specialNumber? (text : List Char) : Option (Value × List Char) :=
  let (negative, unsigned) := sign text
  match Json.word? "inf" unsigned, Json.word? "nan" unsigned with
  | some rest, _ => some (.float (.infinite negative), rest)
  | none, some rest => some (.float .nan, rest)
  | none, none => none

/-- A number of two digits within bounds. -/
def twoDigits? (least greatest : Nat) : List Char → Option (Nat × List Char)
  | a :: b :: rest =>
      let value := digitsValue [a, b]
      if isAsciiDigit a && isAsciiDigit b && least ≤ value && value ≤ greatest then
        some (value, rest)
      else none
  | _ => none

/-- The text after a character that it has to start with. -/
def skip? (c : Char) : List Char → Option (List Char)
  | first :: rest => if first == c then some rest else none
  | [] => none

def skipTime? (text : List Char) : Option (List Char) := do
  let (_, rest) ← twoDigits? 0 23 text
  let (_, rest) ← twoDigits? 0 59 (← skip? ':' rest)
  let (_, rest) ← twoDigits? 0 59 (← skip? ':' rest)
  match rest with
  | '.' :: c :: _ => return if isAsciiDigit c then (rest.drop 1).dropWhile isAsciiDigit else rest
  | _ => return rest

/-- The text after a distance from universal time, if it starts with one. -/
def skipOffset (text : List Char) : List Char :=
  let offset? (rest : List Char) : Option (List Char) := do
    let (_, rest) ← twoDigits? 0 23 rest
    let (_, rest) ← twoDigits? 0 59 (← skip? ':' rest)
    return rest
  match text with
  | 'Z' :: rest | 'z' :: rest => rest
  | '+' :: rest | '-' :: rest => (offset? rest).getD text
  | _ => text

/-- The text after the time of day that may follow a date. -/
def skipTimeOfDate (text : List Char) : List Char :=
  match text with
  | 'T' :: rest | 't' :: rest | ' ' :: rest => ((skipTime? rest).map skipOffset).getD text
  | _ => text

/-- A date as year, month and day, each in its bounds. -/
def date? : List Char → Option ((Nat × Nat × Nat) × List Char)
  | a :: b :: c :: d :: '-' :: rest => do
      let year ← if [a, b, c, d].all isAsciiDigit then some (digitsValue [a, b, c, d]) else none
      let (month, rest) ← twoDigits? 1 12 rest
      let (day, rest) ← twoDigits? 1 31 (← skip? '-' rest)
      return ((year, month, day), rest)
  | _ => none

/-- The part of a text before its rest, as the value of a date or a time. -/
def moment (text rest : List Char) : Value :=
  .list [.str (String.ofList (text.take (text.length - rest.length)))]

/-- A value without parts that is no string. A text that starts like a date is nothing
    else. -/
def scalar? (text : List Char) : Option (Value × List Char) :=
  match Json.word? "true" text, Json.word? "false" text, date? text, skipTime? text with
  | some rest, _, _, _ => some (.bool true, rest)
  | none, some rest, _, _ => some (.bool false, rest)
  | none, none, some ((year, month, day), rest), _ =>
      let rest := skipTimeOfDate rest
      if (Calendar.dayOfDate? year month day).isSome then some (moment text rest, rest) else none
  | none, none, none, some rest => some (moment text rest, rest)
  | none, none, none, none => basedNumber? text <|> decimalNumber? text <|> specialNumber? text

/-! ## Values -/

mutual

/-- A value at the front of a text, read with as much fuel as the text has characters. -/
def value? : Nat → List Char → Option (Value × List Char)
  | 0, _ => none
  | fuel + 1, text => match text with
      | '[' :: rest => do
          let (items, after) ← items? fuel (← skipLines? false rest)
          return (.list items, after)
      | '\x7b' :: rest => match skipBlanks rest with
          | '\x7d' :: after => some (.object [], after)
          | inside => do
              let (entries, after) ← inlineEntries? fuel inside
              return (← inlineTable? entries, after)
      | first :: _ =>
          if first == '"' || first == '\'' then
            (string? text).map fun (body, after) => (.str (String.ofList body), after)
          else scalar? text
      | [] => none

/-- The items of a list up to its closing bracket; a comma may follow the last one. -/
def items? : Nat → List Char → Option (List Value × List Char)
  | 0, _ => none
  | fuel + 1, text => match text with
      | ']' :: after => some ([], after)
      | _ => do
          let (item, rest) ← value? fuel text
          match ← skipLines? false rest with
          | ',' :: rest =>
              let (items, after) ← items? fuel (← skipLines? false rest)
              return (item :: items, after)
          | ']' :: after => return ([item], after)
          | _ => none

/-- The entries of a table in braces up to its closing brace, all in one line. -/
def inlineEntries? : Nat → List Char → Option (List (List String × String × Value) × List Char)
  | 0, _ => none
  | fuel + 1, text => do
      let (path, rest) ← key? text
      let (value, rest) ← value? fuel (skipBlanks (← skip? '=' rest))
      let entry := (path.parents, path.name, value)
      match skipBlanks rest with
      | ',' :: rest =>
          let (entries, after) ← inlineEntries? fuel (skipBlanks rest)
          return (entry :: entries, after)
      | '\x7d' :: after => return ([entry], after)
      | _ => none

end

/-! ## Documents -/

/-- The statement that a line starts with; an empty line has none. -/
def statement? (text : List Char) : Option (List Statement × List Char) :=
  match text with
  | [] | '\n' :: _ | '#' :: _ => some ([], text)
  | '[' :: '[' :: rest => do
      let (path, rest) ← key? (skipBlanks rest)
      return ([.listHeader path.parents path.name], ← skip? ']' (← skip? ']' rest))
  | '[' :: rest => do
      let (path, rest) ← key? (skipBlanks rest)
      return ([.header path.parents path.name], ← skip? ']' rest)
  | _ => do
      let (path, rest) ← key? text
      let (value, rest) ← value? (rest.length + 1) (skipBlanks (← skip? '=' rest))
      return ([.entry path.parents path.name value], rest)

/-- The statements of a text, no more lines of it than there is fuel. -/
def statements? : Nat → List Char → Option (List Statement)
  | 0, _ => none
  | fuel + 1, text => do
      let (statement, rest) ← statement? (skipBlanks text)
      match ← skipComment? (skipBlanks rest) with
      | [] => return statement
      | '\n' :: rest => return statement ++ (← statements? fuel rest)
      | _ => none

def parse? (text : List Char) : Option (Entries Value) := do
  ofStatements? (← statements? (text.length + 1) (unifyLines text))

end Formwork.Toml
