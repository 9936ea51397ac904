import Formwork.Number.Decimal
import Formwork.Text.Class
import Formwork.Value.Basic

/-! # Reading documents

How typed records are read from values. A reading either succeeds or lists every issue
it met, each with its place in the document. Text, booleans and numbers stand in for
one another to the extent that the readers below say.
-/

namespace Formwork

/-- A step on the way to a place in a document. -/
inductive DocumentStep where
  | name (name : String)
  | index (index : Nat)
  deriving Repr, DecidableEq

/-- What can be wrong at a place. -/
inductive IssueKind where
  | missing
  | notString
  | notRecord
  | notList
  | notObject
  | notBool
  | unreadableBool
  | notInt
  | unreadableInt
  | intTooLarge
  | fractionalInt
  | notFinite
  | notFloat
  | unreadableFloat
  | notInEnumeration
  | notPath
  /-- Records lie too deep in one another. -/
  | tooNested
  /-- The parts are well formed but do not fit together. -/
  | inconsistent (message : String)
  deriving Repr, DecidableEq

namespace IssueKind

def code : IssueKind → String
  | .missing => "missing"
  | .notString => "string_type"
  | .notRecord => "model_type"
  | .notList => "list_type"
  | .notObject => "dict_type"
  | .notBool => "bool_type"
  | .unreadableBool => "bool_parsing"
  | .notInt => "int_type"
  | .unreadableInt => "int_parsing"
  | .intTooLarge => "int_parsing_size"
  | .fractionalInt => "int_from_float"
  | .notFinite => "finite_number"
  | .notFloat => "float_type"
  | .unreadableFloat => "float_parsing"
  | .notInEnumeration => "enum"
  | .notPath => "path_type"
  | .tooNested => "recursion_loop"
  | .inconsistent _ => "value_error"

/-- The explanation that comes with an issue, where it has one of its own. -/
def message? : IssueKind → Option String
  | .inconsistent message => some ("Value error, " ++ message)
  | _ => none

end IssueKind

/-- Something wrong at a place of a document. -/
structure Issue where
  place : List DocumentStep
  kind : IssueKind
  deriving Repr, DecidableEq

/-- What was read, or everything that stood in the way. -/
inductive Reading (α : Type) where
  | read (value : α)
  | refused (issues : List Issue)
  deriving Repr

namespace Reading

variable {α β : Type}

/-- Refuse for one reason, here. -/
def refuse (kind : IssueKind) : Reading α := .refused [⟨[], kind⟩]

def map (f : α → β) : Reading α → Reading β
  | .read value => .read (f value)
  | .refused issues => .refused issues

/-- Read two things, with the issues of both. -/
def apply (f : Reading (α → β)) (x : Reading α) : Reading β :=
  match f, x with
  | .read f, .read x => .read (f x)
  | .read _, .refused issues => .refused issues
  | .refused issues, .read _ => .refused issues
  | .refused first, .refused second => .refused (first ++ second)

instance : Functor Reading where
  map := map

instance : Applicative Reading where
  pure := .read
  seq f x := apply f (x ())

def under (step : DocumentStep) : Reading α → Reading α
  | .read value => .read value
  | .refused issues =>
      .refused (issues.map fun issue => { issue with place := step :: issue.place })

/-- A check of what was read, made only when all of it could be read. -/
def andThen (reading : Reading α) (check : α → Reading β) : Reading β :=
  match reading with
  | .read value => check value
  | .refused issues => .refused issues

/-- What was read, if it was. -/
def toOption : Reading α → Option α
  | .read value => some value
  | .refused _ => none

end Reading

namespace Reader

variable {α : Type}

/-- A string, as it is. -/
def string : Value → Reading String
  | .str s => .read s
  | _ => .refuse .notString

def any (value : Value) : Reading Value := .read value

/-- Whether a whole number fits the machine's signed word. -/
def isWord (n : Int) : Bool := -9223372036854775808 ≤ n && n < 9223372036854775808

def boolOfInt (n : Int) : Reading Bool :=
  if n = 0 then .read false
  else if n = 1 then .read true
  else if isWord n then .refuse .unreadableBool
  else .refuse .notBool

/-- The words for true and false, in any case. -/
def boolOfText (text : String) : Reading Bool :=
  let word := String.ofList (text.toList.map Char.toLower)
  if ["1", "t", "true", "y", "yes", "on"].contains word then .read true
  else if ["0", "f", "false", "n", "no", "off"].contains word then .read false
  else .refuse .unreadableBool

/-- A boolean, zero or one, or a word for it. -/
def bool : Value → Reading Bool
  | .bool b => .read b
  | .int n => boolOfInt n
  | .float x => match x.toInt? with
      | some n => boolOfInt n
      | none => .refuse .notBool
  | .str s => boolOfText s
  | _ => .refuse .notBool

/-- Characters that may surround a number in a text. -/
def isPadding (c : Char) : Bool := Text.isBlank c && !(0x1c ≤ c.toNat && c.toNat ≤ 0x1f)

/-- A text without what may surround a number. -/
def trimPadding (text : List Char) : List Char :=
  ((text.dropWhile isPadding).reverse.dropWhile isPadding).reverse

/-- A number's text without the underscores between its digits; none when one stands at
    an end or beside another. -/
def joinGroups? (text : List Char) : Option (List Char) :=
  if text.head? == some '_' || text.getLast? == some '_' || Text.isInfix ['_', '_'] text then none
  else some (text.filter (· != '_'))

def splitSign : List Char → Bool × List Char
  | '-' :: rest => (true, rest)
  | '+' :: rest => (false, rest)
  | text => (false, text)

def dropZeroFraction (text : List Char) : List Char :=
  let whole := text.takeWhile (· != '.')
  match text.dropWhile (· != '.') with
  | '.' :: fraction =>
      if !fraction.isEmpty && fraction.all (· == '0') then whole else text
  | _ => text

/-- How long a text may be that is read as a whole number. -/
def intTextLimit : Nat := 4300

/-- A whole number written in decimal digits. -/
def intOfText (text : String) : Reading Int :=
  let trimmed := trimPadding text.toList
  if intTextLimit < trimmed.length then .refuse .intTooLarge
  else
    let (negative, body) := splitSign trimmed
    match joinGroups? (dropZeroFraction body) with
    | some digits =>
        if !digits.isEmpty && digits.all isAsciiDigit then
          let size : Int := digitsValue digits
          .read (if negative then -size else size)
        else .refuse .unreadableInt
    | none => .refuse .unreadableInt

/-- A whole number, also one written as a boolean, as a floating number without a
    fraction or as a text. -/
def int : Value → Reading Int
  | .int n => .read n
  | .bool b => .read (if b then 1 else 0)
  | .float x => match x.toInt? with
      | some n => if isWord n then .read n else .refuse .intTooLarge
      | none => .refuse (if x.isFinite then .fractionalInt else .notFinite)
  | .str s => intOfText s
  | _ => .refuse .notInt

/-- The words for numbers that are not finite. -/
def specialFloat? (negative : Bool) (text : List Char) : Option Binary64 :=
  let word := String.ofList (text.map Char.toLower)
  if word == "inf" || word == "infinity" then some (.infinite negative)
  else if word == "nan" then some .nan
  else none

/-- An exponent at the end of a number: nothing, or a mark, a sign perhaps, and digits. -/
def exponentOfText? : List Char → Option Int
  | [] => some 0
  | mark :: rest =>
      let (negative, digits) := splitSign rest
      if (mark == 'e' || mark == 'E') && !digits.isEmpty && digits.all isAsciiDigit then
        let size : Int := digitsValue digits
        some (if negative then -size else size)
      else none

/-- A decimal number with at least one digit on one side of its point. -/
def decimalOfText? (negative : Bool) (text : List Char) : Option Binary64 := do
  let (whole, rest) := text.span isAsciiDigit
  let (fraction, rest) := match rest with
    | '.' :: rest => rest.span isAsciiDigit
    | rest => ([], rest)
  if whole.isEmpty && fraction.isEmpty then none
  else
    let power ← exponentOfText? rest
    some ((Decimal.ofParts whole fraction power).toBinary64 negative)

/-- A floating number written as a text. -/
def floatOfText (text : String) : Reading Binary64 :=
  match joinGroups? (trimPadding text.toList) with
  | some joined =>
      let (negative, body) := splitSign joined
      match specialFloat? negative body <|> decimalOfText? negative body with
      | some x => .read x
      | none => .refuse .unreadableFloat
  | none => .refuse .unreadableFloat

/-- A floating number, also one written as another number, a boolean or a text. A whole
    number beyond the range of floating numbers is refused. -/
def float : Value → Reading Binary64
  | .float x => .read x
  | .int n =>
      let x := Binary64.ofInt n
      if x.isFinite then .read x else .refuse .notFloat
  | .bool b => .read (Binary64.ofInt (if b then 1 else 0))
  | .str s => floatOfText s
  | _ => .refuse .notFloat

/-- Null, or something else. -/
def optional (reader : Value → Reading α) : Value → Reading (Option α)
  | .null => .read none
  | value => (reader value).map some

def items (reader : Value → Reading α) : Nat → List Value → Reading (List α)
  | _, [] => .read []
  | index, value :: rest =>
      List.cons <$> (reader value).under (.index index) <*> items reader (index + 1) rest

def list (reader : Value → Reading α) : Value → Reading (List α)
  | .list values => items reader 0 values
  | _ => .refuse .notList

/-- Entries of an object, one after the other. -/
def entries (reader : Value → Reading α) : List (String × Value) → Reading (Entries α)
  | [] => .read []
  | (name, value) :: rest =>
      (fun value rest => (name, value) :: rest)
        <$> (reader value).under (.name name) <*> entries reader rest

def object (reader : Value → Reading α) : Value → Reading (Entries α)
  | .object fields => entries reader fields
  | _ => .refuse .notObject

def record (reader : Entries Value → Reading α) : Value → Reading α
  | .object fields => reader fields
  | _ => .refuse .notRecord

end Reader

/-- The key of a record's entry in a document, with the second spelling it may have. The
    first spelling wins when both are given. -/
structure Key where
  name : String
  otherName : String
  deriving Repr, DecidableEq

namespace Key

def plain (name : String) : Key := ⟨name, name⟩

def spelling (key : Key) (document : Entries Value) : String :=
  if document.has key.name then key.name else key.otherName

/-- The entry of a key. -/
def find? (key : Key) (document : Entries Value) : Option Value :=
  document.get? (key.spelling document)

/-- The entries of a document that none of the keys accounts for. -/
def unclaimed (keys : List Key) (document : Entries Value) : Entries Value :=
  document.dropAll (keys.map (·.spelling document))

end Key

/-- What makes records of documents, as far as it is not said by the records themselves: what
    stands in for booleans and numbers, which spelling of a key counts, which entries are kept
    besides, and how deep records may lie in one another. It is given from outside. -/
structure ReadingScheme where
  bool : Value → Reading Bool := Reader.bool
  int : Value → Reading Int := Reader.int
  float : Value → Reading Binary64 := Reader.float
  find? : Key → Entries Value → Option Value := Key.find?
  unclaimed : List Key → Entries Value → Entries Value := Key.unclaimed
  admits : Nat → Bool := fun depth => depth < 254

namespace Key

variable {α : Type}

def required (scheme : ReadingScheme) (key : Key) (reader : Value → Reading α)
    (document : Entries Value) : Reading α :=
  ((scheme.find? key document).elim (.refuse .missing) reader).under (.name key.name)

/-- Read an entry, or take a default when it is absent. -/
def withDefault (scheme : ReadingScheme) (key : Key) (default : α) (reader : Value → Reading α)
    (document : Entries Value) : Reading α :=
  ((scheme.find? key document).elim (.read default) reader).under (.name key.name)

/-- Read an entry that may be absent or null. -/
def optional (scheme : ReadingScheme) (key : Key) (reader : Value → Reading α)
    (document : Entries Value) : Reading (Option α) :=
  key.withDefault scheme none (Reader.optional reader) document

end Key

end Formwork
