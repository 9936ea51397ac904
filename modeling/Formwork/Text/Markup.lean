import Formwork.Text.Class

/-! # Marked text

Text for the terminal in which tags in brackets say how a part of it looks. A tag opens with
a small letter, a slash or one of two signs; any other bracket is text. A slash closes a tag
that was opened before, and a backslash before a tag makes it text.
-/

namespace Formwork.Text.Markup

/-- A part of a marked text. -/
inductive Piece where
  | text (text : List Char)
  | tag (content : List Char)
  deriving Repr, DecidableEq

def opensTag (c : Char) : Bool := ('a' ≤ c && c ≤ 'z') || c == '#' || c == '/' || c == '@'

/-- The content of a tag after its opening bracket, and the text after its closing one. -/
def tag? : List Char → Option (List Char × List Char)
  | [] => none
  | c :: rest =>
      if !opensTag c then none
      else
        let (more, after) := rest.span fun c => c != '[' && c != ']'
        match after with
        | ']' :: after => some (c :: more, after)
        | _ => none

def backslashes (count : Nat) : Piece := .text (List.replicate count '\\')

/-- The parts of a text, read with as much fuel as it has characters; backslashes that were
    just read are counted. Before a tag two backslashes stand for one. -/
def pieces : Nat → Nat → List Char → List Piece
  | 0, _, _ => []
  | _ + 1, pending, [] => [backslashes pending]
  | fuel + 1, pending, c :: rest =>
      if c == '\\' then pieces fuel (pending + 1) rest
      else if c == '[' then
        match tag? rest with
        | some (content, after) =>
            backslashes (pending / 2)
              :: (if pending % 2 = 1 then .text ('[' :: content ++ [']']) else .tag content)
              :: pieces fuel 0 after
        | none => backslashes (pending - 1) :: .text ['['] :: pieces fuel 0 rest
      else backslashes pending :: .text [c] :: pieces fuel 0 rest

/-- What a tag is called: its content up to an equals sign. -/
def tagName (content : List Char) : List Char := content.takeWhile (· != '=')

/-- A name by which a closing tag finds its opening one. -/
def normalName (name : List Char) : List Char := lower (strip name)

/-- The opened tags without the last one that a closing tag names; without a name it is the
    last one of all. None when there is no such tag. -/
def close? (name : List Char) (opened : List (List Char)) : Option (List (List Char)) :=
  if (strip name).isEmpty then
    match opened with
    | _ :: others => some others
    | [] => none
  else if opened.contains (normalName name) then some (opened.erase (normalName name))
  else none

/-- The text of parts without their tags, the last opened tag standing first. -/
def plainPieces : List (List Char) → List Piece → Option (List Char)
  | _, [] => some []
  | opened, .text text :: rest => (plainPieces opened rest).map (text ++ ·)
  | opened, .tag content :: rest =>
      match tagName content with
      | '/' :: name => do plainPieces (← close? name opened) rest
      | name => plainPieces (normalName name :: opened) rest

/-- A character that a terminal would act on instead of showing it. -/
def isControl (c : Char) : Bool := ['\x07', '\x08', '\x0b', '\x0c', '\r'].contains c

/-- A marked text without its tags and without controls; none when a tag is closed that is
    not open. -/
def plain? (text : String) : Option String :=
  let chars := text.toList
  (plainPieces [] (pieces (chars.length + 1) 0 chars)).map fun plain =>
    String.ofList (plain.filter fun c => !isControl c)

end Formwork.Text.Markup
