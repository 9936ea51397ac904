import Formwork.Json.Parser
import Formwork.Pattern.Matcher

/-! # Reading patterns

The notation of patterns: literals, `.`, sets, the classes `\d \w \s` and their
complements, characters by name, anchors, groups with or without names, references,
repetitions of all three kinds, looking ahead and behind, conditional and atomic groups,
options and comments. A backslash and the character after it are one token. Which
characters have names is given from outside.
-/

namespace Formwork.Pattern

/-- Why a pattern is refused. -/
inductive PatternError where
  /-- It is not well formed. -/
  | malformed
  /-- It repeats something more often than can be counted. -/
  | repeatTooLarge
  /-- It asks for two alphabets at once. -/
  | conflictingAlphabets
  deriving Repr, DecidableEq

/-- A token of a pattern. -/
inductive Token where
  | plain (c : Char)
  | escaped (c : Char)
  /-- A backslash at the end. -/
  | dangling
  deriving Repr, DecidableEq

namespace Token

def ofText : List Char → List Token
  | [] => []
  | ['\\'] => [.dangling]
  | '\\' :: c :: rest => .escaped c :: ofText rest
  | c :: rest => .plain c :: ofText rest

def plain? : Token → Option Char
  | .plain c => some c
  | _ => none

def text : Token → List Char
  | .plain c => [c]
  | .escaped c => ['\\', c]
  | .dangling => ['\\']

end Token

/-- The options in force. -/
structure Options where
  ignoreCase : Bool := false
  multiline : Bool := false
  dotAll : Bool := false
  verbose : Bool := false
  ascii : Bool := false
  deriving Repr, DecidableEq

namespace Options

/-- How literals treat case. -/
def caseMode (o : Options) : CaseMode :=
  if !o.ignoreCase then .exact else if o.ascii then .ascii else .unicode

def switch (on : Bool) (o : Options) (letter : Char) : Options :=
  match letter with
  | 'i' => { o with ignoreCase := on }
  | 'm' => { o with multiline := on }
  | 's' => { o with dotAll := on }
  | 'x' => { o with verbose := on }
  | 'a' => { o with ascii := on }
  | 'u' => { o with ascii := !on }
  | _ => o

end Options

/-- The shortest and longest text that a pattern matches, both at most `widthLimit`. -/
structure Width where
  least : Nat
  most : Nat
  deriving Repr, DecidableEq

/-- Where widths are no longer told apart. -/
def widthLimit : Nat := 18446744073709551616

/-- The largest distance that a pattern can look behind. -/
def behindLimit : Nat := 4294967295

/-- The least number of repetitions that is too large. -/
def repeatLimit : Nat := 4294967295

/-- The width of a pattern whose groups have given widths. -/
def Node.width (groups : List (Option Width)) : Node → Width
  | .empty | .anchor _ | .lookAhead .. | .lookBehind .. => ⟨0, 0⟩
  | .code .. | .any _ | .set .. => ⟨1, 1⟩
  | .sequence first second =>
      let a := first.width groups
      let b := second.width groups
      ⟨min widthLimit (a.least + b.least), min widthLimit (a.most + b.most)⟩
  | .alternative first second =>
      let a := first.width groups
      let b := second.width groups
      ⟨min a.least b.least, max a.most b.most⟩
  | .repeat least most _ body =>
      let w := body.width groups
      { least := min widthLimit (w.least * least)
        most := match most with
          | some most => min widthLimit (w.most * most)
          | none => if w.most = 0 then 0 else widthLimit }
  | .group _ body | .atomic body => body.width groups
  | .reference _ index => ((groups[index]?).join).getD ⟨0, 0⟩
  | .ifCaptured _ yes no =>
      let a := yes.width groups
      let b := no.width groups
      ⟨min a.least b.least, max a.most b.most⟩

/-- What has been read of a pattern, and what is left. -/
structure Progress where
  tokens : List Token
  /-- The characters that have names. -/
  characters : String → Option Char
  options : Options := {}
  /-- The letters of options that were set for the whole pattern. -/
  globalLetters : List Char := []
  /-- The widths of the groups so far, the whole pattern being number zero; none while a
      group is open. -/
  groups : List (Option Width) := [none]
  names : List (List Char × Nat) := []
  /-- How many groups there were where the outermost look behind began. -/
  behindGroups : Option Nat := none
  /-- Groups that conditions asked about. -/
  asked : List Nat := []
  /-- Whether anything is repeated. -/
  repeats : Bool := false
  /-- Whether a look behind has no fixed width. -/
  looseBehind : Bool := false

/-- A reader of a part of a pattern. -/
abbrev Scan := StateT Progress (Except PatternError)

namespace Scan

def malformed {α : Type} : Scan α := throw .malformed

/-- The next token, left in place. -/
def peek : Scan (Option Token) := return (← get).tokens.head?

/-- Go over the next token. -/
def advance : Scan Unit := modify fun p => { p with tokens := p.tokens.drop 1 }

/-- The next token, gone over. A backslash at the end is refused. -/
def next : Scan (Option Token) := do
  match (← get).tokens with
  | [] => return none
  | .dangling :: _ => malformed
  | token :: rest =>
      modify fun p => { p with tokens := rest }
      return some token

/-- Go over a plain character if it comes next. -/
def accept (c : Char) : Scan Bool := do
  if (← peek) == some (.plain c) then
    advance
    return true
  else return false

/-- A plain character must come next. -/
def expect (c : Char) : Scan Unit := do
  if !(← accept c) then malformed

/-- Up to a number of plain characters that satisfy a test. -/
def charsWhile (test : Char → Bool) : Nat → Scan (List Char)
  | 0 => return []
  | n + 1 => do
      match ← peek with
      | some (.plain c) =>
          if test c then
            advance
            return c :: (← charsWhile test n)
          else return []
      | _ => return []

/-- All plain digits that come next. -/
def digits : Scan (List Char) := do
  charsWhile isAsciiDigit (← get).tokens.length

/-- The text up to a closing character, which is gone over too; it must not be empty. -/
def textUntil (close : Char) : Scan (List Char) := do
  let tokens := (← get).tokens
  let inside := tokens.takeWhile (· != .plain close)
  if inside.isEmpty || inside.length == tokens.length then malformed
  else
    modify fun p => { p with tokens := tokens.drop (inside.length + 1) }
    return inside.flatMap Token.text

def isOctal (c : Char) : Bool := '0' ≤ c && c ≤ '7'

def isHex (c : Char) : Bool := (Json.hexDigit? c).isSome

def octalValue (digits : List Char) : Nat :=
  digits.foldl (fun value c => 8 * value + (c.toNat - '0'.toNat)) 0

/-- A code point given by exactly so many hexadecimal digits. -/
def hexCode (count : Nat) : Scan Nat := do
  let digits ← charsWhile isHex count
  if digits.length == count then
    match Json.hexValue? digits with
    | some code => if code ≤ 0x10ffff then return code else malformed
    | none => malformed
  else malformed

/-- The control character of an escaped letter. -/
def controlCode? : Char → Option Nat
  | 'a' => some 7
  | 'b' => some 8
  | 'f' => some 12
  | 'n' => some 10
  | 'r' => some 13
  | 't' => some 9
  | 'v' => some 11
  | '\\' => some 92
  | _ => none

/-- The class of an escaped letter. -/
def category? (ascii : Bool) : Char → Option Category
  | 'd' => some ⟨.digit, false, ascii⟩
  | 'D' => some ⟨.digit, true, ascii⟩
  | 's' => some ⟨.space, false, ascii⟩
  | 'S' => some ⟨.space, true, ascii⟩
  | 'w' => some ⟨.word, false, ascii⟩
  | 'W' => some ⟨.word, true, ascii⟩
  | _ => none

def anchor? (ascii : Bool) : Char → Option Anchor
  | 'A' => some .textStart
  | 'Z' => some .textEnd
  | 'b' => some (.wordBoundary ascii false)
  | 'B' => some (.wordBoundary ascii true)
  | _ => none

/-- The code point of a character by its name in braces. -/
def namedCode : Scan Nat := do
  expect '\x7b'
  let name ← textUntil '\x7d'
  match (← get).characters (String.ofList name) with
  | some c => return c.toNat
  | none => malformed

/-- The code point of an escape that is the same inside and outside of sets: by number or
    name, or the escaped character itself when it is no letter or digit. -/
def escapedCode (c : Char) : Scan Nat :=
  match c with
  | 'x' => hexCode 2
  | 'u' => hexCode 4
  | 'U' => hexCode 8
  | 'N' => namedCode
  | c => if c.isAlphanum then malformed else return c.toNat

/-- A code point by octal digits, which must not exceed a byte. -/
def octalCode (digits : List Char) : Scan Nat :=
  let code := octalValue digits
  if code ≤ 0o377 then return code else malformed

def setEscape (c : Char) : Scan SetItem := do
  let options := (← get).options
  match controlCode? c, category? options.ascii c with
  | some code, _ => return .code code
  | none, some category => return .category category
  | none, none =>
      if isOctal c then return .code (← octalCode (c :: (← charsWhile isOctal 2)))
      else return .code (← escapedCode c)

/-- Whether a group is closed and may be referred to here. -/
def canRefer (index : Nat) : Scan Bool := do
  let p ← get
  let closed := ((p.groups[index]?).join).isSome
  return closed && p.behindGroups.all (index < ·)

def reference (index : Nat) : Scan Node := do
  if ← canRefer index then return .reference (← get).options.caseMode index else malformed

/-- An escape with a digit other than zero: a reference to a group, or three octal
    digits. -/
def numberEscape (first : Char) : Scan Node := do
  let second ← charsWhile isAsciiDigit 1
  match second with
  | [d] =>
      let third ← if isOctal first && isOctal d then charsWhile isOctal 1 else pure []
      match third with
      | [e] => return .code (← get).options.caseMode (← octalCode [first, d, e])
      | _ => reference (digitsValue [first, d])
  | _ => reference (digitsValue [first])

def escape (c : Char) : Scan Node := do
  let options := (← get).options
  match anchor? options.ascii c, category? options.ascii c, controlCode? c with
  | some anchor, _, _ => return .anchor anchor
  | none, some category, _ => return .set options.caseMode false [.category category]
  | none, none, some code => return .code options.caseMode code
  | none, none, none =>
      if c == '0' then
        return .code options.caseMode (octalValue (← charsWhile isOctal 2))
      else if isAsciiDigit c then numberEscape c
      else return .code options.caseMode (← escapedCode c)

/-- One member of a set, which starts with a given token. -/
def setMember : Token → Scan SetItem
  | .plain c => return .code c.toNat
  | .escaped c => setEscape c
  | .dangling => malformed

/-- The members of a set up to its closing bracket. A bracket that comes first is a
    member. -/
def setItems : Nat → List SetItem → Scan (List SetItem)
  | 0, _ => malformed
  | fuel + 1, items => do
      match ← next with
      | none => malformed
      | some token =>
          if token == .plain ']' && !items.isEmpty then return items
          else
            let member ← setMember token
            if !(← accept '-') then setItems fuel (items ++ [member])
            else match ← next with
              | none => malformed
              | some (.plain ']') => return items ++ [member, .code '-'.toNat]
              | some other =>
                  match member, ← setMember other with
                  | .code first, .code last =>
                      if last < first then malformed
                      else setItems fuel (items ++ [.range first last])
                  | _, _ => malformed

/-- A set after its opening bracket. -/
def setNode : Scan Node := do
  let negated ← accept '^'
  let items ← setItems ((← get).tokens.length + 1) []
  return .set (← get).options.caseMode negated items

/-- A counted repetition after its opening brace: its bounds, or none when the brace
    stands for itself. -/
def counted? : Scan (Option (Nat × Option Nat)) := do
  let start := (← get).tokens
  if start.head? == some (.plain '\x7d') then return none
  let low ← digits
  let high ← if ← accept ',' then digits else pure low
  if !(← accept '\x7d') then
    modify fun p => { p with tokens := start }
    return none
  if (← peek) == some .dangling then malformed
  let least := digitsValue low
  let most := if high.isEmpty then none else some (digitsValue high)
  if repeatLimit ≤ least || most.any (repeatLimit ≤ ·) then throw .repeatTooLarge
  if most.any (· < least) then malformed
  return some (least, most)

/-- The bounds of a repetition that a token opens, or none when it opens none. -/
def bounds? (c : Char) : Scan (Option (Nat × Option Nat)) := do
  match c with
  | '?' => return some (0, some 1)
  | '*' => return some (0, none)
  | '+' => return some (1, none)
  | '\x7b' => counted?
  | _ => return none

def isRepeatable : Node → Bool
  | .anchor _ | .repeat .. => false
  | _ => true

/-- How greedy a repetition is, by the mark after it. -/
def greed : Scan Greed := do
  if ← accept '?' then return .lazy
  if ← accept '+' then return .possessive
  return .greedy

/-- The items with the last one repeated; they are held in reverse order. -/
def repeatLast (bounds : Nat × Option Nat) (items : List Node) : Scan (List Node) := do
  match items with
  | [] => malformed
  | item :: rest =>
      if !isRepeatable item then malformed
      let greed ← greed
      modify fun p => { p with repeats := true }
      return .repeat bounds.1 bounds.2 greed item :: rest

/-- Items in reverse order as one pattern. -/
def joined (items : List Node) : Node :=
  items.foldl (fun rest item => match rest with
    | .empty => item
    | rest => .sequence item rest) .empty

def isOptionLetter (c : Char) : Bool := ['i', 'L', 'm', 's', 'x', 'a', 't', 'u'].contains c

def isAlphabetLetter (c : Char) : Bool := ['a', 'u', 'L'].contains c

/-- Letters of options to switch on, from a first one to what follows the last one. -/
def lettersOn : Nat → Char → Scan (List Char × Char)
  | 0, _ => malformed
  | fuel + 1, letter => do
      if letter == 'L' then malformed
      match ← next with
      | some (.plain c) =>
          if c == ')' || c == '-' || c == ':' then return ([letter], c)
          else if isOptionLetter c then
            let (letters, close) ← lettersOn fuel c
            let clash := isAlphabetLetter letter
              && letters.any fun other => isAlphabetLetter other && other != letter
            if clash then malformed
            return (letter :: letters, close)
          else malformed
      | _ => malformed

/-- Letters of options to switch off, up to a colon. -/
def lettersOff : Nat → Scan (List Char)
  | 0 => malformed
  | fuel + 1 => do
      match ← next with
      | some (.plain ':') => return []
      | some (.plain c) =>
          if isOptionLetter c && !isAlphabetLetter c then return c :: (← lettersOff fuel)
          else malformed
      | _ => malformed

/-- What options a group sets. -/
inductive OptionGroup where
  /-- For the whole pattern. -/
  | whole (letters : List Char)
  /-- Inside the group. -/
  | inside (on off : List Char)

/-- The options that a group opens with, after their first character. -/
def optionGroup (first : Char) : Scan OptionGroup := do
  let fuel := (← get).tokens.length + 1
  let (on, close) ← if first == '-' then pure ([], '-') else lettersOn fuel first
  if close == ')' then return .whole on
  if on.contains 't' then malformed
  let off ← if close == '-' then lettersOff fuel else pure []
  if close == '-' && off.isEmpty then malformed
  if off.contains 't' || on.any off.contains then malformed
  return .inside on off

/-- The name of a group: a word that starts with no digit. -/
def isGroupName (name : List Char) : Bool :=
  name.all Text.isWord && name.head?.any fun c => !Text.isDecimal c

/-- The group that a condition asks about. -/
def askedGroup : Scan Nat := do
  let name ← textUntil ')'
  if isGroupName name then
    match (← get).names.lookup name with
    | some index => return index
    | none => malformed
  else
    let trimmed := Text.strip name
    let unsigned := if trimmed.head? == some '+' then trimmed.drop 1 else trimmed
    if !unsigned.isEmpty && unsigned.all isAsciiDigit && 0 < digitsValue unsigned then
      let index := digitsValue unsigned
      modify fun p => { p with asked := index :: p.asked }
      return index
    else malformed

def openGroup (name : Option (List Char)) : Scan Nat := do
  let p ← get
  let index := p.groups.length
  match name with
  | none => set { p with groups := p.groups ++ [none] }
  | some name =>
      if (p.names.lookup name).isSome then malformed
      set { p with groups := p.groups ++ [none], names := (name, index) :: p.names }
  return index

def closeGroup (index : Nat) (body : Node) : Scan Unit :=
  modify fun p => { p with groups := p.groups.set index (some (body.width p.groups)) }

def withOptions {α : Type} (options : Options) (reader : Scan α) : Scan α := do
  let before := (← get).options
  modify fun p => { p with options }
  let result ← reader
  modify fun p => { p with options := before }
  return result

/-- Skip a comment up to the end of its line. -/
def skipLine : Scan Unit :=
  modify fun p => { p with tokens := (p.tokens.dropWhile (· != .plain '\n')).drop 1 }

/-- Skip a comment up to its closing parenthesis. -/
def skipComment : Scan Unit := do
  let rest := (← get).tokens.dropWhile (· != .plain ')')
  if rest.isEmpty then malformed
  modify fun p => { p with tokens := rest.drop 1 }

/-- A place where readable patterns may have white space. -/
def isLayout (c : Char) : Bool := c == ' ' || ('\t' ≤ c && c ≤ '\r')

/-- Look behind a body, if its width is fixed. -/
def behind (negated : Bool) (body : Node) : Scan Node := do
  let width := body.width (← get).groups
  if width.least != width.most || behindLimit < width.least then
    modify fun p => { p with looseBehind := true }
  return .lookBehind negated width.least body

mutual

/-- Alternatives up to the end or a closing parenthesis. -/
def alternatives : Nat → Bool → Scan Node
  | 0, _ => malformed
  | fuel + 1, atStart => do
      let first ← items fuel atStart []
      if ← accept '|' then return .alternative first (← alternatives fuel false)
      else return first

/-- Items up to a bar, a closing parenthesis or the end. The ones before are held in
    reverse order. -/
def items : Nat → Bool → List Node → Scan Node
  | 0, _, _ => malformed
  | fuel + 1, atStart, before => do
      match ← peek with
      | none | some (.plain '|') | some (.plain ')') => return joined before
      | some .dangling => malformed
      | some (.escaped c) => do
          advance
          items fuel atStart ((← escape c) :: before)
      | some (.plain c) => do
          advance
          let options := (← get).options
          if options.verbose && isLayout c then items fuel atStart before
          else if options.verbose && c == '#' then
            skipLine
            items fuel atStart before
          else match c with
            | '[' => items fuel atStart ((← setNode) :: before)
            | '.' => items fuel atStart (.any options.dotAll :: before)
            | '^' =>
                let anchor := if options.multiline then Anchor.lineStart else .textStart
                items fuel atStart (.anchor anchor :: before)
            | '$' =>
                let anchor := if options.multiline then Anchor.lineEnd else .lastLineEnd
                items fuel atStart (.anchor anchor :: before)
            | '(' => match ← group fuel (atStart && before.isEmpty) with
                | some node => items fuel atStart (node :: before)
                | none => items fuel atStart before
            | c => match ← bounds? c with
                | some bounds => items fuel atStart (← repeatLast bounds before)
                | none => items fuel atStart (.code options.caseMode c.toNat :: before)

/-- A group after its opening parenthesis; none when it matches nothing by itself. -/
def group : Nat → Bool → Scan (Option Node)
  | 0, _ => malformed
  | fuel + 1, atStart => do
      if !(← accept '?') then capture fuel none
      else match ← next with
        | some (.plain 'P') =>
            if ← accept '<' then
              let name ← textUntil '>'
              if !isGroupName name then malformed
              capture fuel (some name)
            else if ← accept '=' then
              let name ← textUntil ')'
              match (← get).names.lookup name with
              | some index => return some (← reference index)
              | none => malformed
            else malformed
        | some (.plain ':') => return some (.group none (← closed fuel))
        | some (.plain '#') =>
            skipComment
            return none
        | some (.plain '=') => return some (.lookAhead false (← closed fuel))
        | some (.plain '!') => return some (.lookAhead true (← closed fuel))
        | some (.plain '<') => lookBehind fuel
        | some (.plain '(') => conditional fuel
        | some (.plain '>') => return some (.atomic (← closed fuel))
        | some (.plain c) =>
            if isOptionLetter c || c == '-' then
              match ← optionGroup c with
              | .whole letters =>
                  if !atStart then malformed
                  modify fun p => { p with
                    options := letters.foldl (Options.switch true) p.options
                    globalLetters := p.globalLetters ++ letters }
                  return none
              | .inside on off =>
                  let options := off.foldl (Options.switch false)
                    (on.foldl (Options.switch true) (← get).options)
                  return some (.group none (← withOptions options (closed fuel)))
            else malformed
        | _ => malformed

def closed : Nat → Scan Node
  | 0 => malformed
  | fuel + 1 => do
      let body ← alternatives fuel false
      expect ')'
      return body

def capture : Nat → Option (List Char) → Scan (Option Node)
  | 0, _ => malformed
  | fuel + 1, name => do
      let index ← openGroup name
      let body ← closed fuel
      closeGroup index body
      return some (.group (some index) body)

/-- A look behind, after its first three characters. -/
def lookBehind : Nat → Scan (Option Node)
  | 0 => malformed
  | fuel + 1 => do
      let negated ← match ← next with
        | some (.plain '=') => pure false
        | some (.plain '!') => pure true
        | _ => malformed
      let outer := (← get).behindGroups
      if outer.isNone then modify fun p => { p with behindGroups := some p.groups.length }
      let body ← alternatives fuel false
      modify fun p => { p with behindGroups := outer }
      expect ')'
      return some (← behind negated body)

/-- A condition on a group and one or two patterns, after its first three characters. -/
def conditional : Nat → Scan (Option Node)
  | 0 => malformed
  | fuel + 1 => do
      let index ← askedGroup
      if (← get).behindGroups.isSome && !(← canRefer index) then malformed
      let yes ← items fuel false []
      let no ← if ← accept '|' then items fuel false [] else pure .empty
      expect ')'
      return some (.ifCaptured index yes no)

end

def whole : Scan Node := do
  let node ← alternatives (6 * (← get).tokens.length + 8) true
  let p ← get
  if p.globalLetters.contains 'a' && p.globalLetters.contains 'u' then
    throw .conflictingAlphabets
  let unknownGroup := p.asked.any fun index => decide (p.groups.length ≤ index)
  let uncountable := p.globalLetters.contains 't' && p.repeats
  if !p.tokens.isEmpty || unknownGroup || p.looseBehind || uncountable then malformed
  return node

end Scan

def compile (characters : String → Option Char) (source : String) : Except PatternError Node :=
  match Scan.whole.run { tokens := Token.ofText source.toList, characters } with
  | .ok (node, _) => .ok node
  | .error e => .error e

end Formwork.Pattern
