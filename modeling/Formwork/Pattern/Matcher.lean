import Formwork.Pattern.Basic

/-! # Matching patterns

A pattern is run from a place in the text with a continuation for what comes after it.
Choices are tried in order, and the first one from which everything else succeeds is
taken. A repetition stops when it makes no progress, so it is bounded by what is left
of the text.
-/

namespace Formwork.Pattern

/-- How far a match has come: the place in the text, and what the groups captured. -/
structure MatchState where
  place : Nat
  captures : List (Nat × Nat × Nat)
  deriving Repr

/-- What remains to be matched. -/
abbrev Continuation := MatchState → Option MatchState

namespace MatchState

/-- The ends of what a group captured last. -/
def capture? (state : MatchState) (index : Nat) : Option (Nat × Nat) :=
  state.captures.lookup index

def captured (state : MatchState) (index start : Nat) : MatchState :=
  { state with captures := (index, start, state.place) :: state.captures }

end MatchState

/-- Whether the character at a place, if there is one, satisfies a test. -/
def charAt (text : Array Char) (place : Nat) (test : Char → Bool) : Bool :=
  (text[place]?).any test

/-- Whether the character before a place, if there is one, satisfies a test. -/
def charBefore (text : Array Char) (place : Nat) (test : Char → Bool) : Bool :=
  0 < place && charAt text (place - 1) test

namespace Anchor

/-- Whether a place satisfies a condition. No place of an empty text is a word boundary
    or the opposite of one. -/
def holds (text : Array Char) (place : Nat) : Anchor → Bool
  | .textStart => place == 0
  | .textEnd => place == text.size
  | .lastLineEnd =>
      place == text.size || (place + 1 == text.size && charAt text place (· == '\n'))
  | .lineStart => place == 0 || charBefore text place (· == '\n')
  | .lineEnd => place == text.size || charAt text place (· == '\n')
  | .wordBoundary ascii negated =>
      let isWord := (Category.mk .word false ascii).holds
      let boundary := charBefore text place isWord != charAt text place isWord
      !text.isEmpty && boundary != negated

end Anchor

/-- Go over one character that satisfies a test. -/
def step (text : Array Char) (test : Char → Bool) (next : Continuation) : Continuation :=
  fun state =>
    if charAt text state.place test then next { state with place := state.place + 1 } else none

/-- Run a body a given number of times. -/
def times (body : Continuation → Continuation) (next : Continuation) : Nat → Continuation
  | 0 => next
  | n + 1 => body (times body next n)

/-- Run a body up to a number of times, most first. After a run that made no progress
    there is no further one. -/
def mostFirst (body : Continuation → Continuation) (next : Continuation) :
    Nat → Option Nat → Continuation
  | 0, _ => next
  | n + 1, before => fun state =>
      if before == some state.place then next state
      else match body (mostFirst body next n (some state.place)) state with
        | some final => some final
        | none => next state

/-- Run a body up to a number of times, fewest first. -/
def fewestFirst (body : Continuation → Continuation) (next : Continuation) :
    Nat → Option Nat → Continuation
  | 0, _ => next
  | n + 1, before => fun state =>
      match next state with
      | some final => some final
      | none =>
          if before == some state.place then none
          else body (fewestFirst body next n (some state.place)) state

/-- Run a body up to a number of times, as often as it succeeds, each time in its first
    way. -/
def asOften (body : Continuation → Continuation) : Nat → Option Nat → MatchState → MatchState
  | 0, _, state => state
  | n + 1, before, state =>
      if before == some state.place then state
      else match body some state with
        | some after => asOften body n (some state.place) after
        | none => state

/-- Repeat a body. Without an upper bound it can make progress only as often as there
    are characters left. -/
def repeated (text : Array Char) (least : Nat) (most : Option Nat) (greed : Greed)
    (body : Continuation → Continuation) (next : Continuation) : Continuation := fun state =>
  let further (start : MatchState) : Nat := match most with
    | some most => most - least
    | none => text.size - start.place + 1
  match greed with
  | .greedy => times body (fun start => mostFirst body next (further start) none start) least state
  | .lazy => times body (fun start => fewestFirst body next (further start) none start) least state
  | .possessive =>
      match times (fun rest start => (body some start).bind rest) some least state with
      | some start => next (asOften body (further start) none start)
      | none => none

def sameChar (mode : CaseMode) (a b : Char) : Bool :=
  match mode with
  | .exact => a == b
  | .ascii => asciiSmallLetter a.toNat == asciiSmallLetter b.toNat
  | .unicode => Text.lowerChar a == Text.lowerChar b

/-- Whether the text at a place repeats a part of itself. -/
def repeatsPart (text : Array Char) (mode : CaseMode) (start stop place : Nat) : Bool :=
  (List.range (stop - start)).all fun offset =>
    match text[start + offset]?, text[place + offset]? with
    | some a, some b => sameChar mode a b
    | _, _ => false

namespace Node

/-- Run a pattern from a place, followed by a continuation. -/
def run (text : Array Char) : Node → Continuation → Continuation
  | .empty, next => next
  | .code mode target, next => step text (setHolds mode [.code target]) next
  | .any lineBreaks, next => step text (fun c => lineBreaks || c != '\n') next
  | .set mode negated items, next =>
      step text (fun c => setHolds mode items c != negated) next
  | .anchor condition, next => fun state =>
      if condition.holds text state.place then next state else none
  | .sequence first second, next => run text first (run text second next)
  | .alternative first second, next => fun state =>
      match run text first next state with
      | some final => some final
      | none => run text second next state
  | .repeat least most greed body, next =>
      repeated text least most greed (fun rest => run text body rest) next
  | .group none body, next => run text body next
  | .group (some index) body, next => fun state =>
      run text body (fun after => next (after.captured index state.place)) state
  | .reference mode index, next => fun state =>
      match state.capture? index with
      | some (start, stop) =>
          if repeatsPart text mode start stop state.place then
            next { state with place := state.place + (stop - start) }
          else none
      | none => none
  | .lookAhead negated body, next => fun state =>
      match run text body some state with
      | some after => if negated then none else next { after with place := state.place }
      | none => if negated then next state else none
  | .lookBehind negated width body, next => fun state =>
      let found := if width ≤ state.place then
          run text body some { state with place := state.place - width }
        else none
      match found with
      | some after => if negated then none else next { after with place := state.place }
      | none => if negated then next state else none
  | .ifCaptured index yes no, next => fun state =>
      match state.capture? index with
      | some _ => run text yes next state
      | none => run text no next state
  | .atomic body, next => fun state => (run text body some state).bind next

/-- Whether a pattern is found somewhere in a text. -/
def search (node : Node) (text : String) : Bool :=
  let chars := text.toList.toArray
  (List.range (chars.size + 1)).any fun start =>
    (node.run chars some { place := start, captures := [] }).isSome

end Node

end Formwork.Pattern
