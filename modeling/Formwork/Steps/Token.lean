import Formwork.Bytes.Base64
import Formwork.Bytes.Sha256
import Formwork.Config
import Formwork.Steps.State

/-! # Signed tokens

A state as a text that its holder cannot change: the bytes of its document, a dot, and a
code that only the holder of the key can compute. How states become bytes and how bytes
are signed is a `TokenScheme`; the scheme in use is `TokenScheme.standard`.
-/

namespace Formwork

/-- How states become bytes, and bytes are signed. -/
structure TokenScheme where
  write : StepState → List UInt8
  /-- The state of some bytes, read at a moment. -/
  read? : Binary64 → List UInt8 → Option StepState
  /-- The code of some bytes under a key. -/
  sign : List UInt8 → List UInt8 → String

namespace TokenScheme

/-- JSON documents, and codes in hexadecimal. -/
def standard : TokenScheme :=
  { write := StepState.toBytes, read? := StepState.ofBytes?
    sign := fun key message => Sha256.hex (Sha256.mac key message) }

def token (scheme : TokenScheme) (key : List UInt8) (state : StepState) : String :=
  let payload := scheme.write state
  String.ofList (Base64.encode payload) ++ "." ++ scheme.sign key payload

/-- The two parts of a token, before and after its last dot. -/
def split? (token : List Char) : Option (List Char × List Char) :=
  if token.contains '.' then
    let reversed := token.reverse
    some (((reversed.dropWhile (· != '.')).drop 1).reverse,
      (reversed.takeWhile (· != '.')).reverse)
  else none

def isExpired (now : Binary64) (limit : Option Value) (state : StepState) : Bool :=
  match limit with
  | some limit => limit.numberBelow (.float (now.sub state.startedAt))
  | none => false

/-- Why a token gives no state. -/
inductive Refusal where
  /-- It has no two parts, or the first is no bytes. -/
  | malformed
  | wrongSignature
  /-- Its bytes are no state. -/
  | unreadable
  | expired
  deriving Repr, DecidableEq

/-- The state of a token at a moment, if it may be trusted and is not too old. -/
def examine (scheme : TokenScheme) (key : List UInt8) (now : Binary64) (limit : Option Value)
    (token : String) : Except Refusal StepState := do
  let some (text, code) := split? token.toList | throw .malformed
  let some payload := Base64.decode? text | throw .malformed
  if code != (scheme.sign key payload).toList then throw .wrongSignature
  let some state := scheme.read? now payload | throw .unreadable
  if isExpired now limit state then throw .expired
  return state

/-- The state of a token, if it gives one. -/
def verify (scheme : TokenScheme) (key : List UInt8) (now : Binary64) (limit : Option Value)
    (token : String) : Option StepState :=
  (scheme.examine key now limit token).toOption

def verifyNotices (scheme : TokenScheme) (key : List UInt8) (now : Binary64)
    (limit : Option Value) (token : String) : List Notice :=
  match scheme.examine key now limit token with
  | .error .wrongSignature => [.signatureMismatch]
  | .error .expired => [.stateExpired]
  | _ => []

end TokenScheme

end Formwork
