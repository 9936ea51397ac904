/-! # Base 64

Bytes as text for addresses: six bits a character, `-` and `_` for the last two, no
padding. The reader is lenient. It also takes `+` and `/`, skips characters that are no
digits, stops at complete padding and ignores bits left over; it refuses text beyond
ASCII and an incomplete group.
-/

namespace Formwork.Base64

def alphabet : List Char :=
  "ABCDEFGHIJKLMNOPQRSTUVWXYZabcdefghijklmnopqrstuvwxyz0123456789-_".toList

/-- The digit of a six-bit number. -/
def digit (n : Nat) : Char := alphabet.getD n '_'

def encode : List UInt8 → List Char
  | [] => []
  | [a] => [digit (a.toNat / 4), digit (a.toNat % 4 * 16)]
  | [a, b] =>
      [digit (a.toNat / 4), digit (a.toNat % 4 * 16 + b.toNat / 16),
       digit (b.toNat % 16 * 4)]
  | a :: b :: c :: rest =>
      digit (a.toNat / 4) :: digit (a.toNat % 4 * 16 + b.toNat / 16)
        :: digit (b.toNat % 16 * 4 + c.toNat / 64) :: digit (c.toNat % 64) :: encode rest

/-- The six-bit number of a digit, in either spelling of the last two. -/
def sextet? (c : Char) : Option Nat :=
  if c == '+' then some 62
  else if c == '/' then some 63
  else alphabet.idxOf? c

/-- Read from inside a group of four digits: how many were read, the bits they left over,
    and how many padding characters followed. -/
def decodeFrom (phase carry pads : Nat) : List Char → Option (List UInt8)
  | [] => if phase = 0 then some [] else none
  | c :: rest =>
      if c == '=' then
        if phase < 2 then decodeFrom phase carry pads rest
        else if 4 ≤ phase + pads + 1 then some []
        else decodeFrom phase carry (pads + 1) rest
      else match sextet? c with
        | none => decodeFrom phase carry pads rest
        | some n =>
            match phase with
            | 0 => decodeFrom 1 n 0 rest
            | 1 => (decodeFrom 2 (n % 16) 0 rest).map (UInt8.ofNat (carry * 4 + n / 16) :: ·)
            | 2 => (decodeFrom 3 (n % 4) 0 rest).map (UInt8.ofNat (carry * 16 + n / 4) :: ·)
            | _ => (decodeFrom 0 0 0 rest).map (UInt8.ofNat (carry * 64 + n) :: ·)

/-- The padding that completes the last group of a text. -/
def padding (length : Nat) : Nat := (4 - length % 4) % 4

/-- The bytes of a text that may lack its padding. -/
def decode? (text : List Char) : Option (List UInt8) :=
  if text.any fun c => 128 ≤ c.toNat then none
  else decodeFrom 0 0 0 (text ++ List.replicate (padding text.length) '=')

end Formwork.Base64
