import Formwork.Bytes.Base64
import Formwork.Bytes.Sha256
import Mathlib.Data.List.Basic

/-! # Bytes as text

Both ways of writing bytes use few characters and lose nothing: what was written in base 64
is read again, whatever its length, and different bytes are different in hexadecimal.
-/

namespace Formwork

/-! ## Base 64 -/

namespace Base64

theorem digit_mem (n : Nat) : digit n ∈ alphabet := by
  rw [digit, List.getD_eq_getElem?_getD]
  cases found : alphabet[n]? with
  | none => decide
  | some c => exact List.mem_of_getElem? found

theorem of_mem_alphabet {c : Char} (h : c ∈ alphabet) : c ≠ '=' ∧ c ≠ '.' ∧ c.toNat < 128 := by
  have all : (alphabet.all fun c => c != '=' && (c != '.' && c.toNat < 128)) = true := by
    decide +kernel
  simpa using List.all_eq_true.mp all c h

theorem sextet?_digit {n : Nat} (h : n < 64) : sextet? (digit n) = some n := by
  have all : ∀ n : Fin 64, sextet? (digit n) = some n.val := by decide +kernel
  exact all ⟨n, h⟩

theorem encode_mem {bytes : List UInt8} {c : Char} (h : c ∈ encode bytes) : c ∈ alphabet := by
  induction bytes using encode.induct with
  | case1 => cases h
  | case2 | case3 =>
      simp only [encode, List.mem_cons, List.not_mem_nil, or_false] at h
      rcases h with rfl | rfl | rfl <;> exact digit_mem _
  | case4 a b c rest ih =>
      simp only [encode, List.mem_cons] at h
      rcases h with rfl | rfl | rfl | rfl | later
      · exact digit_mem _
      · exact digit_mem _
      · exact digit_mem _
      · exact digit_mem _
      · exact ih later

/-! ### Reading what was written -/

private theorem decodeFrom_digit (phase carry pads : Nat) {n : Nat} (h : n < 64)
    (rest : List Char) : decodeFrom phase carry pads (digit n :: rest) = match phase with
      | 0 => decodeFrom 1 n 0 rest
      | 1 => (decodeFrom 2 (n % 16) 0 rest).map (UInt8.ofNat (carry * 4 + n / 16) :: ·)
      | 2 => (decodeFrom 3 (n % 4) 0 rest).map (UInt8.ofNat (carry * 16 + n / 4) :: ·)
      | _ => (decodeFrom 0 0 0 rest).map (UInt8.ofNat (carry * 64 + n) :: ·) := by
  have plain : (digit n == '=') = false := by
    simpa using (of_mem_alphabet (digit_mem n)).1
  rw [decodeFrom, plain, sextet?_digit h]
  rfl

private theorem ofNat_eq {n : Nat} {a : UInt8} (h : n = a.toNat) : UInt8.ofNat n = a := by
  rw [h, UInt8.ofNat_toNat]

private theorem decodeFrom_first (a : UInt8) {carry : Nat} (h : carry < 16) (rest : List Char) :
    decodeFrom 0 0 0 (digit (a.toNat / 4) :: digit (a.toNat % 4 * 16 + carry) :: rest) =
      (decodeFrom 2 carry 0 rest).map (a :: ·) := by
  have bound := a.toNat_lt
  have byte : UInt8.ofNat (a.toNat / 4 * 4 + (a.toNat % 4 * 16 + carry) / 16) = a :=
    ofNat_eq (by omega)
  have left : (a.toNat % 4 * 16 + carry) % 16 = carry := by omega
  rw [decodeFrom_digit 0 0 0 (by omega), decodeFrom_digit 1 _ 0 (by omega), byte, left]
  rfl

private theorem decodeFrom_second (b : UInt8) {carry : Nat} (h : carry < 4) (rest : List Char) :
    decodeFrom 2 (b.toNat / 16) 0 (digit (b.toNat % 16 * 4 + carry) :: rest) =
      (decodeFrom 3 carry 0 rest).map (b :: ·) := by
  have bound := b.toNat_lt
  have byte : UInt8.ofNat (b.toNat / 16 * 16 + (b.toNat % 16 * 4 + carry) / 4) = b :=
    ofNat_eq (by omega)
  have left : (b.toNat % 16 * 4 + carry) % 4 = carry := by omega
  rw [decodeFrom_digit 2 _ 0 (by omega), byte, left]
  rfl

private theorem decodeFrom_third (c : UInt8) (rest : List Char) :
    decodeFrom 3 (c.toNat / 64) 0 (digit (c.toNat % 64) :: rest) =
      (decodeFrom 0 0 0 rest).map (c :: ·) := by
  have bound := c.toNat_lt
  have byte : UInt8.ofNat (c.toNat / 64 * 64 + c.toNat % 64) = c := ofNat_eq (by omega)
  rw [decodeFrom_digit 3 _ 0 (by omega), byte]
  rfl

private theorem decodeFrom_encode (bytes : List UInt8) :
    decodeFrom 0 0 0 (encode bytes ++ List.replicate (padding (encode bytes).length) '=') =
      some bytes := by
  induction bytes using encode.induct with
  | case1 => rfl
  | case2 a => exact decodeFrom_first a (show 0 < 16 by omega) ['=', '=']
  | case3 a b =>
      have bound := b.toNat_lt
      show decodeFrom 0 0 0 (digit (a.toNat / 4) :: digit (a.toNat % 4 * 16 + b.toNat / 16) ::
        digit (b.toNat % 16 * 4) :: ['=']) = _
      rw [decodeFrom_first a (by omega)]
      exact congrArg (Option.map (a :: ·)) (decodeFrom_second b (show 0 < 4 by omega) ['='])
  | case4 a b c rest ih =>
      have boundB := b.toNat_lt
      have boundC := c.toNat_lt
      have whole : padding (encode (a :: b :: c :: rest)).length =
          padding (encode rest).length := by
        simp only [padding, encode, List.length_cons]
        omega
      rw [whole, encode]
      simp only [List.cons_append]
      rw [decodeFrom_first a (by omega), decodeFrom_second b (by omega), decodeFrom_third, ih]
      rfl

theorem decode?_encode (bytes : List UInt8) : decode? (encode bytes) = some bytes := by
  have ascii : (encode bytes).any (fun c => 128 ≤ c.toNat) = false := by
    rw [List.any_eq_false]
    intro c member
    have small := (of_mem_alphabet (encode_mem member)).2.2
    simpa using small
  rw [decode?, ascii]
  exact decodeFrom_encode bytes

end Base64

/-! ## Hexadecimal -/

namespace Sha256

def pair (byte : UInt8) : List Char :=
  [Nat.digitChar (byte.toNat / 16), Nat.digitChar (byte.toNat % 16)]

private theorem padded_toDigits : ∀ n < 256,
    List.replicate (2 - (Nat.toDigits 16 n).length) '0' ++ Nat.toDigits 16 n =
      [Nat.digitChar (n / 16), Nat.digitChar (n % 16)] := by decide +kernel

theorem hex_eq (bytes : List UInt8) : hex bytes = String.ofList (bytes.flatMap pair) := by
  have pairs : (fun byte : UInt8 =>
      let digits := Nat.toDigits 16 byte.toNat
      List.replicate (2 - digits.length) '0' ++ digits) = pair :=
    funext fun byte => padded_toDigits byte.toNat byte.toNat_lt
  rw [hex, pairs]

theorem digitChar_plain : ∀ n < 16, Nat.digitChar n ≠ '.' ∧ (Nat.digitChar n).toNat < 128 := by
  decide +kernel

theorem digitChar_inj : ∀ m < 16, ∀ n < 16, Nat.digitChar m = Nat.digitChar n → m = n := by
  decide +kernel

theorem hex_plain {bytes : List UInt8} {c : Char} (h : c ∈ (hex bytes).toList) :
    c ≠ '.' ∧ c.toNat < 128 := by
  rw [hex_eq, String.toList_ofList, List.mem_flatMap] at h
  obtain ⟨byte, -, digit⟩ := h
  have bound := byte.toNat_lt
  simp only [pair, List.mem_cons, List.not_mem_nil, or_false] at digit
  rcases digit with rfl | rfl <;> exact digitChar_plain _ (by omega)

theorem hex_injective : Function.Injective hex := by
  intro bytes others same
  rw [hex_eq, hex_eq, String.ofList_inj] at same
  induction bytes generalizing others with
  | nil =>
      cases others with
      | nil => rfl
      | cons other rest => cases same
  | cons byte bytes ih =>
      cases others with
      | nil => cases same
      | cons other rest =>
          have bound := byte.toNat_lt
          have bound' := other.toNat_lt
          simp only [List.flatMap_cons, pair, List.cons_append, List.nil_append,
            List.cons.injEq] at same
          obtain ⟨high, low, tail⟩ := same
          have highs := digitChar_inj _ (by omega) _ (by omega) high
          have lows := digitChar_inj _ (by omega) _ (by omega) low
          have alike : byte = other := UInt8.toNat_inj.mp (by omega)
          rw [alike, ih tail]

end Sha256

end Formwork
