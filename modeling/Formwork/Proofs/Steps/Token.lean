import Formwork.Proofs.Bytes.Text
import Formwork.Steps.Token

/-! # Tokens that cannot be changed

A token gives the state that was signed, and under the code of a state no other state can be
passed off, as long as different bytes have different codes. The text of a token may be
anything: whatever goes wrong on the way is taken care of, and nothing is given then.
-/

namespace Formwork

namespace TokenScheme

/-- A scheme whose codes are those of a keyed function, in hexadecimal. -/
def keyed (write : StepState → List UInt8) (read? : Binary64 → List UInt8 → Option StepState)
    (mac : List UInt8 → List UInt8 → List UInt8) : TokenScheme :=
  { write, read?, sign := fun key message => Sha256.hex (mac key message) }

theorem standard_eq_keyed :
    standard = keyed StepState.toBytes StepState.ofBytes? Sha256.mac := rfl

variable {scheme : TokenScheme} {key : List UInt8} {now : Binary64} {limit : Option Value}
  {state : StepState} {write : StepState → List UInt8}
  {read? : Binary64 → List UInt8 → Option StepState} {mac : List UInt8 → List UInt8 → List UInt8}

/-! ## The parts of a token -/

/-- What stands after the last dot. -/
def code? (token : String) : Option (List Char) := (split? token.toList).map (·.2)

theorem split?_append {code : List Char} (undotted : '.' ∉ code) (text : List Char) :
    split? (text ++ '.' :: code) = some (text, code) := by
  have last : (text ++ '.' :: code).reverse = code.reverse ++ '.' :: text.reverse := by simp
  have within : ∀ c ∈ code.reverse, (c != '.') = true := by
    intro c member
    rw [List.mem_reverse] at member
    simpa using fun dot : c = '.' => undotted (dot ▸ member)
  rw [split?, if_pos (by simp), last]
  simp [List.takeWhile_append_of_pos within, List.dropWhile_append_of_pos within]

theorem split?_token (undotted : '.' ∉ (scheme.sign key (scheme.write state)).toList) :
    split? (scheme.token key state).toList = some (Base64.encode (scheme.write state),
      (scheme.sign key (scheme.write state)).toList) := by
  have parts : (scheme.token key state).toList = Base64.encode (scheme.write state) ++
      '.' :: (scheme.sign key (scheme.write state)).toList := by
    simp [token]
  rw [parts, split?_append undotted]

theorem keyed_undotted (message : List UInt8) :
    '.' ∉ ((keyed write read? mac).sign key message).toList :=
  fun member => (Sha256.hex_plain member).1 rfl

/-! ## What a token gives -/

theorem verify_eq (token : String) : scheme.verify key now limit token =
    (split? token.toList).bind fun parts => (Base64.decode? parts.1).bind fun payload =>
      if parts.2 = (scheme.sign key payload).toList then
        (scheme.read? now payload).bind fun state =>
          if isExpired now limit state then none else some state
      else none := by
  unfold verify examine
  cases split? token.toList with
  | none => rfl
  | some parts =>
      rcases parts with ⟨text, code⟩
      simp only [Option.bind_some]
      cases Base64.decode? text with
      | none => rfl
      | some payload =>
          simp only [Option.bind_some]
          by_cases same : code = (scheme.sign key payload).toList
          · simp only [same, bne_self_eq_false, Bool.false_eq_true, if_false, if_true]
            cases scheme.read? now payload with
            | none => rfl
            | some state => cases old : isExpired now limit state <;> simp [old] <;> rfl
          · have other : (code != (scheme.sign key payload).toList) = true := by
              simpa using same
            simp only [other, if_true, same, if_false]
            rfl

/-- A token gives a state just when its first part is read, its second part is the code of
    that, and the state that is read is not too old. -/
theorem verify_eq_some {token : String} : scheme.verify key now limit token = some state ↔
    ∃ text payload, split? token.toList = some (text, (scheme.sign key payload).toList) ∧
      Base64.decode? text = some payload ∧ scheme.read? now payload = some state ∧
      isExpired now limit state = false := by
  rw [verify_eq, Option.bind_eq_some_iff]
  constructor
  · rintro ⟨⟨text, code⟩, parts, given⟩
    obtain ⟨payload, decoded, given⟩ := Option.bind_eq_some_iff.mp given
    split at given
    next same =>
      obtain ⟨read, found, young⟩ := Option.bind_eq_some_iff.mp given
      split at young
      · cases young
      next old =>
        cases young
        cases same
        exact ⟨text, payload, parts, decoded, found, by simpa using old⟩
    next => cases given
  · rintro ⟨text, payload, parts, decoded, read, young⟩
    refine ⟨_, parts, ?_⟩
    simp [decoded, read, young]

theorem verify_token (mac : List UInt8 → List UInt8 → List UInt8)
    (reads : read? now (write state) = some state) (young : isExpired now limit state = false) :
    (keyed write read? mac).verify key now limit ((keyed write read? mac).token key state) =
      some state :=
  verify_eq_some.mpr ⟨_, _, split?_token (keyed_undotted _), Base64.decode?_encode _, reads, young⟩

theorem verify_of_code (injective : Function.Injective (mac key))
    (reads : read? now (write state) = some state) {token : String}
    (same : code? token = code? ((keyed write read? mac).token key state)) {given : StepState}
    (gives : (keyed write read? mac).verify key now limit token = some given) :
    given = state := by
  obtain ⟨text, payload, parts, -, read, -⟩ := verify_eq_some.mp gives
  rw [code?, code?, parts, split?_token (keyed_undotted _)] at same
  -- the token was accepted, so what it holds has the code that it shows
  have codes : Sha256.hex (mac key payload) = Sha256.hex (mac key (write state)) :=
    String.toList_inj.mp (Option.some.inj same)
  have alike : payload = write state := injective (Sha256.hex_injective codes)
  subst alike
  exact Option.some.inj (read.symm.trans reads)

end TokenScheme

/-! ## Ages -/

/-- At most, of two numbers; nothing compares with nan. -/
def Value.AtMost (left right : Value) : Prop :=
  ∃ a b, left.position? = some a ∧ right.position? = some b ∧ b.before a = false

theorem Value.atMost_of_not_below {left right : Value} {a b : Position}
    (isLeft : left.isNumber = true) (isRight : right.isNumber = true)
    (hl : left.position? = some a) (hr : right.position? = some b)
    (h : right.numberBelow left = false) : left.AtMost right := by
  refine ⟨a, b, hl, hr, ?_⟩
  simpa [numberBelow, isLeft, isRight, hl, hr] using h

theorem Binary64.position?_of_ne_nan {x : Binary64} (h : x ≠ .nan) :
    ∃ place, x.position? = some place := by
  cases x with
  | nan => exact absurd rfl h
  | infinite negative => cases negative <;> exact ⟨_, rfl⟩
  | finite negative units => cases negative <;> exact ⟨_, rfl⟩

theorem Value.position?_of_number {value : Value} (isNumber : value.isNumber = true)
    (h : value ≠ .float .nan) : ∃ place, value.position? = some place := by
  cases value with
  | int n => exact ⟨_, rfl⟩
  | float x => exact Binary64.position?_of_ne_nan fun same => h (congrArg _ same)
  | _ => cases isNumber

theorem Binary64.ofUnits_ne_nan (negative : Bool) (num den : Nat) :
    ofUnits negative num den ≠ .nan := by
  simp only [ofUnits]
  split <;> exact nofun

/-- Finite numbers have a difference, if perhaps an infinite one. -/
theorem Binary64.sub_ne_nan {x y : Binary64} (hx : x.isFinite = true) (hy : y.isFinite = true) :
    x.sub y ≠ .nan := by
  cases x with
  | nan | infinite => cases hx
  | finite negative units =>
      cases y with
      | nan | infinite => cases hy
      | finite other more =>
          show (Binary64.finite negative units).add (.finite (!other) more) ≠ .nan
          simp only [add]
          split
          · exact nofun
          · exact ofUnits_ne_nan _ _ _

namespace TokenScheme

variable {scheme : TokenScheme} {key : List UInt8} {now : Binary64} {limit : Option Value}
  {state : StepState}

theorem age_atMost {bound : Value} (isNumber : bound.isNumber = true)
    (comparable : bound ≠ .float .nan) (aged : now.sub state.startedAt ≠ .nan)
    (young : isExpired now (some bound) state = false) :
    Value.AtMost (.float (now.sub state.startedAt)) bound := by
  obtain ⟨a, age⟩ := Binary64.position?_of_ne_nan aged
  obtain ⟨b, place⟩ := Value.position?_of_number isNumber comparable
  exact Value.atMost_of_not_below rfl isNumber age place young

/-! ## Mishaps -/

/-- What goes wrong in taking a token apart if nothing is done about it. -/
inductive Mishap where
  /-- Text without a dot does not come in two parts. -/
  | undivided
  /-- Text that stands for no bytes. -/
  | noBytes
  /-- Text beyond ASCII is not compared. -/
  | beyondAscii
  /-- Bytes that are no state. -/
  | noState
  /-- An age is compared with numbers only. -/
  | noNumber

def isAscii (text : List Char) : Bool := text.all fun c => c.toNat < 128

def divide (token : List Char) : Except Mishap (List Char × List Char) :=
  match split? token with
  | some parts => .ok parts
  | none => .error .undivided

def bytesOf (text : List Char) : Except Mishap (List UInt8) :=
  match Base64.decode? text with
  | some bytes => .ok bytes
  | none => .error .noBytes

def sameCode (code other : List Char) : Except Mishap Bool :=
  if isAscii code && isAscii other then .ok (code == other) else .error .beyondAscii

def stateOf (scheme : TokenScheme) (now : Binary64) (bytes : List UInt8) :
    Except Mishap StepState :=
  match scheme.read? now bytes with
  | some state => .ok state
  | none => .error .noState

def overdue (now : Binary64) (limit : Option Value) (state : StepState) : Except Mishap Bool :=
  match limit with
  | none => .ok false
  | some limit =>
      if limit.isNumber then .ok (limit.numberBelow (.float (now.sub state.startedAt)))
      else .error .noNumber

/-- Read bytes whose code was right. That they are no state is dealt with when it happens. -/
def takeOut (scheme : TokenScheme) (now : Binary64) (limit : Option Value)
    (payload : List UInt8) : Except Mishap (Option StepState) :=
  match scheme.stateOf now payload with
  | .error .noState => return none
  | .error mishap => throw mishap
  | .ok state => do
      if ← overdue now limit state then return none
      return some state

/-- Take a token apart. That its text is no bytes is dealt with when it happens; a missing dot
    and a code beyond ASCII are looked for before. -/
def takeApart (scheme : TokenScheme) (key : List UInt8) (now : Binary64) (limit : Option Value)
    (token : String) : Except Mishap (Option StepState) := do
  if !token.toList.contains '.' then return none
  let (text, code) ← divide token.toList
  match bytesOf text with
  | .error .noBytes => return none
  | .error mishap => throw mishap
  | .ok payload =>
      if !isAscii code then return none
      if !(← sameCode code (scheme.sign key payload).toList) then return none
      scheme.takeOut now limit payload

theorem overdue_eq (numeric : ∀ bound, limit = some bound → bound.isNumber = true) :
    overdue now limit state = .ok (isExpired now limit state) := by
  cases limit with
  | none => rfl
  | some bound => simp only [overdue, numeric bound rfl, if_true, isExpired]

theorem takeOut_eq (numeric : ∀ bound, limit = some bound → bound.isNumber = true)
    (payload : List UInt8) :
    scheme.takeOut now limit payload = .ok ((scheme.read? now payload).bind fun state =>
      if isExpired now limit state then none else some state) := by
  rw [takeOut, stateOf]
  cases scheme.read? now payload with
  | none => rfl
  | some state =>
      simp only [overdue_eq numeric, bind, Except.bind, Option.bind_some]
      split <;> rfl

theorem takeApart_eq (ascii : ∀ payload, isAscii (scheme.sign key payload).toList = true)
    (numeric : ∀ bound, limit = some bound → bound.isNumber = true) (token : String) :
    scheme.takeApart key now limit token = .ok (scheme.verify key now limit token) := by
  rw [verify_eq, takeApart]
  cases dotted : token.toList.contains '.' with
  | false =>
      have whole : split? token.toList = none := by
        simp only [split?, dotted, Bool.false_eq_true, if_false]
      rw [whole]
      rfl
  | true =>
      -- from here on both take the same parts; only a code beyond ASCII is looked at twice
      obtain ⟨⟨text, code⟩, parts⟩ : ∃ parts, split? token.toList = some parts := by
        simp only [split?, dotted, if_true]
        exact ⟨_, rfl⟩
      simp only [divide, bytesOf, parts, bind, Except.bind, Option.bind_some, Bool.not_true,
        Bool.false_eq_true, if_false]
      cases Base64.decode? text with
      | none => rfl
      | some payload =>
          simp only [Option.bind_some, takeOut_eq numeric]
          by_cases same : code = (scheme.sign key payload).toList
          · simp [sameCode, same, ascii payload]
          · cases plain : isAscii code <;> simp [sameCode, same, plain, ascii payload] <;> rfl

/-! ## A token of a pet -/

def petState : StepState where
  index := 1
  data := [("pet", .str "yes")]
  startedAt := .zero

def text? : Value → Option String
  | .str text => some text
  | _ => none

theorem text?_eq_some_iff {value : Value} {text : String} :
    text? value = some text ↔ value = .str text := by
  cases value <;> simp [text?]

/-- The parts of a state, with its texts alone. -/
def parts (state : StepState) : Int × List (String × Option String) × Bool × Binary64 :=
  (state.index, state.data.map fun entry => (entry.1, text? entry.2), state.completed,
    state.startedAt)

theorem petState_reads : StepState.ofBytes? .zero petState.toBytes = some petState := by
  have same : (StepState.ofBytes? .zero petState.toBytes).map parts =
      some (1, [("pet", some "yes")], false, .zero) := by
    decide +kernel
  obtain ⟨⟨index, data, completed, begun⟩, found, same⟩ := Option.map_eq_some_iff.mp same
  simp only [parts, Prod.mk.injEq, List.map_eq_singleton_iff, text?_eq_some_iff] at same
  obtain ⟨rfl, ⟨⟨name, value⟩, rfl, rfl, rfl⟩, rfl, rfl⟩ := same
  exact found

/-- A code that is right for some bytes, and for others an encoding of them. -/
def pinned (payload key message : List UInt8) : List UInt8 :=
  if message = payload then Sha256.mac key payload
  else Sha256.mac key payload ++ 0 :: message

theorem pinned_injective (payload key : List UInt8) : Function.Injective (pinned payload key) := by
  intro a b same
  simp only [pinned] at same
  split at same <;> split at same <;> simp_all

/-- The scheme in use, with codes that tell all bytes apart. -/
def petScheme : TokenScheme :=
  keyed StepState.toBytes StepState.ofBytes? (pinned petState.toBytes)

/-! ## Guarded tokens -/

section Guarded

variable {write : StepState → List UInt8} {read? : Binary64 → List UInt8 → Option StepState}
  {mac : List UInt8 → List UInt8 → List UInt8}

theorem keyed_ascii (payload : List UInt8) :
    isAscii ((keyed write read? mac).sign key payload).toList = true := by
  rw [isAscii, List.all_eq_true]
  intro c member
  simpa using (Sha256.hex_plain member).2

/-- Under the code of a state a text gives that state or nothing. What any text gives is no
    older than allowed, unless its age or the limit is nan; and no text does harm. -/
theorem verify_guarded (injective : Function.Injective (mac key))
    (reads : read? now (write state) = some state) (begun : state.startedAt.isFinite = true)
    (moment : now.isFinite = true)
    (numeric : ∀ bound, limit = some bound → bound.isNumber = true) (token : String) :
    (code? token = code? ((keyed write read? mac).token key state) →
      (keyed write read? mac).verify key now limit token = none ∨
        (keyed write read? mac).verify key now limit token = some state) ∧
    now.sub state.startedAt ≠ .nan ∧
    (∀ bound given, limit = some bound →
      (keyed write read? mac).verify key now limit token = some given →
      bound ≠ .float .nan → now.sub given.startedAt ≠ .nan →
      Value.AtMost (.float (now.sub given.startedAt)) bound) ∧
    (keyed write read? mac).takeApart key now limit token =
      .ok ((keyed write read? mac).verify key now limit token) := by
  refine ⟨?_, Binary64.sub_ne_nan moment begun, ?_, takeApart_eq keyed_ascii numeric token⟩
  · intro same
    cases gives : (keyed write read? mac).verify key now limit token with
    | none => exact .inl rfl
    | some given => exact .inr (congrArg some (verify_of_code injective reads same gives))
  · rintro bound given rfl gives comparable aged
    obtain ⟨text, payload, -, -, -, young⟩ := verify_eq_some.mp gives
    exact age_atMost (numeric bound rfl) comparable aged young

end Guarded

/-- Other bytes under the code of a pet's state. -/
def petForged : String := "forged." ++ petScheme.sign [] petState.toBytes

theorem petForged_code : code? petForged = code? (petScheme.token [] petState) := by
  have undotted : '.' ∉ (petScheme.sign [] petState.toBytes).toList := keyed_undotted _
  have forged : petForged.toList =
      "forged".toList ++ '.' :: (petScheme.sign [] petState.toBytes).toList := by
    simp [petForged]
  rw [code?, code?, forged, split?_append undotted, split?_token undotted]
  rfl

theorem petForged_guarded :
    (petScheme.verify [] .zero (some (.int 60)) petForged = none ∨
      petScheme.verify [] .zero (some (.int 60)) petForged = some petState) ∧
    petScheme.takeApart [] .zero (some (.int 60)) petForged =
      .ok (petScheme.verify [] .zero (some (.int 60)) petForged) := by
  have numeric : ∀ bound, some (Value.int 60) = some bound → bound.isNumber = true := by
    rintro _ ⟨⟩
    rfl
  have guarded := verify_guarded (pinned_injective petState.toBytes []) petState_reads rfl rfl
    numeric petForged
  exact ⟨guarded.1 petForged_code, guarded.2.2.2⟩

/-- Nothing is too old for nan, and nothing is at most nan. -/
theorem petScheme_nan_limit :
    Function.Injective (pinned petState.toBytes []) ∧
    petScheme.verify [] .zero (some (.float .nan)) (petScheme.token [] petState) =
      some petState ∧
    ¬Value.AtMost (.float (Binary64.zero.sub petState.startedAt)) (.float .nan) := by
  refine ⟨pinned_injective .., verify_token _ petState_reads rfl, ?_⟩
  rintro ⟨a, b, -, place, -⟩
  cases place

end TokenScheme

end Formwork
