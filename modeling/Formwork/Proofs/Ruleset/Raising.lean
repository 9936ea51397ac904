import Formwork.Proofs.Ruleset.Validation

/-! # Validations that may break off

A validation as a host runs it, where a failure that nothing deals with ends the whole. Failures of
validators are dealt with at their calls. One thing is left: a host may refuse to write out numbers
of many digits, and then a bound that long has no message.
-/

namespace Formwork

/-- A failure on its way out. -/
inductive Raised where
  | validator (fault : HostFault)
  | digits
  deriving DecidableEq

/-- What a validator comes back with, to whoever called it. -/
def Reply.hand : Reply → Except Raised Value
  | .answers answer => .ok answer
  | .fails fault => .error (.validator fault)

variable {limit : Option Nat} {values : Entries Value} {visibility : Option Visibility}
  {rules : Ruleset}

/-- A number has more digits than a host writes out, if it has a limit. -/
def TooLong (limit : Option Nat) (n : Int) : Prop :=
  ∃ most, limit = some most ∧ most < (toString n.natAbs).length

instance (limit : Option Nat) (n : Int) : Decidable (TooLong limit n) :=
  decidable_of_iff (limit.any (· < (toString n.natAbs).length) = true) <| by
    cases limit <;> simp [TooLong]

/-- A computation breaks off if something is the case, and gives a result otherwise. -/
structure Comes {α : Type} (x : Except Raised α) (broken : Prop) (a : α) : Prop where
  breaks : broken → x = .error .digits
  gives : ¬broken → x = .ok a

namespace Comes

variable {α β : Type} {x : Except Raised α} {f : α → Except Raised β} {p q : Prop} {a : α} {b : β}

theorem pure (a : α) : Comes (Pure.pure a) False a := ⟨nofun, fun _ => rfl⟩

theorem congr (comes : Comes x p a) (same : p ↔ q) : Comes x q a :=
  ⟨fun broken => comes.breaks (same.mpr broken), fun whole => comes.gives (mt same.mp whole)⟩

theorem bind (first : Comes x p a) (second : Comes (f a) q b) : Comes (x >>= f) (p ∨ q) b := by
  by_cases broken : p
  · exact ⟨fun _ => by rw [first.breaks broken]; rfl, fun whole => absurd (.inl broken) whole⟩
  · rw [first.gives broken]
    exact second.congr (or_iff_right broken).symm

theorem map (first : Comes x p a) (g : α → β) : Comes (x >>= fun a => Pure.pure (g a)) p (g a) :=
  (first.bind (.pure (g a))).congr (or_iff_left id)

theorem foldlM {step : β → α → Except Raised β} {plain : β → α → β} {broken : α → Prop}
    (each : ∀ b a, Comes (step b a) (broken a) (plain b a)) (items : List α) (b : β) :
    Comes (items.foldlM step b) (∃ a ∈ items, broken a) (items.foldl plain b) := by
  induction items generalizing b with
  | nil => exact (Comes.pure b).congr (by simp)
  | cons a rest ih =>
      rw [List.foldlM_cons, List.foldl_cons]
      exact ((each b a).bind (ih _)).congr (by simp)

end Comes

/-! ## One field -/

namespace Field

variable {field : Field} {pattern : Option Pattern.Node} {shape : Shape} {value : Value}
  {text : String}

def written (limit : Option Nat) (n : Int) : Except Raised String :=
  if TooLong limit n then throw .digits else return toString n

def writtenBound (limit : Option Nat) (bound : Binary64) : Except Raised String :=
  match bound.toInt? with
  | some n => written limit n
  | none => return DecimalStyle.message.write bound

/-- The message of a bound that is missed. It quotes the bound, even if the field has a message of
    its own. -/
def quoting {α : Type} (field : Field) (missed : α → Bool) (before : String)
    (write : α → Except Raised String) (after : String) : Option α → Except Raised (List String)
  | some bound => do
      if !missed bound then return []
      let quoted ← write bound
      return [field.message (before ++ quoted ++ after)]
  | none => return []

def textMessages (limit : Option Nat) (field : Field) (pattern : Option Pattern.Node)
    (text : String) : Except Raised (List String) := do
  let short ← field.quoting (fun least => least != 0 && decide ((text.length : Int) < least))
    "Must be at least " (written limit) " characters" field.rules.minLength
  let long ← field.quoting (fun most => most != 0 && decide (most < (text.length : Int)))
    "Must be at most " (written limit) " characters" field.rules.maxLength
  return short ++ long ++
    field.failures [(pattern.any fun node => !node.search text, "Invalid format")]

def numberMessages (limit : Option Nat) (field : Field) (value : Value) :
    Except Raised (List String) := do
  let under ← field.quoting (fun least => value.numberBelow (.float least)) "Must be at least "
    (writtenBound limit) "" field.rules.min
  let above ← field.quoting (fun most => Value.numberBelow (.float most) value) "Must be at most "
    (writtenBound limit) "" field.rules.max
  return under ++ above

/-- The messages of a value that is not empty, with the bounds in them written out. -/
def shapeMessages (limit : Option Nat) (field : Field) (shape : Shape)
    (pattern : Option Pattern.Node) (value : Value) (values : Entries Value) :
    Except Raised (List String) :=
  match shape, value with
  | .text, .str text => field.textMessages limit pattern text
  | .number, value =>
      if value.isNumber then field.numberMessages limit value
      else return [field.message "Expected a number"]
  | shape, value => return field.checkShape shape pattern value values

/-- A value misses a bound that is too long to be written out. -/
inductive Overlong (limit : Option Nat) (field : Field) : Shape → Value → Prop
  | short {text : String} {least : Int} : field.rules.minLength = some least →
      (text.length : Int) < least → TooLong limit least → Overlong limit field .text (.str text)
  | long {text : String} {most : Int} : field.rules.maxLength = some most → most ≠ 0 →
      most < (text.length : Int) → TooLong limit most → Overlong limit field .text (.str text)
  | under {value : Value} {bound : Binary64} {n : Int} : value.isNumber = true →
      field.rules.min = some bound → value.numberBelow (.float bound) = true →
      bound.toInt? = some n → TooLong limit n → Overlong limit field .number value
  | above {value : Value} {bound : Binary64} {n : Int} : value.isNumber = true →
      field.rules.max = some bound → Value.numberBelow (.float bound) value = true →
      bound.toInt? = some n → TooLong limit n → Overlong limit field .number value

end Field

namespace CompiledField

/-- The messages for the current values, with the bounds in them written out. -/
def messages (limit : Option Nat) (compiled : CompiledField) (values : Entries Value) :
    Except Raised (List String) :=
  let value := values.value compiled.name
  if compiled.type.emptiness.holds value then
    return if compiled.field.rules.required then [compiled.requiredMessage] else []
  else compiled.field.shapeMessages limit compiled.type.shape compiled.pattern value values

/-- The field has a value, and this misses a bound that is too long to be written out. -/
def Overlong (limit : Option Nat) (compiled : CompiledField) (values : Entries Value) : Prop :=
  compiled.type.emptiness.holds (values.value compiled.name) = false ∧
    compiled.field.Overlong limit compiled.type.shape (values.value compiled.name)

end CompiledField

/-! ## Validators -/

/-- Whether the validator has nothing against the values. That it fails is dealt with here. -/
def CrossFieldCheck.passes (check : CrossFieldCheck) (values : Entries Value) :
    Except Raised Bool :=
  tryCatch
    (do
      let answer ← (check.function (check.restricted values) check.targets).hand
      return answer.truthy)
    fun _ => return true

/-- What is said of the field, if anything. That the validator fails is dealt with here. -/
def AsyncCheck.message? (asyncErrorMessage : String) (check : AsyncCheck)
    (values : Entries Value) : Except Raised (Option String) :=
  tryCatch
    (do
      let answer ← (check.function (check.arguments values)).hand
      return if answer.truthy then none else some check.message)
    fun _ => return some asyncErrorMessage

theorem CrossFieldCheck.passes_eq (check : CrossFieldCheck) :
    check.passes values = .ok (check.complaint? values).isNone := by
  have asked : (check.call values).reply =
    check.function (check.restricted values) check.targets := rfl
  unfold passes complaint?
  rw [← asked]
  cases (check.call values).reply with
  | fails fault => rfl
  | answers answer =>
      dsimp only
      cases truthy : answer.truthy <;> simp [Reply.hand, truthy] <;> rfl

namespace Ruleset

/-! ## A whole validation -/

def fieldErrors (limit : Option Nat) (rules : Ruleset) (values : Entries Value)
    (visibility : Option Visibility) : Except Raised Errors :=
  rules.fields.foldlM (fun (errors : Errors) compiled => do
    if !isShown visibility compiled.name then return errors
    let messages ← compiled.messages limit values
    return if messages.isEmpty then errors else Entries.put errors compiled.name messages) []

def crossFieldErrors (rules : Ruleset) (values : Entries Value)
    (visibility : Option Visibility) : Except Raised Errors :=
  rules.crossField.foldlM (fun (errors : Errors) check => do
    if !check.isActive visibility then return errors
    return if ← check.passes values then errors
      else errors.addToAll check.targets check.message) []

/-- All validators are asked before the first answer is looked at. -/
def asyncErrors (rules : Ruleset) (values : Entries Value) (visibility : Option Visibility) :
    Except Raised Errors := do
  let pending := rules.async.filter (·.isActive values visibility)
  let messages ← pending.mapM (·.message? rules.asyncErrorMessage values)
  return (pending.zip messages).foldl (fun (errors : Errors) (check, message) =>
    message.elim errors (errors.add check.field)) []

/-- A validation as a host runs it. -/
def carryOut (limit : Option Nat) (rules : Ruleset) (values : Entries Value)
    (visibility : Option Visibility) : Except Raised Outcome := do
  let errors ← rules.fieldErrors limit values visibility
  if !errors.isEmpty then return { valid := false, errors }
  let errors ← rules.crossFieldErrors values visibility
  if !errors.isEmpty then return { valid := false, errors }
  let errors ← rules.asyncErrors values visibility
  return { valid := errors.isEmpty, errors }

end Ruleset

end Formwork
