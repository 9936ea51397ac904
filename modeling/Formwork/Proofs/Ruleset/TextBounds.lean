import Formwork.Proofs.Ruleset.Declarations

/-! # The bounds of a text

A text that is not empty is accepted if and only if its length is within the bounds of its field
and the pattern, where it can be compiled, is found in the text. But a greatest length of zero asks
for nothing. So looser bounds accept whatever tighter ones do, unless the greatest length was zero.
-/

namespace Formwork

variable {characters : String → Option Char} {text : String}

/-! ## Bounds -/

namespace Rules

/-- A text keeps to the bounds as they are declared. -/
structure Admit (rules : Rules) (characters : String → Option Char) (text : String) : Prop where
  least : ∀ least, rules.minLength = some least → least ≤ (text.length : Int)
  most : ∀ most, rules.maxLength = some most → (text.length : Int) ≤ most
  pattern : ∀ source, rules.pattern = some source →
    ∀ node, Pattern.compile characters source = .ok node → node.search text = true

/-- The bounds that count: a greatest length of zero is none. -/
def counted (rules : Rules) : Rules :=
  { rules with maxLength := rules.maxLength.filter (· != 0) }

/-- Bounds that are no tighter: the least length is lower or none, the greatest one is higher or
    none. -/
structure Loosen (loose tight : Rules) : Prop where
  least : ∀ least, loose.minLength = some least →
    ∃ other, tight.minLength = some other ∧ least ≤ other
  most : ∀ most, loose.maxLength = some most →
    ∃ other, tight.maxLength = some other ∧ other ≤ most
  pattern : loose.pattern = tight.pattern

variable {loose tight : Rules}

theorem Admit.loosen (admits : tight.Admit characters text) (looser : loose.Loosen tight) :
    loose.Admit characters text where
  least least declared := by
    obtain ⟨other, before, lower⟩ := looser.least least declared
    exact Int.le_trans lower (admits.least other before)
  most most declared := by
    obtain ⟨other, before, higher⟩ := looser.most most declared
    exact Int.le_trans (admits.most other before) higher
  pattern source declared := admits.pattern source (looser.pattern ▸ declared)

theorem Loosen.counted (looser : loose.Loosen tight) (asks : tight.maxLength ≠ some 0) :
    loose.counted.Loosen tight.counted where
  least := looser.least
  most most declared := by
    obtain ⟨declared, -⟩ := Option.filter_eq_some_iff.mp declared
    obtain ⟨other, before, higher⟩ := looser.most most declared
    refine ⟨other, Option.filter_eq_some_iff.mpr ⟨before, bne_iff_ne.mpr ?_⟩, higher⟩
    rintro rfl
    exact asks before
  pattern := looser.pattern

end Rules

/-! ## The checks of a text -/

theorem Pattern.compile_empty : compile characters "" = .ok .empty := rfl

theorem Pattern.Node.search_empty (text : String) : Node.empty.search text = true :=
  List.any_eq_true.mpr ⟨0, List.mem_range.mpr (Nat.succ_pos _), rfl⟩

namespace Field

variable {field : Field} {pattern : Option Pattern.Node}

/-- No compiled pattern is missed if and only if what is declared is found or cannot be compiled.
    The empty pattern is not compiled, but it would be found in every text. -/
theorem any_compilePattern_eq_false_iff (compiled : field.compilePattern characters = .ok pattern) :
    (pattern.any fun node => !node.search text) = false ↔
      ∀ source, field.rules.pattern = some source →
        ∀ node, Pattern.compile characters source = .ok node → node.search text = true := by
  cases declared : field.rules.pattern with
  | none =>
      rw [compilePattern, declared] at compiled
      cases compiled
      simp
  | some source =>
      simp only [Option.some.injEq, forall_eq']
      by_cases none : source = ""
      · subst none
        rw [compilePattern, declared] at compiled
        cases compiled
        simp [Pattern.compile_empty, Pattern.Node.search_empty]
      · have asked : nonEmpty? (some source) = some source := by simp [nonEmpty?, none]
        rw [compilePattern, declared, asked] at compiled
        dsimp only at compiled
        split at compiled
        next node read =>
          cases compiled
          simp [read]
        next read =>
          cases compiled
          simp [read]
        next => cases compiled

theorem failures_eq_nil_iff {checks : List (Bool × String)} :
    field.failures checks = [] ↔ ∀ check ∈ checks, check.1 = false := by
  simp [failures]

/-- A text passes the checks if and only if it keeps to the bounds that count. A least length of
    zero or below is kept to by every text. -/
theorem checkText_eq_nil_iff (compiled : field.compilePattern characters = .ok pattern) :
    field.checkText pattern text = [] ↔ field.rules.counted.Admit characters text := by
  rw [checkText, failures_eq_nil_iff]
  simp only [List.forall_mem_cons, List.not_mem_nil, false_implies, implies_true, and_true,
    any_compilePattern_eq_false_iff compiled, Bool.and_eq_false_imp, bne_iff_ne,
    decide_eq_false_iff_not, Int.not_lt]
  constructor
  · rintro ⟨least, most, found⟩
    refine ⟨fun bound declared => ?_, fun bound declared => ?_, found⟩
    · have declared : field.rules.minLength = some bound := declared
      rw [declared, Option.getD_some] at least
      omega
    · obtain ⟨declared, asks⟩ := Option.filter_eq_some_iff.mp declared
      rw [declared, Option.getD_some] at most
      exact most (bne_iff_ne.mp asks)
  · intro admits
    refine ⟨fun asks => ?_, fun asks => ?_, admits.pattern⟩
    · cases declared : field.rules.minLength with
      | none => exact absurd (by rw [declared]; rfl) asks
      | some bound => exact admits.least bound declared
    · cases declared : field.rules.maxLength with
      | none => exact absurd (by rw [declared]; rfl) asks
      | some bound =>
          rw [declared] at asks
          exact admits.most bound (Option.filter_eq_some_iff.mpr ⟨declared, bne_iff_ne.mpr asks⟩)

end Field

namespace Ruleset

variable {options : CompileOptions} {schema : Schema} {rules : Ruleset} {field : Field}
  {values : Entries Value} {visibility : Option Visibility}

/-! ## The check that counts for a name -/

theorem mem_compileFields_iff {fields : List Field} {checks : List CompiledField}
    (compiled : compileFields options fields = .ok checks) (check : CompiledField) :
    check ∈ checks ↔ ∃ field ∈ fields, field.compile options = .ok check := by
  induction fields generalizing checks with
  | nil =>
      cases compiled
      simp
  | cons field rest ih =>
      obtain ⟨first, others, one, more, rfl⟩ := compileFields_cons compiled
      simp only [List.mem_cons, exists_eq_or_imp, one, Except.ok.injEq, ih more, @eq_comm _ first]

/-- A name has no errors if and only if it is hidden or the check of the field that counts for it
    finds nothing. -/
theorem get?_checkFields_eq_none_iff (compiled : Ruleset.compile options schema = .ok rules)
    {name : String} (declared : schema.field? name = some field) {check : CompiledField}
    (one : field.compile options = .ok check) :
    (rules.checkFields values visibility).errors.get? name = none ↔
      (isShown visibility name = true → check.check values = []) := by
  have listed := mem_compileFields_iff (compile_parts compiled).1
  have named : check.name = name := by
    rw [CompiledField.name, (compile_field one).1, Field.name_of_last? declared]
  have unique : ∀ other ∈ rules.fields, other.name = name → other = check := by
    intro other member same
    obtain ⟨field', member', one'⟩ := (listed other).mp member
    have named' : field'.name = name := by
      rw [← (compile_field one').1]
      exact same
    have declared' := Schema.field?_of_mem_effectiveFields member'
    rw [named', declared] at declared'
    cases declared'
    exact Except.ok.inj (one'.symm.trans one)
  rw [checkFields_errors, Entries.get?_eq_none_iff, mem_names_wanting]
  constructor
  · intro none shown
    by_contra some
    exact none ⟨check, (listed check).mpr ⟨field, Schema.mem_effectiveFields declared, one⟩,
      named.symm ▸ shown, some, named⟩
  · rintro passes ⟨other, member, shown, some, same⟩
    cases unique other member same
    exact some (passes (named ▸ shown))

/-! ## The errors of a text -/

/-- A field of a form has a text that is not empty: the field is shown, it is one of the two types
    of text, and the type has the rule it is known by. -/
structure Enters (options : CompileOptions) (schema : Schema) (rules : Ruleset) (field : Field)
    (values : Entries Value) (visibility : Option Visibility) (text : String) : Prop where
  compiled : Ruleset.compile options schema = .ok rules
  declared : schema.field? field.name = some field
  type : field.type = "string" ∨ field.type = "textarea"
  known : options.fieldTypes.get? field.type = none
  shown : isShown visibility field.name = true
  value : values.get? field.name = some (.str text)
  filled : text ≠ ""

theorem resolve_of_text {types : Entries FieldType} {tag : String}
    (type : tag = "string" ∨ tag = "textarea") (known : types.get? tag = none) :
    (FieldType.resolve types tag).shape = .text ∧
      (FieldType.resolve types tag).emptiness = .common := by
  rw [FieldType.resolve, known, Option.none_or]
  rcases type with rfl | rfl
  · exact ⟨rfl, rfl⟩
  · exact ⟨rfl, rfl⟩

theorem compilePattern_of_compile {check : CompiledField}
    (one : field.compile options = .ok check) :
    field.compilePattern options.characters = .ok check.pattern := by
  unfold Field.compile at one
  cases read : field.compilePattern options.characters with
  | error error =>
      rw [read] at one
      cases one
  | ok pattern =>
      rw [read] at one
      cases one
      rfl

theorem Enters.check_eq (enters : Enters options schema rules field values visibility text)
    {check : CompiledField} (one : field.compile options = .ok check) :
    check.check values = field.checkText check.pattern text := by
  obtain ⟨same, rule⟩ := compile_field one
  obtain ⟨shape, emptiness⟩ := resolve_of_text enters.type enters.known
  have value : values.value field.name = .str text := by
    rw [Entries.value, enters.value]
    rfl
  have filled : Emptiness.common.holds (.str text) = false := beq_false_of_ne enters.filled
  rw [CompiledField.check, CompiledField.name, same, rule, emptiness, value, filled, shape]
  rfl

theorem Enters.get?_eq_none_iff
    (enters : Enters options schema rules field values visibility text) :
    (rules.checkFields values visibility).errors.get? field.name = none ↔
      field.rules.counted.Admit options.characters text := by
  obtain ⟨check, -, one⟩ := compile_declared enters.compiled enters.declared
  rw [get?_checkFields_eq_none_iff enters.compiled enters.declared one, enters.check_eq one,
    Field.checkText_eq_nil_iff (compilePattern_of_compile one)]
  exact forall_prop_of_true enters.shown

/-- A text that is not empty has no errors if and only if it keeps to the bounds that count. A text
    without errors has none under looser bounds, but for those in the place of a greatest length of
    zero. Patterns may name the same characters both times. -/
theorem text_bounds (enters : Enters options schema rules field values visibility text) :
    ((rules.checkFields values visibility).errors.get? field.name = none ↔
      field.rules.counted.Admit options.characters text) ∧
    ∀ options' schema' rules' field' values' visibility',
      options'.characters = options.characters →
      Enters options' schema' rules' field' values' visibility' text →
      field'.rules.Loosen field.rules → field.rules.maxLength ≠ some 0 →
      (rules.checkFields values visibility).errors.get? field.name = none →
      (rules'.checkFields values' visibility').errors.get? field'.name = none := by
  refine ⟨enters.get?_eq_none_iff, ?_⟩
  intro options' schema' rules' field' values' visibility' same enters' looser asks accepted
  rw [enters.get?_eq_none_iff] at accepted
  rw [enters'.get?_eq_none_iff, same]
  exact accepted.loosen (looser.counted asks)

/-- The name of a pet, within bounds and with a capital first. -/
def boundedField (least most : Option Int) : Field :=
  { name := "petName", type := "textarea"
    rules := { minLength := least, maxLength := most, pattern := some "^[A-Z]" } }

def boundedForm (least most : Option Int) : Schema :=
  { title := "Pet", body := .flat [boundedField least most] }

def boundedRules (least most : Option Int) : Ruleset :=
  (compile {} (boundedForm least most)).toOption.getD default

theorem boundedField_enters (least most : Option Int) :
    Enters {} (boundedForm least most) (boundedRules least most) (boundedField least most)
      [("petName", .str "Rex")] none "Rex" where
  compiled := rfl
  declared := rfl
  type := .inr rfl
  known := rfl
  shown := rfl
  value := rfl
  filled := by decide

theorem boundedField_loosen {least : Option Int} {lower higher : Int} (raised : lower ≤ higher) :
    (boundedField none (some higher)).rules.Loosen (boundedField least (some lower)).rules where
  least _ none := nomatch none
  most := by
    rintro most ⟨⟩
    exact ⟨lower, rfl, raised⟩
  pattern := rfl

theorem boundedField_text_bounds :
    (boundedField (some 2) (some 3)).rules.counted.Admit (fun _ => none) "Rex" ∧
      ((boundedRules none (some 4)).checkFields [("petName", .str "Rex")] none).errors.get?
        "petName" = none :=
  have bounds := text_bounds (boundedField_enters (some 2) (some 3))
  have looser := boundedField_loosen (show (3 : Int) ≤ 4 by decide)
  ⟨bounds.1.mp rfl,
    bounds.2 _ _ _ _ _ _ rfl (boundedField_enters none (some 4)) looser (by decide) rfl⟩

/-- A greatest length of zero is not kept to by a text that is accepted, and the text is no longer
    accepted where the greatest length is one. -/
theorem zero_bounds_nothing :
    (¬∀ options schema rules field values visibility text,
      Enters options schema rules field values visibility text →
      ((rules.checkFields values visibility).errors.get? field.name = none ↔
        field.rules.Admit options.characters text)) ∧
    ¬∀ options schema schema' rules rules' field field' values visibility text,
      Enters options schema rules field values visibility text →
      Enters options schema' rules' field' values visibility text →
      field'.rules.Loosen field.rules →
      (rules.checkFields values visibility).errors.get? field.name = none →
      (rules'.checkFields values visibility).errors.get? field'.name = none := by
  constructor
  · intro declared
    have admits := (declared _ _ _ _ _ _ _ (boundedField_enters none (some 0))).mp rfl
    exact absurd (admits.most 0 rfl) (by decide)
  · intro looser
    have raised : (0 : Int) ≤ 1 := by decide
    have accepted := looser _ _ _ _ _ _ _ _ _ _ (boundedField_enters none (some 0))
      (boundedField_enters none (some 1)) (boundedField_loosen raised) rfl
    exact absurd accepted (by decide +kernel)

end Ruleset

end Formwork
