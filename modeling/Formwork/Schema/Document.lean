import Formwork.Schema.Reader

/-! # Writing schemas

The document of a schema: every key that the library knows, null when unset, and after
them the keys that were kept.
-/

namespace Formwork

def Value.orNull {α : Type} (write : α → Value) : Option α → Value
  | some value => write value
  | none => .null

def Value.strings (names : List String) : Value := .list (names.map .str)

namespace Condition

mutual

def toValue : Condition → Value
  | ⟨field, operator, value, equals, some children, combinator⟩ => .object
      [("field", Value.orNull .str field), ("operator", Value.orNull .str operator),
       ("value", value), ("equals", equals.getD .null),
       ("conditions", .list (toValues children)),
       (combinatorKey.name, Value.orNull .str combinator)]
  | ⟨field, operator, value, equals, none, combinator⟩ => .object
      [("field", Value.orNull .str field), ("operator", Value.orNull .str operator),
       ("value", value), ("equals", equals.getD .null), ("conditions", .null),
       (combinatorKey.name, Value.orNull .str combinator)]

def toValues : List Condition → List Value
  | [] => []
  | c :: rest => toValue c :: toValues rest

end

end Condition

/-- The document of a reference to a validator over several fields. -/
def CrossFieldReference.toValue (reference : CrossFieldReference) : Value := .object
  [("fields", Value.strings reference.fields), ("validator", .str reference.validator)]

def AsyncReference.toValue (reference : AsyncReference) : Value := .object
  [("name", .str reference.validator), ("params", Value.strings reference.companions)]

def Rules.toValue (rules : Rules) : Value := .object <|
  [(requiredKey.name, .bool rules.required), (minKey.name, Value.orNull .float rules.min),
   (maxKey.name, Value.orNull .float rules.max),
   (minLengthKey.name, Value.orNull .int rules.minLength),
   (maxLengthKey.name, Value.orNull .int rules.maxLength),
   (patternKey.name, Value.orNull .str rules.pattern),
   (errorMessageKey.name, Value.orNull .str rules.errorMessage),
   (crossFieldKey.name, Value.orNull CrossFieldReference.toValue rules.crossField),
   (asyncKey.name, Value.orNull AsyncReference.toValue rules.async)] ++ rules.extra

def Field.toValue (field : Field) : Value := .object <|
  [(nameKey.name, .str field.name), (typeKey.name, .str field.type),
   (labelKey.name, Value.orNull .str field.label),
   (placeholderKey.name, Value.orNull .str field.placeholder),
   (helpTextKey.name, Value.orNull .str field.helpText),
   (tooltipKey.name, Value.orNull .str field.tooltip),
   (optionsKey.name, Value.orNull Value.strings field.options),
   (rulesKey.name, field.rules.toValue),
   (conditionKey.name, Value.orNull Condition.toValue field.condition),
   (dependsOnKey.name, Value.orNull .str field.dependsOn),
   (optionsMapKey.name,
    Value.orNull (fun options => .object (Entries.mapValues Value.strings options))
      field.optionsMap)]
    ++ field.extra

def Section.toValue (step : Section) : Value := .object
  [("title", .str step.title), ("description", Value.orNull .str step.description),
   ("fields", .list (step.fields.map Field.toValue))]

def Layout.toValue (layout : Layout) : Value := .object
  [("columns", Value.orNull .int layout.columns),
   ("fields", Value.orNull Value.strings layout.fields)]

namespace Body

/-- The list of fields of a flat form. -/
def fieldsValue : Body → Value
  | .flat fields => .list (fields.map Field.toValue)
  | .stepped _ => .null

def sectionsValue : Body → Value
  | .flat _ => .null
  | .stepped sections => .list (sections.map Section.toValue)

end Body

def Schema.toValue (schema : Schema) : Value := .object
  [("formTitle", .str schema.title), ("formDescription", .str schema.description),
   ("fields", schema.body.fieldsValue), ("sections", schema.body.sectionsValue),
   ("layout", Value.orNull Layout.toValue schema.layout)]

end Formwork
