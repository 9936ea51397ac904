import Formwork.Condition.Basic

/-! # Form schemas

A form is declared as fields, either in one list or in titled sections that make the
steps of a longer form.
-/

namespace Formwork

/-- Use of a registered validator over several fields. -/
structure CrossFieldReference where
  fields : List String
  validator : String
  deriving Repr, DecidableEq

/-- Use of a registered asynchronous validator, with the fields whose values it is
    given beside the field's own. -/
structure AsyncReference where
  validator : String
  companions : List String
  deriving Repr, DecidableEq

/-- The validation block of a field. -/
structure Rules where
  required : Bool := false
  min : Option Binary64 := none
  max : Option Binary64 := none
  minLength : Option Int := none
  maxLength : Option Int := none
  pattern : Option String := none
  errorMessage : Option String := none
  crossField : Option CrossFieldReference := none
  async : Option AsyncReference := none
  /-- Keys of the block that the library does not know. -/
  extra : Entries Value := []
  deriving Repr, Inhabited

/-- A named, typed input. The type is an open tag. -/
structure Field where
  name : String
  type : String := "string"
  label : Option String := none
  placeholder : Option String := none
  helpText : Option String := none
  tooltip : Option String := none
  options : Option (List String) := none
  rules : Rules := {}
  condition : Option Condition := none
  /-- The field whose value selects the options. -/
  dependsOn : Option String := none
  /-- The options for each value of the controlling field. -/
  optionsMap : Option (Entries (List String)) := none
  /-- Keys of the field that the library does not know. -/
  extra : Entries Value := []
  deriving Repr, Inhabited

/-- A titled group of fields; one step of a longer form. -/
structure Section where
  title : String
  description : Option String := none
  fields : List Field := []
  deriving Repr, Inhabited

/-- A hint to whoever draws the form. -/
structure Layout where
  columns : Option Int := none
  fields : Option (List String) := none
  deriving Repr, DecidableEq

/-- The fields of a form: one list, or sections. -/
inductive Body where
  | flat (fields : List Field)
  | stepped (sections : List Section)
  deriving Repr, Inhabited

/-- A form. -/
structure Schema where
  title : String
  description : String := ""
  body : Body
  layout : Option Layout := none
  deriving Repr, Inhabited

namespace Field

/-- The options that apply under the current values. With a controlling field they
    follow its value, and there are none when it selects none. -/
def optionsFor (field : Field) (values : Entries Value) : Option (List String) :=
  match field.dependsOn, field.optionsMap with
  | some controlling, some options =>
      if controlling = "" then field.options
      else match values.get? controlling with
        | some (.str selected) => some ((options.get? selected).getD [])
        | _ => some []
  | _, _ => field.options

end Field

namespace Schema

/-- The sections; a flat form has none. -/
def sections (schema : Schema) : List Section :=
  match schema.body with
  | .flat _ => []
  | .stepped sections => sections

/-- All fields, in order of declaration. -/
def fields (schema : Schema) : List Field :=
  match schema.body with
  | .flat fields => fields
  | .stepped sections => sections.flatMap (·.fields)

/-- The names of all fields, in order of declaration. -/
def fieldNames (schema : Schema) : List String := schema.fields.map (·.name)

def isMultiStep (schema : Schema) : Bool := !schema.sections.isEmpty

/-- The field of a name; its last declaration wins. -/
def field? (schema : Schema) (name : String) : Option Field :=
  schema.fields.reverse.find? (·.name = name)

/-- The form of one section alone. -/
def ofSection (schema : Schema) (step : Section) : Schema :=
  { schema with body := .stepped [step] }

/-- The form of the section at an index; a negative index counts from the end. -/
def sectionSchema? (schema : Schema) (index : Int) : Option Schema :=
  let position := if index < 0 then index + schema.sections.length else index
  if position < 0 then none
  else (schema.sections[position.toNat]?).map schema.ofSection

def conditions (schema : Schema) : List Condition := schema.fields.filterMap (·.condition)

end Schema

end Formwork
