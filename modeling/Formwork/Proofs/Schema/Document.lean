import Formwork.Proofs.Condition.Document
import Formwork.Proofs.Reading
import Formwork.Schema.Check

/-! # Schemas as documents

A schema that was read from a document reads back from its own, except that its conditions then
have the older form of equality spelled out, as null where it was not given. The document of what
is read back is the same, so one reading settles whatever a document leaves open: the spelling of
keys, the kinds of values, defaults and nulls. This does not depend on what else stands in for a
number, say, but only on the laws of the scheme of reading.
-/

namespace Formwork

variable {scheme : ReadingScheme}

namespace Condition

/-- The condition with the older form of equality given in it, throughout. -/
def spelledOut (c : Condition) : Condition := c.mapEquals (equalsBack true)

mutual

theorem toValue_eq : ∀ c : Condition, c.toValue = c.toDocument true
  | ⟨field, operator, _, equals, none, combinator⟩ => by
      cases field <;> cases operator <;> cases equals <;> cases combinator <;> rfl
  | ⟨field, operator, value, equals, some children, combinator⟩ => by
      rw [toValue, toValues_eq children]
      cases field <;> cases operator <;> cases equals <;> cases combinator <;> rfl

theorem toValues_eq : ∀ cs : List Condition, toValues cs = itemsToDocuments true cs
  | [] => rfl
  | c :: rest => by rw [toValues, itemsToDocuments, toValue_eq c, toValues_eq rest]

end

theorem readBy_toValue (lawful : scheme.Lawful) (c : Condition) :
    readBy scheme c.toValue = .read c.spelledOut := by
  rw [toValue_eq, readBy_toDocument lawful]
  rfl

mutual

theorem depth_mapEquals (f : Option Value → Option Value) :
    ∀ c : Condition, (c.mapEquals f).depth = c.depth
  | ⟨_, _, _, _, none, _⟩ => rfl
  | ⟨_, _, _, _, some children, _⟩ => by
      simp [mapEquals, mapChildren, depth, depthOfAll_mapItems f children]

theorem depthOfAll_mapItems (f : Option Value → Option Value) :
    ∀ cs : List Condition, depthOfAll (mapItems f cs) = depthOfAll cs
  | [] => rfl
  | c :: rest => by
      simp [mapItems, depthOfAll, depth_mapEquals f c, depthOfAll_mapItems f rest]

end

theorem readInside_toValue (lawful : scheme.Lawful) {c : Condition}
    (admitted : scheme.admits c.depth = true) :
    readInside scheme c.toValue = .read c.spelledOut := by
  have still : scheme.admits c.spelledOut.depth = true := by
    rw [spelledOut, depth_mapEquals, admitted]
  rw [readInside, readBy_toValue lawful, Reading.andThen, if_pos still]

theorem ensures_readInside (value : Value) :
    (readInside scheme value).Ensures fun c => scheme.admits c.depth = true := by
  simp only [readInside, Reading.ensures_andThen]
  intro c _
  split
  next admitted => simpa using admitted
  next => exact Reading.ensures_refuse _

theorem toValue_ne_null : ∀ c : Condition, c.toValue ≠ .null
  | ⟨_, _, _, _, none, _⟩ => nofun
  | ⟨_, _, _, _, some _, _⟩ => nofun

mutual

theorem toValue_spelledOut : ∀ c : Condition, c.spelledOut.toValue = c.toValue
  | ⟨_, _, _, _, none, _⟩ => rfl
  | ⟨_, _, _, _, some children, _⟩ => by
      simp [spelledOut, mapEquals, mapChildren, toValue, toValues_spelledOut children, equalsBack]

theorem toValues_spelledOut : ∀ cs : List Condition,
    toValues (mapItems (equalsBack true) cs) = toValues cs
  | [] => rfl
  | c :: rest => by
      have first := toValue_spelledOut c
      rw [spelledOut] at first
      rw [mapItems, toValues, toValues, first, toValues_spelledOut rest]

end

mutual

theorem references_mapEquals (f : Option Value → Option Value) :
    ∀ c : Condition, (c.mapEquals f).references = c.references
  | ⟨_, _, _, _, none, _⟩ => rfl
  | ⟨_, _, _, _, some [], _⟩ => rfl
  | ⟨_, _, _, _, some (child :: rest), _⟩ => by
      simp [mapEquals, mapChildren, mapItems, references, references_mapEquals f child,
        referencesOfAll_mapItems f rest]

theorem referencesOfAll_mapItems (f : Option Value → Option Value) :
    ∀ cs : List Condition, referencesOfAll (mapItems f cs) = referencesOfAll cs
  | [] => rfl
  | c :: rest => by
      simp [mapItems, referencesOfAll, references_mapEquals f c, referencesOfAll_mapItems f rest]

end

end Condition

theorem CrossFieldReference.record_toValue (lawful : scheme.Lawful)
    (reference : CrossFieldReference) :
    Reader.record (ofEntries scheme) reference.toValue = .read reference := by
  simp [toValue, Reader.record, ofEntries, Key.withDefault, Key.required, lawful.found, Key.plain,
    Entries.has, Entries.get?, Reader.list_strings, Reader.string]

theorem AsyncReference.record_toValue (lawful : scheme.Lawful) (reference : AsyncReference) :
    Reader.record (ofEntries scheme) reference.toValue = .read reference := by
  simp [toValue, Reader.record, ofEntries, Key.withDefault, Key.required, lawful.found, Key.plain,
    Entries.has, Entries.get?, Reader.list_strings, Reader.string]

namespace Rules

/-- The keys that the block keeps are none that it knows. -/
def KeepsOthers (rules : Rules) : Prop := Key.Free keys rules.extra

theorem ensures_ofEntries (lawful : scheme.Lawful) (document : Entries Value) :
    (ofEntries scheme document).Ensures KeepsOthers := by
  simp [ofEntries, KeepsOthers, lawful.free]

theorem record_toValue (lawful : scheme.Lawful) {rules : Rules} (keeps : rules.KeepsOthers) :
    Reader.record (ofEntries scheme) rules.toValue = .read rules := by
  have int := Reader.optional_orNull scheme.int .int lawful.int nofun
  have float := Reader.optional_orNull scheme.float .float lawful.float nofun
  have text := Reader.optional_orNull Reader.string .str (fun _ => rfl) nofun
  have crossField := Reader.optional_orNull (Reader.record (CrossFieldReference.ofEntries scheme)) _
    (CrossFieldReference.record_toValue lawful) nofun
  have async := Reader.optional_orNull (Reader.record (AsyncReference.ofEntries scheme)) _
    (AsyncReference.record_toValue lawful) nofun
  rw [toValue, Reader.record, ofEntries, lawful.unclaimed_append _ keeps]
  · simp [requiredKey, minKey, maxKey, minLengthKey, maxLengthKey, patternKey, errorMessageKey,
      crossFieldKey, asyncKey, Key.optional, Key.withDefault, lawful.found, Key.plain, Entries.has,
      Entries.get?, lawful.bool, int, float, text, crossField, async]
  · rfl

end Rules

namespace Field

/-- What the field and its validation block keep besides is none of their keys, and the condition
    is not too deep. -/
structure ReadsBack (scheme : ReadingScheme) (field : Field) : Prop where
  rules : field.rules.KeepsOthers
  extra : Key.Free keys field.extra
  condition : ∀ c ∈ field.condition, scheme.admits c.depth = true

theorem ensures_ofEntries (lawful : scheme.Lawful) (document : Entries Value) :
    (ofEntries scheme document).Ensures (ReadsBack scheme) := by
  have block : (rulesKey.withDefault scheme {} (Reader.record (Rules.ofEntries scheme))
      document).Ensures Rules.KeepsOthers :=
    Key.ensures_withDefault nofun (Reader.ensures_record (Rules.ensures_ofEntries lawful)) _ _
  have inside : (conditionKey.optional scheme (Condition.readInside scheme) document).Ensures
      fun read => ∀ c ∈ read, scheme.admits c.depth = true :=
    Key.ensures_optional Condition.ensures_readInside conditionKey document
  simp only [ofEntries, Reading.ensures_seq, Reading.ensures_map, Reading.ensures_read]
  intro name _ type _ label _ placeholder _ help _ tooltip _ options _ rules isRules condition
    isCondition dependsOn _ optionsMap _
  exact ⟨block rules isRules, lawful.free keys document, inside condition isCondition⟩

/-- The field with the older form of equality spelled out in its condition. -/
def spelledOut (field : Field) : Field :=
  { field with condition := field.condition.map Condition.spelledOut }

theorem record_toValue (lawful : scheme.Lawful) {field : Field} (back : field.ReadsBack scheme) :
    Reader.record (ofEntries scheme) field.toValue = .read field.spelledOut := by
  have text := Reader.optional_orNull Reader.string .str (fun _ => rfl) nofun
  have texts := Reader.optional_orNull (Reader.list Reader.string) _ Reader.list_strings nofun
  have condition := Reader.optional_orNull_map (Condition.readInside scheme) _
    Condition.toValue_ne_null fun c given =>
      Condition.readInside_toValue lawful (back.condition c given)
  have map := Reader.optional_orNull (Reader.object (Reader.list Reader.string)) _
    (Reader.object_mapValues Reader.list_strings) nofun
  rw [toValue, Reader.record, ofEntries, lawful.unclaimed_append _ back.extra]
  · simp [nameKey, typeKey, labelKey, placeholderKey, helpTextKey, tooltipKey, optionsKey, rulesKey,
      conditionKey, dependsOnKey, optionsMapKey, Key.required, Key.optional, Key.withDefault,
      lawful.found, Key.plain, Entries.has, Entries.get?, Reader.string, text, texts, condition,
      map, Rules.record_toValue lawful back.rules, spelledOut]
  · rfl

theorem toValue_spelledOut (field : Field) : field.spelledOut.toValue = field.toValue := by
  cases conditional : field.condition with
  | none => simp [toValue, spelledOut, conditional]
  | some c => simp [toValue, spelledOut, conditional, Value.orNull, c.toValue_spelledOut]

theorem list_toValue (lawful : scheme.Lawful) {fields : List Field}
    (back : ∀ field ∈ fields, field.ReadsBack scheme) :
    Reader.list (Reader.record (ofEntries scheme)) (.list (fields.map toValue)) =
      .read (fields.map spelledOut) :=
  Reader.list_map fun field member => record_toValue lawful (back field member)

theorem toValues_spelledOut (fields : List Field) :
    (fields.map spelledOut).map toValue = fields.map toValue := by
  simp [Function.comp_def, toValue_spelledOut]

end Field

namespace Section

theorem ensures_ofEntries (lawful : scheme.Lawful) (document : Entries Value) :
    (ofEntries scheme document).Ensures fun step =>
      ∀ field ∈ step.fields, field.ReadsBack scheme := by
  have fields := Reader.ensures_list (Reader.ensures_record (Field.ensures_ofEntries lawful))
  simp only [ofEntries, Reading.ensures_seq, Reading.ensures_map]
  intro title _ description _
  exact Key.ensures_withDefault (List.forall_mem_nil (Field.ReadsBack scheme)) fields _ document

/-- The section with the older form of equality spelled out in its conditions. -/
def spelledOut (step : Section) : Section :=
  { step with fields := step.fields.map Field.spelledOut }

theorem record_toValue (lawful : scheme.Lawful) {step : Section}
    (back : ∀ field ∈ step.fields, field.ReadsBack scheme) :
    Reader.record (ofEntries scheme) step.toValue = .read step.spelledOut := by
  have text := Reader.optional_orNull Reader.string .str (fun _ => rfl) nofun
  simp [toValue, Reader.record, ofEntries, Key.required, Key.optional, Key.withDefault,
    lawful.found, Key.plain, Entries.has, Entries.get?, Reader.string, text,
    Field.list_toValue lawful back, spelledOut]

theorem toValue_spelledOut (step : Section) : step.spelledOut.toValue = step.toValue := by
  rw [toValue, spelledOut, Field.toValues_spelledOut]
  rfl

end Section

theorem Layout.record_toValue (lawful : scheme.Lawful) (layout : Layout) :
    Reader.record (ofEntries scheme) layout.toValue = .read layout := by
  have int := Reader.optional_orNull scheme.int .int lawful.int nofun
  have texts := Reader.optional_orNull (Reader.list Reader.string) _ Reader.list_strings nofun
  simp [toValue, Reader.record, ofEntries, Key.optional, Key.withDefault, lawful.found, Key.plain,
    Entries.has, Entries.get?, int, texts]

namespace Body

/-- The body with the older form of equality spelled out in its conditions. -/
def spelledOut : Body → Body
  | .flat fields => .flat (fields.map Field.spelledOut)
  | .stepped sections => .stepped (sections.map Section.spelledOut)

def fields : Body → List Field
  | .flat fields => fields
  | .stepped sections => sections.flatMap (·.fields)

/-- The two shapes of a form, of which a body has one. -/
def fields? : Body → Option (List Field)
  | .flat fields => some fields
  | .stepped _ => none

def sections? : Body → Option (List Section)
  | .flat _ => none
  | .stepped sections => some sections

theorem ofShapes_shapes (body : Body) : ofShapes body.fields? body.sections? = .read body := by
  cases body <;> rfl

theorem fields_spelledOut (body : Body) :
    body.spelledOut.fields = body.fields.map Field.spelledOut := by
  cases body with
  | flat all => rfl
  | stepped sections =>
      simp [spelledOut, fields, List.flatMap_map, List.map_flatMap, Section.spelledOut]

theorem fieldsValue_spelledOut (body : Body) : body.spelledOut.fieldsValue = body.fieldsValue := by
  cases body <;> simp [spelledOut, fieldsValue, Function.comp_def, Field.toValue_spelledOut]

theorem sectionsValue_spelledOut (body : Body) :
    body.spelledOut.sectionsValue = body.sectionsValue := by
  cases body <;> simp [spelledOut, sectionsValue, Function.comp_def, Section.toValue_spelledOut]

variable {body : Body}

theorem optional_fieldsValue (lawful : scheme.Lawful)
    (back : ∀ field ∈ body.fields, field.ReadsBack scheme) :
    Reader.optional (Reader.list (Reader.record (Field.ofEntries scheme))) body.fieldsValue =
      .read body.spelledOut.fields? := by
  cases body with
  | flat all => exact congrArg (Reading.map some) (Field.list_toValue lawful back)
  | stepped sections => rfl

theorem optional_sectionsValue (lawful : scheme.Lawful)
    (back : ∀ field ∈ body.fields, field.ReadsBack scheme) :
    Reader.optional (Reader.list (Reader.record (Section.ofEntries scheme))) body.sectionsValue =
      .read body.spelledOut.sections? := by
  cases body with
  | flat all => rfl
  | stepped sections =>
      refine congrArg (Reading.map some) (Reader.list_map ?_)
      intro step member
      apply Section.record_toValue lawful
      intro field among
      exact back field (List.mem_flatMap.mpr ⟨step, member, among⟩)

end Body

namespace Schema

variable {config : Config} {document : Value} {schema : Schema}

theorem fields_eq (schema : Schema) : schema.fields = schema.body.fields := by
  cases shape : schema.body <;> simp [fields, Body.fields, shape]

theorem ensures_ofEntries (lawful : scheme.Lawful) (document : Entries Value) :
    (ofEntries scheme document).Ensures fun schema =>
      ∀ field ∈ schema.fields, field.ReadsBack scheme := by
  have fieldsBack : ((Key.plain "fields").optional scheme _ document).Ensures _ :=
    Key.ensures_optional
      (Reader.ensures_list (Reader.ensures_record (Field.ensures_ofEntries lawful))) _ document
  have sectionsBack : ((Key.plain "sections").optional scheme _ document).Ensures _ :=
    Key.ensures_optional
      (Reader.ensures_list (Reader.ensures_record (Section.ensures_ofEntries lawful))) _ document
  simp only [ofEntries, Draft.ofEntries, Reading.ensures_andThen, Reading.ensures_seq,
    Reading.ensures_map, fields_eq]
  intro title _ description _ fields isFields sections isSections layout _
  have flat := fieldsBack fields isFields
  have stepped := sectionsBack sections isSections
  rw [Reading.map_eq, Reading.ensures_map]
  cases fields with
  | none =>
      cases sections with
      | none => simp [Body.ofShapes]
      | some sections =>
          simp only [Body.ofShapes, Reading.ensures_read, Body.fields, List.mem_flatMap]
          rintro field ⟨step, member, among⟩
          exact stepped sections rfl step member field among
  | some fields =>
      cases sections with
      | none => simpa [Body.ofShapes, Body.fields] using flat
      | some sections => simp [Body.ofShapes]

/-- The form with the older form of equality spelled out in its conditions. -/
def spelledOut (schema : Schema) : Schema := { schema with body := schema.body.spelledOut }

theorem fields_spelledOut (schema : Schema) :
    schema.spelledOut.fields = schema.fields.map Field.spelledOut := by
  rw [fields_eq, fields_eq]
  exact schema.body.fields_spelledOut

theorem fieldNames_spelledOut (schema : Schema) :
    schema.spelledOut.fieldNames = schema.fieldNames := by
  simp [fieldNames, fields_spelledOut, Function.comp_def, Field.spelledOut]

theorem selfReferring?_spelledOut (schema : Schema) :
    schema.spelledOut.selfReferring? = schema.selfReferring? := by
  rw [selfReferring?, selfReferring?, fields_spelledOut, List.find?_map, Option.map_map]
  congr 1
  congr 1
  funext field
  cases conditional : field.condition with
  | none => simp [Field.spelledOut, conditional]
  | some c =>
      simp [Field.spelledOut, conditional, Condition.spelledOut, Condition.references_mapEquals]

theorem check_spelledOut (config : Config) (schema : Schema) :
    schema.spelledOut.check config = schema.check config := by
  have repeated : schema.spelledOut.repeatedNames = schema.repeatedNames := by
    rw [repeatedNames, repeatedNames, fieldNames_spelledOut]
  rw [check, check, repeated, selfReferring?_spelledOut]

theorem toValue_spelledOut (schema : Schema) : schema.spelledOut.toValue = schema.toValue := by
  simp [toValue, spelledOut, Body.fieldsValue_spelledOut, Body.sectionsValue_spelledOut]

theorem readBy_toValue (lawful : scheme.Lawful) {schema : Schema}
    (back : ∀ field ∈ schema.fields, field.ReadsBack scheme) :
    readBy scheme schema.toValue = .read schema.spelledOut := by
  rw [fields_eq] at back
  have layout := Reader.optional_orNull (Reader.record (Layout.ofEntries scheme)) _
    (Layout.record_toValue lawful) nofun
  simp [readBy, toValue, Reader.record, ofEntries, Draft.ofEntries, Key.required, Key.optional,
    Key.withDefault, lawful.found, Key.plain, Entries.has, Entries.get?, Reader.string,
    Body.optional_fieldsValue lawful back, Body.optional_sectionsValue lawful back, layout,
    Reading.andThen, Body.ofShapes_shapes, Reading.map, spelledOut]

/-- A document is accepted for the schema that it reads as, if that passes the check. -/
theorem parseBy_eq_ok_iff :
    parseBy scheme config document = .ok schema ↔
      readBy scheme document = .read schema ∧ schema.check config = .ok () := by
  cases document with
  | object entries =>
      simp only [parseBy, readBy, Reader.record]
      cases read : ofEntries scheme entries with
      | refused issues => simp
      | read draft =>
          cases checked : draft.check config <;> grind [Except.map]
  | _ => simp [parseBy, readBy, Reader.record, Reading.refuse]

theorem parse_eq_ok_iff : parse config document = .ok schema ↔
    ofValue document = .read schema ∧ schema.check config = .ok () :=
  parseBy_eq_ok_iff

/-- A document that is accepted is read as a schema whose own document is accepted as well, and
    reads as the schema again but for the older form of equality, which is spelled out. What is
    read from it has the same document. This is so whatever else a scheme of reading takes for the
    values and keys that are asked for. -/
theorem parse_toValue (lawful : scheme.Lawful)
    (accepted : parseBy scheme config document = .ok schema) :
    parseBy scheme config schema.toValue = .ok schema.spelledOut ∧
      schema.spelledOut.toValue = schema.toValue := by
  obtain ⟨read, checked⟩ := parseBy_eq_ok_iff.mp accepted
  have reads : ∀ field ∈ schema.fields, field.ReadsBack scheme :=
    Reader.ensures_record (ensures_ofEntries lawful) document schema read
  have back := readBy_toValue lawful reads
  have still := (check_spelledOut config schema).trans checked
  exact ⟨parseBy_eq_ok_iff.mpr ⟨back, still⟩, toValue_spelledOut schema⟩

/-- A form that is written loosely: with keys in either spelling and in both, with numbers and
    booleans as text or as each other, with keys that nobody knows, and with a name twice. -/
def looseForm : Value :=
  .object [("form_title", .str "Pet"), ("formTitle", .str "Your pet"), ("colour", .str "red"),
    ("layout", .object [("columns", .str " 2 "), ("fields", .null)]),
    ("sections", .list [
      .object [("title", .str "Pet"), ("description", .null), ("fields", .list [
        .object [("help_text", .str "yes or no"), ("name", .str "pet"), ("hint", .list [.null]),
          ("validation", .object [("required", .str "YES"), ("min_length", .bool true),
            ("maxLength", .float (.ofInt 12)), ("max_length", .int 99), ("min", .str "-1_0.50e1"),
            ("max", .str "Infinity"), ("asyncValidator", .null), ("tone", .object []),
            ("custom_validator", .object [("validator", .str "passwordsMatch")])]),
          ("options_map", .object [("", .list []), ("yes", .list [.str "cat"])])]])],
      .object [("title", .str "Kind"), ("fields", .list [
        .object [("name", .str "kind")],
        .object [("name", .str "kind"), ("type", .str "choice"), ("depends_on", .str "pet"),
          ("conditional", .object [("logicalOperator", .null), ("conditions", .list [
            .object [("field", .str "pet"), ("equals", .null)],
            .object [("field", .str "pet"), ("operator", .str "isNotEmpty")]])])]])]])]

/-- The settings under which the last declaration of a name wins. -/
def lastWins : Config := { duplicates := .lastWins }

def looseSchema : Schema := (ofValue looseForm).toOption.getD default

example : looseSchema.fields.map (fun field =>
      (field.rules.minLength, field.rules.maxLength, field.rules.extra.names)) =
    [(some 1, some 12, ["max_length", "tone"]), (none, none, []), (none, none, [])] := by
  decide +kernel

theorem looseForm_accepted : parse lastWins looseForm = .ok looseSchema :=
  parse_eq_ok_iff.mpr ⟨Reading.eq_read _ (by decide +kernel), by decide +kernel⟩

theorem looseForm_parse_toValue : parse lastWins looseForm = .ok looseSchema ∧
    parse lastWins looseSchema.toValue = .ok looseSchema.spelledOut ∧
      looseSchema.spelledOut.toValue = looseSchema.toValue :=
  ⟨looseForm_accepted, parse_toValue ReadingScheme.standard_lawful looseForm_accepted⟩

end Schema

end Formwork
