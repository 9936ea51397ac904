import Formwork.Schema.Basic
import Formwork.Reading

/-! # Reading schemas

Schemas are read from documents in the order in which their parts are declared, so that
issues come in that order. Fields and validation blocks keep the keys that they do not
know.
-/

namespace Formwork

namespace Condition

def combinatorKey : Key := ⟨"logicalOperator", "logical_operator"⟩

variable (scheme : ReadingScheme)

/-- A condition from a document and its children, which were read before. -/
def assemble (document : Entries Value) (children : Reading (Option (List Condition))) :
    Reading Condition :=
  Condition.mk
    <$> (Key.plain "field").optional scheme Reader.string document
    <*> (Key.plain "operator").optional scheme Reader.string document
    <*> (Key.plain "value").withDefault scheme .null Reader.any document
    <*> .read (document.get? "equals")
    <*> children.under (.name "conditions")
    <*> combinatorKey.optional scheme Reader.string document

mutual

def readBy : Value → Reading Condition
  | .object document => assemble scheme document (childrenOf document)
  | _ => .refuse .notRecord

/-- The children among the entries of a document. -/
def childrenOf : List (String × Value) → Reading (Option (List Condition))
  | [] => .read none
  | (name, value) :: rest => if name = "conditions" then ofList value else childrenOf rest

def ofList : Value → Reading (Option (List Condition))
  | .null => .read none
  | .list values => (ofItems 0 values).map some
  | _ => .refuse .notList

def ofItems : Nat → List Value → Reading (List Condition)
  | _, [] => .read []
  | index, value :: rest =>
      List.cons <$> (readBy value).under (.index index) <*> ofItems (index + 1) rest

end

/-- A condition from a document that holds nothing else. -/
def ofValue : Value → Reading Condition := readBy {}

mutual

def depth : Condition → Nat
  | ⟨_, _, _, _, none, _⟩ => 1
  | ⟨_, _, _, _, some children, _⟩ => depthOfAll children + 1

def depthOfAll : List Condition → Nat
  | [] => 0
  | c :: rest => max c.depth (depthOfAll rest)

end

def readInside (value : Value) : Reading Condition :=
  (readBy scheme value).andThen fun c =>
    if scheme.admits c.depth then .read c else .refuse .tooNested

end Condition

namespace CrossFieldReference

def ofEntries (scheme : ReadingScheme) (document : Entries Value) : Reading CrossFieldReference :=
  CrossFieldReference.mk
    <$> (Key.plain "fields").withDefault scheme [] (Reader.list Reader.string) document
    <*> (Key.plain "validator").required scheme Reader.string document

end CrossFieldReference

namespace AsyncReference

def ofEntries (scheme : ReadingScheme) (document : Entries Value) : Reading AsyncReference :=
  AsyncReference.mk
    <$> (Key.plain "name").required scheme Reader.string document
    <*> (Key.plain "params").withDefault scheme [] (Reader.list Reader.string) document

end AsyncReference

namespace Rules

/-- The keys of a validation block. -/
def requiredKey : Key := .plain "required"
def minKey : Key := .plain "min"
def maxKey : Key := .plain "max"
def minLengthKey : Key := ⟨"minLength", "min_length"⟩
def maxLengthKey : Key := ⟨"maxLength", "max_length"⟩
def patternKey : Key := .plain "pattern"
def errorMessageKey : Key := ⟨"errorMessage", "error_message"⟩
def crossFieldKey : Key := ⟨"customValidator", "custom_validator"⟩
def asyncKey : Key := ⟨"asyncValidator", "async_validator"⟩

/-- The keys that a validation block knows. -/
def keys : List Key :=
  [requiredKey, minKey, maxKey, minLengthKey, maxLengthKey, patternKey, errorMessageKey,
   crossFieldKey, asyncKey]

/-- A validation block from the entries of a document. -/
def ofEntries (scheme : ReadingScheme) (document : Entries Value) : Reading Rules :=
  Rules.mk
    <$> requiredKey.withDefault scheme false scheme.bool document
    <*> minKey.optional scheme scheme.float document
    <*> maxKey.optional scheme scheme.float document
    <*> minLengthKey.optional scheme scheme.int document
    <*> maxLengthKey.optional scheme scheme.int document
    <*> patternKey.optional scheme Reader.string document
    <*> errorMessageKey.optional scheme Reader.string document
    <*> crossFieldKey.optional scheme (Reader.record (CrossFieldReference.ofEntries scheme))
          document
    <*> asyncKey.optional scheme (Reader.record (AsyncReference.ofEntries scheme)) document
    <*> .read (scheme.unclaimed keys document)

end Rules

namespace Field

/-- The keys of a field. -/
def nameKey : Key := .plain "name"
def typeKey : Key := .plain "type"
def labelKey : Key := .plain "label"
def placeholderKey : Key := .plain "placeholder"
def helpTextKey : Key := ⟨"helpText", "help_text"⟩
def tooltipKey : Key := .plain "tooltip"
def optionsKey : Key := .plain "options"
def rulesKey : Key := .plain "validation"
def conditionKey : Key := .plain "conditional"
def dependsOnKey : Key := ⟨"dependsOn", "depends_on"⟩
def optionsMapKey : Key := ⟨"optionsMap", "options_map"⟩

def keys : List Key :=
  [nameKey, typeKey, labelKey, placeholderKey, helpTextKey, tooltipKey, optionsKey, rulesKey,
   conditionKey, dependsOnKey, optionsMapKey]

def ofEntries (scheme : ReadingScheme) (document : Entries Value) : Reading Field :=
  Field.mk
    <$> nameKey.required scheme Reader.string document
    <*> typeKey.withDefault scheme "string" Reader.string document
    <*> labelKey.optional scheme Reader.string document
    <*> placeholderKey.optional scheme Reader.string document
    <*> helpTextKey.optional scheme Reader.string document
    <*> tooltipKey.optional scheme Reader.string document
    <*> optionsKey.optional scheme (Reader.list Reader.string) document
    <*> rulesKey.withDefault scheme {} (Reader.record (Rules.ofEntries scheme)) document
    <*> conditionKey.optional scheme (Condition.readInside scheme) document
    <*> dependsOnKey.optional scheme Reader.string document
    <*> optionsMapKey.optional scheme (Reader.object (Reader.list Reader.string)) document
    <*> .read (scheme.unclaimed keys document)

end Field

namespace Section

def ofEntries (scheme : ReadingScheme) (document : Entries Value) : Reading Section :=
  Section.mk
    <$> (Key.plain "title").required scheme Reader.string document
    <*> (Key.plain "description").optional scheme Reader.string document
    <*> (Key.plain "fields").withDefault scheme []
          (Reader.list (Reader.record (Field.ofEntries scheme))) document

end Section

namespace Layout

def ofEntries (scheme : ReadingScheme) (document : Entries Value) : Reading Layout :=
  Layout.mk
    <$> (Key.plain "columns").optional scheme scheme.int document
    <*> (Key.plain "fields").optional scheme (Reader.list Reader.string) document

end Layout

namespace Body

/-- Exactly one of the two shapes of a form must be given. -/
def ofShapes : Option (List Field) → Option (List Section) → Reading Body
  | some fields, none => .read (.flat fields)
  | none, some sections => .read (.stepped sections)
  | some _, some _ =>
      .refuse (.inconsistent "Schema must declare either 'fields' or 'sections', not both")
  | none, none => .refuse (.inconsistent "Schema must declare 'fields' or 'sections'")

end Body

namespace Schema

/-- The parts of a form before its shape is checked. -/
structure Draft where
  title : String
  description : String
  fields : Option (List Field)
  sections : Option (List Section)
  layout : Option Layout

def Draft.ofEntries (scheme : ReadingScheme) (document : Entries Value) : Reading Draft :=
  Draft.mk
    <$> Key.required scheme ⟨"formTitle", "form_title"⟩ Reader.string document
    <*> Key.withDefault scheme ⟨"formDescription", "form_description"⟩ "" Reader.string document
    <*> (Key.plain "fields").optional scheme
          (Reader.list (Reader.record (Field.ofEntries scheme))) document
    <*> (Key.plain "sections").optional scheme
          (Reader.list (Reader.record (Section.ofEntries scheme))) document
    <*> (Key.plain "layout").optional scheme (Reader.record (Layout.ofEntries scheme)) document

def ofEntries (scheme : ReadingScheme) (document : Entries Value) : Reading Schema :=
  (Draft.ofEntries scheme document).andThen fun draft =>
    (Body.ofShapes draft.fields draft.sections).map fun body =>
      { title := draft.title, description := draft.description, body, layout := draft.layout }

def readBy (scheme : ReadingScheme) : Value → Reading Schema := Reader.record (ofEntries scheme)

def ofValue : Value → Reading Schema := readBy {}

end Schema

end Formwork
