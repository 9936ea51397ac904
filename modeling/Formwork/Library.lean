import Formwork.Json.Parser
import Formwork.Schema.Check

/-! # Schema files

Loading a schema from a file, listing a directory of schemas, and the identifier that a
form's name gives rise to.
-/

namespace Formwork

namespace Schema

def document (limits : Json.Limits) (file : FileContent) : Except SchemaError Value :=
  match file.text with
  | .ok text => match Json.parse limits text.toList with
      | .ok value => .ok value
      | .error .malformed => .error .invalidJson
      | .error .longNumber => .error .longNumber
      | .error .tooDeep => .error .tooDeep
  | .error .absent => .error .missingFile
  | .error .isDirectory => .error .isDirectory
  | .error .notUtf8 => .error .notText

def load (limits : Json.Limits) (config : Config) (file : FileContent) :
    Except SchemaError Schema := do
  parse config (← document limits file)

def loadNotices (limits : Json.Limits) (config : Config) (file : FileContent) : List Notice :=
  match document limits file with
  | .ok value => parseNotices config value
  | .error _ => []

/-- A dash for every run of white space; the flag says whether a run has begun. -/
def dashBlanks : Bool → List Char → List Char
  | _, [] => []
  | inBlanks, c :: rest =>
      if Text.isBlank c then
        if inBlanks then dashBlanks true rest else '-' :: dashBlanks true rest
      else c :: dashBlanks false rest

def isIdCharacter (c : Char) : Bool :=
  ('a' ≤ c && c ≤ 'z') || ('0' ≤ c && c ≤ '9') || c == '-'

/-- An identifier for addresses: the words of a name in lower case with dashes between
    them, all but plain letters, digits and dashes left out. -/
def idOfName (name : String) : String :=
  let words := dashBlanks false (Text.lower (Text.strip name.toList))
  String.ofList (words.filter isIdCharacter)

end Schema

/-- A directory of schema files. -/
abbrev SchemaDirectory := Entries FileContent

namespace SchemaDirectory

/-- The ending of the names of schema files. -/
def extension : List Char := ".json".toList

/-- Whether a name is that of a schema file directly in the directory. -/
def isSchemaName (name : String) : Bool :=
  extension.isSuffixOf name.toList && !name.toList.contains '/'

/-- The identifier of a schema file: its name without the ending, unless nothing would
    be left. -/
def idOfFile (name : String) : String :=
  let stem := name.toList.take (name.length - extension.length)
  if stem.isEmpty then name else String.ofList stem

/-- The schema files, sorted by name. -/
def schemaFiles (directory : SchemaDirectory) : List (String × FileContent) :=
  (directory.filter fun entry => isSchemaName entry.1 && entry.2.isPresent).mergeSort
    fun a b => decide (a.1 ≤ b.1)

/-- The title that a document gives itself, or one made from its identifier. -/
def titleOf (id : String) (document : Value) : Value :=
  let given := match document with
    | .object entries => Entries.value entries "formTitle"
    | _ => .null
  if given.truthy then given else .str ("Form " ++ id)

/-- Whether a file that is not read ends a listing. A directory and a file that is no
    document are left out. -/
def endsListing : SchemaError → Bool
  | .notText | .longNumber | .tooDeep => true
  | _ => false

variable (limits : Json.Limits)

/-- Identifiers and titles of files that were sorted before. -/
def listFiles : List (String × FileContent) → Except SchemaError (List (String × Value))
  | [] => .ok []
  | (name, file) :: rest =>
      match Schema.document limits file with
      | .ok document => do
          return (idOfFile name, titleOf (idOfFile name) document) :: (← listFiles rest)
      | .error error => if endsListing error then .error error else listFiles rest

/-- Identifiers and titles of the schemas in a directory. -/
def list (directory : SchemaDirectory) : Except SchemaError (List (String × Value)) :=
  listFiles limits directory.schemaFiles

def noticesOfFiles : List (String × FileContent) → List Notice
  | [] => []
  | (_, file) :: rest =>
      match Schema.document limits file with
      | .ok _ => noticesOfFiles rest
      | .error error =>
          if endsListing error then [] else .unreadableSchema :: noticesOfFiles rest

def listNotices (directory : SchemaDirectory) : List Notice :=
  noticesOfFiles limits directory.schemaFiles

/-- The part of a directory that a path below it leads to: itself, or nothing that holds
    schemas. -/
def below (directory : SchemaDirectory) (path : String) : SchemaDirectory :=
  if Path.normal path = "." then directory else []

end SchemaDirectory

end Formwork
