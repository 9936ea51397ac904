import Formwork.Library
import Mathlib.Tactic.Common

/-! # What comes of reading schema files

A schema file is read as a schema or refused by one of the errors of loading, unless it is a
directory, no text, or holds a number of too many digits or lists and objects nested too deep: then
the error is a foreign one. A listing leaves out what cannot be read, but files of the last three
kinds end it.
-/

namespace Formwork

/-- The errors of loading a schema: there is no file, what it holds is no document, or the document
    is refused. -/
def SchemaError.isDeclared : SchemaError → Bool
  | .isDirectory | .notText | .longNumber | .tooDeep => false
  | _ => true

/-- What a path leads to gives rise to an error that is none of those of loading a schema. -/
inductive FileContent.Escapes (limits : Json.Limits) : FileContent → SchemaError → Prop where
  | directory : Escapes limits .directory .isDirectory
  | notText {content : ByteArray} (unreadable : String.fromUTF8? content = none) :
      Escapes limits (.bytes content) .notText
  | longNumber {content : ByteArray} {text : String}
      (readable : String.fromUTF8? content = some text)
      (long : Json.parse limits text.toList = .error .longNumber) :
      Escapes limits (.bytes content) .longNumber
  | tooDeep {content : ByteArray} {text : String}
      (readable : String.fromUTF8? content = some text)
      (deep : Json.parse limits text.toList = .error .tooDeep) :
      Escapes limits (.bytes content) .tooDeep

namespace Schema

variable {limits : Json.Limits} {config : Config} {file : FileContent} {error : SchemaError}
  {content : ByteArray}

/-! ## Reading a file -/

theorem document_of_notText (unreadable : String.fromUTF8? content = none) :
    document limits (.bytes content) = .error .notText := by
  simp only [document, FileContent.text, unreadable]

theorem document_of_text {text : String} (readable : String.fromUTF8? content = some text) :
    document limits (.bytes content) = match Json.parse limits text.toList with
      | .ok value => .ok value
      | .error .malformed => .error .invalidJson
      | .error .longNumber => .error .longNumber
      | .error .tooDeep => .error .tooDeep := by
  cases parsed : Json.parse limits text.toList with
  | ok value => simp only [document, FileContent.text, readable, parsed]
  | error fault => cases fault <;> simp only [document, FileContent.text, readable, parsed]

theorem document_undeclared_iff :
    document limits file = .error error ∧ error.isDeclared = false ↔
      file.Escapes limits error := by
  constructor
  · rintro ⟨refused, foreign⟩
    cases file with
    | absent =>
        cases refused
        cases foreign
    | directory =>
        cases refused
        exact .directory
    | bytes content =>
        cases readable : String.fromUTF8? content with
        | none =>
            rw [document_of_notText readable] at refused
            cases refused
            exact .notText readable
        | some text =>
            rw [document_of_text readable] at refused
            split at refused
            next => cases refused
            next =>
              cases refused
              cases foreign
            next long =>
              cases refused
              exact .longNumber readable long
            next deep =>
              cases refused
              exact .tooDeep readable deep
  · intro escapes
    cases escapes with
    | directory => exact ⟨rfl, rfl⟩
    | notText unreadable => exact ⟨document_of_notText unreadable, rfl⟩
    | longNumber readable long =>
        rw [document_of_text readable, long]
        exact ⟨rfl, rfl⟩
    | tooDeep readable deep =>
        rw [document_of_text readable, deep]
        exact ⟨rfl, rfl⟩

end Schema

namespace SchemaDirectory

/-! ## Listing files -/

/-- What a file is listed as, if it is read as a document. -/
def listing? (limits : Json.Limits) (entry : String × FileContent) : Option (String × Value) :=
  (Schema.document limits entry.2).toOption.map fun document =>
    (idOfFile entry.1, titleOf (idOfFile entry.1) document)

/-- A file that ends a listing: its error is a foreign one, and it is no directory. -/
def Ends (limits : Json.Limits) (file : FileContent) (error : SchemaError) : Prop :=
  file.Escapes limits error ∧ error ≠ .isDirectory

variable {limits : Json.Limits} {files : List (String × FileContent)} {error : SchemaError}

theorem ends_iff {file : FileContent} : Ends limits file error ↔
    Schema.document limits file = .error error ∧ endsListing error = true := by
  rw [Ends, ← Schema.document_undeclared_iff]
  cases error <;> simp [endsListing, SchemaError.isDeclared]

theorem listFiles_of_read {entry : String × FileContent} {document : Value}
    (read : Schema.document limits entry.2 = .ok document) (rest : List (String × FileContent)) :
    listFiles limits (entry :: rest) = (listFiles limits rest).map
      ((idOfFile entry.1, titleOf (idOfFile entry.1) document) :: ·) := by
  simp only [listFiles, read]
  cases listFiles limits rest <;> rfl

theorem listFiles_of_ends {entry : String × FileContent} (ends : Ends limits entry.2 error)
    (rest : List (String × FileContent)) : listFiles limits (entry :: rest) = .error error := by
  obtain ⟨refused, last⟩ := ends_iff.mp ends
  simp only [listFiles, refused, last, if_true]

theorem listFiles_of_refused {entry : String × FileContent}
    (refused : Schema.document limits entry.2 = .error error)
    (spared : ¬Ends limits entry.2 error) (rest : List (String × FileContent)) :
    listFiles limits (entry :: rest) = listFiles limits rest := by
  have goesOn : ¬endsListing error = true := fun last => spared (ends_iff.mpr ⟨refused, last⟩)
  simp only [listFiles, refused, if_neg goesOn]

theorem listFiles_of_spared (spared : ∀ entry ∈ files, ∀ error, ¬Ends limits entry.2 error) :
    listFiles limits files = .ok (files.filterMap (listing? limits)) := by
  induction files with
  | nil => rfl
  | cons entry rest ih =>
      have others := ih fun other member => spared other (List.mem_cons_of_mem _ member)
      cases read : Schema.document limits entry.2 with
      | ok document =>
          have listed : listing? limits entry =
              some (idOfFile entry.1, titleOf (idOfFile entry.1) document) := by
            rw [listing?, read]
            rfl
          rw [listFiles_of_read read, others, List.filterMap_cons_some listed]
          rfl
      | error error =>
          have unlisted : listing? limits entry = none := by
            rw [listing?, read]
            rfl
          rw [listFiles_of_refused read (spared entry List.mem_cons_self error), others,
            List.filterMap_cons_none unlisted]

/-- The first file that ends a listing. -/
def IsFirstEnding (limits : Json.Limits) (files : List (String × FileContent))
    (error : SchemaError) : Prop :=
  ∃ before entry after, files = before ++ entry :: after ∧ Ends limits entry.2 error ∧
    ∀ earlier ∈ before, ∀ fault, ¬Ends limits earlier.2 fault

theorem listFiles_of_isFirstEnding (first : IsFirstEnding limits files error) :
    listFiles limits files = .error error := by
  obtain ⟨before, entry, after, rfl, ends, spared⟩ := first
  induction before with
  | nil => exact listFiles_of_ends ends after
  | cons earlier rest ih =>
      have later := ih fun other member => spared other (List.mem_cons_of_mem _ member)
      rw [List.cons_append]
      cases read : Schema.document limits earlier.2 with
      | ok document =>
          rw [listFiles_of_read read, later]
          rfl
      | error fault =>
          rw [listFiles_of_refused read (spared earlier List.mem_cons_self fault), later]

theorem exists_isFirstEnding {entry : String × FileContent} (member : entry ∈ files)
    (ends : Ends limits entry.2 error) : ∃ fault, IsFirstEnding limits files fault := by
  induction files with
  | nil => cases member
  | cons first rest ih =>
      by_cases now : ∃ fault, Ends limits first.2 fault
      · obtain ⟨fault, ends⟩ := now
        exact ⟨fault, [], first, rest, rfl, ends, fun _ none => nomatch none⟩
      · have later : entry ∈ rest := by
          refine (List.mem_cons.mp member).resolve_left fun same => now ⟨error, ?_⟩
          rwa [← same]
        obtain ⟨fault, before, found, after, split, ends, spared⟩ := ih later
        refine ⟨fault, first :: before, found, after, by rw [split]; rfl, ends, ?_⟩
        rw [List.forall_mem_cons]
        exact ⟨fun fault ends => now ⟨fault, ends⟩, spared⟩

theorem listFiles_eq_ok_iff {listed : List (String × Value)} :
    listFiles limits files = .ok listed ↔
      (∀ entry ∈ files, ∀ error, ¬Ends limits entry.2 error) ∧
        listed = files.filterMap (listing? limits) := by
  constructor
  · intro returned
    have spared : ∀ entry ∈ files, ∀ error, ¬Ends limits entry.2 error := by
      intro entry member error ends
      obtain ⟨fault, first⟩ := exists_isFirstEnding member ends
      rw [listFiles_of_isFirstEnding first] at returned
      cases returned
    refine ⟨spared, ?_⟩
    rw [listFiles_of_spared spared] at returned
    cases returned
    rfl
  · rintro ⟨spared, rfl⟩
    exact listFiles_of_spared spared

/-- A list in a list, which is too deep for a host that takes no more than one. -/
def nested : FileContent := .bytes "[[]]".toUTF8

end SchemaDirectory

end Formwork
