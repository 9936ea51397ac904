import Formwork.Proofs.Library.Faults
import Mathlib.Data.List.Basic
import Mathlib.Tactic.IntervalCases

/-! # The order of a listing

A listing has one entry for a file, under the name of the file without its ending. The entries are
in the order of the names with their endings. That is the order of the identifiers, but for an
identifier that goes on after another with what comes before the ending, as with a dash.
-/

namespace Formwork.SchemaDirectory

/-! ## Words with an ending -/

variable {short long stem ending : List Char}

theorem append_lt_append_iff (front : List Char) :
    front ++ short < front ++ long ↔ short < long := by
  induction front with
  | nil => rfl
  | cons c front ih => simpa using ih

/-- Of two words in order, the second goes on after the first, or what follows them does not
    matter. -/
theorem exists_append_or_lt (before : short < long) : (∃ rest, long = short ++ rest) ∨
    ∀ first second, short ++ first < long ++ second := by
  induction short generalizing long with
  | nil => exact .inl ⟨long, rfl⟩
  | cons c short ih =>
      cases long with
      | nil => cases before
      | cons d long =>
          rcases List.cons_lt_cons_iff.mp before with apart | ⟨rfl, later⟩
          · exact .inr fun _ _ => List.cons_lt_cons_iff.mpr (.inl apart)
          · rcases ih later with ⟨rest, rfl⟩ | apart
            · exact .inl ⟨rest, rfl⟩
            · exact .inr fun first second =>
                List.cons_lt_cons_iff.mpr (.inr ⟨rfl, apart first second⟩)

/-- Words whose endings put them in order are themselves in order, unless the first goes on after
    the second with what comes before the ending. -/
theorem lt_iff_exists_append (before : ¬short ++ ending < long ++ ending) :
    short < long ↔ ∃ rest, long = short ++ rest ∧ rest ++ ending < ending := by
  constructor
  · intro after
    rcases exists_append_or_lt after with ⟨rest, rfl⟩ | apart
    · refine ⟨rest, rfl, ?_⟩
      rw [List.append_assoc] at before
      have least : ¬ending < rest ++ ending := fun less =>
        before ((append_lt_append_iff short).mpr less)
      refine (List.le_iff_lt_or_eq.mp least).resolve_right fun same => ?_
      rw [List.append_left_eq_self.mp same, List.append_nil] at after
      exact List.lt_irrefl _ after
    · exact absurd (apart ending ending) before
  · rintro ⟨rest, rfl, early⟩
    cases rest with
    | nil => exact absurd early (List.lt_irrefl _)
    | cons c rest => simpa using (append_lt_append_iff short).mpr (List.nil_lt_cons c rest)

/-! ## Identifiers -/

/-- The identifier of a file whose name has the ending after a stem. -/
def identifier (stem : List Char) : List Char := if stem = [] then extension else stem

theorem toList_of_isSchemaName {name : String} (schema : isSchemaName name = true) :
    ∃ stem, name.toList = stem ++ extension ∧ (idOfFile name).toList = identifier stem := by
  have ends : extension <:+ name.toList := by
    simp only [isSchemaName, Bool.and_eq_true, List.isSuffixOf_iff_suffix] at schema
    exact schema.1
  obtain ⟨stem, split⟩ := ends
  refine ⟨stem, split.symm, ?_⟩
  have taken : name.toList.take (name.length - extension.length) = stem := by
    rw [← String.length_toList, ← split, List.length_append, Nat.add_sub_cancel,
      List.take_left]
  simp only [idOfFile, taken, List.isEmpty_iff, identifier]
  split
  next none => rw [← split, none, List.nil_append]
  next => rw [String.toList_ofList]

theorem extension_lt_of_append {front rest : List Char} (split : extension = front ++ rest)
    (some : front ≠ []) : rest = [] ∨ extension < rest := by
  have within : front.length ≤ 5 := by
    have length := congrArg List.length split
    rw [List.length_append, show extension.length = 5 from rfl] at length
    omega
  have left : rest = extension.drop front.length := by rw [split, List.drop_left]
  have positive : front.length ≠ 0 := by simpa using some
  generalize front.length = count at *
  subst left
  interval_cases count
  · exact absurd rfl positive
  all_goals decide

theorem not_append_extension_lt {rest : List Char} (after : rest = [] ∨ extension < rest) :
    ¬rest ++ extension < extension := by
  rcases after with rfl | after
  · exact List.lt_irrefl _
  · intro early
    rcases exists_append_or_lt after with ⟨more, rfl⟩ | apart
    · rw [List.append_assoc] at early
      exact List.le_append_left early
    · have late := apart [] extension
      rw [List.append_nil] at late
      exact List.lt_asymm early late

theorem identifier_nil : identifier [] = extension := if_pos rfl

theorem identifier_of_ne_nil (some : stem ≠ []) : identifier stem = stem := if_neg some

/-- Files in the order of their names have identifiers in order, unless the first identifier goes
    on after the second with what comes before the ending. -/
theorem lt_identifier_iff (before : ¬short ++ extension < long ++ extension) :
    identifier short < identifier long ↔
      ∃ rest, identifier long = identifier short ++ rest ∧ rest ++ extension < extension := by
  by_cases first : long = [] <;> by_cases second : short = []
  · rw [first, second]
    refine iff_of_false (List.lt_irrefl _) ?_
    rintro ⟨rest, split, early⟩
    rw [List.self_eq_append_right.mp split] at early
    exact List.lt_irrefl _ early
  · -- the name that is the ending alone comes before no name that the ending starts with
    subst first
    rw [identifier_nil, identifier_of_ne_nil second]
    rw [List.nil_append] at before
    refine iff_of_false (fun after => ?_) ?_
    · rcases exists_append_or_lt after with ⟨rest, split⟩ | apart
      · rcases extension_lt_of_append split second with rfl | late
        · rw [List.append_nil] at split
          exact List.lt_irrefl _ (split ▸ after)
        · refine before ?_
          conv => rhs; rw [split]
          exact (append_lt_append_iff short).mpr late
      · have early := apart extension []
        rw [List.append_nil] at early
        exact before early
    · rintro ⟨rest, split, early⟩
      exact not_append_extension_lt (extension_lt_of_append split second) early
  · subst second
    rw [identifier_nil, identifier_of_ne_nil first]
    rw [List.nil_append] at before
    have apart {rest : List Char} (split : long = extension ++ rest) : False := by
      rw [split, List.append_assoc] at before
      have longer : rest ++ extension ≠ [] := by simp [extension]
      obtain ⟨c, more, begins⟩ := List.exists_cons_of_ne_nil longer
      rw [begins] at before
      refine before ?_
      simpa using (append_lt_append_iff extension).mpr (List.nil_lt_cons c more)
    refine iff_of_false (fun after => ?_) ?_
    · rcases exists_append_or_lt after with ⟨rest, split⟩ | late
      · exact apart split
      · have late := late [] extension
        rw [List.append_nil] at late
        exact before late
    · rintro ⟨rest, split, -⟩
      exact apart split
  · rw [identifier_of_ne_nil first, identifier_of_ne_nil second]
    exact lt_iff_exists_append before

/-- An identifier goes on after another with what comes before the ending. -/
def RunsAhead (long short : String) : Prop :=
  ∃ rest, long = short ++ rest ∧ rest ++ ".json" < ".json"

theorem runsAhead_iff {long short : String} : RunsAhead long short ↔
    ∃ rest, long.toList = short.toList ++ rest ∧ rest ++ extension < extension := by
  constructor
  · rintro ⟨rest, rfl, early⟩
    refine ⟨rest.toList, String.toList_append, ?_⟩
    rw [String.lt_iff, String.toList_append] at early
    exact early
  · rintro ⟨rest, split, early⟩
    refine ⟨String.ofList rest, ?_, ?_⟩
    · rw [← String.toList_inj, String.toList_append, String.toList_ofList, split]
    · rw [String.lt_iff, String.toList_append, String.toList_ofList]
      exact early

theorem lt_idOfFile_iff {first second : String} (schema : isSchemaName first = true)
    (schema' : isSchemaName second = true) (before : first ≤ second) :
    idOfFile second < idOfFile first ↔ RunsAhead (idOfFile first) (idOfFile second) := by
  obtain ⟨long, name, id⟩ := toList_of_isSchemaName schema
  obtain ⟨short, name', id'⟩ := toList_of_isSchemaName schema'
  have listed : ¬short ++ extension < long ++ extension := fun after =>
    before (String.lt_iff.mpr (by rwa [name, name']))
  rw [runsAhead_iff, String.lt_iff, id, id']
  exact lt_identifier_iff listed

/-! ## The listing -/

variable {limits : Json.Limits} {directory : SchemaDirectory}

theorem schemaFiles_perm (directory : SchemaDirectory) : directory.schemaFiles.Perm
    (directory.filter fun entry => isSchemaName entry.1 && entry.2.isPresent) :=
  List.mergeSort_perm _ _

theorem pairwise_schemaFiles (directory : SchemaDirectory) :
    directory.schemaFiles.Pairwise fun first second => first.1 ≤ second.1 := by
  apply (@List.pairwise_mergeSort (String × FileContent)
    (fun first second => decide (first.1 ≤ second.1)) ?_ ?_
    (directory.filter fun entry => isSchemaName entry.1 && entry.2.isPresent)).imp
  · simp
  · simpa using fun a b c => String.le_trans
  · simpa using String.le_total

theorem isSchemaName_of_mem {entry : String × FileContent}
    (member : entry ∈ directory.schemaFiles) : isSchemaName entry.1 = true := by
  have kept := (List.mem_filter.mp ((schemaFiles_perm directory).mem_iff.mp member)).2
  exact (Bool.and_eq_true _ _ ▸ kept).1

theorem map_fst_listing {files : List (String × FileContent)}
    (readable : ∀ entry ∈ files, ∃ document, Schema.document limits entry.2 = .ok document) :
    (files.filterMap (listing? limits)).map (·.1) = files.map fun entry => idOfFile entry.1 := by
  have named : ∀ entry ∈ files, (listing? limits entry).map (·.1) = some (idOfFile entry.1) := by
    intro entry member
    obtain ⟨document, read⟩ := readable entry member
    rw [listing?, read]
    rfl
  rw [List.map_filterMap, List.filterMap_congr named, List.filterMap_eq_map']

/-- A directory of files that are documents is listed with one entry for a file, under its
    identifier. Of two entries the identifier of the first comes after that of the second if and
    only if it goes on after that with what comes before the ending. -/
theorem listing_order
    (readable : ∀ entry ∈ directory.schemaFiles,
      ∃ document, Schema.document limits entry.2 = .ok document) :
    ∃ listed, directory.list limits = .ok listed ∧
      (listed.map (·.1)).Perm
        ((directory.filter fun entry => isSchemaName entry.1 && entry.2.isPresent).map
          fun entry => idOfFile entry.1) ∧
      (listed.map (·.1)).Pairwise fun first second =>
        second < first ↔ RunsAhead first second := by
  refine ⟨directory.schemaFiles.filterMap (listing? limits), ?_, ?_, ?_⟩
  · apply listFiles_of_spared
    intro entry member error ends
    obtain ⟨document, read⟩ := readable entry member
    rw [(Schema.document_undeclared_iff.mpr ends.1).1] at read
    cases read
  · rw [map_fst_listing readable]
    exact (schemaFiles_perm directory).map _
  · rw [map_fst_listing readable, List.pairwise_map]
    refine (pairwise_schemaFiles directory).imp_of_mem fun member member' before => ?_
    exact lt_idOfFile_iff (isSchemaName_of_mem member) (isSchemaName_of_mem member') before

/-- The files of two forms, the name of one of which goes on after that of the other with a dash. -/
def petAndName : SchemaDirectory :=
  [("pet-name.json", .bytes "[]".toUTF8), ("pet.json", .bytes "[]".toUTF8)]

theorem schemaFiles_petAndName : petAndName.schemaFiles = petAndName :=
  List.mergeSort_of_pairwise (by decide +kernel)

theorem petAndName_readable : ∀ entry ∈ petAndName.schemaFiles,
    ∃ document, Schema.document {} entry.2 = .ok document := by
  have same : ∀ entry ∈ petAndName, entry.2 = .bytes "[]".toUTF8 := by
    simp [petAndName]
  rw [schemaFiles_petAndName]
  intro entry member
  rw [same entry member]
  exact ⟨.list [], rfl⟩

theorem petAndName_listing_order :
    (∀ entry ∈ petAndName.schemaFiles, ∃ document, Schema.document {} entry.2 = .ok document) ∧
      ∃ listed, petAndName.list {} = .ok listed ∧
        (listed.map (·.1)).Perm
          ((petAndName.filter fun entry => isSchemaName entry.1 && entry.2.isPresent).map
            fun entry => idOfFile entry.1) ∧
        (listed.map (·.1)).Pairwise fun first second =>
          second < first ↔ RunsAhead first second :=
  ⟨petAndName_readable, listing_order petAndName_readable⟩

/-- The two forms are listed out of the order of their identifiers. -/
theorem petAndName_out_of_order :
    ¬∀ directory : SchemaDirectory,
      (∀ entry ∈ directory.schemaFiles, ∃ document, Schema.document {} entry.2 = .ok document) →
      ∃ listed, directory.list {} = .ok listed ∧ (listed.map (·.1)).Pairwise (· ≤ ·) := by
  intro inOrder
  obtain ⟨listed, returned, pairwise⟩ := inOrder petAndName petAndName_readable
  obtain ⟨-, rfl⟩ := listFiles_eq_ok_iff.mp returned
  rw [map_fst_listing petAndName_readable, schemaFiles_petAndName] at pairwise
  exact absurd pairwise (by decide +kernel)

end Formwork.SchemaDirectory
