import Formwork.Proofs.Entries
import Formwork.Schema.Document

/-! # Laws of reading

What holds of everything a reader can read, and what is read back from a value that was written.
For that a scheme of reading has to keep some laws: values of the type that is asked for read as
themselves, the first spelling of a key counts, and what a record keeps besides is none of its known
keys in the first spelling. So a record that is written with its keys and what it keeps is read back
with both.
-/

namespace Formwork

namespace Reading

variable {α β : Type} {p : α → Prop} {q : β → Prop}

@[simp] theorem map_read (f : α → β) (value : α) : f <$> read value = read (f value) := rfl

@[simp] theorem seq_read (f : α → β) (value : α) : read f <*> read value = read (f value) := rfl

@[simp] theorem under_read (step : DocumentStep) (value : α) :
    (read value).under step = read value := rfl

theorem map_eq (f : α → β) (reading : Reading α) : reading.map f = f <$> reading := rfl

theorem eq_read [Inhabited α] (reading : Reading α) (given : reading.toOption.isSome = true) :
    reading = .read (reading.toOption.getD default) := by
  cases reading with
  | read value => rfl
  | refused issues => cases given

/-- Whatever is read is as it should be. -/
def Ensures (reading : Reading α) (p : α → Prop) : Prop := ∀ value, reading = read value → p value

theorem Ensures.mono {reading : Reading α} {p' : α → Prop} (h : reading.Ensures p)
    (weaker : ∀ value, p value → p' value) : reading.Ensures p' :=
  fun value reads => weaker value (h value reads)

@[simp] theorem ensures_true (reading : Reading α) : reading.Ensures fun _ => True :=
  fun _ _ => trivial

@[simp] theorem ensures_read (value : α) : (read value).Ensures p ↔ p value := by
  simp [Ensures]

@[simp] theorem ensures_refuse (kind : IssueKind) : (refuse kind).Ensures p := nofun

@[simp] theorem ensures_map (f : α → β) (reading : Reading α) :
    (f <$> reading).Ensures q ↔ reading.Ensures fun value => q (f value) := by
  cases reading with
  | read value => simp
  | refused issues => simp [Ensures, Functor.map, map]

@[simp] theorem ensures_seq (f : Reading (α → β)) (reading : Reading α) :
    (f <*> reading).Ensures q ↔ f.Ensures fun g => reading.Ensures fun value => q (g value) := by
  cases f <;> cases reading <;> simp [Ensures, Seq.seq, apply]

@[simp] theorem ensures_under (step : DocumentStep) (reading : Reading α) :
    (reading.under step).Ensures p ↔ reading.Ensures p := by
  cases reading <;> simp [Ensures, under]

@[simp] theorem ensures_andThen (reading : Reading α) (check : α → Reading β) :
    (reading.andThen check).Ensures q ↔ reading.Ensures fun value => (check value).Ensures q := by
  cases reading <;> simp [Ensures, andThen]

end Reading

namespace Reader

open Reading (Ensures)

variable {α : Type} {reader : Value → Reading α} {p : α → Prop}

theorem optional_of_ne_null {value : Value} (given : value ≠ .null) :
    optional reader value = some <$> reader value := by
  cases value with
  | null => exact absurd rfl given
  | _ => rfl

theorem ensures_optional (each : ∀ value, (reader value).Ensures p) (value : Value) :
    (optional reader value).Ensures fun read => ∀ a ∈ read, p a := by
  by_cases given : value = .null
  · simp [given, optional]
  · simpa [optional_of_ne_null given] using each value

theorem ensures_items (each : ∀ value, (reader value).Ensures p) (index : Nat)
    (values : List Value) : (items reader index values).Ensures fun read => ∀ a ∈ read, p a := by
  induction values generalizing index with
  | nil => simp [items]
  | cons value rest ih =>
      simp only [items, Reading.ensures_seq, Reading.ensures_map, Reading.ensures_under]
      refine (each value).mono fun first holds => ?_
      exact (ih (index + 1)).mono fun others hold => List.forall_mem_cons.mpr ⟨holds, hold⟩

theorem ensures_list (each : ∀ value, (reader value).Ensures p) (value : Value) :
    (list reader value).Ensures fun read => ∀ a ∈ read, p a := by
  cases value with
  | list values => exact ensures_items each 0 values
  | _ => exact nofun

theorem ensures_record {reader : Entries Value → Reading α}
    (each : ∀ document, (reader document).Ensures p) (value : Value) :
    (record reader value).Ensures p := by
  cases value with
  | object document => exact each document
  | _ => exact nofun

/-! ## Reading what was written -/

theorem optional_orNull_map (reader : Value → Reading α) (write : α → Value) {f : α → α}
    (given : ∀ a, write a ≠ .null) {a : Option α}
    (back : ∀ b ∈ a, reader (write b) = .read (f b)) :
    optional reader (Value.orNull write a) = .read (a.map f) := by
  cases a with
  | none => rfl
  | some a => simp [Value.orNull, optional_of_ne_null (given a), back a rfl]

theorem optional_orNull (reader : Value → Reading α) (write : α → Value)
    (back : ∀ a, reader (write a) = .read a) (given : ∀ a, write a ≠ .null) (a : Option α) :
    optional reader (Value.orNull write a) = .read a := by
  simpa using optional_orNull_map reader write given (f := id) fun b _ => back b

variable {write : α → Value} {f : α → α}

theorem items_map {all : List α} (back : ∀ a ∈ all, reader (write a) = .read (f a))
    (index : Nat) : items reader index (all.map write) = .read (all.map f) := by
  induction all generalizing index with
  | nil => rfl
  | cons a rest ih =>
      obtain ⟨first, others⟩ := List.forall_mem_cons.mp back
      simp [items, first, ih others]

theorem list_map {all : List α} (back : ∀ a ∈ all, reader (write a) = .read (f a)) :
    list reader (.list (all.map write)) = .read (all.map f) :=
  items_map back 0

theorem list_strings (names : List String) :
    list string (Value.strings names) = .read names := by
  have back : ∀ name ∈ names, string (.str name) = .read (id name) := fun _ _ => rfl
  simpa [Value.strings] using list_map back

theorem object_mapValues (back : ∀ a, reader (write a) = .read a) (all : Entries α) :
    object reader (.object (all.mapValues write)) = .read all := by
  show entries reader (all.mapValues write) = .read all
  induction all with
  | nil => rfl
  | cons entry rest ih =>
      rw [Entries.mapValues] at ih ⊢
      simp [entries, back, ih]

end Reader

namespace Key

/-- No entry has the first spelling of a key. -/
def Free (keys : List Key) (entries : Entries Value) : Prop :=
  ∀ entry ∈ entries, entry.1 ∉ keys.map (·.name)

variable {keys : List Key}

theorem find?_of_has {key : Key} {document : Entries Value} (has : document.has key.name = true) :
    key.find? document = document.get? key.name := by
  rw [find?, spelling, if_pos has]

theorem free_unclaimed (keys : List Key) (document : Entries Value) :
    Free keys (unclaimed keys document) := by
  intro entry kept known
  obtain ⟨member, other⟩ := List.mem_filter.mp kept
  obtain ⟨key, among, same⟩ := List.mem_map.mp known
  have has : document.has key.name = true :=
    Entries.get?_isSome_iff.mpr (List.mem_map.mpr ⟨entry, member, same.symm⟩)
  have spelled : key.spelling document = entry.1 := by rw [spelling, if_pos has, same]
  have claimed : entry.1 ∈ keys.map (·.spelling document) := List.mem_map.mpr ⟨key, among, spelled⟩
  simp [claimed] at other

theorem unclaimed_of_has {document : Entries Value}
    (has : ∀ key ∈ keys, document.has key.name = true) :
    unclaimed keys document = document.dropAll (keys.map (·.name)) := by
  have spelled : keys.map (·.spelling document) = keys.map (·.name) := by
    apply List.map_congr_left
    intro key member
    rw [spelling, if_pos (has key member)]
  rw [unclaimed, spelled]

theorem dropAll_append {known extra : Entries Value} (names : known.names = keys.map (·.name))
    (free : Free keys extra) :
    (known ++ extra : Entries Value).dropAll (keys.map (·.name)) = extra := by
  have claimed : ∀ entry ∈ known, entry.1 ∈ keys.map (·.name) := by
    intro entry member
    rw [← names]
    exact List.mem_map_of_mem member
  have dropped : known.filter (fun entry => !(keys.map (·.name)).contains entry.1) = [] := by
    apply List.filter_eq_nil_iff.mpr
    intro entry member
    simpa using claimed entry member
  have kept : extra.filter (fun entry => !(keys.map (·.name)).contains entry.1) = extra := by
    apply List.filter_eq_self.mpr
    intro entry member
    simpa using free entry member
  rw [Entries.dropAll, List.filter_append, dropped, kept, List.nil_append]

end Key

namespace ReadingScheme

/-- What is relied on of a scheme of reading. -/
structure Lawful (scheme : ReadingScheme) : Prop where
  bool : ∀ b, scheme.bool (.bool b) = .read b
  int : ∀ n, scheme.int (.int n) = .read n
  float : ∀ x, scheme.float (.float x) = .read x
  /-- A key that is given in its first spelling is found there. -/
  found : ∀ (key : Key) (document : Entries Value), document.has key.name = true →
    scheme.find? key document = document.get? key.name
  /-- What a key claims in its first spelling is not kept besides. -/
  free : ∀ keys document, Key.Free keys (scheme.unclaimed keys document)
  /-- Where all keys are given in their first spellings, all other entries are kept, in order. -/
  kept : ∀ (keys : List Key) (document : Entries Value),
    (∀ key ∈ keys, document.has key.name = true) →
    scheme.unclaimed keys document = document.dropAll (keys.map (·.name))

theorem standard_lawful : Lawful {} where
  bool _ := rfl
  int _ := rfl
  float _ := rfl
  found _ _ has := Key.find?_of_has has
  free := Key.free_unclaimed
  kept _ _ has := Key.unclaimed_of_has has

variable {scheme : ReadingScheme} {keys : List Key}

theorem Lawful.unclaimed_append (lawful : scheme.Lawful) {known extra : Entries Value}
    (names : known.names = keys.map (·.name)) (free : Key.Free keys extra) :
    scheme.unclaimed keys (known ++ extra) = extra := by
  rw [lawful.kept, Key.dropAll_append names free]
  intro key member
  rw [Entries.has, Entries.get?_isSome_iff, Entries.names, List.map_append]
  refine List.mem_append_left _ ?_
  show key.name ∈ known.names
  rw [names]
  exact List.mem_map_of_mem member

end ReadingScheme

namespace Key

variable {α : Type} {scheme : ReadingScheme}

theorem ensures_withDefault {reader : Value → Reading α} {p : α → Prop} {default : α}
    (absent : p default) (each : ∀ value, (reader value).Ensures p) (key : Key)
    (document : Entries Value) : (key.withDefault scheme default reader document).Ensures p := by
  rw [withDefault, Reading.ensures_under]
  cases scheme.find? key document with
  | none => simpa using absent
  | some value => exact each value

theorem ensures_optional {reader : Value → Reading α} {p : α → Prop}
    (each : ∀ value, (reader value).Ensures p) (key : Key) (document : Entries Value) :
    (key.optional scheme reader document).Ensures fun read => ∀ a ∈ read, p a :=
  ensures_withDefault nofun (Reader.ensures_optional each) key document

end Key

end Formwork
