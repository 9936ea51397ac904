import Formwork.Entries
import Mathlib.Data.List.Nodup

/-! # Laws of named entries

Entries are read through `get?`. Names that are put one at a time never repeat, so a map
built that way is determined by what it reads as, up to the order of its names.
-/

namespace Formwork.Entries

variable {α : Type}

theorem get?_eq_none_of_not_has {entries : Entries α} {name : String}
    (h : entries.has name = false) : entries.get? name = none := by
  simpa [has] using h

theorem get?_isSome_iff {entries : Entries α} {name : String} :
    (entries.get? name).isSome = true ↔ name ∈ entries.names := by
  induction entries with
  | nil => simp [names]
  | cons entry rest ih =>
      rcases entry with ⟨key, value⟩
      by_cases h : key = name
      · simp [get?, names, h]
      · have other : ¬name = key := fun same => h same.symm
        simpa [get?, names, h, other] using ih

theorem get?_eq_none_iff {entries : Entries α} {name : String} :
    entries.get? name = none ↔ name ∉ entries.names := by
  rw [← get?_isSome_iff]
  simp

theorem mem_of_get? {entries : Entries α} {name : String} {value : α}
    (h : entries.get? name = some value) : (name, value) ∈ entries := by
  induction entries with
  | nil => cases h
  | cons entry rest ih =>
      rcases entry with ⟨key, other⟩
      simp only [get?] at h
      split at h
      next same =>
        cases h
        simp [same]
      next => exact List.mem_cons_of_mem _ (ih h)

theorem get?_of_mem {entries : Entries α} (distinct : entries.names.Nodup) {name : String}
    {value : α} (h : (name, value) ∈ entries) : entries.get? name = some value := by
  induction entries with
  | nil => cases h
  | cons entry rest ih =>
      rcases entry with ⟨key, other⟩
      obtain ⟨fresh, distinct⟩ := List.nodup_cons.mp distinct
      rcases List.mem_cons.mp h with same | inRest
      · cases same
        simp [get?]
      · have differ : key ≠ name := by
          intro same
          subst same
          exact fresh (List.mem_map.mpr ⟨_, inRest, rfl⟩)
        simpa [get?, differ] using ih distinct inRest

theorem get?_eq_some_iff {entries : Entries α} (distinct : entries.names.Nodup) {name : String}
    {value : α} : entries.get? name = some value ↔ (name, value) ∈ entries :=
  ⟨mem_of_get?, get?_of_mem distinct⟩

theorem get?_perm {entries more : Entries α} (distinct : entries.names.Nodup)
    (same : entries.Perm more) (name : String) : more.get? name = entries.get? name := by
  have distinct' : more.names.Nodup := (same.map Prod.fst).nodup_iff.mp distinct
  ext value
  rw [get?_eq_some_iff distinct, get?_eq_some_iff distinct', same.mem_iff]

theorem perm_of_get? {entries more : Entries α} (distinct : entries.names.Nodup)
    (distinct' : more.names.Nodup) (same : ∀ name, entries.get? name = more.get? name) :
    entries.Perm more := by
  refine (List.perm_ext_iff_of_nodup distinct.of_map distinct'.of_map).mpr ?_
  rintro ⟨name, value⟩
  rw [← get?_eq_some_iff distinct, ← get?_eq_some_iff distinct', same]

theorem ext_get? {entries more : Entries α} (names : entries.names = more.names)
    (distinct : more.names.Nodup) (same : ∀ name, entries.get? name = more.get? name) :
    entries = more := by
  induction entries generalizing more with
  | nil => exact (List.map_eq_nil_iff.mp names.symm).symm
  | cons entry rest ih =>
      cases more with
      | nil => cases names
      | cons other later =>
          rcases entry with ⟨name, value⟩
          rcases other with ⟨key, read⟩
          obtain ⟨first, tail⟩ := List.cons.inj names
          obtain ⟨fresh, once⟩ := List.nodup_cons.mp distinct
          have alike : name = key := first
          subst alike
          have head : value = read := by simpa [get?] using same name
          rw [head, ih tail once fun key => ?_]
          by_cases isFirst : name = key
          · have absent (entries : Entries α) (names : entries.names = Entries.names later) :
                entries.get? key = none := get?_eq_none_iff.mpr (isFirst ▸ names ▸ fresh)
            rw [absent rest tail, absent later rfl]
          · simpa [get?, isFirst] using same key

/-! ## Putting -/

theorem names_put (entries : Entries α) (name : String) (value : α) :
    (entries.put name value).names =
      if name ∈ entries.names then entries.names else entries.names ++ [name] := by
  induction entries with
  | nil => simp [put, names]
  | cons entry rest ih =>
      rcases entry with ⟨key, other⟩
      by_cases h : key = name
      · simp [put, names, h]
      · have other : ¬name = key := fun same => h same.symm
        simp only [names] at ih
        simp only [put, names, h, if_false, List.map_cons, ih, List.mem_cons, other, false_or]
        by_cases known : name ∈ List.map Prod.fst rest
        · simp only [known, if_true]
        · simp only [known, if_false, List.cons_append]

theorem nodup_put {entries : Entries α} (distinct : entries.names.Nodup) (name : String)
    (value : α) : (entries.put name value).names.Nodup := by
  rw [names_put]
  split
  · exact distinct
  next fresh =>
    refine List.nodup_append.mpr ⟨distinct, List.nodup_singleton name, ?_⟩
    intro key member other single same
    rw [List.mem_singleton] at single
    exact fresh (single ▸ same ▸ member)

theorem put_of_get? {entries : Entries α} {name : String} {value : α}
    (h : entries.get? name = some value) : entries.put name value = entries := by
  induction entries with
  | nil => cases h
  | cons entry rest ih =>
      rcases entry with ⟨key, other⟩
      simp only [get?] at h
      by_cases same : key = name
      · simp only [same, if_true, Option.some.injEq] at h
        simp [put, same, h]
      · simp only [same, if_false] at h
        simp [put, same, ih h]

theorem put_of_not_mem {entries : Entries α} {name : String} (fresh : name ∉ entries.names)
    (value : α) : entries.put name value = entries ++ [(name, value)] := by
  induction entries with
  | nil => rfl
  | cons entry rest ih =>
      obtain ⟨other, later⟩ := not_or.mp (mt List.mem_cons.mpr fresh)
      rw [put, if_neg (Ne.symm other), ih later, List.cons_append]

/-! ## Putting several -/

theorem get?_append (entries more : Entries α) (name : String) :
    get? (entries ++ more) name = (entries.get? name).or (more.get? name) := by
  induction entries with
  | nil => rfl
  | cons entry rest ih =>
      rcases entry with ⟨key, value⟩
      by_cases same : key = name
      · simp [get?, same]
      · simpa [get?, same] using ih

/-- Of what was put the last counts, and what was there before only where nothing was put. -/
theorem get?_putAll (entries more : Entries α) (name : String) :
    (entries.putAll more).get? name = (get? more.reverse name).or (entries.get? name) := by
  induction more generalizing entries with
  | nil => rfl
  | cons entry rest ih =>
      have single : get? [entry] name = if entry.1 = name then some entry.2 else none := rfl
      show ((entries.put entry.1 entry.2).putAll rest).get? name = _
      rw [ih, get?_put, List.reverse_cons, get?_append, single, Option.or_assoc]
      split <;> rfl

theorem get?_putAll_of_nodup {more : Entries α} (distinct : more.names.Nodup)
    (entries : Entries α) (name : String) :
    (entries.putAll more).get? name = (more.get? name).or (entries.get? name) := by
  rw [get?_putAll, get?_perm distinct (List.reverse_perm more).symm]

theorem putAll_of_get? {entries more : Entries α}
    (h : ∀ entry ∈ more, entries.get? entry.1 = some entry.2) :
    entries.putAll more = entries := by
  induction more with
  | nil => rfl
  | cons entry rest ih =>
      rw [List.forall_mem_cons] at h
      show (entries.put entry.1 entry.2).putAll rest = entries
      rw [put_of_get? h.1]
      exact ih h.2

theorem get?_putAll_of_not_mem {more : Entries α} {name : String} (h : name ∉ more.names)
    (entries : Entries α) : (entries.putAll more).get? name = entries.get? name := by
  have unwritten : get? more.reverse name = none :=
    get?_eq_none_iff.mpr (by simpa [names] using h)
  rw [get?_putAll, unwritten, Option.none_or]

theorem get?_putAll_of_mem {more : Entries α} {name : String} (h : name ∈ more.names)
    (entries : Entries α) :
    ∃ value, (name, value) ∈ more ∧ (entries.putAll more).get? name = some value := by
  have written : (get? more.reverse name).isSome = true :=
    get?_isSome_iff.mpr (by simpa [names] using h)
  obtain ⟨value, last⟩ := Option.isSome_iff_exists.mp written
  refine ⟨value, List.mem_reverse.mp (mem_of_get? last), ?_⟩
  rw [get?_putAll, last, Option.some_or]

theorem nodup_putAll {entries : Entries α} (distinct : entries.names.Nodup)
    (more : Entries α) : (entries.putAll more).names.Nodup := by
  induction more generalizing entries with
  | nil => exact distinct
  | cons entry rest ih => exact ih (nodup_put distinct entry.1 entry.2)

theorem nodup_ofList (pairs : List (String × α)) : (ofList pairs).names.Nodup :=
  nodup_putAll (show (names ([] : Entries α)).Nodup from List.nodup_nil) pairs

theorem mem_names_putAll {entries more : Entries α} {name : String} :
    name ∈ (entries.putAll more).names ↔ name ∈ entries.names ∨ name ∈ more.names := by
  rw [← get?_isSome_iff, ← get?_isSome_iff]
  by_cases h : name ∈ more.names
  · obtain ⟨value, -, reads⟩ := get?_putAll_of_mem h entries
    simp [reads, h]
  · rw [get?_putAll_of_not_mem h]
    simp [h]

theorem forall_get?_put {entries : Entries α} {name : String} {value : α} {p : α → Prop}
    (old : ∀ name value, entries.get? name = some value → p value) (new : p value) :
    ∀ other found, (entries.put name value).get? other = some found → p found := by
  intro other found reads
  rw [get?_put] at reads
  split at reads
  · cases reads
    exact new
  · exact old other found reads

/-- What was put holds of every value read after, if it held of every value read before. -/
theorem forall_get?_putAll {entries more : Entries α} {p : α → Prop}
    (old : ∀ name value, entries.get? name = some value → p value)
    (new : ∀ entry ∈ more, p entry.2) :
    ∀ name value, (entries.putAll more).get? name = some value → p value := by
  intro name value reads
  by_cases h : name ∈ more.names
  · obtain ⟨put, member, same⟩ := get?_putAll_of_mem h entries
    rw [reads] at same
    cases same
    exact new _ member
  · rw [get?_putAll_of_not_mem h] at reads
    exact old name value reads

theorem forall_mem_ofList {pairs : Entries α} {p : α → Prop} (h : ∀ entry ∈ pairs, p entry.2) :
    ∀ entry ∈ ofList pairs, p entry.2 := by
  have old : ∀ name value, get? ([] : Entries α) name = some value → p value := nofun
  intro entry member
  exact forall_get?_putAll old h entry.1 entry.2 (get?_of_mem (nodup_ofList pairs) member)

theorem putAll_of_nodup {entries more : Entries α}
    (distinct : (entries.names ++ more.names).Nodup) : entries.putAll more = entries ++ more := by
  induction more generalizing entries with
  | nil => exact (List.append_nil entries).symm
  | cons entry rest ih =>
      have fresh : entry.1 ∉ entries.names := fun known =>
        (List.nodup_append.mp distinct).2.2 _ known _ List.mem_cons_self rfl
      have moved : ((entries ++ [entry]) ++ rest).names.Nodup := by
        simpa [names] using distinct
      show (entries.put entry.1 entry.2).putAll rest = _
      rw [put_of_not_mem fresh, ih (by simpa [names] using moved), List.append_assoc]
      rfl

theorem ofList_of_nodup {pairs : Entries α} (distinct : pairs.names.Nodup) :
    ofList pairs = pairs :=
  putAll_of_nodup distinct

theorem put_put (entries : Entries α) (name : String) (first second : α) :
    (entries.put name first).put name second = entries.put name second := by
  induction entries with
  | nil => simp [put]
  | cons entry rest ih => by_cases same : entry.1 = name <;> simp [put, same, ih]

theorem put_comm {entries : Entries α} {name other : String} (known : name ∈ entries.names)
    (differ : name ≠ other) (value more : α) :
    (entries.put other more).put name value = (entries.put name value).put other more := by
  induction entries with
  | nil => cases known
  | cons entry rest ih =>
      rcases entry with ⟨key, old⟩
      by_cases first : key = name
      · subst first
        simp [put, differ]
      · have later : name ∈ Entries.names rest :=
          (List.mem_cons.mp known).resolve_left fun same => first same.symm
        by_cases second : key = other
        · subst second
          simp [put, first]
        · simp [put, first, second, ih later]

private theorem put_putAll {entries more : Entries α} {name : String}
    (known : name ∈ entries.names) (fresh : name ∉ more.names) (value : α) :
    (entries.putAll more).put name value = (entries.put name value).putAll more := by
  induction more generalizing entries with
  | nil => rfl
  | cons entry rest ih =>
      obtain ⟨differ, fresh⟩ := not_or.mp (mt List.mem_cons.mpr fresh)
      have still : name ∈ (entries.put entry.1 entry.2).names := by
        rw [names_put]
        split
        · exact known
        · exact List.mem_append_left _ known
      show ((entries.put entry.1 entry.2).putAll rest).put name value =
        ((entries.put name value).put entry.1 entry.2).putAll rest
      rw [ih still fresh, put_comm known differ]

private theorem putAll_put {more : Entries α} (distinct : more.names.Nodup)
    (entries : Entries α) (name : String) (value : α) :
    entries.putAll (more.put name value) = (entries.putAll more).put name value := by
  induction more generalizing entries with
  | nil => rfl
  | cons entry rest ih =>
      rcases entry with ⟨key, old⟩
      obtain ⟨fresh, once⟩ := List.nodup_cons.mp distinct
      by_cases same : key = name
      · subst same
        have known : key ∈ (entries.put key old).names := by
          rw [← get?_isSome_iff, get?_put, if_pos rfl]
          rfl
        rw [put, if_pos rfl]
        show (entries.put key value).putAll rest =
          ((entries.put key old).putAll rest).put key value
        rw [put_putAll known fresh, put_put]
      · rw [put, if_neg same]
        exact ih once (entries.put key old)

private theorem putAll_putAll {more : Entries α} (distinct : more.names.Nodup)
    (entries later : Entries α) :
    entries.putAll (more.putAll later) = (entries.putAll more).putAll later := by
  induction later generalizing more with
  | nil => rfl
  | cons entry rest ih =>
      show entries.putAll ((more.put entry.1 entry.2).putAll rest) =
        ((entries.putAll more).put entry.1 entry.2).putAll rest
      rw [ih (nodup_put distinct _ _), putAll_put distinct]

theorem putAll_ofList (entries pairs : Entries α) :
    entries.putAll (ofList pairs) = entries.putAll pairs :=
  putAll_putAll (show (names ([] : Entries α)).Nodup from List.nodup_nil) entries pairs

/-! ## Leaving out -/

theorem get?_filter (entries : Entries α) (keep : String → Bool) (name : String) :
    Entries.get? (entries.filter fun entry => keep entry.1) name =
      if keep name then entries.get? name else none := by
  induction entries with
  | nil => simp
  | cons entry rest ih =>
      simp only [List.filter_cons]
      grind [get?]

theorem nodup_filter {entries : Entries α} (distinct : entries.names.Nodup)
    (keep : String × α → Bool) : (Entries.names (entries.filter keep)).Nodup :=
  List.Nodup.sublist (List.filter_sublist.map _) distinct

theorem dropAll_nil (entries : Entries α) : entries.dropAll [] = entries := by
  simp [dropAll]

theorem dropAll_dropAll (entries : Entries α) (first second : List String) :
    (entries.dropAll first).dropAll second = entries.dropAll (first ++ second) := by
  simp only [dropAll, List.filter_filter]
  congr 1
  funext entry
  simp [Bool.and_comm]

theorem drop_cons_self (entries : Entries α) (name : String) (value : α) :
    drop ((name, value) :: entries) name = drop entries name :=
  List.filter_cons_of_neg (by simp)

theorem drop_cons_of_ne (entries : Entries α) {key name : String} (h : key ≠ name) (value : α) :
    drop ((key, value) :: entries) name = (key, value) :: drop entries name :=
  List.filter_cons_of_pos (by simpa using h)

theorem drop_of_not_mem {entries : Entries α} {name : String} (absent : name ∉ entries.names) :
    entries.drop name = entries :=
  List.filter_eq_self.mpr fun entry member => by
    have apart : entry.1 ≠ name := fun same => absent (List.mem_map.mpr ⟨entry, member, same⟩)
    simpa using apart

theorem perm_cons_drop {entries : Entries α} (distinct : entries.names.Nodup) {name : String}
    {value : α} (found : entries.get? name = some value) :
    entries.Perm ((name, value) :: entries.drop name) := by
  induction entries with
  | nil => cases found
  | cons entry rest ih =>
      obtain ⟨key, other⟩ := entry
      obtain ⟨fresh, distinct⟩ := List.nodup_cons.mp distinct
      by_cases same : key = name
      · subst same
        have value : other = value := by simpa [get?] using found
        rw [drop_cons_self, drop_of_not_mem fresh, value]
      · have later : get? rest name = some value := by simpa [get?, same] using found
        rw [drop_cons_of_ne rest same]
        exact ((ih distinct later).cons _).trans (.swap _ _ _)

/-- What an entry becomes that does not count any more is not among those that count. -/
theorem filter_put {entries : Entries α} (distinct : entries.names.Nodup) {name : String}
    (known : name ∈ entries.names) (counts : α → Bool) (value : α)
    (apart : counts value = false) :
    (entries.put name value).filter (fun entry => counts entry.2) =
      drop (entries.filter fun entry => counts entry.2) name := by
  induction entries with
  | nil => cases known
  | cons entry rest ih =>
      obtain ⟨key, other⟩ := entry
      obtain ⟨fresh, distinct⟩ := List.nodup_cons.mp distinct
      by_cases same : key = name
      · subst same
        have absent : key ∉ names (rest.filter fun entry => counts entry.2) := fun member =>
          fresh (List.Sublist.subset (List.filter_sublist.map _) member)
        rw [put, if_pos rfl, List.filter_cons_of_neg (by simpa using apart), List.filter_cons]
        split
        · rw [drop_cons_self, drop_of_not_mem absent]
        · rw [drop_of_not_mem absent]
      · have later : name ∈ names rest :=
          (List.mem_cons.mp known).resolve_left fun here => same here.symm
        rw [put, if_neg same, List.filter_cons, List.filter_cons, ih distinct later]
        split
        · rw [drop_cons_of_ne _ same]
        · rfl

end Formwork.Entries
