import Formwork.Library
import Mathlib

/-! # Identifiers of forms

The identifier that a name gives rise to is put together word by word: from each word its plain
letters, digits and dashes in lower case, and a dash between one word and the next. So it depends
on the words of a name only, and not on the case of plain letters.
-/

namespace Formwork

namespace Text

variable {c : Char} {text word rest : List Char}

/-! ## Words -/

/-- The words of a text: what stands between its white space. -/
def words (text : List Char) : List (List Char) :=
  (text.splitOnP isBlank).filter (!·.isEmpty)

/-- Some characters that are a word: at least one, and no white space. -/
def OneWord (word : List Char) : Prop := word ≠ [] ∧ ∀ c ∈ word, isBlank c = false

theorem words_append_blank (before after : List Char) (blank : isBlank c = true) :
    words (before ++ c :: after) = words before ++ words after := by
  rw [words, List.splitOnP_append_cons _ _ blank, List.filter_append]
  rfl

theorem words_blank (blank : isBlank c = true) (rest : List Char) :
    words (c :: rest) = words rest :=
  words_append_blank [] rest blank

theorem OneWord.words_eq (is : OneWord word) : words word = [word] := by
  obtain ⟨c, rest, rfl⟩ := List.exists_cons_of_ne_nil is.1
  rw [words, List.splitOnP_eq_singleton is.2]
  rfl

theorem OneWord.words_append (is : OneWord word) (blank : isBlank c = true) (rest : List Char) :
    words (word ++ c :: rest) = word :: words rest := by
  rw [words_append_blank _ _ blank, is.words_eq, List.singleton_append]

/-- What does not begin with white space begins with a word, up to the next white space. -/
theorem exists_word_append (start : isBlank c = false) (rest : List Char) :
    ∃ word after, c :: rest = word ++ after ∧ OneWord word ∧
      ∀ d ∈ after.head?, isBlank d = true := by
  refine ⟨(c :: rest).takeWhile (!isBlank ·), (c :: rest).dropWhile (!isBlank ·),
    List.takeWhile_append_dropWhile.symm, ⟨by simp [start], fun d member => ?_⟩, ?_⟩
  · simpa using List.mem_takeWhile_imp member
  · have next := List.head?_dropWhile_not (!isBlank ·) (c :: rest)
    intro d first
    rw [Option.mem_def.mp first] at next
    simpa using next

/-- A text is empty, or it begins with white space, or with a word that ends it or has white space
    after it. -/
theorem wordwise {motive : List Char → Prop} (nil : motive [])
    (blank : ∀ c rest, isBlank c = true → motive rest → motive (c :: rest))
    (last : ∀ word, OneWord word → motive word)
    (more : ∀ word c rest, OneWord word → isBlank c = true → motive rest →
      motive (word ++ c :: rest)) (text : List Char) : motive text := by
  induction h : text.length using Nat.strong_induction_on generalizing text with
  | _ n ih =>
  subst h
  cases text with
  | nil => exact nil
  | cons c rest =>
      by_cases start : isBlank c = true
      · exact blank c rest start (ih _ (Nat.lt_succ_self _) rest rfl)
      obtain ⟨word, after, split, is, next⟩ := exists_word_append (Bool.not_eq_true _ ▸ start) rest
      rw [split] at ih ⊢
      cases after with
      | nil =>
          rw [List.append_nil]
          exact last word is
      | cons d after =>
          refine more word d after is (next d rfl) (ih _ ?_ after rfl)
          rw [List.length_append, List.length_cons]
          omega

/-! ## Trimmed texts -/

/-- A text begins and ends with something else than white space. -/
structure IsTrimmed (text : List Char) : Prop where
  head : ∃ c rest, text = c :: rest ∧ isBlank c = false
  last : ∃ rest c, text = rest ++ [c] ∧ isBlank c = false

theorem words_dropWhile (text : List Char) : words (text.dropWhile isBlank) = words text := by
  induction text with
  | nil => rfl
  | cons c rest ih =>
      by_cases blank : isBlank c = true
      · rw [List.dropWhile_cons_of_pos blank, ih, words_blank blank]
      · rw [List.dropWhile_cons_of_neg blank]

theorem words_rdropWhile (text : List Char) : words (text.rdropWhile isBlank) = words text := by
  induction text using List.reverseRecOn with
  | nil => rfl
  | append_singleton rest c ih =>
      by_cases blank : isBlank c = true
      · rw [List.rdropWhile_concat_pos _ _ _ blank, ih, words_append_blank _ _ blank]
        exact (List.append_nil _).symm
      · rw [List.rdropWhile_concat_neg _ _ _ blank]

theorem strip_eq (text : List Char) :
    strip text = (text.dropWhile isBlank).rdropWhile isBlank := rfl

theorem words_strip (text : List Char) : words (strip text) = words text := by
  rw [strip_eq, words_rdropWhile, words_dropWhile]

theorem strip_eq_nil_or_isTrimmed (text : List Char) :
    strip text = [] ∨ IsTrimmed (strip text) := by
  by_cases empty : strip text = []
  · exact .inl empty
  refine .inr ⟨?_, ?_⟩
  · obtain ⟨c, rest, starts⟩ := List.exists_cons_of_ne_nil empty
    refine ⟨c, rest, starts, ?_⟩
    have first := List.head?_dropWhile_not isBlank text
    obtain ⟨after, whole⟩ := List.rdropWhile_prefix isBlank (text.dropWhile isBlank)
    rw [← whole, ← strip_eq, starts] at first
    exact first
  · have ends := List.rdropWhile_last_not isBlank (text.dropWhile isBlank) empty
    refine ⟨_, _, (List.dropLast_append_getLast empty).symm, ?_⟩
    exact Bool.not_eq_true _ ▸ ends

/-! ## Lower case -/

/-- No letter beyond ASCII that has a small one is white space, nor is the small one. -/
private theorem capitals_clear : Table.capitals.all (fun run =>
    decide (0 < run.first + run.offset) && blankRanges.all fun range =>
      decide (run.last < range.1 ∨ range.2 < run.first) &&
        decide (run.last + run.offset < range.1 ∨ range.2 < run.first + run.offset)) = true := by
  decide +kernel

private theorem isBlank_toLower_ascii :
    ∀ n < 128, isBlank (Char.ofNat n).toLower = isBlank (Char.ofNat n) := by
  decide +kernel

theorem isBlank_ofNat {code : Nat}
    (clear : ∀ range ∈ blankRanges, code < range.1 ∨ range.2 < code) :
    isBlank (Char.ofNat code) = false := by
  rw [isBlank, List.any_eq_false]
  intro range member
  rw [Char.toNat_ofNat]
  split
  · have apart := clear range member
    simp only [Bool.and_eq_true, decide_eq_true_eq]
    omega
  · revert range
    decide

theorem isBlank_lowerChar (c : Char) : isBlank (lowerChar c) = isBlank c := by
  unfold lowerChar
  split
  next ascii =>
    rw [← Char.ofNat_toNat c]
    exact isBlank_toLower_ascii _ ascii
  next =>
    split
    next code found =>
      obtain ⟨run, member, small⟩ := Array.exists_of_findSome?_eq_some found
      have clear := Array.all_eq_true'.mp capitals_clear run member
      simp only [Bool.and_eq_true, List.all_eq_true, decide_eq_true_eq] at clear
      simp only [Table.CapitalRun.small?, Option.ite_none_right_eq_some, Bool.and_eq_true,
        decide_eq_true_eq, Option.some.injEq] at small
      obtain ⟨⟨within, -⟩, rfl⟩ := small
      have before : isBlank (Char.ofNat c.toNat) = false := isBlank_ofNat fun range listed => by
        have apart := (clear.2 range listed).1
        omega
      rw [← Char.ofNat_toNat c, before]
      refine isBlank_ofNat fun range listed => ?_
      have apart := (clear.2 range listed).2
      have positive := clear.1
      rw [Char.ofNat_toNat]
      omega
    next => rfl

theorem lower_append (first second : List Char) :
    lower (first ++ second) = lower first ++ lower second := List.flatMap_append

theorem lower_singleton (c : Char) :
    lower [c] = if c = 'İ' then ['i', '\u0307'] else [lowerChar c] := by
  rw [lower, List.flatMap_singleton]
  simp only [beq_iff_eq]

theorem isBlank_of_mem_lower {d : Char} (member : d ∈ lower [c]) : isBlank d = isBlank c := by
  rw [lower_singleton] at member
  split at member
  next dotted =>
    subst dotted
    rcases List.mem_pair.mp member with rfl | rfl <;> decide +kernel
  next =>
    rw [List.mem_singleton.mp member]
    exact isBlank_lowerChar c

theorem lower_singleton_ne_nil (c : Char) : lower [c] ≠ [] := by
  rw [lower_singleton]
  split <;> exact List.cons_ne_nil _ _

theorem lower_of_isBlank (blank : isBlank c = true) : lower [c] = [lowerChar c] := by
  rw [lower_singleton, if_neg]
  rintro rfl
  revert blank
  decide +kernel

theorem lower_toLower (c : Char) : lower [c.toLower] = lower [c] := by
  by_cases capital : c.isUpper = true
  · have ascii : ∀ n < 91, lower [(Char.ofNat n).toLower] = lower [Char.ofNat n] := by
      decide +kernel
    have below : c.toNat < 91 := by
      simp only [Char.isUpper, decide_eq_true_eq, UInt32.le_iff_toNat_le,
        Char.toNat_val] at capital
      exact Nat.lt_succ_of_le capital.2
    rw [← Char.ofNat_toNat c]
    exact ascii _ below
  · rw [Char.toLower_eq_of_not_isUpper capital]

theorem lower_map_toLower (text : List Char) : lower (text.map Char.toLower) = lower text := by
  induction text with
  | nil => rfl
  | cons c rest ih =>
      rw [List.map_cons, ← List.singleton_append, lower_append, lower_toLower, ih, ← lower_append,
        List.singleton_append]

theorem OneWord.lower (is : OneWord word) : OneWord (lower word) := by
  refine ⟨?_, fun d member => ?_⟩
  · obtain ⟨c, rest, rfl⟩ := List.exists_cons_of_ne_nil is.1
    rw [← List.singleton_append, lower_append]
    exact List.append_ne_nil_of_left_ne_nil (lower_singleton_ne_nil c) _
  · obtain ⟨c, listed, among⟩ := List.mem_flatMap.mp member
    rw [isBlank_of_mem_lower (c := c) (by simpa [Text.lower] using among)]
    exact is.2 c listed

theorem words_lower (text : List Char) : words (lower text) = (words text).map lower := by
  induction text using wordwise with
  | nil => rfl
  | blank c rest blank ih =>
      rw [words_blank blank, ← ih, ← List.singleton_append, lower_append, lower_of_isBlank blank,
        List.singleton_append, words_blank ((isBlank_lowerChar c).trans blank)]
  | last word is => rw [is.words_eq, is.lower.words_eq, List.map_singleton]
  | more word c rest is blank ih =>
      rw [is.words_append blank, List.map_cons, ← ih, ← List.singleton_append, lower_append,
        lower_append, lower_of_isBlank blank, List.singleton_append,
        is.lower.words_append ((isBlank_lowerChar c).trans blank)]

theorem IsTrimmed.lower (is : IsTrimmed text) : IsTrimmed (lower text) := by
  constructor
  · obtain ⟨c, rest, rfl, start⟩ := is.head
    obtain ⟨d, more, begins⟩ := List.exists_cons_of_ne_nil (lower_singleton_ne_nil c)
    refine ⟨d, more ++ Text.lower rest, ?_, ?_⟩
    · rw [← List.singleton_append, lower_append, begins, List.cons_append]
    · rw [isBlank_of_mem_lower (begins ▸ List.mem_cons_self), start]
  · obtain ⟨rest, c, rfl, stop⟩ := is.last
    have ends := List.dropLast_append_getLast (lower_singleton_ne_nil c)
    refine ⟨Text.lower rest ++ (Text.lower [c]).dropLast,
      (Text.lower [c]).getLast (lower_singleton_ne_nil c), ?_, ?_⟩
    · rw [lower_append, List.append_assoc, ends]
    · rw [isBlank_of_mem_lower (List.getLast_mem _), stop]

end Text

namespace Schema

open Text

variable {c : Char} {text word rest : List Char}

/-! ## Dashes -/

theorem dashBlanks_append (flag : Bool) (is : OneWord word) (rest : List Char) :
    dashBlanks flag (word ++ rest) = word ++ dashBlanks false rest := by
  obtain ⟨filled, solid⟩ := is
  induction word generalizing flag with
  | nil => exact absurd rfl filled
  | cons c word ih =>
      rw [List.forall_mem_cons] at solid
      rw [List.cons_append, dashBlanks, solid.1, if_neg Bool.false_ne_true, List.cons_append]
      cases word with
      | nil => rfl
      | cons d word => rw [ih false (List.cons_ne_nil _ _) solid.2]

theorem dashBlanks_blank (blank : isBlank c = true) (rest : List Char) :
    dashBlanks true (c :: rest) = dashBlanks true rest := by
  rw [dashBlanks, blank, if_pos rfl, if_pos rfl]

private theorem ends_after_blank (before : List Char) (blank : isBlank c = true)
    (ends : ∃ front d, before ++ c :: rest = front ++ [d] ∧ isBlank d = false) :
    ∃ front d, rest = front ++ [d] ∧ isBlank d = false := by
  obtain ⟨front, d, same, solid⟩ := ends
  rcases List.eq_nil_or_concat rest with rfl | ⟨more, e, rfl⟩
  · obtain ⟨-, rfl⟩ := List.append_singleton_inj.mp same
    rw [blank] at solid
    cases solid
  · rw [List.concat_eq_append, ← List.cons_append, ← List.append_assoc] at same
    obtain ⟨-, rfl⟩ := List.append_singleton_inj.mp same
    exact ⟨more, e, List.concat_eq_append, solid⟩

/-- In what ends in a word, a dash takes the place of the white space between two words. -/
theorem dashBlanks_ends (ends : ∃ front d, text = front ++ [d] ∧ isBlank d = false) :
    words text ≠ [] ∧ dashBlanks true text = ['-'].intercalate (words text) := by
  induction text using wordwise with
  | nil =>
      obtain ⟨front, d, same, -⟩ := ends
      simp at same
  | blank c rest blank ih =>
      rw [words_blank blank, dashBlanks_blank blank]
      exact ih (ends_after_blank [] blank ends)
  | last word is =>
      have whole := dashBlanks_append true is []
      rw [List.append_nil] at whole
      rw [is.words_eq, whole, List.intercalate_singleton]
      exact ⟨List.cons_ne_nil _ _, List.append_nil word⟩
  | more word c rest is blank ih =>
      obtain ⟨some, dashed⟩ := ih (ends_after_blank word blank ends)
      obtain ⟨next, others, split⟩ := List.exists_cons_of_ne_nil some
      have one : dashBlanks false (c :: rest) = '-' :: dashBlanks true rest := by
        rw [dashBlanks, blank, if_pos rfl, if_neg Bool.false_ne_true]
      rw [is.words_append blank, dashBlanks_append true is, one, dashed, split,
        List.intercalate_cons_cons, List.append_assoc, List.singleton_append]
      exact ⟨List.cons_ne_nil _ _, rfl⟩

theorem dashBlanks_trimmed (is : IsTrimmed text) :
    dashBlanks false text = ['-'].intercalate (words text) := by
  obtain ⟨c, rest, rfl, start⟩ := is.head
  rw [← (dashBlanks_ends is.last).2, dashBlanks, dashBlanks, start, if_neg Bool.false_ne_true,
    if_neg Bool.false_ne_true]

theorem dashBlanks_strip (text : List Char) :
    dashBlanks false (lower (strip text)) = ['-'].intercalate ((words text).map lower) := by
  rw [← words_strip text, ← words_lower]
  rcases strip_eq_nil_or_isTrimmed text with empty | trimmed
  · rw [empty]
    rfl
  · exact dashBlanks_trimmed trimmed.lower

/-! ## Identifiers -/

def idOfWord (word : List Char) : List Char := (lower word).filter isIdCharacter

theorem filter_intercalate (parts : List (List Char)) :
    (['-'].intercalate parts).filter isIdCharacter =
      ['-'].intercalate (parts.map (·.filter isIdCharacter)) := by
  induction parts with
  | nil => rfl
  | cons part parts ih =>
      cases parts with
      | nil => simp
      | cons next others =>
          rw [List.intercalate_cons_cons, List.filter_append, List.filter_append, ih]
          rw [List.map_cons, List.map_cons, List.map_cons, List.intercalate_cons_cons]
          rfl

theorem toList_idOfName (name : String) :
    (idOfName name).toList = ['-'].intercalate ((words name.toList).map idOfWord) := by
  rw [idOfName, String.toList_ofList, dashBlanks_strip, filter_intercalate, List.map_map]
  rfl

theorem isIdCharacter_iff :
    isIdCharacter c = true ↔ 'a' ≤ c ∧ c ≤ 'z' ∨ '0' ≤ c ∧ c ≤ '9' ∨ c = '-' := by
  simp [isIdCharacter, or_assoc]

theorem isIdCharacter_of_mem (name : String) (member : c ∈ (idOfName name).toList) :
    isIdCharacter c = true := by
  rw [idOfName, String.toList_ofList] at member
  exact (List.mem_filter.mp member).2

private theorem idCharacters_plain : ∀ n < 128, isIdCharacter (Char.ofNat n) = true →
    lower [Char.ofNat n] = [Char.ofNat n] ∧ isBlank (Char.ofNat n) = false := by
  decide +kernel

theorem lower_of_isIdCharacter (is : isIdCharacter c = true) :
    lower [c] = [c] ∧ isBlank c = false := by
  have ascii : c.toNat < 128 := by
    rcases isIdCharacter_iff.mp is with ⟨-, below⟩ | ⟨-, below⟩ | rfl
    · exact Nat.lt_of_le_of_lt below (by decide)
    · exact Nat.lt_of_le_of_lt below (by decide)
    · decide
  rw [← Char.ofNat_toNat c] at is ⊢
  exact idCharacters_plain _ ascii is

theorem idOfWord_of_isIdCharacter (is : ∀ c ∈ word, isIdCharacter c = true) :
    idOfWord word = word := by
  have same : lower word = word := by
    induction word with
    | nil => rfl
    | cons c rest ih =>
        rw [List.forall_mem_cons] at is
        rw [← List.singleton_append, lower_append, (lower_of_isIdCharacter is.1).1, ih is.2]
  rw [idOfWord, same, List.filter_eq_self.mpr is]

theorem idOfName_idOfName (name : String) : idOfName (idOfName name) = idOfName name := by
  have is := fun c => isIdCharacter_of_mem (c := c) name
  apply String.toList_inj.mp
  generalize idOfName name = id at is ⊢
  rw [toList_idOfName]
  by_cases empty : id.toList = []
  · rw [empty]
    rfl
  · have one : OneWord id.toList :=
      ⟨empty, fun c member => (lower_of_isIdCharacter (is c member)).2⟩
    rw [one.words_eq, List.map_singleton, List.intercalate_singleton, idOfWord_of_isIdCharacter is]

/-- Two names have the same words but for the case of plain letters, whatever white space stands
    around and between these. -/
def Alike (name other : String) : Prop :=
  (words name.toList).map (·.map Char.toLower) = (words other.toList).map (·.map Char.toLower)

instance (name other : String) : Decidable (Alike name other) :=
  inferInstanceAs (Decidable (_ = _))

theorem idOfWord_toLower (word : List Char) : idOfWord (word.map Char.toLower) = idOfWord word := by
  rw [idOfWord, lower_map_toLower, idOfWord]

theorem Alike.idOfName_eq {name other : String} (alike : Alike name other) :
    idOfName name = idOfName other := by
  have parts (name : String) : (words name.toList).map idOfWord =
      ((words name.toList).map (·.map Char.toLower)).map idOfWord := by
    rw [List.map_map]
    exact List.map_congr_left fun word _ => (idOfWord_toLower word).symm
  apply String.toList_inj.mp
  rw [toList_idOfName, toList_idOfName, parts name, parts other, alike]

/-! ## The two small sigmas -/

/-- A character, where the small sigma of the end of a word is written like any other. -/
def plainSigma (c : Char) : Char := if c = 'ς' then 'σ' else c

theorem isBlank_plainSigma (c : Char) : isBlank (plainSigma c) = isBlank c := by
  unfold plainSigma
  split
  next final =>
    subst final
    decide +kernel
  next => rfl

theorem filter_plainSigma (c : Char) :
    [plainSigma c].filter isIdCharacter = [c].filter isIdCharacter := by
  unfold plainSigma
  split
  next final =>
    subst final
    decide +kernel
  next => rfl

/-- Identifiers have no sigmas, so it does not matter which ones a name has in lower case. -/
theorem filter_dashBlanks_plainSigma (flag : Bool) (text : List Char) :
    (dashBlanks flag (text.map plainSigma)).filter isIdCharacter =
      (dashBlanks flag text).filter isIdCharacter := by
  induction text generalizing flag with
  | nil => rfl
  | cons c rest ih =>
      rw [List.map_cons, dashBlanks, dashBlanks, isBlank_plainSigma]
      split
      · split
        · exact ih true
        · rw [List.filter_cons, List.filter_cons, ih true]
      · rw [← List.singleton_append, List.filter_append, filter_plainSigma, ih false,
          ← List.filter_append, List.singleton_append]

/-- Identifiers consist of small letters, digits and dashes, and are their own identifiers. Names
    that are alike have the same one, whichever small sigmas their lower case has. -/
theorem idOfName_canonical (name : String) :
    (∀ c ∈ (idOfName name).toList, 'a' ≤ c ∧ c ≤ 'z' ∨ '0' ≤ c ∧ c ≤ '9' ∨ c = '-') ∧
      idOfName (idOfName name) = idOfName name ∧
      (∀ other, Alike name other → idOfName name = idOfName other) ∧
      ∀ small, small.map plainSigma = (lower (strip name.toList)).map plainSigma →
        String.ofList ((dashBlanks false small).filter isIdCharacter) = idOfName name := by
  refine ⟨fun c member => isIdCharacter_iff.mp (isIdCharacter_of_mem name member),
    idOfName_idOfName name, fun other alike => alike.idOfName_eq, fun small same => ?_⟩
  rw [idOfName, ← filter_dashBlanks_plainSigma, same, filter_dashBlanks_plainSigma]

/-- A shop in Greece, written in two ways. -/
theorem greekShop_canonical :
    'p' ∈ (idOfName " ΟΔΟΣ  Shop 7").toList ∧
      Alike " ΟΔΟΣ  Shop 7" "ΟΔΟΣ\u2003SHOP\t7\n" ∧
      "οδος  shop 7".toList.map plainSigma =
        (lower (strip " ΟΔΟΣ  Shop 7".toList)).map plainSigma ∧
      ('a' ≤ 'p' ∧ 'p' ≤ 'z' ∨ '0' ≤ 'p' ∧ 'p' ≤ '9' ∨ 'p' = '-') ∧
      idOfName " ΟΔΟΣ  Shop 7" = idOfName "ΟΔΟΣ\u2003SHOP\t7\n" ∧
      String.ofList ((dashBlanks false "οδος  shop 7".toList).filter isIdCharacter) =
        idOfName " ΟΔΟΣ  Shop 7" := by
  have letter : 'p' ∈ (idOfName " ΟΔΟΣ  Shop 7").toList := by decide +kernel
  have alike : Alike " ΟΔΟΣ  Shop 7" "ΟΔΟΣ\u2003SHOP\t7\n" := by decide +kernel
  have small : "οδος  shop 7".toList.map plainSigma =
      (lower (strip " ΟΔΟΣ  Shop 7".toList)).map plainSigma := by decide +kernel
  have canonical := idOfName_canonical " ΟΔΟΣ  Shop 7"
  exact ⟨letter, alike, small, canonical.1 _ letter, canonical.2.2.1 _ alike,
    canonical.2.2.2 _ small⟩

end Schema

end Formwork
