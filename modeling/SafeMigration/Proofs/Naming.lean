import Mathlib.Data.List.Infix
import SafeMigration.Naming
import SafeMigration.Proofs.Schema.TypeName

/-!
Regular plurals, and the columns that are named by their singulars.

A regular plural has `-ies` for the `-y` after a consonant, `-es` after a hissing sound and `-s` after anything else. The
three endings overlap, so a plural is taken apart by the first of three rules that fits. Which rule fits is settled by the
last letters of the word: for each way to make a plural the rules before the right one ask for letters that are not
there. So a table named by a regular plural is referred to by the singular, and one named by a word that is no plural by
the word itself.
-/

namespace SafeMigration

namespace Text

theorem stripEnding?_eq_none {ending cs : List Char} (absent : ¬ ending <:+ cs) : stripEnding? ending cs = none := by
  rw [stripEnding?, if_neg fun isSuffix => absent (List.isSuffixOf_iff_suffix.mp isSuffix)]

/-- A text ends in another. -/
def EndsIn (word ending : String) : Prop := ∃ start, word = start ++ ending

theorem endsIn_iff {word ending : String} : EndsIn word ending ↔ ending.toList <:+ word.toList := by
  constructor
  · rintro ⟨start, rfl⟩
    rw [String.toList_append]
    exact List.suffix_append ..
  · rintro ⟨start, same⟩
    exact ⟨String.ofList start, String.toList_inj.mp (by rw [String.toList_append, String.toList_ofList, same])⟩

instance (word ending : String) : Decidable (EndsIn word ending) := decidable_of_iff _ endsIn_iff.symm

end Text

namespace Naming

open Text (EndsIn endsIn_iff)

/-- Any character but the five vowels. -/
def IsConsonant (c : Char) : Prop := c ∉ ['a', 'e', 'i', 'o', 'u']

/-- A word ends in a consonant and then in another text. -/
def EndsInConsonant (word rest : String) : Prop := ∃ c, IsConsonant c ∧ EndsIn word (String.singleton c ++ rest)

theorem EndsInConsonant.endsIn {word rest : String} (ends : EndsInConsonant word rest) : EndsIn word rest := by
  obtain ⟨c, -, start, same⟩ := ends
  exact ⟨start ++ String.singleton c, by rw [same, String.append_assoc]⟩

/-- The regular plurals of words. -/
inductive RegularPlural : String → String → Prop
  /-- The `-y` after a consonant is turned into `-ies`. -/
  | ies {start : String} (consonant : EndsInConsonant (start ++ "y") "y") : RegularPlural (start ++ "y") (start ++ "ies")
  /-- A hissing sound is given an `-es`. -/
  | es {word : String} (hissing : ∃ ending ∈ ["ss", "sh", "ch", "x"], EndsIn word ending) :
    RegularPlural word (word ++ "es")
  /-- Any other word is given an `-s`, unless it ends in one already or its plural would look like one of the others. -/
  | s {word : String} (others : ∀ ending ∈ ["s", "sh", "ch", "x", "che", "she", "sse", "xe"], ¬ EndsIn word ending)
      (noY : ¬ EndsInConsonant word "y") (noIe : ¬ EndsInConsonant word "ie") : RegularPlural word (word ++ "s")

section Rules

variable {word : List Char}

/-- The first rule fits a word in `-ies` after a consonant. -/
theorem stemOfIes?_append {start : List Char} {c : Char} (consonant : IsConsonant c) :
    stemOfIes? (start ++ [c] ++ ['i', 'e', 's']) = some (start ++ [c]) := by
  have noVowel : vowels.contains c = false := by simpa [IsConsonant, vowels] using consonant
  rw [stemOfIes?, Text.stripEnding?_append]
  simp only [Option.filter_some, List.getLast?_concat, noVowel, Bool.not_false, if_true]

/-- It fits no other word. -/
theorem stemOfIes?_eq_none (absent : ∀ c, IsConsonant c → ¬ [c, 'i', 'e', 's'] <:+ word) : stemOfIes? word = none := by
  by_cases ending : ['i', 'e', 's'] <:+ word
  · obtain ⟨stem, rfl⟩ := ending
    rw [stemOfIes?, Text.stripEnding?_append]
    rcases List.eq_nil_or_concat stem with rfl | ⟨start, c, rfl⟩
    · rfl
    · have vowel : ¬ IsConsonant c := fun consonant => absent c consonant ⟨start, by simp⟩
      simpa [IsConsonant, vowels] using vowel
  · rw [stemOfIes?, Text.stripEnding?_eq_none ending]
    rfl

/-- The second rule fits a word in `-es` after a hissing sound. -/
theorem singularChars_of_hissing (noIes : stemOfIes? word = none) {ending : List Char} (listed : ending ∈ hissing)
    (isSuffix : ending <:+ word) : singularChars word = word.take (word.length - 2) := by
  have fits : (hissing.any fun ending => ending.isSuffixOf word) = true :=
    List.any_eq_true.mpr ⟨ending, listed, List.isSuffixOf_iff_suffix.mpr isSuffix⟩
  simp only [singularChars, noIes, fits, if_true]

/-- A word that neither of the two rules fits loses its `-s`, unless that is a double one. -/
theorem singularChars_of_plain (noIes : stemOfIes? word = none) (quiet : ∀ ending ∈ hissing, ¬ ending <:+ word) :
    singularChars word =
      if ['s', 's'] <:+ word then word else (Text.stripEnding? ['s'] word).getD word := by
  have silent : (hissing.any fun ending => ending.isSuffixOf word) = false :=
    List.any_eq_false.mpr fun ending listed fits => quiet ending listed (List.isSuffixOf_iff_suffix.mp fits)
  simp only [singularChars, noIes, silent, Bool.false_eq_true, if_false, List.isSuffixOf_iff_suffix]

/-- What stands before an ending in a word is an ending of what stands before it there. -/
theorem suffix_append_iff {start before : List Char} (ending : List Char) :
    start ++ ending <:+ before ++ ending ↔ start <:+ before := by
  simp [List.suffix_append_inj_of_length_eq]

/-- Texts that end a word end in its last letter. -/
theorem last_eq_of_suffix {first second : List Char} {x y : Char} (one : first ++ [x] <:+ word)
    (other : second ++ [y] <:+ word) : x = y := by
  obtain ⟨start, rfl⟩ := other
  rw [← List.append_assoc, List.suffix_append_inj_of_length_eq (by rfl)] at one
  simpa using one.2

/-- The hissing sounds, as they are written. -/
def hisses : List (List Char) := [['s', 's'], ['s', 'h'], ['c', 'h'], ['x']]

theorem mem_hissing_iff {ending : List Char} : ending ∈ hissing ↔ ∃ start ∈ hisses, ending = start ++ ['e', 's'] := by
  simp [hissing, hisses]

theorem singularChars_ies {start : List Char} {c : Char} (consonant : IsConsonant c) :
    singularChars (start ++ [c] ++ ['i', 'e', 's']) = start ++ [c] ++ ['y'] := by
  simp only [singularChars, stemOfIes?_append consonant]

theorem singularChars_es {ending : List Char} (listed : ending ∈ hisses) (isSuffix : ending <:+ word) :
    singularChars (word ++ ['e', 's']) = word := by
  have last : ∃ start x, ending = start ++ [x] ∧ x ≠ 'i' := by
    simp only [hisses, List.mem_cons, List.not_mem_nil, or_false] at listed
    rcases listed with rfl | rfl | rfl | rfl
    · exact ⟨['s'], 's', rfl, by decide⟩
    · exact ⟨['s'], 'h', rfl, by decide⟩
    · exact ⟨['c'], 'h', rfl, by decide⟩
    · exact ⟨[], 'x', rfl, by decide⟩
  have noIes : stemOfIes? (word ++ ['e', 's']) = none := by
    refine stemOfIes?_eq_none fun c _ isIes => ?_
    have beforeEs : [c] ++ ['i'] <:+ word := (suffix_append_iff ['e', 's']).mp isIes
    obtain ⟨start, x, rfl, different⟩ := last
    exact different (last_eq_of_suffix isSuffix beforeEs)
  rw [singularChars_of_hissing noIes (mem_hissing_iff.mpr ⟨ending, listed, rfl⟩)
    ((suffix_append_iff ['e', 's']).mpr isSuffix)]
  simp

theorem singularChars_s (noS : ¬ ['s'] <:+ word) (noE : ∀ start ∈ hisses, ¬ start ++ ['e'] <:+ word)
    (noIe : ∀ c, IsConsonant c → ¬ [c, 'i', 'e'] <:+ word) : singularChars (word ++ ['s']) = word := by
  have noIes : stemOfIes? (word ++ ['s']) = none := stemOfIes?_eq_none fun c consonant isIes =>
    noIe c consonant ((suffix_append_iff ['s']).mp isIes)
  have quiet : ∀ ending ∈ hissing, ¬ ending <:+ word ++ ['s'] := by
    intro ending listed isSuffix
    obtain ⟨start, hiss, rfl⟩ := mem_hissing_iff.mp listed
    exact noE start hiss ((suffix_append_iff ['s']).mp (by simpa using isSuffix))
  have single : ¬ ['s', 's'] <:+ word ++ ['s'] := fun double => noS ((suffix_append_iff ['s']).mp double)
  rw [singularChars_of_plain noIes quiet, if_neg single, Text.stripEnding?_append]
  rfl

theorem singularChars_self (noPlural : ['s', 's'] <:+ word ∨ ¬ ['s'] <:+ word) : singularChars word = word := by
  -- All that the first two rules ask for ends in `-es`.
  have noEs : ∀ start, ¬ start ++ ['e'] ++ ['s'] <:+ word := by
    intro start isEs
    rcases noPlural with double | noS
    · obtain ⟨before, rfl⟩ := double
      have isE : start ++ ['e'] <:+ before ++ ['s'] := (suffix_append_iff ['s']).mp (by simpa using isEs)
      have isS : [] ++ ['s'] <:+ before ++ ['s'] := List.suffix_append before ['s']
      exact absurd (last_eq_of_suffix isE isS) (by decide)
    · exact noS ((List.suffix_append (start ++ ['e']) ['s']).trans isEs)
  have noIes : stemOfIes? word = none := stemOfIes?_eq_none fun c _ isIes => noEs [c, 'i'] isIes
  have quiet : ∀ ending ∈ hissing, ¬ ending <:+ word := by
    intro ending listed
    obtain ⟨start, -, rfl⟩ := mem_hissing_iff.mp listed
    simpa using noEs start
  rw [singularChars_of_plain noIes quiet]
  split
  · rfl
  next single => rw [Text.stripEnding?_eq_none (noPlural.resolve_left single), Option.getD_none]

end Rules

theorem singular_eq_iff {plural word : String} : singular plural = word ↔ singularChars plural.toList = word.toList := by
  rw [singular, ← String.toList_inj, String.toList_ofList]

/-- The singular of a regular plural is the word that it is the plural of. -/
theorem RegularPlural.singular_eq {word plural : String} (regular : RegularPlural word plural) :
    singular plural = word := by
  rw [singular_eq_iff]
  cases regular with
  | @ies start consonant =>
    obtain ⟨c, isConsonant, before, same⟩ := consonant
    obtain rfl : start = before ++ String.singleton c := by
      rw [← String.append_assoc, String.append_left_inj] at same
      exact same
    simpa using @singularChars_ies before.toList c isConsonant
  | es hissing =>
    obtain ⟨ending, listed, ends⟩ := hissing
    have isHiss : ending.toList ∈ hisses := List.mem_map_of_mem (f := String.toList) listed
    simpa using singularChars_es isHiss (endsIn_iff.mp ends)
  | s others _ noIe =>
    -- The first two rules would ask for `-ie` or for `-e` after a hissing sound at the end of the word.
    have noE : ∀ start ∈ hisses, ¬ start ++ ['e'] <:+ word.toList := by
      intro start hiss isSuffix
      obtain ⟨ending, listed, rfl⟩ := List.mem_map.mp (show start ∈ ["ss", "sh", "ch", "x"].map String.toList from hiss)
      refine others (ending ++ "e") ?_ (endsIn_iff.mpr (by simpa using isSuffix))
      simp only [List.mem_cons, List.not_mem_nil, or_false] at listed
      rcases listed with rfl | rfl | rfl | rfl <;> decide
    have noConsonantIe : ∀ c, IsConsonant c → ¬ [c, 'i', 'e'] <:+ word.toList := fun c consonant isSuffix =>
      noIe ⟨c, consonant, endsIn_iff.mpr (by simpa using isSuffix)⟩
    have noS : ¬ ['s'] <:+ word.toList := fun isSuffix => others "s" (by decide) (endsIn_iff.mpr isSuffix)
    simpa using singularChars_s noS noE noConsonantIe

/-- A word that ends in a double `-s` or in none is no plural. -/
theorem singular_self {word : String} (noPlural : EndsIn word "ss" ∨ ¬ EndsIn word "s") : singular word = word := by
  rw [singular_eq_iff]
  exact singularChars_self (by simpa [endsIn_iff] using noPlural)

/-- A table that is named by a regular plural is referred to by the word itself, and so is one that is named by a word that
ends in a double `-s` or in none. -/
theorem foreignKeyColumn_of_regular :
    (∀ word plural, RegularPlural word plural → foreignKeyColumn plural = word ++ "_id") ∧
      ∀ word, EndsIn word "ss" ∨ ¬ EndsIn word "s" → foreignKeyColumn word = word ++ "_id" :=
  ⟨fun word plural regular => by rw [foreignKeyColumn, regular.singular_eq],
    fun word noPlural => by rw [foreignKeyColumn, singular_self noPlural]⟩

/-- Each ending once, and a word that only looks like a plural. -/
theorem foreignKeyColumn_of_regular_categories :
    RegularPlural "category" "categories" ∧ foreignKeyColumn "categories" = "category_id" ∧
      RegularPlural "branch" "branches" ∧ foreignKeyColumn "branches" = "branch_id" ∧
      RegularPlural "house" "houses" ∧ foreignKeyColumn "houses" = "house_id" ∧
      EndsIn "access" "ss" ∧ foreignKeyColumn "access" = "access_id" := by
  obtain ⟨plurals, others⟩ := foreignKeyColumn_of_regular
  have categories : RegularPlural "category" "categories" :=
    @RegularPlural.ies "categor" ⟨'r', by unfold IsConsonant; decide, "catego", by decide⟩
  have branches : RegularPlural "branch" "branches" := .es ⟨"ch", by decide, by decide⟩
  have houses : RegularPlural "house" "houses" := .s (by decide)
    (fun ends => absurd ends.endsIn (by decide)) fun ends => absurd ends.endsIn (by decide)
  have access : EndsIn "access" "ss" := by decide
  exact ⟨categories, plurals _ _ categories, branches, plurals _ _ branches, houses, plurals _ _ houses, access,
    others _ (.inl access)⟩

end Naming

end SafeMigration
