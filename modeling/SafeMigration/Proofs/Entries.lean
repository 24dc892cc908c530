import Mathlib.Data.String.Basic
import SafeMigration.Text.Order

/-!
Entries by key: what a look-up finds after an entry was put, and the order of the keys.

Entries that are collected by `Entries.put` are in strict order of their keys, so each key stands once and the list is
determined by its look-ups. Entries that are put in the order of their keys are simply appended. What is given besides
entries with other keys is found again, and taking it away leaves the entries as they were.
-/

namespace SafeMigration

namespace Text

theorem precedesChars_iff_lt (as bs : List Char) : precedesChars as bs = true ↔ as < bs := by
  induction as generalizing bs with
  | nil => cases bs <;> simp [precedesChars]
  | cons a as ih =>
    cases bs with
    | nil => simp [precedesChars]
    | cons b bs =>
      simp only [precedesChars, List.cons_lt_cons_iff, Nat.blt_eq, ← ih]
      rcases Nat.lt_trichotomy a.toNat b.toNat with less | same | greater
      · have ordered : a < b := UInt32.lt_iff_toNat_lt.mpr less
        simp [less, ordered]
      · simp [Char.toNat_inj.mp same]
      · have ordered : b < a := UInt32.lt_iff_toNat_lt.mpr greater
        simp [Nat.lt_asymm greater, greater, ordered.le, ordered.ne']

/-- The order of keys is the order of texts. -/
theorem precedes_iff_lt (a b : String) : precedes a b = true ↔ a < b := by
  rw [precedes, precedesChars_iff_lt, String.lt_iff_toList_lt]

end Text

namespace Entries

variable {α : Type}

/-- Entries in the strict order of their keys. -/
def Ordered (entries : Entries α) : Prop := entries.Pairwise fun a b => a.1 < b.1

theorem get?_put (entries : Entries α) (key other : String) (value : α) :
    get? (put entries key value) other = if key = other then some value else get? entries other := by
  induction entries with
  | nil => simp [put, get?]
  | cons entry rest ih =>
    obtain ⟨k, v⟩ := entry
    by_cases same : k = key
    · subst same
      by_cases found : k = other <;> simp [put, get?, found]
    · by_cases before : Text.precedes key k
      · simp [put, get?, same, before]
      · simp only [put, if_neg same, before, Bool.false_eq_true, if_false, get?, ih]
        by_cases found : k = other
        · subst found
          simp [Ne.symm same]
        · simp [found]

/-- Of pairs that are collected each key has a value. -/
theorem has_ofPairs (pairs : List (String × α)) (key : String) :
    has (ofPairs pairs) key = true ↔ ∃ pair ∈ pairs, pair.1 = key := by
  have general : ∀ entries : Entries α, has (pairs.foldl (fun entries pair => put entries pair.1 pair.2) entries) key =
      true ↔ has entries key = true ∨ ∃ pair ∈ pairs, pair.1 = key := by
    induction pairs with
    | nil => simp
    | cons pair pairs ih =>
      intro entries
      rw [List.foldl_cons, ih, has, get?_put]
      by_cases same : pair.1 = key <;> simp [same, has]
  exact (general []).trans (or_iff_right nofun)

theorem key_of_mem_put {entries : Entries α} {key : String} {value : α} {entry : String × α}
    (member : entry ∈ put entries key value) : entry.1 = key ∨ entry ∈ entries := by
  induction entries with
  | nil => simp_all [put]
  | cons head rest ih =>
    simp only [put] at member
    split at member
    · rcases List.mem_cons.mp member with rfl | later
      · exact .inl rfl
      · exact .inr (List.mem_cons_of_mem _ later)
    · split at member
      · rcases List.mem_cons.mp member with rfl | later
        · exact .inl rfl
        · exact .inr later
      · rcases List.mem_cons.mp member with rfl | later
        · exact .inr List.mem_cons_self
        · exact (ih later).imp_right (List.mem_cons_of_mem _)

/-- Putting an entry keeps the order. -/
theorem Ordered.put {entries : Entries α} (ordered : entries.Ordered) (key : String) (value : α) :
    Ordered (entries.put key value) := by
  induction entries with
  | nil => exact List.pairwise_singleton _ _
  | cons head rest ih =>
    obtain ⟨k, v⟩ := head
    obtain ⟨first, later⟩ := List.pairwise_cons.mp ordered
    simp only [Entries.put]
    split
    · next same =>
      subst same
      exact List.pairwise_cons.mpr ⟨first, later⟩
    · next different =>
      split
      · next before =>
        have less : key < k := (Text.precedes_iff_lt key k).mp before
        refine List.pairwise_cons.mpr ⟨fun entry member => ?_, ordered⟩
        rcases List.mem_cons.mp member with rfl | inside
        · exact less
        · exact less.trans (first entry inside)
      · next notBefore =>
        have less : k < key := by
          rcases lt_trichotomy k key with less | same | greater
          · exact less
          · exact absurd same different
          · exact absurd ((Text.precedes_iff_lt key k).mpr greater) notBefore
        refine List.pairwise_cons.mpr ⟨fun entry member => ?_, ih later⟩
        rcases key_of_mem_put member with same | inside
        · exact same ▸ less
        · exact first entry inside

/-- An entry behind all others is appended. -/
theorem put_last {entries : Entries α} {key : String} (last : ∀ entry ∈ entries, entry.1 < key) (value : α) :
    put entries key value = entries ++ [(key, value)] := by
  induction entries with
  | nil => rfl
  | cons head rest ih =>
    obtain ⟨k, v⟩ := head
    have less : k < key := last (k, v) List.mem_cons_self
    have notBefore : ¬ Text.precedes key k = true := fun before =>
      lt_asymm less ((Text.precedes_iff_lt key k).mp before)
    rw [put, if_neg (ne_of_lt less), if_neg notBefore,
      ih fun entry member => last entry (List.mem_cons_of_mem _ member)]
    rfl

/-- Entries put one after the other in the order of their keys are collected as they are. -/
theorem foldl_put_append {entries : Entries α} (collected : Entries α) (ordered : Ordered (collected ++ entries)) :
    entries.foldl (fun all entry => put all entry.1 entry.2) collected = collected ++ entries := by
  induction entries generalizing collected with
  | nil => simp
  | cons entry rest ih =>
    have last : ∀ before ∈ collected, before.1 < entry.1 := fun before member =>
      (List.pairwise_append.mp ordered).2.2 before member entry List.mem_cons_self
    have rearranged : collected ++ entry :: rest = (collected ++ [entry]) ++ rest := by simp
    rw [List.foldl_cons, put_last last, rearranged]
    exact ih _ (rearranged ▸ ordered)

theorem get?_eq_none {entries : Entries α} {key : String} (absent : ∀ entry ∈ entries, entry.1 ≠ key) :
    get? entries key = none := by
  induction entries with
  | nil => rfl
  | cons entry rest ih =>
    rw [get?, if_neg (absent entry List.mem_cons_self)]
    exact ih fun other member => absent other (List.mem_cons_of_mem _ member)

/-- In order each key stands once, and its value is found. -/
theorem Ordered.get?_of_mem {entries : Entries α} (ordered : entries.Ordered) {entry : String × α}
    (member : entry ∈ entries) : get? entries entry.1 = some entry.2 := by
  induction entries with
  | nil => cases member
  | cons head rest ih =>
    obtain ⟨first, later⟩ := List.pairwise_cons.mp ordered
    rcases List.mem_cons.mp member with rfl | inside
    · simp [get?]
    · rw [get?, if_neg (ne_of_lt (first entry inside))]
      exact ih later inside

theorem mem_of_get? {entries : Entries α} {key : String} {value : α} (found : get? entries key = some value) :
    (key, value) ∈ entries := by
  induction entries with
  | nil => cases found
  | cons entry rest ih =>
    obtain ⟨k, v⟩ := entry
    rw [get?] at found
    split at found
    next same =>
      cases found
      exact same ▸ List.mem_cons_self
    · exact List.mem_cons_of_mem _ (ih found)

/-- In order entries are determined by what is found in them. -/
theorem Ordered.eq_of_get? {entries others : Entries α} (ordered : entries.Ordered) (ordered' : others.Ordered)
    (same : ∀ key, get? entries key = get? others key) : entries = others := by
  have distinct : ∀ {entries : Entries α}, entries.Ordered → entries.Nodup := fun ordered =>
    ordered.imp fun less equal => (equal ▸ less).ne rfl
  have members : ∀ entry, entry ∈ entries ↔ entry ∈ others := fun (key, value) =>
    ⟨fun member => mem_of_get? ((same key).symm.trans (ordered.get?_of_mem member)),
      fun member => mem_of_get? ((same key).trans (ordered'.get?_of_mem member))⟩
  exact ((List.perm_ext_iff_of_nodup (distinct ordered) (distinct ordered')).mpr members).eq_of_pairwise
    (fun _ _ _ _ less greater => absurd greater less.asymm) ordered ordered'

theorem Ordered.without {entries : Entries α} (ordered : entries.Ordered) (keys : List String) :
    Ordered (entries.without keys) :=
  List.Pairwise.filter _ ordered

/-- An entry that stays is found as before. -/
theorem get?_filter {entries : Entries α} {key : String} (stays : String → Bool) (kept : stays key = true) :
    get? (entries.filter fun entry => stays entry.1) key = get? entries key := by
  induction entries with
  | nil => rfl
  | cons entry rest ih =>
    obtain ⟨k, v⟩ := entry
    by_cases own : stays k = true
    · rw [List.filter_cons, if_pos own, get?, get?]
      exact congrArg _ ih
    · have different : k ≠ key := fun same => own (same ▸ kept)
      rw [List.filter_cons, if_neg own, get?, if_neg different]
      exact ih

theorem get?_without {entries : Entries α} {keys : List String} {key : String} (stays : key ∉ keys) :
    get? (without entries keys) key = get? entries key :=
  get?_filter (fun other => !keys.contains other) (by simp [stays])

/-- The entries whose key is among those named. -/
def only (entries : Entries α) (keys : List String) : Entries α :=
  entries.filter fun entry => keys.contains entry.1

theorem get?_only {entries : Entries α} {keys : List String} {key : String} (named : key ∈ keys) :
    get? (only entries keys) key = get? entries key :=
  get?_filter keys.contains (by simp [named])

theorem without_only (entries : Entries α) (keys others : List String) :
    without (only entries keys) others = only (without entries others) keys := by
  simp only [without, only, List.filter_filter]
  exact List.filter_congr fun entry _ => Bool.and_comm _ _

theorem only_only (entries : Entries α) (keys : List String) : only (only entries keys) keys = only entries keys :=
  List.filter_eq_self.mpr fun _ member => (List.mem_filter.mp member).2

theorem only_without (entries : Entries α) (keys : List String) : only (without entries keys) keys = [] := by
  refine List.filter_eq_nil_iff.mpr fun entry member => ?_
  simpa using (List.mem_filter.mp member).2

theorem without_of_forall {entries : Entries α} {keys : List String} (free : ∀ entry ∈ entries, entry.1 ∉ keys) :
    without entries keys = entries :=
  List.filter_eq_self.mpr fun entry member => by simp [free entry member]

theorem without_without (entries : Entries α) (keys others : List String) :
    without (without entries keys) others = without entries (keys ++ others) := by
  simp only [without, List.filter_filter]
  refine List.filter_congr fun entry _ => ?_
  simp [Bool.and_comm]

theorem without_put (entries : Entries α) {key : String} {keys : List String} (named : key ∈ keys) (value : α) :
    without (put entries key value) keys = without entries keys := by
  induction entries with
  | nil => simp [put, without, named]
  | cons entry rest ih =>
    obtain ⟨k, v⟩ := entry
    rw [put]
    split
    · next same =>
      subst same
      simp [without, named]
    · split
      · simp [without, named]
      · simp only [without] at ih ⊢
        rw [List.filter_cons, List.filter_cons, ih]

/-- Entries with those that are given besides; a key without a value is left out. -/
def give (entries : Entries α) : List (String × Option α) → Entries α
  | [] => entries
  | (key, some value) :: given => put (give entries given) key value
  | (_, none) :: given => give entries given

/-- A look-up finds just what is given under each of these keys. -/
def Tells (entries : Entries α) : List (String × Option α) → Prop
  | [] => True
  | (key, value?) :: given => get? entries key = value? ∧ Tells entries given

variable {entries : Entries α} {given : List (String × Option α)}

theorem tells_iff : Tells entries given ↔ ∀ entry ∈ given, get? entries entry.1 = entry.2 := by
  induction given with
  | nil => simp [Tells]
  | cons entry given ih => simp [Tells, ih]

theorem Ordered.give (ordered : entries.Ordered) (given : List (String × Option α)) : (entries.give given).Ordered := by
  induction given with
  | nil => exact ordered
  | cons entry given ih =>
    obtain ⟨key, _ | value⟩ := entry
    · exact ih
    · exact ih.put key value

theorem get?_give_of_not_mem {key : String} (free : key ∉ given.map (·.1)) :
    get? (give entries given) key = get? entries key := by
  induction given with
  | nil => rfl
  | cons entry given ih =>
    obtain ⟨other, value?⟩ := entry
    obtain ⟨different, later⟩ := List.ne_and_not_mem_of_not_mem_cons free
    cases value? with
    | none => exact ih later
    | some value =>
      rw [give, get?_put, if_neg different.symm]
      exact ih later

/-- What is given besides entries with other keys is found. -/
theorem tells_give (distinct : (given.map (·.1)).Nodup) (free : ∀ entry ∈ entries, entry.1 ∉ given.map (·.1)) :
    Tells (give entries given) given := by
  induction given with
  | nil => trivial
  | cons entry given ih =>
    obtain ⟨key, value?⟩ := entry
    obtain ⟨fresh, distinct⟩ := List.nodup_cons.mp distinct
    have rest : Tells (give entries given) given :=
      ih distinct fun entry member named => free entry member (List.mem_cons_of_mem _ named)
    cases value? with
    | none =>
      refine ⟨?_, rest⟩
      rw [give, get?_give_of_not_mem fresh]
      exact get?_eq_none fun entry member same => free entry member (same ▸ List.mem_cons_self)
    | some value =>
      refine ⟨by rw [give, get?_put, if_pos rfl], tells_iff.mpr fun entry member => ?_⟩
      have different : key ≠ entry.1 := fun same => fresh (List.mem_map.mpr ⟨entry, member, same.symm⟩)
      rw [give, get?_put, if_neg different]
      exact tells_iff.mp rest entry member

theorem Tells.without {keys : List String} (tells : Tells entries given)
    (stays : ∀ key ∈ given.map (·.1), key ∉ keys) : Tells (entries.without keys) given :=
  tells_iff.mpr fun entry member => by
    rw [get?_without (stays entry.1 (List.mem_map_of_mem member))]
    exact tells_iff.mp tells entry member

theorem tells_append {others : List (String × Option α)} :
    Tells entries (given ++ others) ↔ Tells entries given ∧ Tells entries others := by
  simp only [tells_iff, List.forall_mem_append]

/-- Without what was given the entries are as before. -/
theorem without_give {keys : List String} (named : ∀ key ∈ given.map (·.1), key ∈ keys) :
    without (give entries given) keys = without entries keys := by
  induction given with
  | nil => rfl
  | cons entry given ih =>
    have rest := ih fun key member => named key (List.mem_cons_of_mem _ member)
    obtain ⟨key, _ | value⟩ := entry
    · exact rest
    · rw [give, without_put _ (named key List.mem_cons_self)]
      exact rest

end Entries

end SafeMigration
