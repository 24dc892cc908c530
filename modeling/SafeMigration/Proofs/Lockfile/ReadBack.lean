import SafeMigration.Lockfile.Ledger
import SafeMigration.Proofs.Entries
import SafeMigration.Proofs.Json.ReadBack

/-!
Reading back the text of a ledger.

A ledger in order, with whatever keys and digests, is what its own text is read as. Each ledger that is read from a
text is in order, so every ledger a lockfile ever holds is read back as it was written.
-/

namespace SafeMigration

namespace Text

theorem fromUTF8?_toUTF8 (s : String) : String.fromUTF8? s.toUTF8 = some s := by
  have valid : s.toUTF8.IsValidUTF8 := s.isValidUTF8
  rw [String.fromUTF8?, dif_pos valid]
  rfl

theorem toUTF8_of_fromUTF8? {content : ByteArray} {s : String} (decoded : String.fromUTF8? content = some s) :
    s.toUTF8 = content := by
  rw [String.fromUTF8?] at decoded
  split at decoded
  · cases decoded
    rfl
  · cases decoded

end Text

namespace DigestRecord

/-- What the text of a record is read as. -/
def outline (record : DigestRecord) : Json.Outline :=
  .object ([(some "source_digest", .string record.source.hex), (some "compiled_digest", .string record.compiled.hex)] ++
    (record.database.map fun database => (some "database", .string database)).toList) true

theorem readsAs_json (level : Nat) (record : DigestRecord) : Json.ReadsAs level 9 record.json record.outline := by
  intro fuel rest enough
  obtain ⟨source, compiled, database⟩ := record
  have text (s : String) := Json.readsAs_string (level + 1) s
  cases database with
  | none =>
    refine Json.readsAs_object 1 (.cons ⟨rfl, text _⟩ (.cons ⟨rfl, text _⟩ .nil)) fuel rest ?_
    simp
    omega
  | some database =>
    refine Json.readsAs_object 1 (.cons ⟨rfl, text _⟩ (.cons ⟨rfl, text _⟩ (.cons ⟨rfl, text _⟩ .nil))) fuel rest ?_
    simpa using enough

theorem ofOutline_outline (record : DigestRecord) : ofOutline record.outline = .ok record := by
  obtain ⟨⟨source⟩, ⟨compiled⟩, database⟩ := record
  cases database <;> rfl

end DigestRecord

namespace Ledger

/-- What the text of a ledger is read as. -/
def outline (ledger : Ledger) : Json.Outline := .object (ledger.map fun entry => (some entry.1, entry.2.outline)) true

theorem readsAs_json (ledger : Ledger) : Json.ReadsAs 0 (2 * ledger.length + 11) ledger.json ledger.outline := by
  have fields : List.Forall₂ (fun field outline => some field.1 = outline.1 ∧ Json.ReadsAs 1 9 field.2 outline.2)
      (ledger.map fun entry => (entry.1, entry.2.json)) (ledger.map fun entry => (some entry.1, entry.2.outline)) := by
    induction ledger with
    | nil => exact .nil
    | cons entry rest ih => exact .cons ⟨rfl, entry.2.readsAs_json 1⟩ ih
  intro fuel rest enough
  refine Json.readsAs_object _ fields fuel rest ?_
  rw [List.length_map]
  omega

/-- Each field takes some characters, so the length of a text bounds the number of its fields. -/
theorem length_prettyFields (level : Nat) (fields : List (String × Json)) :
    5 * fields.length ≤ (Json.prettyFields level fields).length := by
  induction fields with
  | nil => simp
  | cons field fields ih =>
    obtain ⟨key, json⟩ := field
    have rest : 5 * fields.length ≤ (Json.following level fields).length := by
      cases fields with
      | nil => simp
      | cons field fields => exact Nat.le_succ_of_le ih
    simp only [Json.prettyFields_cons, List.length_append, List.length_cons, Json.quoted, Json.newline]
    omega

theorem ofChars_text (ledger : Ledger) : Json.Outline.ofChars ledger.text.toList = (ledger.outline, true) := by
  have enough : 2 * ledger.length + 11 ≤ 3 * (ledger.json.pretty 0 ++ ['\n']).length + 3 := by
    cases ledger with
    | nil => decide
    | cons entry rest =>
      have fields := length_prettyFields 1 ((entry :: rest).map fun entry => (entry.1, entry.2.json))
      simp only [json, List.map_cons, Json.pretty, Nat.zero_add, List.length_append, List.length_cons,
        List.length_map] at fields ⊢
      omega
  rw [text, String.toList_ofList, Json.Outline.ofChars, readsAs_json ledger _ _ enough]
  rfl

theorem readEntries_outline (collected ledger : Ledger) :
    readEntries collected (ledger.map fun entry => (some entry.1, entry.2.outline)) =
      .ok (ledger.foldl (fun all entry => Entries.put all entry.1 entry.2) collected) := by
  induction ledger generalizing collected with
  | nil => rfl
  | cons entry rest ih => simp only [List.map_cons, readEntries, DigestRecord.ofOutline_outline, ih, List.foldl_cons]

/-- A ledger in order is read back from its text, whatever its keys and digests are. -/
theorem ofText_text {ledger : Ledger} (ordered : Entries.Ordered ledger) : ofText ledger.text = .ok ledger := by
  have collected := Entries.foldl_put_append [] ordered
  rw [ofText, ofChars_text, outline]
  simp only [ofOutline, readEntries_outline, collected, List.nil_append, if_true]

theorem readEntries_ordered {ledger after : Ledger} {entries : List (Option String × Json.Outline)}
    (ordered : Entries.Ordered ledger) (success : readEntries ledger entries = .ok after) : Entries.Ordered after := by
  induction entries generalizing ledger with
  | nil =>
    cases success
    exact ordered
  | cons entry rest ih =>
    obtain ⟨_ | key, outline⟩ := entry
    · cases success
    · rw [readEntries] at success
      split at success
      · cases success
      · exact ih (ordered.put _ _) success

theorem ofOutline_ordered {outline : Json.Outline} {ledger : Ledger} (success : ofOutline outline = .ok ledger) :
    Entries.Ordered ledger := by
  cases outline with
  | object entries closed =>
    simp only [ofOutline] at success
    split at success
    · cases success
    · next read collected =>
      have ordered : Entries.Ordered read := readEntries_ordered .nil collected
      cases closed with
      | true =>
        cases success
        exact ordered
      | false => cases success
  | null | bool | number | string | array | worthless | broken => cases success

/-- A ledger that is read from a text is in order. -/
theorem ofText_ordered {text : String} {ledger : Ledger} (success : ofText text = .ok ledger) :
    Entries.Ordered ledger := by
  simp only [ofText] at success
  split at success
  · cases success
  · next read outlined =>
    have ordered : Entries.Ordered read := ofOutline_ordered outlined
    split at success
    · cases success
      exact ordered
    · cases success

end Ledger

end SafeMigration
