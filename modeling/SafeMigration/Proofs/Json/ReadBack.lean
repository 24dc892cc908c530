import Mathlib.Data.List.Forall2
import SafeMigration.Json.Reader
import SafeMigration.Json.Writer

/-!
Reading back the indented text of a value.

A quoted text is read as the text it quotes, whatever characters it has. An object is read as the keys and the outlines
of its fields as soon as the value of each field is read back; how deep the objects lie is no matter.
-/

namespace SafeMigration.Json

/-- An escaped control character is four hexadecimal digits of its number. -/
theorem fourHex?_control (n : Nat) (control : n < 32) (rest : List Char) :
    fourHex? ('0' :: '0' :: Text.hexDigit (n / 16) :: Text.hexDigit (n % 16) :: rest) = some (n, rest) := by
  have digits : Text.readNat? 16 ['0', '0', Text.hexDigit (n / 16), Text.hexDigit (n % 16)] = some n := by
    revert n
    decide
  simp [fourHex?, digits]

/-- One step of a string reads one character, be it escaped or not. -/
theorem stringBody_escape (fuel : Nat) (c : Char) (rest acc : List Char) :
    stringBody (fuel + 1) (escape c ++ rest) (some acc) = stringBody fuel rest (some (c :: acc)) := by
  have named : ∀ (n : Nat), c.toNat = n → c = Char.ofNat n := fun n same => by rw [← same, Char.ofNat_toNat]
  unfold escape
  split
  · next quote => simp_all [stringBody, escaped?, simpleEscape?]
  split
  · next backslash => simp_all [stringBody, escaped?, simpleEscape?]
  split
  · next code => simp [stringBody, escaped?, simpleEscape?, named 8 (by simpa using code)]
  split
  · next code => simp [stringBody, escaped?, simpleEscape?, named 9 (by simpa using code)]
  split
  · next code => simp [stringBody, escaped?, simpleEscape?, named 10 (by simpa using code)]
  split
  · next code => simp [stringBody, escaped?, simpleEscape?, named 12 (by simpa using code)]
  split
  · next code => simp [stringBody, escaped?, simpleEscape?, named 13 (by simpa using code)]
  split
  · next control =>
    have low : isLowHalf c.toNat = false := by simp [isLowHalf]; omega
    have high : isHighHalf c.toNat = false := by simp [isHighHalf]; omega
    simp [stringBody, escaped?, fourHex?_control _ control, low, high]
  · grind [stringBody]

theorem stringBody_quoted (s rest acc : List Char) (fuel : Nat) (enough : s.length < fuel) :
    stringBody fuel (s.flatMap escape ++ '"' :: rest) (some acc) =
      some (some (String.ofList (acc.reverse ++ s)), rest) := by
  induction s generalizing acc fuel with
  | nil =>
    obtain ⟨fuel, rfl⟩ : ∃ n, fuel = n + 1 := ⟨fuel - 1, by simp at enough; omega⟩
    simp [stringBody]
  | cons c s ih =>
    obtain ⟨fuel, rfl⟩ : ∃ n, fuel = n + 1 := ⟨fuel - 1, by simp at enough; omega⟩
    rw [List.flatMap_cons, List.append_assoc, stringBody_escape, ih _ _ (by simpa using enough)]
    simp

theorem length_le_flatMap_escape (s : List Char) : s.length ≤ (s.flatMap escape).length := by
  induction s with
  | nil => simp
  | cons c s ih =>
    have one : 1 ≤ (escape c).length := by unfold escape; grind
    simp only [List.flatMap_cons, List.length_append, List.length_cons]
    omega

/-- What stands between quotes is read as the text that was quoted. -/
theorem quotedString?_quoted (s : String) (rest : List Char) :
    quotedString? (s.toList.flatMap escape ++ '"' :: rest) = some (some s, rest) := by
  have longer := length_le_flatMap_escape s.toList
  rw [quotedString?, stringBody_quoted _ _ _ _ (by simp only [List.length_append, List.length_cons]; omega)]
  simp

theorem quoted_append (s : String) (rest : List Char) :
    quoted s ++ rest = '"' :: (s.toList.flatMap escape ++ '"' :: rest) := by simp [quoted]

theorem skip_newline (level : Nat) (cs : List Char) : skip (newline level ++ cs) = skip cs := by
  have spaces : ∀ n, skip (List.replicate n ' ' ++ cs) = skip cs := fun n => by
    induction n with
    | zero => rfl
    | succ n ih => simpa [skip, List.replicate_succ, isSpace] using ih
  simpa [newline, skip, isSpace] using spaces (2 * level)

theorem skip_quoted (s : String) (rest : List Char) : skip (quoted s ++ rest) = quoted s ++ rest := by
  simp [quoted, skip, isSpace]

theorem value_space (fuel : Nat) (cs : List Char) : value fuel (' ' :: cs) = value fuel cs := by
  have same : skip (' ' :: cs) = skip cs := by simp [skip, isSpace]
  cases fuel with
  | zero => rfl
  | succ fuel => simp only [value, same]

/-- The indented text of a value is read as an outline, whatever follows it, once there is some fuel. -/
def ReadsAs (level cost : Nat) (json : Json) (outline : Outline) : Prop :=
  ∀ fuel rest, cost ≤ fuel → value fuel (pretty level json ++ rest) = (outline, rest)

theorem readsAs_string (level : Nat) (s : String) : ReadsAs level 1 (.string s) (.string s) := by
  intro fuel rest enough
  obtain ⟨fuel, rfl⟩ : ∃ n, fuel = n + 1 := ⟨fuel - 1, by omega⟩
  have text : pretty level (.string s) = quoted s := by rw [pretty, compact] <;> simp
  rw [text, value, skip_quoted, quoted_append]
  simp [quotedString?_quoted]

/-- What follows the value of a field: the other fields and the closing brace. -/
def following (level : Nat) : List (String × Json) → List Char
  | [] => newline (level - 1) ++ ['\x7d']
  | field :: fields => ',' :: prettyFields level (field :: fields)

theorem prettyFields_cons (level : Nat) (key : String) (json : Json) (fields : List (String × Json)) :
    prettyFields level ((key, json) :: fields) =
      newline level ++ (quoted key ++ ':' :: ' ' :: (pretty level json ++ following level fields)) := by
  cases fields <;> simp [prettyFields, following]

/-- A field is read once its value and what follows are. -/
theorem member_field {level cost fuel : Nat} (key : String) {json : Json} {outline : Outline} {more rest : List Char}
    {fields : List (Option String × Outline)} {closed : Bool} (reads : ReadsAs level cost json outline)
    (enough : cost ≤ fuel) (later : members fuel false more = (fields, closed, rest)) :
    member (fuel + 1) (quoted key ++ ':' :: ' ' :: (pretty level json ++ more)) =
      ((some key, outline) :: fields, closed, rest) := by
  have colon : ∀ cs, skip (':' :: cs) = ':' :: cs := fun cs => by simp [skip, isSpace]
  rw [quoted_append, member]
  simp only [beq_self_eq_true, if_true, quotedString?_quoted, colon, value_space, reads fuel more enough, later]

/-- The fields that follow a value are read in their order, up to the closing brace. -/
theorem members_following {level cost : Nat} {fields : List (String × Json)} {outlines : List (Option String × Outline)}
    (reads : List.Forall₂ (fun field outline =>
      some field.1 = outline.1 ∧ ReadsAs level cost field.2 outline.2) fields outlines) :
    ∀ fuel rest, cost + 2 * fields.length + 1 ≤ fuel →
      members fuel false (following level fields ++ rest) = (outlines, true, rest) := by
  induction reads with
  | nil =>
    intro fuel rest enough
    obtain ⟨fuel, rfl⟩ : ∃ n, fuel = n + 1 := ⟨fuel - 1, by omega⟩
    have brace : skip ('\x7d' :: rest) = '\x7d' :: rest := by simp [skip, isSpace]
    rw [following, List.append_assoc, members, skip_newline, List.singleton_append, brace]
    simp
  | @cons field outline fields outlines head _ ih =>
    intro fuel rest enough
    obtain ⟨key, json⟩ := field
    obtain ⟨_, outline⟩ := outline
    obtain ⟨rfl, reads⟩ := head
    simp only [List.length_cons] at enough
    obtain ⟨fuel, rfl⟩ : ∃ n, fuel = n + 2 := ⟨fuel - 2, by omega⟩
    have comma : ∀ cs, skip (',' :: cs) = ',' :: cs := fun cs => by simp [skip, isSpace]
    have later := ih fuel rest (by omega)
    rw [following, List.cons_append, members, comma, prettyFields_cons]
    simp only [List.append_assoc, List.cons_append, skip_newline, skip_quoted, member_field key reads (by omega) later]
    simp

/-- The text of an object is read as its keys and the outlines of its fields. -/
theorem readsAs_object {level : Nat} (cost : Nat) {fields : List (String × Json)}
    {outlines : List (Option String × Outline)} (reads : List.Forall₂ (fun field outline =>
      some field.1 = outline.1 ∧ ReadsAs (level + 1) cost field.2 outline.2) fields outlines) :
    ReadsAs level (cost + 2 * fields.length + 2) (.object fields) (.object outlines true) := by
  intro fuel rest enough
  have brace : ∀ cs, skip ('\x7b' :: cs) = '\x7b' :: cs := fun cs => by simp [skip, isSpace]
  cases reads with
  | nil =>
    obtain ⟨fuel, rfl⟩ : ∃ n, fuel = n + 2 := ⟨fuel - 2, by simp at enough; omega⟩
    have closing : ∀ cs, skip ('\x7d' :: cs) = '\x7d' :: cs := fun cs => by simp [skip, isSpace]
    simp [pretty, value, brace, closing, members]
  | @cons field outline fields outlines head tail =>
    obtain ⟨key, json⟩ := field
    obtain ⟨_, outline⟩ := outline
    obtain ⟨rfl, reads⟩ := head
    simp only [List.length_cons] at enough
    obtain ⟨fuel, rfl⟩ : ∃ n, fuel = n + 3 := ⟨fuel - 3, by omega⟩
    have later := members_following tail fuel rest (by omega)
    have field := member_field key reads (by omega) later
    rw [pretty, prettyFields_cons, List.cons_append, value, brace]
    simp only [List.append_assoc, List.cons_append, members, skip_newline, skip_quoted]
    rw [quoted_append] at field ⊢
    simp [field]

end SafeMigration.Json
