import Mathlib.Data.List.DropRight
import SafeMigration.Proofs.Failure
import SafeMigration.Schema.ColumnType

/-!
The names of a column type, read again.

A type that was read is read again from its short name, and from its name in PostgreSQL up to how it is written there. A
name with parameters is taken apart into just these whatever the case of its letters and the blanks around them, a number
is read from its digits, and a name that is carried along was trimmed before, which does not change when it is done
twice.
-/

namespace SafeMigration

namespace Text

theorem dropWhile_of_prefix {α : Type} {p : α → Bool} {start whole : List α} (isPrefix : start <+: whole)
    (same : whole.dropWhile p = whole) : start.dropWhile p = start := by
  cases start with
  | nil => rfl
  | cons a rest =>
    obtain ⟨more, rfl⟩ := isPrefix
    have stays : p a = false := by
      by_contra drops
      have longer := congrArg List.length same
      rw [List.cons_append, List.dropWhile_cons_of_pos (by simpa using drops)] at longer
      have shorter := (List.dropWhile_suffix (l := rest ++ more) p).length_le
      simp only [List.length_cons] at longer
      omega
    exact List.dropWhile_cons_of_neg (by simp [stays])

/-- What was trimmed stays as it is. -/
theorem trimChars_trimChars (cs : List Char) : trimChars (trimChars cs) = trimChars cs := by
  have first : (trimChars cs).dropWhile isBlank = trimChars cs :=
    dropWhile_of_prefix (List.rdropWhile_prefix isBlank (cs.dropWhile isBlank)) (List.dropWhile_idempotent isBlank _)
  conv_lhs => rw [trimChars, first, trimChars, List.reverse_reverse, List.dropWhile_idempotent]
  rfl

/-- What has no blank at its ends is not trimmed. -/
theorem trimChars_of_ends {first last : Char} {inner : List Char} (plain : isBlank first = false)
    (plain' : isBlank last = false) : trimChars (first :: inner ++ [last]) = first :: inner ++ [last] := by
  rw [trimChars, List.cons_append, List.dropWhile_cons_of_neg (by simp [plain]), ← List.cons_append,
    List.reverse_append, List.reverse_singleton, List.singleton_append,
    List.dropWhile_cons_of_neg (by simp [plain']), List.reverse_cons, List.reverse_reverse]

/-- Characters between two others, by their numbers. -/
theorem between_iff (a b c : Char) : (a ≤ c && c ≤ b) = true ↔ a.toNat ≤ c.toNat ∧ c.toNat ≤ b.toNat := by
  rw [Bool.and_eq_true, decide_eq_true_eq, decide_eq_true_eq]
  exact and_congr UInt32.le_iff_toNat_le UInt32.le_iff_toNat_le

/-- Digits stand together, from zero to nine. -/
theorem toNat_of_isDigit {c : Char} (digit : c.isDigit = true) : 48 ≤ c.toNat ∧ c.toNat ≤ 57 :=
  (between_iff '0' '9' c).mp digit

/-- In the radix ten only digits have a value. -/
theorem digitValue?_ten (c : Char) :
    digitValue? 10 c = if 48 ≤ c.toNat ∧ c.toNat ≤ 57 then some (c.toNat - 48) else none := by
  have zero : '0'.toNat = 48 := rfl
  have nine : '9'.toNat = 57 := rfl
  rw [digitValue?]
  simp only [isDigit, between_iff, zero, nine]
  split
  · next digit => rw [Option.filter_some, if_pos (by rw [decide_eq_true_eq]; omega)]
  · next other => split <;> [skip; split] <;> simp

theorem digitValue?_of_isDigit {c : Char} (digit : c.isDigit = true) :
    digitValue? 10 c = some (c.toNat - '0'.toNat) := by
  rw [digitValue?_ten, if_pos (toNat_of_isDigit digit)]
  rfl

/-- Digits continue a number by their own. -/
theorem continueNat?_of_digits {digits : List Char} (all : ∀ c ∈ digits, c.isDigit = true) (n : Nat) :
    continueNat? 10 n digits = some (Nat.ofDigitChars 10 digits n) := by
  induction digits generalizing n with
  | nil => rfl
  | cons c digits ih =>
    rw [continueNat?, digitValue?_of_isDigit (all c List.mem_cons_self), Option.bind_some,
      ih fun d member => all d (List.mem_cons_of_mem c member)]
    rw [Nat.ofDigitChars_cons, Nat.mul_comm]

theorem isDigit_of_mem_toDigits {n : Nat} {c : Char} (member : c ∈ Nat.toDigits 10 n) : c.isDigit = true :=
  Nat.isDigit_of_mem_toDigits (by decide) (by decide) member

/-- A number is read from its digits. -/
theorem readBounded?_toDigits {bound n : Nat} (inside : n ≤ bound) :
    readBounded? bound (Nat.toDigits 10 n) = some n := by
  have digits : ∀ c ∈ Nat.toDigits 10 n, c.isDigit = true := fun c => isDigit_of_mem_toDigits
  have noSign : ∀ rest, Nat.toDigits 10 n ≠ '+' :: rest := fun rest same => by
    have digit := digits '+' (by rw [same]; exact List.mem_cons_self)
    revert digit
    decide
  rw [readBounded?, readNat?, continueNat?_of_digits digits, Nat.ofDigitChars_ten_toDigits]
  · simp [inside]
  · exact Nat.toDigits_ne_nil
  · exact noSign

theorem stripEnding?_append (start ending : List Char) : stripEnding? ending (start ++ ending) = some start := by
  rw [stripEnding?, if_pos (List.isSuffixOf_iff_suffix.mpr (List.suffix_append start ending))]
  simp

theorem dropWhile_of_forall {cs : List Char} (plain : ∀ c ∈ cs, isBlank c = false) : cs.dropWhile isBlank = cs := by
  cases cs with
  | nil => rfl
  | cons c cs => exact List.dropWhile_cons_of_neg (by simp [plain c])

/-- A text without blanks is not trimmed. -/
theorem trimChars_of_forall {cs : List Char} (plain : ∀ c ∈ cs, isBlank c = false) : trimChars cs = cs := by
  rw [trimChars, dropWhile_of_forall plain,
    dropWhile_of_forall fun c member => plain c (List.mem_reverse.mp member), List.reverse_reverse]

theorem isBlank_of_isDigit {c : Char} (digit : c.isDigit = true) : isBlank c = false := by
  obtain ⟨low, high⟩ := toNat_of_isDigit digit
  simp [isBlank]
  omega

theorem toNat_ofNat {n : Nat} (valid : n.isValidChar) : (Char.ofNat n).toNat = n := by
  rw [Char.ofNat, dif_pos valid]
  rfl

/-- A capital letter stands thirty-two places before its small form. -/
theorem toNat_lowerAscii (c : Char) :
    (lowerAscii c).toNat = if 65 ≤ c.toNat ∧ c.toNat ≤ 90 then c.toNat + 32 else c.toNat := by
  have capital : ('A' ≤ c && c ≤ 'Z') = true ↔ 65 ≤ c.toNat ∧ c.toNat ≤ 90 := between_iff 'A' 'Z' c
  rw [lowerAscii]
  by_cases large : 65 ≤ c.toNat ∧ c.toNat ≤ 90
  · rw [if_pos (capital.mpr large), if_pos large]
    exact toNat_ofNat (.inl (by omega))
  · rw [if_neg (mt capital.mp large), if_neg large]

/-- Signs and digits stand before the letters and have no other form. -/
theorem lowerAscii_eq_iff {c d : Char} (sign : d.toNat < 65) : lowerAscii c = d ↔ c = d := by
  rw [← Char.toNat_inj, ← Char.toNat_inj, toNat_lowerAscii]
  split <;> omega

theorem mem_map_lowerAscii_iff {cs : List Char} {d : Char} (sign : d.toNat < 65) :
    d ∈ cs.map lowerAscii ↔ d ∈ cs := by
  simp [lowerAscii_eq_iff sign]

theorem isBlank_lowerAscii (c : Char) : isBlank (lowerAscii c) = isBlank c := by
  by_cases large : 65 ≤ c.toNat ∧ c.toNat ≤ 90
  · rw [Bool.eq_iff_iff]
    simp only [isBlank, toNat_lowerAscii, if_pos large, Bool.or_eq_true, Bool.and_eq_true, decide_eq_true_eq,
      beq_iff_eq]
    omega
  · simp only [isBlank, toNat_lowerAscii, if_neg large]

theorem trimChars_map_lowerAscii (cs : List Char) : trimChars (cs.map lowerAscii) = (trimChars cs).map lowerAscii := by
  have same : isBlank ∘ lowerAscii = isBlank := funext isBlank_lowerAscii
  simp only [trimChars, List.dropWhile_map, same, ← List.map_reverse]

theorem digitValue?_lowerAscii (c : Char) : digitValue? 10 (lowerAscii c) = digitValue? 10 c := by
  rw [digitValue?_ten, digitValue?_ten, toNat_lowerAscii]
  split
  · rw [if_neg (by omega), if_neg (by omega)]
  · rfl

/-- A number does not depend on the case of letters, because it has none. -/
theorem readBounded?_map_lowerAscii (bound : Nat) (cs : List Char) :
    readBounded? bound (cs.map lowerAscii) = readBounded? bound cs := by
  have continued (cs : List Char) (n : Nat) : continueNat? 10 n (cs.map lowerAscii) = continueNat? 10 n cs := by
    induction cs generalizing n with
    | nil => rfl
    | cons c cs ih => simp only [List.map_cons, continueNat?, digitValue?_lowerAscii, ih]
  have whole (cs : List Char) : readNat? 10 (cs.map lowerAscii) = readNat? 10 cs := by
    cases cs with
    | nil => rfl
    | cons c cs => exact continued (c :: cs) 0
  by_cases signed : ∃ rest, cs = '+' :: rest
  · obtain ⟨rest, rfl⟩ := signed
    exact congrArg (Option.filter _) (whole rest)
  · have unsigned : ∀ rest, cs.map lowerAscii ≠ '+' :: rest := by
      rintro rest same
      obtain ⟨c, rest, rfl, first, -⟩ := List.map_eq_cons_iff.mp same
      rw [lowerAscii_eq_iff (by decide)] at first
      exact signed ⟨rest, first ▸ rfl⟩
    rw [readBounded?, readBounded?, whole]
    · exact fun rest same => signed ⟨rest, same⟩
    · exact unsigned

end Text

namespace ColumnType

/-- The type of a name with parameters, as it was written. -/
def named (name : String) (parameters : List (List Char)) (written : String) : Except TypeNameFault ColumnType :=
  if name = "string" ∨ name = "varchar" then
    (parameterAt parameters 0 written).map varchar
  else if name = "decimal" ∨ name = "numeric" then do
    let precision ← narrow (← parameterAt parameters 0 written) written
    let scale ← narrow (← parameterAt parameters 1 written) written
    return decimal precision scale
  else
    match plainNames.lookup name with
    | some type => .ok type
    | none => .ok (custom written)

theorem read_eq (s : String) :
    read s =
      let trimmed := Text.trimChars s.toList
      let parts := splitParameters (trimmed.map Text.lowerAscii)
      if trimmed.isEmpty then .error .empty
      else named (String.ofList parts.1) parts.2 (String.ofList trimmed) := by
  cases found : plainNames.lookup
    (String.ofList (splitParameters ((Text.trimChars s.toList).map Text.lowerAscii)).1) <;>
      simp only [read, named, found]

/-- Characters that are a name and, in parentheses after it, parameters with a comma between two of them. Blanks around a
parameter do not count, and none is blank. -/
structure Applied (cs name : List Char) (parameters : List (List Char)) : Prop where
  spelled : ∃ pieces, cs = name ++ '(' :: [','].intercalate pieces ++ [')'] ∧ (∀ piece ∈ pieces, ',' ∉ piece) ∧
    pieces.map Text.trimChars = parameters
  name : '(' ∉ name
  nonempty : parameters ≠ []
  given : ∀ parameter ∈ parameters, parameter ≠ []

theorem splitCommas_of_not_mem {piece : List Char} (plain : ',' ∉ piece) : splitCommas piece = [piece] := by
  induction piece with
  | nil => rfl
  | cons c piece ih =>
    obtain ⟨different, plain⟩ := List.ne_and_not_mem_of_not_mem_cons plain
    simp [splitCommas, ih plain, different.symm]

theorem splitCommas_ne_nil (cs : List Char) : splitCommas cs ≠ [] := by
  cases cs with
  | nil => simp [splitCommas]
  | cons c cs =>
    rw [splitCommas]
    split
    · simp
    · split <;> simp

theorem splitCommas_append {piece : List Char} (plain : ',' ∉ piece) (rest : List Char) :
    splitCommas (piece ++ ',' :: rest) = piece :: splitCommas rest := by
  induction piece with
  | nil =>
    obtain ⟨first, others, split⟩ := List.exists_cons_of_ne_nil (splitCommas_ne_nil rest)
    simp [splitCommas, split]
  | cons c piece ih =>
    obtain ⟨different, plain⟩ := List.ne_and_not_mem_of_not_mem_cons plain
    simp [splitCommas, ih plain, different.symm]

theorem splitCommas_intercalate {pieces : List (List Char)} (nonempty : pieces ≠ [])
    (plain : ∀ piece ∈ pieces, ',' ∉ piece) : splitCommas ([','].intercalate pieces) = pieces := by
  induction pieces with
  | nil => exact absurd rfl nonempty
  | cons piece pieces ih =>
    obtain ⟨here, plain⟩ := List.forall_mem_cons.mp plain
    cases pieces with
    | nil => rw [List.intercalate_singleton, splitCommas_of_not_mem here]
    | cons other pieces =>
      rw [List.intercalate_cons_cons, List.append_assoc, List.singleton_append, splitCommas_append here,
        ih (by simp) plain]

theorem map_lowerAscii_intercalate (pieces : List (List Char)) :
    ([','].intercalate pieces).map Text.lowerAscii = [','].intercalate (pieces.map (·.map Text.lowerAscii)) := by
  have comma : Text.lowerAscii ',' = ',' := by decide
  induction pieces with
  | nil => rfl
  | cons piece pieces ih =>
    cases pieces with
    | nil => simp
    | cons other pieces =>
      rw [List.map_cons, List.map_cons, List.intercalate_cons_cons, List.intercalate_cons_cons, List.map_append, ih,
        List.map_append, List.map_singleton, comma]
      rfl

namespace Applied

variable {cs name : List Char} {parameters : List (List Char)}

/-- They are taken apart into the name and the parameters. -/
theorem splitParameters (applied : Applied cs name parameters) :
    splitParameters cs = (Text.trimChars name, parameters) := by
  obtain ⟨⟨pieces, rfl, plain, rfl⟩, unopened, nonempty, given⟩ := applied
  have before : ∀ c ∈ name, (c != '(') = true := fun c member => by
    simp only [bne_iff_ne, ne_eq]
    rintro rfl
    exact unopened member
  have ending : Text.stripEnding? [')'] (name ++ '(' :: [','].intercalate pieces ++ [')']) =
      some (name ++ '(' :: [','].intercalate pieces) := Text.stripEnding?_append ..
  have opened : (name ++ '(' :: [','].intercalate pieces ++ [')']).contains '(' = true := by simp
  have taken : (name ++ '(' :: [','].intercalate pieces ++ [')']).takeWhile (· != '(') = name := by
    rw [List.append_assoc, List.takeWhile_append_of_pos before]
    simp
  have dropped : (name ++ '(' :: [','].intercalate pieces).dropWhile (· != '(') =
      '(' :: [','].intercalate pieces := by
    rw [List.dropWhile_append_of_pos before]
    simp
  have kept : (pieces.map Text.trimChars).filter (!·.isEmpty) = pieces.map Text.trimChars :=
    List.filter_eq_self.mpr fun parameter member => by simpa using given parameter member
  simp only [ColumnType.splitParameters, ending, opened, if_true, taken, dropped, List.drop_one, List.tail_cons,
    splitCommas_intercalate (fun none => nonempty (by rw [none]; rfl)) plain, kept]

/-- The case of letters makes no difference to the form. -/
theorem lower (applied : Applied cs name parameters) :
    Applied (cs.map Text.lowerAscii) (name.map Text.lowerAscii) (parameters.map (·.map Text.lowerAscii)) := by
  obtain ⟨⟨pieces, rfl, plain, rfl⟩, unopened, nonempty, given⟩ := applied
  have signs : Text.lowerAscii '(' = '(' ∧ Text.lowerAscii ')' = ')' := by decide
  constructor
  case spelled =>
    refine ⟨pieces.map (·.map Text.lowerAscii), ?_, ?_, ?_⟩
    · simp [signs, map_lowerAscii_intercalate]
    · simpa only [List.forall_mem_map, Text.mem_map_lowerAscii_iff (show ','.toNat < 65 by decide)] using plain
    · simp [Text.trimChars_map_lowerAscii]
  case name => rwa [Text.mem_map_lowerAscii_iff (by decide)]
  case nonempty => simpa using nonempty
  case given => simpa using given

/-- So a type is read by its name and the parameters in small letters. -/
theorem read {text : String} (applied : Applied (Text.trimChars text.toList) name parameters) :
    read text = named (String.ofList (Text.trimChars (name.map Text.lowerAscii)))
      (parameters.map (·.map Text.lowerAscii)) (String.ofList (Text.trimChars text.toList)) := by
  have nonempty : (Text.trimChars text.toList).isEmpty = false := by
    obtain ⟨pieces, spelled, -⟩ := applied.spelled
    simp [spelled]
  simp only [read_eq, nonempty, applied.lower.splitParameters, Bool.false_eq_true, if_false]

/-- A text that begins with a letter and ends with a parenthesis is read as it is. -/
theorem read_printed {written name small : String} (applied : Applied written.toList name.toList parameters)
    (begins : name.toList.head?.any (!Text.isBlank ·) = true)
    (known : Text.trimChars (name.toList.map Text.lowerAscii) = small.toList)
    (numbers : parameters.map (·.map Text.lowerAscii) = parameters) :
    ColumnType.read written = named small parameters written := by
  have whole : Text.trimChars written.toList = written.toList := by
    obtain ⟨pieces, spelled, -⟩ := applied.spelled
    rw [spelled]
    cases letters : name.toList with
    | nil => simp [letters] at begins
    | cons first rest => exact Text.trimChars_of_ends (by simpa [letters] using begins) (by decide)
  rw [← whole] at applied
  rw [applied.read, known, numbers, whole, String.ofList_toList, String.ofList_toList]

end Applied

theorem map_lowerAscii_toDigits (n : Nat) : (Nat.toDigits 10 n).map Text.lowerAscii = Nat.toDigits 10 n := by
  conv_rhs => rw [← List.map_id (Nat.toDigits 10 n)]
  refine List.map_congr_left fun c member => ?_
  have digit := Text.toNat_of_isDigit (Text.isDigit_of_mem_toDigits member)
  exact Char.toNat_inj.mp (by rw [Text.toNat_lowerAscii, if_neg (by omega)]; rfl)

theorem trimChars_toDigits (n : Nat) : Text.trimChars (Nat.toDigits 10 n) = Nat.toDigits 10 n :=
  Text.trimChars_of_forall fun _ member => Text.isBlank_of_isDigit (Text.isDigit_of_mem_toDigits member)

theorem comma_not_mem_toDigits (n : Nat) : ',' ∉ Nat.toDigits 10 n := fun member =>
  absurd (Text.isDigit_of_mem_toDigits member) (by decide)

/-- A name with a number. -/
theorem applied_number {name : String} (plain : '(' ∉ name.toList) (n : Nat) :
    Applied (name ++ "(" ++ toString n ++ ")").toList name.toList [Nat.toDigits 10 n] where
  spelled := by
    refine ⟨[Nat.toDigits 10 n], ?_, ?_, ?_⟩
    · simp
    · simp [comma_not_mem_toDigits]
    · simp [trimChars_toDigits]
  name := plain
  nonempty := by simp
  given := by simp [Nat.toDigits_ne_nil]

/-- A name with two numbers. The blank between them does not count. -/
theorem applied_numbers {name : String} (plain : '(' ∉ name.toList) (m n : Nat) :
    Applied (name ++ "(" ++ toString m ++ ", " ++ toString n ++ ")").toList name.toList
      [Nat.toDigits 10 m, Nat.toDigits 10 n] where
  spelled := by
    have spaced : Text.trimChars (' ' :: Nat.toDigits 10 n) = Text.trimChars (Nat.toDigits 10 n) := by
      rw [Text.trimChars, List.dropWhile_cons_of_pos (by decide), Text.trimChars]
    refine ⟨[Nat.toDigits 10 m, ' ' :: Nat.toDigits 10 n], ?_, ?_, ?_⟩
    · simp
    · simp [comma_not_mem_toDigits]
    · simp [spaced, trimChars_toDigits]
  name := plain
  nonempty := by simp
  given := by simp [Nat.toDigits_ne_nil]

/-- A number at its position is read as a parameter. -/
theorem parameterAt_of_digits {parameters : List (List Char)} {position n : Nat}
    (stands : parameters[position]? = some (Nat.toDigits 10 n)) (inside : n < UInt32.size) (written : String) :
    parameterAt parameters position written = .ok (some (UInt32.ofNat n)) := by
  have bounded : n ≤ Nat.pow 2 32 - 1 := Nat.le_pred_of_lt inside
  simp only [parameterAt, stands, Text.readBounded?_toDigits bounded]

theorem narrow_toNat (n : UInt8) (written : String) :
    narrow (some (UInt32.ofNat n.toNat)) written = .ok (some n) := by
  have small : n.toNat < 2 ^ 8 := n.toNat_lt
  have same : (UInt32.ofNat n.toNat).toNat = n.toNat :=
    UInt32.toNat_ofNat_of_lt' (Nat.lt_trans small (by decide))
  simp only [narrow, same, UInt8.ofNat_toNat]
  rw [if_pos (by omega)]

/-- A length is read behind each of the names that it is printed with. -/
theorem read_varchar (length : UInt32) : ∀ name ∈ ["string", "VARCHAR"],
    read (name ++ "(" ++ toString length.toNat ++ ")") = .ok (varchar (some length)) := by
  intro name member
  obtain ⟨plain, begins, small, known, isString⟩ : '(' ∉ name.toList ∧
      name.toList.head?.any (!Text.isBlank ·) = true ∧
      ∃ small : String, Text.trimChars (name.toList.map Text.lowerAscii) = small.toList ∧
        (small = "string" ∨ small = "varchar") := by
    rcases List.mem_pair.mp member with rfl | rfl
    · exact ⟨by decide, by decide, "string", by decide, .inl rfl⟩
    · exact ⟨by decide, by decide, "varchar", by decide, .inr rfl⟩
  have here : [Nat.toDigits 10 length.toNat][0]? = some (Nat.toDigits 10 length.toNat) := rfl
  rw [(applied_number plain length.toNat).read_printed begins known (by simp [map_lowerAscii_toDigits]), named,
    if_pos isString, parameterAt_of_digits here length.toNat_lt_size, UInt32.ofNat_toNat]
  rfl

theorem named_decimal (parameters : List (List Char)) (written : String) :
    named "decimal" parameters written = do
      let precision ← narrow (← parameterAt parameters 0 written) written
      let scale ← narrow (← parameterAt parameters 1 written) written
      return decimal precision scale := rfl

/-- The names that a precision and a scale are printed with. -/
theorem decimal_printed : ∀ name ∈ ["decimal", "DECIMAL"],
    '(' ∉ name.toList ∧ name.toList.head?.any (!Text.isBlank ·) = true ∧
      Text.trimChars (name.toList.map Text.lowerAscii) = "decimal".toList := by
  decide

theorem toNat_lt_size (n : UInt8) : n.toNat < UInt32.size := Nat.lt_trans n.toNat_lt_size (by decide)

/-- A precision is read alone. -/
theorem read_precision (precision : UInt8) : ∀ name ∈ ["decimal", "DECIMAL"],
    read (name ++ "(" ++ toString precision.toNat ++ ")") = .ok (decimal (some precision) none) := by
  intro name member
  obtain ⟨plain, begins, known⟩ := decimal_printed name member
  have first : [Nat.toDigits 10 precision.toNat][0]? = some (Nat.toDigits 10 precision.toNat) := rfl
  rw [(applied_number plain precision.toNat).read_printed begins known (by simp [map_lowerAscii_toDigits]),
    named_decimal, parameterAt_of_digits first (toNat_lt_size precision)]
  simp only [bind, Except.bind, narrow_toNat]
  rfl

/-- A precision is read with a scale. -/
theorem read_scale (precision scale : UInt8) : ∀ name ∈ ["decimal", "DECIMAL"],
    read (name ++ "(" ++ toString precision.toNat ++ ", " ++ toString scale.toNat ++ ")") =
      .ok (decimal (some precision) (some scale)) := by
  intro name member
  obtain ⟨plain, begins, known⟩ := decimal_printed name member
  have first : [Nat.toDigits 10 precision.toNat, Nat.toDigits 10 scale.toNat][0]? =
      some (Nat.toDigits 10 precision.toNat) := rfl
  have second : [Nat.toDigits 10 precision.toNat, Nat.toDigits 10 scale.toNat][1]? =
      some (Nat.toDigits 10 scale.toNat) := rfl
  rw [(applied_numbers plain precision.toNat scale.toNat).read_printed begins known
      (by simp [map_lowerAscii_toDigits]),
    named_decimal, parameterAt_of_digits first (toNat_lt_size precision),
    parameterAt_of_digits second (toNat_lt_size scale)]
  simp only [bind, Except.bind, narrow_toNat]
  rfl

/-- The types whose names take no parameters are read from their short names. -/
theorem read_plain : ∀ entry ∈ plainNames, read entry.2.shortName = .ok entry.2 := by
  decide +kernel

/-- So they are from their names in PostgreSQL, but for the one that has two words. It is carried along. -/
theorem read_plain_postgresName : ∀ entry ∈ plainNames,
    read entry.2.postgresName = .ok (if entry.2 = double then custom entry.2.postgresName else entry.2) := by
  decide +kernel

/-- A name that is carried along is carried along once more. -/
theorem read_written {text : String} {trimmed : List Char} (trims : Text.trimChars text.toList = trimmed) :
    read (String.ofList trimmed) = read text := by
  subst trims
  rw [read_eq, read_eq, String.toList_ofList, Text.trimChars_trimChars]

theorem narrow_eq_ok_none_iff {parameter : Option UInt32} {written : String} :
    narrow parameter written = .ok none ↔ parameter = none := by
  cases parameter with
  | none => simp [narrow]
  | some n =>
    simp only [narrow, reduceCtorEq, iff_false]
    split <;> simp

theorem parameterAt_eq_ok_none_iff {parameters : List (List Char)} {position : Nat} {written : String} :
    parameterAt parameters position written = .ok none ↔ parameters.length ≤ position := by
  rw [← List.getElem?_eq_none_iff, parameterAt]
  cases parameters[position]? with
  | none => simp
  | some parameter =>
    simp only [reduceCtorEq, iff_false]
    split <;> simp

/-- There is no scale without a precision. -/
theorem scale_of_named {parameters : List (List Char)} {written : String} {type : ColumnType}
    (success : named "decimal" parameters written = .ok type) :
    ∃ precision scale, type = decimal precision scale ∧ (precision = none → scale = none) := by
  simp only [named_decimal, bind_eq_ok_iff] at success
  obtain ⟨first, firstAt, precision, narrowed, second, secondAt, scale, narrowed', made⟩ := success
  refine ⟨precision, scale, (Except.ok.inj made).symm, ?_⟩
  rintro rfl
  rw [narrow_eq_ok_none_iff.mp narrowed, parameterAt_eq_ok_none_iff] at firstAt
  rw [parameterAt_eq_ok_none_iff.mpr (Nat.le_trans firstAt (Nat.zero_le 1))] at secondAt
  cases secondAt
  exact (Except.ok.inj narrowed').symm

/-- The types that are read from some name. -/
inductive Readable : ColumnType → Prop
  | varchar (length : Option UInt32) : Readable (varchar length)
  | decimal {precision scale : Option UInt8} (together : precision = none → scale = none) :
      Readable (decimal precision scale)
  | plain {entry : String × ColumnType} (listed : entry ∈ plainNames) : Readable entry.2
  /-- A name that is carried along is read as itself. -/
  | custom {name : String} (carried : read name = .ok (custom name)) : Readable (custom name)

theorem Readable.of_read {text : String} {type : ColumnType} (success : read text = .ok type) : Readable type := by
  have whole := success
  rw [read_eq] at success
  simp only at success
  split at success
  · cases success
  generalize (splitParameters ((Text.trimChars text.toList).map Text.lowerAscii)).2 = parameters at success
  generalize String.ofList (splitParameters ((Text.trimChars text.toList).map Text.lowerAscii)).1 = name at success
  by_cases isString : name = "string" ∨ name = "varchar"
  · rw [named, if_pos isString] at success
    obtain ⟨length, -, rfl⟩ := map_eq_ok_iff.mp success
    exact .varchar length
  by_cases isDecimal : name = "decimal" ∨ name = "numeric"
  · rw [named, if_neg isString, if_pos isDecimal] at success
    obtain ⟨precision, scale, rfl, together⟩ := scale_of_named success
    exact .decimal together
  rw [named, if_neg isString, if_neg isDecimal] at success
  split at success
  next type' listed =>
    cases success
    obtain ⟨before, after, split, -⟩ := List.lookup_eq_some_iff.mp listed
    exact @Readable.plain (name, type) (by rw [split]; simp)
  next =>
    cases success
    exact .custom ((read_written rfl).trans whole)

/-- A type that was read is read again from its short name. -/
theorem read_shortName {text : String} {type : ColumnType} (success : read text = .ok type) :
    read type.shortName = .ok type := by
  cases Readable.of_read success with
  | varchar length =>
    cases length with
    | none => decide +kernel
    | some length => exact read_varchar length "string" (by simp)
  | @decimal precision scale together =>
    cases precision with
    | none =>
      cases together rfl
      decide +kernel
    | some precision =>
      cases scale with
      | none => exact read_precision precision "decimal" (by simp)
      | some scale => exact read_scale precision scale "decimal" (by simp)
  | plain listed => exact read_plain _ listed
  | custom carried => exact carried

/-- From its name in PostgreSQL it is read as itself too. Only the type whose name there has two words is carried along
by this name then. -/
theorem read_postgresName {text : String} {type : ColumnType} (success : read text = .ok type) :
    read type.postgresName = .ok (if type = double then custom type.postgresName else type) := by
  cases Readable.of_read success with
  | varchar length =>
    cases length with
    | none => decide +kernel
    | some length => exact read_varchar length "VARCHAR" (by simp)
  | @decimal precision scale together =>
    cases precision with
    | none =>
      cases together rfl
      decide +kernel
    | some precision =>
      cases scale with
      | none => exact read_precision precision "DECIMAL" (by simp)
      | some scale => exact read_scale precision scale "DECIMAL" (by simp)
  | plain listed => exact read_plain_postgresName _ listed
  | custom carried => exact carried

/-- Types are stable under printing: what any spelling is read as is read again from its short name, in a document as
well, and from its name in PostgreSQL a type with the same name is read. It is the same type, unless it is the one whose
name there has two words. -/
theorem read_of_printed {text : String} {type : ColumnType} (success : read text = .ok type) :
    read type.shortName = .ok type ∧ ofJson (.string type.shortName) = .ok type ∧
      ∃ again, read type.postgresName = .ok again ∧ again.postgresName = type.postgresName ∧
        (type ≠ double → again = type) := by
  have short := read_shortName success
  refine ⟨short, ?_, _, read_postgresName success, ?_, fun other => if_neg other⟩
  · simp [ofJson, Json.asString, bind, Except.bind, short]
  · split <;> rfl

/-- In a spelling with capital letters and blanks. -/
theorem read_of_printed_spacedDecimal :
    read "  Numeric ( 10 ,, 2 )\t" = .ok (decimal (some 10) (some 2)) ∧
      read "decimal(10, 2)" = .ok (decimal (some 10) (some 2)) ∧
      read "DECIMAL(10, 2)" = .ok (decimal (some 10) (some 2)) := by
  have success : read "  Numeric ( 10 ,, 2 )\t" = .ok (decimal (some 10) (some 2)) := by decide +kernel
  obtain ⟨short, -, again, long, -, same⟩ := read_of_printed success
  exact ⟨success, short, (same (by decide)) ▸ long⟩

end ColumnType

end SafeMigration
