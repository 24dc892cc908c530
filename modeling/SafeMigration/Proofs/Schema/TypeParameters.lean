import SafeMigration.Proofs.Schema.TypeName

/-!
What becomes of the parameters of a type.

A type whose name is known holds a certain number of parameters, as numbers: a length, or a precision and a scale, or
none. As many as it holds are written in PostgreSQL too, in their order and as the same numbers. Those behind them are
lost without a word, while a type that is not known keeps all of its text.
-/

namespace SafeMigration

namespace Text

/-- Digits that stand for a number, with a plus sign before them or without. -/
def Denotes (cs : List Char) (n : Nat) : Prop :=
  ∃ digits, digits ≠ [] ∧ (cs = digits ∨ cs = '+' :: digits) ∧ (∀ c ∈ digits, c.isDigit = true) ∧
    Nat.ofDigitChars 10 digits 0 = n

theorem isDigit_of_digitValue? {c : Char} {value : Nat} (valued : digitValue? 10 c = some value) :
    c.isDigit = true := by
  rw [digitValue?_ten] at valued
  split at valued
  · next digit => exact (between_iff '0' '9' c).mpr digit
  · cases valued

/-- Only digits continue a number. -/
theorem digits_of_continueNat? {cs : List Char} {n m : Nat} (success : continueNat? 10 n cs = some m) :
    (∀ c ∈ cs, c.isDigit = true) ∧ Nat.ofDigitChars 10 cs n = m := by
  have all : ∀ c ∈ cs, c.isDigit = true := by
    induction cs generalizing n with
    | nil => nofun
    | cons c cs ih =>
      obtain ⟨value, valued, later⟩ := Option.bind_eq_some_iff.mp success
      exact List.forall_mem_cons.mpr ⟨isDigit_of_digitValue? valued, ih later⟩
  exact ⟨all, Option.some.inj ((continueNat?_of_digits all n).symm.trans success)⟩

/-- A text that is read as a number stands for it. -/
theorem denotes_of_readBounded? {bound n : Nat} {cs : List Char} (success : readBounded? bound cs = some n) :
    n ≤ bound ∧ Denotes cs n := by
  obtain ⟨digits, same, read⟩ : ∃ digits, (cs = digits ∨ cs = '+' :: digits) ∧
      (readNat? 10 digits).filter (· ≤ bound) = some n := by
    by_cases signed : ∃ rest, cs = '+' :: rest
    · obtain ⟨rest, rfl⟩ := signed
      exact ⟨rest, .inr rfl, success⟩
    · rw [readBounded?] at success
      · exact ⟨cs, .inl rfl, success⟩
      · exact fun rest same => signed ⟨rest, same⟩
  obtain ⟨read, inside⟩ := Option.filter_eq_some_iff.mp read
  refine ⟨of_decide_eq_true inside, digits, ?_, same, ?_⟩
  · rintro rfl
    cases read
  · cases digits with
    | nil => cases read
    | cons c rest => exact digits_of_continueNat? read

end Text

namespace ColumnType

/-- The name that a type is looked up by. -/
def knownName (name : List Char) : String := String.ofList (Text.trimChars (name.map Text.lowerAscii))

/-- How many parameters the type of a known name holds. -/
def capacity? (name : String) : Option Nat :=
  if name = "string" ∨ name = "varchar" then some 1
  else if name = "decimal" ∨ name = "numeric" then some 2
  else (plainNames.lookup name).map fun _ => 0

/-- The text of a type in which numbers stand as parameters, or none. -/
def Shows (sql : String) (numbers : List Nat) : Prop :=
  (numbers = [] ∧ '(' ∉ sql.toList) ∨ ∃ title, Applied sql.toList title (numbers.map (Nat.toDigits 10))

/-- The text of a type has its parameters: they stand in it as the same numbers, or it is the text that was written. -/
def Carries (sql written : String) (parameters : List (List Char)) : Prop :=
  sql = written ∨ ∃ numbers, Shows sql numbers ∧ List.Forall₂ Text.Denotes parameters numbers

theorem Applied.opened {cs name : List Char} {parameters : List (List Char)} (applied : Applied cs name parameters) :
    '(' ∈ cs := by
  obtain ⟨pieces, rfl, -⟩ := applied.spelled
  simp

/-- Which numbers stand in the text of a type is settled by the text. -/
theorem Shows.unique {sql : String} {numbers others : List Nat} (shows : Shows sql numbers)
    (shows' : Shows sql others) : numbers = others := by
  rcases shows with ⟨rfl, unopened⟩ | ⟨title, applied⟩ <;> rcases shows' with ⟨rfl, unopened'⟩ | ⟨title', applied'⟩
  · rfl
  · exact absurd applied'.opened unopened
  · exact absurd applied.opened unopened'
  · have same := (Prod.mk.inj (applied.splitParameters.symm.trans applied'.splitParameters)).2
    refine List.map_injective_iff.mpr (fun m n digits => ?_) same
    have read := congrArg (Nat.ofDigitChars 10 · 0) digits
    simpa [Nat.ofDigitChars_ten_toDigits] using read

/-- A parameter that is there and is read, in small letters, is a number of 32 bits. -/
theorem denotes_of_parameterAt {parameters : List (List Char)} {position : Nat} {written : String}
    {parameter : List Char} {result : Option UInt32}
    (stands : parameters[position]? = some (parameter.map Text.lowerAscii))
    (success : parameterAt parameters position written = .ok result) :
    ∃ n, result = some n ∧ Text.Denotes parameter n.toNat := by
  simp only [parameterAt, stands, Text.readBounded?_map_lowerAscii] at success
  split at success
  · next m read =>
    obtain ⟨inside, denotes⟩ := Text.denotes_of_readBounded? read
    have same : (UInt32.ofNat m).toNat = m := UInt32.toNat_ofNat_of_lt' (Nat.lt_of_le_pred (by decide) inside)
    exact ⟨UInt32.ofNat m, (Except.ok.inj success).symm, by rwa [same]⟩
  · cases success

/-- A precision is the number that was read. -/
theorem toNat_of_narrow {n : UInt32} {result : Option UInt8} {written : String}
    (success : narrow (some n) written = .ok result) : ∃ m, result = some m ∧ m.toNat = n.toNat := by
  simp only [narrow] at success
  split at success
  · next small =>
    exact ⟨_, (Except.ok.inj success).symm, UInt8.toNat_ofNat_of_lt' (Nat.lt_succ_of_le small)⟩
  · cases success

theorem capacity?_eq_zero {name : String} {type : ColumnType} (isString : ¬ (name = "string" ∨ name = "varchar"))
    (isDecimal : ¬ (name = "decimal" ∨ name = "numeric")) (listed : plainNames.lookup name = some type) :
    capacity? name = some 0 := by
  rw [capacity?, if_neg isString, if_neg isDecimal, listed]
  rfl

/-- The types without parameters are written without any. -/
theorem unopened_of_plain : ∀ entry ∈ plainNames, '(' ∉ entry.2.postgresName.toList := by
  decide +kernel

/-- The type of a known name shows the first of its parameters, as many as it holds. -/
theorem shows_of_named {name written : String} {parameters : List (List Char)} {type : ColumnType}
    (nonempty : parameters ≠ []) (success : named name (parameters.map (·.map Text.lowerAscii)) written = .ok type)
    {most : Nat}
    (known : capacity? name = some most) :
    ∃ numbers, Shows type.postgresName numbers ∧ List.Forall₂ Text.Denotes (parameters.take most) numbers := by
  obtain ⟨first, others, rfl⟩ := List.exists_cons_of_ne_nil nonempty
  by_cases isString : name = "string" ∨ name = "varchar"
  · rw [capacity?, if_pos isString] at known
    cases known
    rw [named, if_pos isString] at success
    obtain ⟨length, lengthAt, rfl⟩ := map_eq_ok_iff.mp success
    obtain ⟨length, rfl, denotes⟩ := denotes_of_parameterAt rfl lengthAt
    exact ⟨[length.toNat], .inr ⟨_, @applied_number "VARCHAR" (by decide) _⟩, .cons denotes .nil⟩
  by_cases isDecimal : name = "decimal" ∨ name = "numeric"
  · rw [capacity?, if_neg isString, if_pos isDecimal] at known
    cases known
    rw [named, if_neg isString, if_pos isDecimal] at success
    simp only [bind_eq_ok_iff] at success
    obtain ⟨_, firstAt, _, narrowed, _, secondAt, _, narrowed', made⟩ := success
    obtain ⟨n, rfl, denotes⟩ := denotes_of_parameterAt rfl firstAt
    obtain ⟨precision, rfl, same⟩ := toNat_of_narrow narrowed
    cases others with
    | nil =>
      cases secondAt
      cases narrowed'
      cases made
      refine ⟨[precision.toNat], .inr ⟨_, @applied_number "DECIMAL" (by decide) _⟩, .cons ?_ .nil⟩
      rwa [same]
    | cons second others =>
      obtain ⟨m, rfl, denotes'⟩ := denotes_of_parameterAt rfl secondAt
      obtain ⟨scale, rfl, same'⟩ := toNat_of_narrow narrowed'
      cases made
      refine ⟨[precision.toNat, scale.toNat], .inr ⟨_, @applied_numbers "DECIMAL" (by decide) _ _⟩,
        .cons ?_ (.cons ?_ .nil)⟩
      · rwa [same]
      · rwa [same']
  rw [named, if_neg isString, if_neg isDecimal] at success
  split at success
  next listed =>
    rw [capacity?_eq_zero isString isDecimal listed] at known
    cases known
    cases success
    obtain ⟨before, after, split, -⟩ := List.lookup_eq_some_iff.mp listed
    exact ⟨[], .inl ⟨rfl, unopened_of_plain (name, type) (by rw [split]; simp)⟩, .nil⟩
  next unlisted =>
    rw [capacity?, if_neg isString, if_neg isDecimal, unlisted] at known
    cases known

/-- The type of a name that is not known is the text itself. -/
theorem custom_of_named {name written : String} {parameters : List (List Char)} {type : ColumnType}
    (success : named name parameters written = .ok type) (unknown : capacity? name = none) : type = custom written := by
  rw [capacity?] at unknown
  split at unknown
  · cases unknown
  split at unknown
  · cases unknown
  · next isString isDecimal =>
    rw [named, if_neg isString, if_neg isDecimal, Option.map_eq_none_iff.mp unknown] at success
    exact (Except.ok.inj success).symm

/-- The name of a type in PostgreSQL carries the parameters that the type was written with exactly if its name is not
known, or holds as many of them. Of a known name it shows the first of them, as many as the name holds. -/
theorem parameters_carried_iff {text : String} {name : List Char} {parameters : List (List Char)} {type : ColumnType}
    (applied : Applied (Text.trimChars text.toList) name parameters) (success : read text = .ok type) :
    (Carries type.postgresName (Text.trim text) parameters ↔
      ∀ most ∈ capacity? (knownName name), parameters.length ≤ most) ∧
    ∀ most ∈ capacity? (knownName name), ∃ numbers, Shows type.postgresName numbers ∧
      List.Forall₂ Text.Denotes (parameters.take most) numbers := by
  have made : named (knownName name) (parameters.map (·.map Text.lowerAscii)) (Text.trim text) = .ok type :=
    applied.read.symm.trans success
  have shown : ∀ most ∈ capacity? (knownName name), ∃ numbers, Shows type.postgresName numbers ∧
      List.Forall₂ Text.Denotes (parameters.take most) numbers := fun most known =>
    shows_of_named applied.nonempty made known
  refine ⟨⟨fun carries most known => ?_, fun fits => ?_⟩, shown⟩
  · obtain ⟨numbers, shows, each⟩ := shown most known
    have shorter : numbers.length ≤ most := each.length_eq ▸ List.length_take_le ..
    rcases carries with same | ⟨others, shows', each'⟩
    · -- The text that was written shows numbers itself, so these are its parameters.
      have applied' : Applied type.postgresName.toList name parameters := by
        rw [same, Text.trim, String.toList_ofList]
        exact applied
      rcases shows with ⟨-, unopened⟩ | ⟨title, own⟩
      · exact absurd applied'.opened unopened
      · rw [(Prod.mk.inj (applied'.splitParameters.symm.trans own.splitParameters)).2, List.length_map]
        exact shorter
    · rw [each'.length_eq, shows'.unique shows]
      exact shorter
  · cases known : capacity? (knownName name) with
    | none => exact .inl (congrArg postgresName (custom_of_named made known))
    | some most =>
      obtain ⟨numbers, shows, each⟩ := shown most known
      rw [List.take_of_length_le (fits most known)] at each
      exact .inr ⟨numbers, shows, each⟩

/-- Both numbers of a decimal are carried, whatever blanks and signs they were written with. -/
theorem parameters_carried_iff_paddedNumeric :
    Applied (Text.trimChars " Numeric( 10 ,+2 )".toList) "Numeric".toList ["10".toList, "+2".toList] ∧
      read " Numeric( 10 ,+2 )" = .ok (decimal (some 10) (some 2)) ∧
      Carries "DECIMAL(10, 2)" "Numeric( 10 ,+2 )" ["10".toList, "+2".toList] := by
  have applied :
      Applied (Text.trimChars " Numeric( 10 ,+2 )".toList) "Numeric".toList ["10".toList, "+2".toList] :=
    ⟨⟨[" 10 ".toList, "+2 ".toList], by decide, by decide, by decide⟩, by decide, by decide, by decide⟩
  have success : read " Numeric( 10 ,+2 )" = .ok (decimal (some 10) (some 2)) := by decide +kernel
  have room : ∀ most ∈ capacity? (knownName "Numeric".toList), 2 ≤ most := by decide
  exact ⟨applied, success, (parameters_carried_iff applied success).1.mpr room⟩

/-- The precision of a timestamp is lost. -/
theorem not_carries_timestamp :
    Applied (Text.trimChars "timestamp(3)".toList) "timestamp".toList ["3".toList] ∧
      read "timestamp(3)" = .ok timestamp ∧ ¬ Carries timestamp.postgresName "timestamp(3)" ["3".toList] := by
  refine ⟨⟨⟨["3".toList], by decide, by decide, by decide⟩, by decide, by decide, by decide⟩, by decide +kernel, ?_⟩
  rintro (same | ⟨numbers, shows, each⟩)
  · exact absurd same (by decide)
  · have none : Shows timestamp.postgresName [] := .inl ⟨rfl, by decide⟩
    rw [shows.unique none] at each
    cases each

end ColumnType

end SafeMigration
