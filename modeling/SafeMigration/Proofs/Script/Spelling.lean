import SafeMigration.Proofs.Script.Lexeme
import SafeMigration.Script.Statement

/-!
The pieces that a statement is written with, and what they are read as.

Words, types and numbers are read as they are; they have neither quotes nor semicolons nor two dashes in them. Names and
strings are read as themselves, whatever characters they have, because what follows them in a statement never begins
with a quote.
-/

namespace SafeMigration.Sql

/-- What can follow a quote: nothing, or words that begin with an ordinary character. -/
def Spaced : List Piece → Prop
  | [] => True
  | .words text :: _ => text.toList.head?.any isOrdinary = true
  | _ => False

theorem spaced_words {text : String} (begins : text.toList.head?.any isOrdinary = true) (pieces : List Piece) :
    Spaced (.words text :: pieces) := begins

/-- A value without quotes: ordinary characters, possibly after a sign. -/
def Unquoted (sql : String) : Prop :=
  ∃ cs, cs ≠ [] ∧ (∀ c ∈ cs, isOrdinary c = true) ∧ (sql.toList = cs ∨ sql.toList = '-' :: cs)

/-- What pieces are read as: a name or a string as one quoted text, and every other piece as its characters. -/
inductive Spelled : List Piece → List Lexeme → Prop
  | nil : Spelled [] []
  | words {text : String} {pieces : List Piece} {lexemes : List Lexeme}
      (ordinary : text.toList.all isOrdinary = true) (rest : Spelled pieces lexemes) :
      Spelled (.words text :: pieces) (text.toList.map .mark ++ lexemes)
  | name {name : String} {pieces : List Piece} {lexemes : List Lexeme} (spaced : Spaced pieces)
      (rest : Spelled pieces lexemes) : Spelled (.identifier name :: pieces) (.quoted .name name :: lexemes)
  | string {value : String} {pieces : List Piece} {lexemes : List Lexeme} (spaced : Spaced pieces)
      (rest : Spelled pieces lexemes) :
      Spelled (.given (Text.enclose '\'' value) :: pieces) (.quoted .string value :: lexemes)
  | unquoted {sql : String} {pieces : List Piece} {lexemes : List Lexeme} (unquoted : Unquoted sql)
      (rest : Spelled pieces lexemes) : Spelled (.given sql :: pieces) (sql.toList.map .mark ++ lexemes)

/-- The characters of pieces. -/
def chars (pieces : List Piece) : List Char := pieces.flatMap fun piece => piece.text.toList

theorem ne_quote_of_isOrdinary {c : Char} (ordinary : isOrdinary c = true) (quote : Quote) : c ≠ quote.char := by
  rintro rfl
  simp [isOrdinary] at ordinary

@[simp] theorem chars_nil : chars [] = [] := rfl

@[simp] theorem chars_cons (piece : Piece) (pieces : List Piece) :
    chars (piece :: pieces) = piece.text.toList ++ chars pieces := rfl

/-- What follows a quote does not double it. -/
theorem head?_chars_ne_quote {pieces : List Piece} {rest : List Char} (spaced : Spaced pieces)
    (apart : ∀ quote : Quote, rest.head? ≠ some quote.char) (quote : Quote) :
    (chars pieces ++ rest).head? ≠ some quote.char := by
  match pieces, spaced with
  | [], _ => exact apart quote
  | .words text :: pieces, spaced =>
    rw [Spaced] at spaced
    cases first : text.toList with
    | nil => simp [first] at spaced
    | cons c cs =>
      have ordinary : isOrdinary c = true := by simpa [first] using spaced
      simp [Piece.text, first, ne_quote_of_isOrdinary ordinary quote]

theorem scan_unquoted {lines : LineEnds} {sql : String} (unquoted : Unquoted sql) (rest : List Char) :
    scan lines .code (sql.toList ++ rest) = (scan lines .code rest).map (sql.toList.map .mark ++ ·) := by
  obtain ⟨cs, nonempty, ordinary, plain | signed⟩ := unquoted
  · rw [plain, scan_all_ordinary ordinary]
  · have single : (cs ++ rest).head? ≠ some '-' := by
      cases cs with
      | nil => exact absurd rfl nonempty
      | cons c cs =>
        have first := ordinary c List.mem_cons_self
        rintro same
        cases same
        exact absurd first (by decide)
    rw [signed, List.cons_append, scan_dash single, scan_all_ordinary ordinary]
    simp [Function.comp_def]

theorem getLast?_ne_of_isOrdinary {cs : List Char} (ordinary : ∀ c ∈ cs, isOrdinary c = true) :
    cs.getLast? ≠ some ';' :=
  fun last => absurd (ordinary _ (List.mem_of_getLast? last)) (by decide)

theorem getLast?_enclose (quote : Char) (s : String) : (Text.enclose quote s).toList.getLast? = some quote := by
  rw [Text.enclose, String.toList_ofList, List.getLast?_concat]

namespace Spelled

variable {pieces others : List Piece} {lexemes more : List Lexeme}

/-- Pieces are read as what they are spelled with. -/
theorem reads {lines : LineEnds} (spelled : Spelled pieces lexemes) {rest : List Char}
    (apart : ∀ quote : Quote, rest.head? ≠ some quote.char) :
    scan lines .code (chars pieces ++ rest) = (scan lines .code rest).map (lexemes ++ ·) := by
  induction spelled with
  | nil => simp
  | words ordinary _ ih =>
    rw [chars_cons, List.append_assoc, Piece.text, scan_all_ordinary (List.all_eq_true.mp ordinary), ih]
    simp [Function.comp_def]
  | @name name _ _ spaced _ ih =>
    rw [chars_cons, List.append_assoc]
    refine (scan_enclosed .name name (head?_chars_ne_quote spaced apart .name)).trans ?_
    simp [ih, Function.comp_def]
  | @string value _ _ spaced _ ih =>
    rw [chars_cons, List.append_assoc]
    refine (scan_enclosed .string value (head?_chars_ne_quote spaced apart .string)).trans ?_
    simp [ih, Function.comp_def]
  | unquoted unquoted _ ih =>
    rw [chars_cons, List.append_assoc, Piece.text, scan_unquoted unquoted, ih]
    simp [Function.comp_def]

theorem append (first : Spelled pieces lexemes) (spaced : Spaced others) (second : Spelled others more) :
    Spelled (pieces ++ others) (lexemes ++ more) := by
  have behind : ∀ {pieces : List Piece}, Spaced pieces → Spaced (pieces ++ others) := fun {pieces} own =>
    match pieces, own with
    | [], _ => spaced
    | .words _ :: _, own => own
  induction first with
  | nil => exact second
  | words ordinary _ ih => simpa using Spelled.words ordinary ih
  | name own _ ih => exact .name (behind own) ih
  | string own _ ih => exact .string (behind own) ih
  | unquoted unquoted _ ih => simpa using Spelled.unquoted unquoted ih

/-- No semicolon is outside of quotes. -/
theorem stop_not_mem (spelled : Spelled pieces lexemes) : .stop ∉ lexemes := by
  induction spelled <;> simp_all

/-- So there is none at the end. -/
theorem getLast?_chars_ne (spelled : Spelled pieces lexemes) : (chars pieces).getLast? ≠ some ';' := by
  -- Pieces may be empty, so what is said is that no piece ends so, not which is the last.
  have before : ∀ {cs rest : List Char}, cs.getLast? ≠ some ';' → rest.getLast? ≠ some ';' →
      (cs ++ rest).getLast? ≠ some ';' := fun {cs rest} first second => by
    rw [List.getLast?_append]
    cases last : rest.getLast? with
    | none => exact first
    | some c => exact fun same => second (last.trans same)
  induction spelled with
  | nil => simp
  | words all _ ih => exact before (getLast?_ne_of_isOrdinary (List.all_eq_true.mp all)) ih
  | @name name _ _ _ _ ih =>
    refine before (fun last => ?_) ih
    cases (getLast?_enclose '"' name).symm.trans last
  | @string value _ _ _ _ ih =>
    refine before (fun last => ?_) ih
    cases (getLast?_enclose '\'' value).symm.trans last
  | @unquoted sql _ _ unquoted _ ih =>
    have last : sql.toList.getLast? ≠ some ';' := by
      obtain ⟨cs, nonempty, all, plain | signed⟩ := unquoted
      · rw [plain]
        exact getLast?_ne_of_isOrdinary all
      · rw [signed, List.getLast?_cons_of_ne_nil nonempty]
        exact getLast?_ne_of_isOrdinary all
    exact before last ih

end Spelled

theorem isOrdinary_of_isAlphanum {c : Char} (alphanumeric : c.isAlphanum = true) : isOrdinary c = true := by
  by_contra other
  have special : c = '"' ∨ c = '\'' ∨ c = ';' ∨ c = '-' := by
    simp only [isOrdinary, Quote.of?] at other
    grind
  rcases special with rfl | rfl | rfl | rfl <;> exact absurd alphanumeric (by decide)

theorem isOrdinary_of_mem_toDigits {n : Nat} {c : Char} (member : c ∈ Nat.toDigits 10 n) : isOrdinary c = true := by
  have digit := Nat.isDigit_of_mem_toDigits (by decide) (by decide) member
  exact isOrdinary_of_isAlphanum (by simp [Char.isAlphanum, digit])

theorem toList_toString (n : Nat) : (toString n).toList = Nat.toDigits 10 n := by
  rw [Nat.toString_eq_ofList_toDigits, String.toList_ofList]

theorem all_isOrdinary_toString (n : Nat) : (toString n).toList.all isOrdinary = true := by
  rw [toList_toString, List.all_eq_true]
  exact fun c member => isOrdinary_of_mem_toDigits member

theorem all_isOrdinary_append (a b : String) :
    (a ++ b).toList.all isOrdinary = (a.toList.all isOrdinary && b.toList.all isOrdinary) := by
  rw [String.toList_append, List.all_append]

theorem unquoted_of_all {sql : String} (nonempty : sql.toList ≠ []) (all : sql.toList.all isOrdinary = true) :
    Unquoted sql := ⟨_, nonempty, List.all_eq_true.mp all, .inl rfl⟩

/-- A type is written without quotes unless it is one that is carried along as it was written. -/
theorem unquoted_postgresName {type : ColumnType} (known : type.isCustom = false) : Unquoted type.postgresName := by
  cases type with
  | custom name => cases known
  | varchar length =>
    cases length with
    | none => exact unquoted_of_all (by decide) (by decide)
    | some n =>
      refine unquoted_of_all (by simp [ColumnType.postgresName]) ?_
      simp only [ColumnType.postgresName, all_isOrdinary_append, all_isOrdinary_toString]
      decide
  | decimal precision scale =>
    cases precision with
    | none =>
      rw [show (ColumnType.decimal none scale).postgresName = "DECIMAL" by cases scale <;> rfl]
      exact unquoted_of_all (by decide) (by decide)
    | some p =>
      cases scale <;> refine unquoted_of_all (by simp [ColumnType.postgresName]) ?_ <;>
        simp only [ColumnType.postgresName, all_isOrdinary_append, all_isOrdinary_toString] <;> decide
  | _ => exact unquoted_of_all (by decide) (by decide)

theorem unquoted_toString_int (n : Int) : Unquoted (toString n) := by
  have digits : ∀ n : Nat, ∀ c ∈ Nat.toDigits 10 n, isOrdinary c = true := fun n c => isOrdinary_of_mem_toDigits
  cases n with
  | ofNat n => exact ⟨_, Nat.toDigits_ne_nil, digits n, .inl (toList_toString n)⟩
  | negSucc n =>
    refine ⟨_, Nat.toDigits_ne_nil, digits (n + 1), .inr ?_⟩
    rw [show toString (Int.negSucc n) = "-" ++ toString (n + 1) from rfl, String.toList_append, toList_toString]
    rfl

theorem ordinary_place {ds : List Char} (ordinary : ∀ c ∈ ds, isOrdinary c = true) (point : Int) :
    FloatLayout.plain.place ds point ≠ [] ∧ ∀ c ∈ FloatLayout.plain.place ds point, isOrdinary c = true := by
  have zeros : ∀ n, ∀ c ∈ List.replicate n '0', isOrdinary c = true := fun n c member => by
    rw [List.eq_of_mem_replicate member]
    decide
  -- The point stands before the digits, among them or after them; in the last case it is left out.
  simp only [FloatLayout.place]
  split
  · refine ⟨by simp, ?_⟩
    simp only [List.forall_mem_cons, List.forall_mem_append]
    exact ⟨by decide, by decide, zeros _, ordinary⟩
  split
  · refine ⟨by simp, ?_⟩
    simp only [List.forall_mem_cons, List.forall_mem_append]
    exact ⟨fun c member => ordinary c (List.mem_of_mem_take member), by decide,
      fun c member => ordinary c (List.mem_of_mem_drop member)⟩
  · next positive within =>
    refine ⟨?_, ?_⟩
    · cases ds with
      | nil =>
        have some : point.natAbs ≠ 0 := by omega
        simp [FloatLayout.plain, some]
      | cons d ds => simp
    · simp only [FloatLayout.plain, List.forall_mem_append]
      exact ⟨⟨ordinary, zeros _⟩, by simp⟩

/-- A floating point number is written without quotes. -/
theorem unquoted_float (x : Binary64) : Unquoted (FloatLayout.plain.text x) := by
  have signed : ∀ {cs : List Char}, cs ≠ [] → cs.all isOrdinary = true →
      Unquoted (String.ofList ((if x.isNegative then ['-'] else []) ++ cs)) := fun nonempty all => by
    have ordinary := List.all_eq_true.mp all
    split
    · exact ⟨_, nonempty, ordinary, .inr (by simp)⟩
    · exact ⟨_, nonempty, ordinary, .inl (by simp)⟩
  -- Not a number, infinite, zero, or digits without the zeros at their end.
  rw [FloatLayout.text, FloatLayout.chars]
  split
  · exact unquoted_of_all (by decide) (by decide)
  split
  · exact signed (by decide) (by decide)
  split
  · exact signed (by decide) (by decide)
  · have trimmed : ∀ n, ∀ c ∈ ((Nat.toDigits 10 n).reverse.dropWhile (· == '0')).reverse, isOrdinary c = true :=
      fun n c member => isOrdinary_of_mem_toDigits
        (List.mem_reverse.mp ((List.dropWhile_sublist _).subset (List.mem_reverse.mp member)))
    have placed := fun digits point => ordinary_place (trimmed digits) point
    exact signed (placed _ _).1 (List.all_eq_true.mpr (placed _ _).2)

end SafeMigration.Sql
