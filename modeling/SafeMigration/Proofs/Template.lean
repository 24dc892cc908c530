import SafeMigration.Proofs.Recorder

/-!
How the arguments of a custom operation get into its statements.

Wherever a statement has a name in braces, there is a placeholder. A name has no braces in it, so two placeholders never
share a character, and there is one way only to cut a statement into its placeholders and the characters beside them. It
is cut once; what the arguments put in is not cut.
-/

namespace SafeMigration

namespace Segment

variable {name other cs text : List Char} {parts : List Segment} {arguments : Fields}

/-- A text that a placeholder may have as its name. -/
def IsName : List Char → Prop
  | [] => False
  | c :: cs => startsName c = true ∧ ∀ later ∈ cs, continuesName later = true

theorem IsName.continues (named : IsName name) {c : Char} (member : c ∈ name) : continuesName c = true := by
  cases name with
  | nil => cases member
  | cons first cs =>
    rcases List.mem_cons.mp member with rfl | later
    · simp [continuesName, named.1]
    · exact named.2 c later

/-- No opening brace stands in a name. -/
theorem IsName.no_opening (named : IsName name) : '\x7b' ∉ name := fun member => by
  have continues := named.continues member
  cases continues

/-- A name goes up to the first closing brace. -/
theorem IsName.takeWhile_eq (named : IsName name) (after : List Char) :
    (name ++ '\x7d' :: after).takeWhile continuesName = name := by
  rw [List.takeWhile_append_of_pos fun _ => named.continues,
    List.takeWhile_cons_of_neg (show ¬ continuesName '\x7d' = true by decide), List.append_nil]

/-- The name that is looked for after an opening brace is one up to a closing brace. -/
theorem name?_eq_some_iff : name? cs = some name ↔ IsName name ∧ ∃ after, cs = name ++ '\x7d' :: after := by
  have parted := List.takeWhile_append_dropWhile (p := continuesName) (l := cs)
  have remaining : cs.drop (cs.takeWhile continuesName).length = cs.dropWhile continuesName := by
    conv_lhs =>
      arg 2
      rw [← parted]
    exact List.drop_left
  simp only [name?, remaining]
  constructor
  · intro found
    obtain ⟨⟨begins, closed⟩, rfl⟩ : ((cs.takeWhile continuesName).head?.any startsName = true ∧
        (cs.dropWhile continuesName).head? = some '\x7d') ∧ cs.takeWhile continuesName = name := by
      simpa using found
    constructor
    · cases named : cs.takeWhile continuesName with
      | nil => simp [named] at begins
      | cons first later =>
        refine ⟨by simpa [named] using begins, fun c member => List.mem_takeWhile_imp (l := cs) ?_⟩
        rw [named]
        exact List.mem_cons_of_mem first member
    · refine ⟨(cs.dropWhile continuesName).tail, ?_⟩
      rw [← List.eq_cons_of_mem_head? closed]
      exact parted.symm
  · rintro ⟨named, after, rfl⟩
    have whole : (name ++ '\x7d' :: after).dropWhile continuesName = '\x7d' :: after := by
      rw [List.dropWhile_append_of_pos fun _ => named.continues]
      exact List.dropWhile_cons_of_neg (by decide)
    rw [named.takeWhile_eq, whole]
    cases name with
    | nil => cases named
    | cons first later => simp [named.1]

/-- What a part stands for before anything is put in. -/
def source : Segment → List Char
  | literal c => [c]
  | placeholder name => '\x7b' :: name.toList ++ ['\x7d']

theorem source_ne_nil (part : Segment) : part.source ≠ [] := by cases part <;> simp [source]

/-- A text has a placeholder of this name behind some of its characters. -/
def HoldsBehind (before : List Char) (name : String) (text : List Char) : Prop :=
  IsName name.toList ∧ ∃ after, text = before ++ (placeholder name).source ++ after

/-- The parts of a text: every name in braces is a part of its own, and so is every other character. -/
structure Cuts (text : List Char) (parts : List Segment) : Prop where
  /-- The parts make up the text, in their order. -/
  whole : parts.flatMap source = text
  /-- A placeholder has a name. -/
  named : ∀ name, placeholder name ∈ parts → IsName name.toList
  /-- Each name in braces, wherever it stands, is a part at this place. -/
  every : ∀ before name, HoldsBehind before name text →
    ∃ front back, parts = front ++ placeholder name :: back ∧ front.flatMap source = before

namespace Cuts

theorem nil : Cuts [] [] where
  whole := rfl
  named _ member := nomatch member
  every before name := by
    rintro ⟨-, after, same⟩
    simp [source] at same

/-- A character that no placeholder begins with is a part. -/
theorem literal {c : Char} (free : ∀ name, ¬ HoldsBehind [] name (c :: cs)) (others : Cuts cs parts) :
    Cuts (c :: cs) (.literal c :: parts) where
  whole := congrArg (c :: ·) others.whole
  named name member := others.named name (by simpa using member)
  every before name holds := by
    cases before with
    | nil => exact absurd holds (free name)
    | cons first before =>
      obtain ⟨named, after, same⟩ := holds
      obtain ⟨rfl, rest⟩ := List.cons.inj same
      obtain ⟨front, back, rfl, sources⟩ := others.every before name ⟨named, after, rest⟩
      exact ⟨.literal c :: front, back, rfl, congrArg (c :: ·) sources⟩

/-- A name in braces is a part; as it has no braces in it, whatever other placeholder there is begins behind it. -/
theorem placeholder {name : String} (named : IsName name.toList) (others : Cuts cs parts) :
    Cuts ((Segment.placeholder name).source ++ cs) (.placeholder name :: parts) where
  whole := congrArg ((Segment.placeholder name).source ++ ·) others.whole
  named other member := by
    rcases List.mem_cons.mp member with same | later
    · cases same
      exact named
    · exact others.named other later
  every before other := by
    rintro ⟨otherNamed, after, same⟩
    cases before with
    | nil =>
      have within : name.toList ++ '\x7d' :: cs = other.toList ++ '\x7d' :: after := by simpa [source] using same
      have names : name.toList = other.toList := by
        rw [← named.takeWhile_eq cs, within, otherNamed.takeWhile_eq]
      exact ⟨[], parts, by rw [String.toList_inj.mp names]; rfl, rfl⟩
    | cons first before =>
      obtain ⟨rfl, within⟩ : '\x7b' = first ∧
          name.toList ++ ('\x7d' :: cs) = before ++ ('\x7b' :: (other.toList ++ '\x7d' :: after)) := by
        simpa [source] using same
      rcases List.append_eq_append_iff.mp within with
        ⟨_ | ⟨closing, gap⟩, rfl, rest⟩ | ⟨_ | ⟨opening, gap⟩, rest, behind⟩
      · cases rest
      · obtain ⟨rfl, rest⟩ := List.cons.inj rest
        obtain ⟨front, back, rfl, sources⟩ :=
          others.every gap other ⟨otherNamed, after, by simpa [source] using rest⟩
        exact ⟨.placeholder name :: front, back, rfl, by simp [sources, source]⟩
      · cases behind
      · obtain ⟨rfl, -⟩ := List.cons.inj behind
        exact absurd (by simp [rest]) named.no_opening

/-- What is behind the first part is cut the same way. -/
theorem tail {part : Segment} (cuts : Cuts text (part :: parts)) : Cuts (parts.flatMap source) parts where
  whole := rfl
  named name member := cuts.named name (List.mem_cons_of_mem part member)
  every before name := by
    rintro ⟨named, after, same⟩
    have within : text = (part.source ++ before) ++ (Segment.placeholder name).source ++ after := by
      rw [← cuts.whole, List.flatMap_cons, same]
      simp
    obtain ⟨_ | ⟨first, front⟩, back, parted, sources⟩ := cuts.every _ name ⟨named, after, within⟩
    · exact absurd (List.append_eq_nil_iff.mp sources.symm).1 part.source_ne_nil
    · obtain ⟨rfl, rfl⟩ := List.cons.inj parted
      exact ⟨front, back, rfl, List.append_cancel_left sources⟩

/-- A placeholder that a text begins with is its first part. -/
theorem head {part : Segment} {name : String} (cuts : Cuts text (part :: parts)) (holds : HoldsBehind [] name text) :
    part = .placeholder name := by
  obtain ⟨_ | ⟨first, front⟩, back, parted, sources⟩ := cuts.every [] name holds
  · exact (List.cons.inj parted).1
  · exact absurd (List.append_eq_nil_iff.mp sources).1 first.source_ne_nil

/-- A text without characters has no parts. -/
theorem eq_nil (cuts : Cuts [] parts) : parts = [] := by
  cases parts with
  | nil => rfl
  | cons part parts => exact absurd (List.append_eq_nil_iff.mp cuts.whole).1 part.source_ne_nil

/-- There is one way only to cut a text. -/
theorem unique {first second : List Segment} (one : Cuts text first) (another : Cuts text second) : first = second := by
  induction first generalizing text second with
  | nil =>
    obtain rfl : [] = text := one.whole
    exact another.eq_nil.symm
  | cons part parts ih =>
    cases second with
    | nil =>
      obtain rfl : [] = text := another.whole
      exact one.eq_nil
    | cons other others =>
      have begins : part.source ++ parts.flatMap source = other.source ++ others.flatMap source :=
        one.whole.trans another.whole.symm
      have same : part = other := by
        cases part with
        | placeholder name =>
          exact (another.head ⟨one.named name (by simp), parts.flatMap source, one.whole.symm⟩).symm
        | literal c =>
          cases other with
          | placeholder name =>
            exact one.head ⟨another.named name (by simp), others.flatMap source, another.whole.symm⟩
          | literal d => exact congrArg Segment.literal (List.cons.inj begins).1
      subst same
      have rest := List.append_cancel_left begins
      rw [ih one.tail (rest ▸ another.tail)]

end Cuts

/-- What is cut is what remains of a text behind the characters that belong to the placeholder before. -/
theorem cuts_cut (skip : Nat) (cs : List Char) : Cuts (cs.drop skip) (cut skip cs) := by
  fun_induction cut skip cs with
  | case1 skip => simpa using Cuts.nil
  | case2 skip _ cs ih => exact ih
  | case3 c cs name found ih =>
    have opening : c = '\x7b' := by
      by_contra other
      simp [other] at found
    subst opening
    obtain ⟨named, after, rfl⟩ := name?_eq_some_iff.mp (by simpa using found)
    have behind : (name ++ '\x7d' :: after).drop (name.length + 1) = after := by simp
    rw [behind] at ih
    have isName : IsName (String.ofList name).toList := by simpa using named
    simpa [source] using Cuts.placeholder isName ih
  | case4 c cs none ih =>
    refine .literal (fun name => ?_) ih
    rintro ⟨named, after, same⟩
    obtain ⟨rfl, rest⟩ : c = '\x7b' ∧ cs = name.toList ++ '\x7d' :: after := by simpa [source] using same
    have found : name? cs = some name.toList := name?_eq_some_iff.mpr ⟨named, after, rest⟩
    simp [found] at none

/-- A statement is cut at all its placeholders, and in no other way. -/
theorem ofText_eq_iff {statement : String} : ofText statement = parts ↔ Cuts statement.toList parts := by
  have cuts : Cuts statement.toList (ofText statement) := cuts_cut 0 statement.toList
  constructor
  · rintro rfl
    exact cuts
  · exact cuts.unique

/-- The names of the placeholders, in their order. -/
def names (parts : List Segment) : List String :=
  parts.filterMap fun
    | literal _ => none
    | placeholder name => some name

/-- The names that no argument is given for, as often as they stand there. -/
def absent (arguments : Fields) (parts : List Segment) : List String :=
  (names parts).filter fun name => !Entries.has arguments name

theorem missing_eq_absent (arguments : Fields) (parts : List Segment) :
    missing arguments parts = absent arguments parts := by
  rw [missing, absent, names, List.filter_filterMap]
  congr
  funext part
  cases part with
  | literal c => rfl
  | placeholder name => cases given : Entries.has arguments name <;> simp [given, Option.filter]

theorem mem_names {name : String} : name ∈ names parts ↔ placeholder name ∈ parts := by
  rw [names, List.mem_filterMap]
  constructor
  · rintro ⟨part, member, named⟩
    cases part with
    | literal c => cases named
    | placeholder other =>
      cases named
      exact member
  · intro member
    exact ⟨_, member, rfl⟩

/-- A statement has a placeholder of this name. -/
def Holds (statement name : String) : Prop := ∃ before, HoldsBehind before name statement.toList

/-- An argument is given for each placeholder of a statement. -/
def Filled (arguments : Fields) (statement : String) : Prop :=
  ∀ name, Holds statement name → Entries.has arguments name = true

/-- The placeholders of a statement are those that it is cut at. -/
theorem Cuts.mem_names_iff {statement name : String} (cuts : Cuts statement.toList parts) :
    name ∈ names parts ↔ Holds statement name := by
  rw [mem_names]
  constructor
  · intro member
    obtain ⟨front, back, rfl⟩ := List.mem_iff_append.mp member
    refine ⟨front.flatMap source, cuts.named name member, back.flatMap source, ?_⟩
    rw [← cuts.whole]
    simp
  · rintro ⟨before, holds⟩
    obtain ⟨front, back, rfl, -⟩ := cuts.every before name holds
    simp

theorem Cuts.filled_iff {statement : String} (cuts : Cuts statement.toList parts) :
    Filled arguments statement ↔ absent arguments parts = [] := by
  rw [absent, List.filter_eq_nil_iff]
  simp only [Filled, ← cuts.mem_names_iff, Bool.not_eq_true', Bool.not_eq_false]

instance (arguments : Fields) (statement : String) : Decidable (Filled arguments statement) :=
  decidable_of_iff _ (ofText_eq_iff.mp (Eq.refl (ofText statement))).filled_iff.symm

/-- What is put in for a part: a character stands for itself, a string for its characters, any other argument for its
text in a document. -/
inductive Fills (arguments : Fields) : Segment → List Char → Prop
  | literal (c : Char) : Fills arguments (.literal c) [c]
  | string {name s : String} (given : Entries.get? arguments name = some (.string s)) :
    Fills arguments (.placeholder name) s.toList
  | value {name : String} {value : Json} (given : Entries.get? arguments name = some value)
    (other : ∀ s, value ≠ .string s) : Fills arguments (.placeholder name) value.compact

/-- Each part of a text whose placeholders are given for is filled. -/
theorem fills_expand (filled : absent arguments parts = []) :
    List.Forall₂ (Fills arguments) parts (parts.map (expand arguments)) := by
  rw [List.forall₂_map_right_iff, List.forall₂_same]
  intro part member
  cases part with
  | literal c => exact .literal c
  | placeholder name =>
    have has : Entries.has arguments name = true := by
      simpa using List.filter_eq_nil_iff.mp filled name (mem_names.mpr member)
    obtain ⟨value, given⟩ := Option.isSome_iff_exists.mp has
    simp only [expand, given]
    cases value with
    | string s => exact .string given
    | _ => exact .value given nofun

end Segment

namespace Template

open Segment

variable {operation : String} {arguments : Fields} {statement : String}

/-- The text is the statement with the arguments put in for its placeholders, and is the statement beside them. -/
def Expands (arguments : Fields) (statement text : String) : Prop :=
  ∃ parts pieces, Cuts statement.toList parts ∧ List.Forall₂ (Fills arguments) parts pieces ∧
    text.toList = pieces.flatten

/-- The error of a statement that arguments are missing for. -/
def missingError (operation : String) (names : List String) : MigrationError :=
  .invalidArgument operation (.rule ("missing argument(s): " ++ String.intercalate ", " names))

/-- A statement whose placeholders are given for is expanded. -/
theorem expand_of_filled (operation : String) (filled : Filled arguments statement) :
    ∃ text, expand operation arguments statement = .ok text ∧ Expands arguments statement text := by
  have cuts := ofText_eq_iff.mp (Eq.refl (ofText statement))
  have none := cuts.filled_iff.mp filled
  have expanded : expand operation arguments statement =
      .ok (String.ofList ((ofText statement).flatMap (Segment.expand arguments))) := by
    simp only [expand, missing_eq_absent, none]
  refine ⟨_, expanded, _, _, cuts, fills_expand none, ?_⟩
  rw [String.toList_ofList, List.flatMap_def]

/-- Any other fails by the names that are missing. -/
theorem expand_of_not_filled (operation : String) (unfilled : ¬ Filled arguments statement) :
    ∃ parts, Cuts statement.toList parts ∧
      expand operation arguments statement = .error (missingError operation (absent arguments parts)) := by
  have cuts := ofText_eq_iff.mp (Eq.refl (ofText statement))
  refine ⟨_, cuts, ?_⟩
  rw [cuts.filled_iff] at unfilled
  simp only [expand, missing_eq_absent]
  cases names : absent arguments (ofText statement) with
  | nil => exact absurd names unfilled
  | cons first others => rfl

/-- A template gives one statement for each of its own if an argument is given for every placeholder. -/
theorem instantiate_of_filled {template : Template} (operation : String)
    (filled : ∀ statement ∈ template.statements, Filled arguments statement) :
    ∃ made, template.instantiate operation arguments = .ok made ∧
      List.Forall₂ (Expands arguments) template.statements made.statements := by
  obtain ⟨texts, made, each⟩ := exists_mapM fun statement member =>
    (expand_of_filled operation (filled statement member)).imp fun _ => And.left
  refine ⟨_, by rw [instantiate, made]; rfl, ?_⟩
  refine ((List.forall₂_and_left _ _).mpr ⟨filled, each⟩).imp ?_
  rintro statement text ⟨given, done⟩
  obtain ⟨other, expanded, expands⟩ := expand_of_filled operation given
  cases done.symm.trans expanded
  exact expands

/-- Any other template fails by the first statement that arguments are missing for. -/
theorem instantiate_of_not_filled {template : Template} {before after : List String} (operation : String)
    (parted : template.statements = before ++ statement :: after)
    (filled : ∀ earlier ∈ before, Filled arguments earlier) (unfilled : ¬ Filled arguments statement) :
    ∃ parts, Cuts statement.toList parts ∧
      template.instantiate operation arguments = .error (missingError operation (absent arguments parts)) := by
  obtain ⟨parts, cuts, failed⟩ := expand_of_not_filled operation unfilled
  obtain ⟨texts, -, expanded⟩ := exists_mapM fun earlier member =>
    (expand_of_filled operation (filled earlier member)).imp fun _ => And.left
  refine ⟨parts, cuts, ?_⟩
  rw [instantiate, mapM_eq_error_iff.mpr ⟨before, statement, after, texts, parted, expanded, failed⟩]
  rfl

/-- The placeholders of each statement are the names in braces, wherever they stand. If an argument is given for all of
them, the operation has the statements with the arguments put in, and is recorded with them. If not, the names that are
missing in the first such statement are reported, and nothing is recorded. -/
theorem instantiate_in_one_pass (template : Template) (operation : String) (arguments : Fields) :
    (∀ (statement : String) parts, ofText statement = parts ↔ Cuts statement.toList parts) ∧
      ((∀ statement ∈ template.statements, Filled arguments statement) →
        ∃ made, template.instantiate operation arguments = .ok made ∧
          List.Forall₂ (Expands arguments) template.statements made.statements ∧
          ∀ recorder, Entries.get? recorder.registry.templates operation = some template →
            (Recorder.Act.custom operation arguments).on recorder = (.ok (), recorder.extend [.custom made])) ∧
      ∀ before statement after, template.statements = before ++ statement :: after →
        (∀ earlier ∈ before, Filled arguments earlier) → ¬ Filled arguments statement →
        ∃ parts, Cuts statement.toList parts ∧ absent arguments parts ≠ [] ∧
          template.instantiate operation arguments = .error (missingError operation (absent arguments parts)) ∧
          ∀ recorder, Entries.get? recorder.registry.templates operation = some template →
            (Recorder.Act.custom operation arguments).on recorder =
              (.error (missingError operation (absent arguments parts)), recorder) := by
  have recorded : ∀ recorder, Entries.get? recorder.registry.templates operation = some template →
      (Recorder.Act.custom operation arguments).on recorder =
        recorder.settle ((template.instantiate operation arguments).map fun made => recorder.record (.custom made)) := by
    intro recorder known
    rw [Recorder.on_custom, Recorder.custom, Registry.construct, known]
  refine ⟨fun _ _ => ofText_eq_iff, fun filled => ?_, fun before statement after parted filled unfilled => ?_⟩
  · obtain ⟨made, result, expands⟩ := instantiate_of_filled operation filled
    refine ⟨made, result, expands, fun recorder known => ?_⟩
    rw [recorded recorder known, result]
    rfl
  · obtain ⟨parts, cuts, result⟩ := instantiate_of_not_filled operation parted filled unfilled
    refine ⟨parts, cuts, mt cuts.filled_iff.mpr unfilled, result, fun recorder known => ?_⟩
    rw [recorded recorder known, result]
    rfl

/-- A template with braces that belong to no placeholder. -/
def unbalanced : Template :=
  ⟨none, "table", ["SELECT \x7b\x7ba\x7d\x7d", "SELECT '\x7ba\x7bb\x7d\x7d \x7b1st\x7d', \x7ba\x7d"]⟩

/-- What an argument puts in is not looked at again, even if it is another placeholder. Without this argument the second
statement is reported. -/
theorem instantiate_in_one_pass_unbalanced :
    (∃ made, (Recorder.Act.custom "probe" [("a", .string "\x7bb\x7d"), ("b", .bool true)]).on
          (.new .up ⟨[("probe", unbalanced)]⟩) =
            (.ok (), .extend (.new .up ⟨[("probe", unbalanced)]⟩) [.custom made]) ∧
        made.statements = ["SELECT \x7b\x7bb\x7d\x7d", "SELECT '\x7batrue\x7d \x7b1st\x7d', \x7bb\x7d"]) ∧
      (Recorder.Act.custom "probe" [("a", .null)]).on (.new .up ⟨[("probe", unbalanced)]⟩) =
        (.error (missingError "probe" ["b"]), .new .up ⟨[("probe", unbalanced)]⟩) := by
  constructor
  · obtain ⟨-, filled, -⟩ :=
      instantiate_in_one_pass unbalanced "probe" [("a", .string "\x7bb\x7d"), ("b", .bool true)]
    obtain ⟨made, result, -, recorded⟩ := filled (by decide)
    refine ⟨made, recorded _ rfl, ?_⟩
    cases result
    decide
  · obtain ⟨-, -, unfilled⟩ := instantiate_in_one_pass unbalanced "probe" [("a", .null)]
    obtain ⟨parts, cuts, -, -, unrecorded⟩ := unfilled [_] _ [] rfl (by decide) (by decide)
    have names : absent [("a", .null)] parts = ["b"] := by
      rw [← ofText_eq_iff.mpr cuts]
      decide
    rw [unrecorded _ rfl, names]

end Template

end SafeMigration
