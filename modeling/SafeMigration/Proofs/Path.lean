import Mathlib.Data.List.Basic
import SafeMigration.Path

/-!
The names in a path and the directories on its way.

A name is one component of a path and no dots; it is its own name. The directories around a path are among those of
any path that goes on from it, so that they can be made one after the other.
-/

namespace SafeMigration.Path

theorem cutAtSlashes_ne_nil (cs : List Char) : cutAtSlashes cs ≠ [] := by
  cases cs with
  | nil => simp [cutAtSlashes]
  | cons c cs =>
    simp only [cutAtSlashes]
    split
    · simp
    · split <;> simp

theorem cutAtSlashes_append (before after : List Char) :
    cutAtSlashes (before ++ '/' :: after) = cutAtSlashes before ++ cutAtSlashes after := by
  induction before with
  | nil => simp [cutAtSlashes]
  | cons c before ih =>
    by_cases slash : c = '/'
    · simp [cutAtSlashes, slash, ih]
    · obtain ⟨segment, segments, first⟩ := List.exists_cons_of_ne_nil (cutAtSlashes_ne_nil before)
      simp [cutAtSlashes, slash, ih, first]

theorem cutAtSlashes_plain {cs : List Char} (plain : '/' ∉ cs) : cutAtSlashes cs = [cs] := by
  induction cs with
  | nil => rfl
  | cons c cs ih =>
    obtain ⟨other, rest⟩ := not_or.mp (List.mem_cons.not.mp plain)
    simp [cutAtSlashes, Ne.symm other, ih rest]

theorem segments_append (before after : List Char) :
    segments (String.ofList (before ++ '/' :: after)) =
      segments (String.ofList before) ++ segments (String.ofList after) := by
  simp [segments, cutAtSlashes_append]

theorem segments_plain {cs : List Char} (plain : '/' ∉ cs) : segments (String.ofList cs) = [String.ofList cs] := by
  simp [segments, cutAtSlashes_plain plain]

/-- A text that can be the name of a file: one component, and neither a dot nor two. -/
structure IsName (name : String) : Prop where
  nonempty : name ≠ ""
  notDot : name ≠ "."
  notDots : name ≠ ".."
  plain : '/' ∉ name.toList

theorem component?_name {name : String} (isName : IsName name) (first : Bool) :
    component? first name.toList = some (.name name) := by
  have nonempty : name.toList ≠ [] := fun same => isName.nonempty (String.toList_inj.mp same)
  have notDot : name.toList ≠ ['.'] := fun same => isName.notDot (String.toList_inj.mp same)
  have notDots : name.toList ≠ ['.', '.'] := fun same => isName.notDots (String.toList_inj.mp same)
  simp [component?, nonempty, notDot, notDots]

theorem isName_of_component? {first : Bool} {cs : List Char} {name : String} (plain : '/' ∉ cs)
    (component : component? first cs = some (.name name)) : IsName name := by
  unfold component? at component
  split at component
  · cases component
  split at component
  · split at component <;> cases component
  split at component
  · cases component
  next nonempty notDot notDots =>
    cases component
    refine ⟨?_, ?_, ?_, by simpa using plain⟩ <;> intro same <;>
      simp_all [← String.toList_inj]

private theorem isName_of_pending {first : Bool} {position ending : Nat} {pending : List Char} {name : String}
    (plain : '/' ∉ pending) (member : (Component.name name, ending) ∈
      ((component? first pending.reverse).map fun component => (component, position)).toList) : IsName name := by
  obtain ⟨component, found, same⟩ := Option.map_eq_some_iff.mp (Option.mem_toList.mp member)
  cases same
  exact isName_of_component? (by simpa using plain) found

/-- A component that is a name is a name. -/
theorem isName_of_mem_scan {first : Bool} {position ending : Nat} {pending cs : List Char} {name : String}
    (plain : '/' ∉ pending) (member : (Component.name name, ending) ∈ scan first position pending cs) :
    IsName name := by
  induction cs generalizing first position pending with
  | nil => exact isName_of_pending plain member
  | cons c cs ih =>
    by_cases slash : c = '/'
    · simp only [scan, beq_iff_eq, slash, if_true] at member
      rcases List.mem_append.mp member with here | later
      · exact isName_of_pending plain here
      · exact ih (by simp) later
    · simp only [scan, beq_iff_eq, slash, if_false] at member
      exact ih (by simp [plain, Ne.symm slash]) member

/-- The last component is the name that the path ends with. -/
theorem getLast?_scan {first : Bool} {position : Nat} {pending cs : List Char} {name : String} (isName : IsName name)
    (plain : '/' ∉ pending) (last : (cutAtSlashes (pending.reverse ++ cs)).getLast? = some name.toList) :
    ∃ ending, (scan first position pending cs).getLast? = some (.name name, ending) := by
  induction cs generalizing first position pending with
  | nil =>
    have whole : pending.reverse = name.toList := by simpa [cutAtSlashes_plain, plain] using last
    exact ⟨position, by simp [scan, whole, component?_name isName]⟩
  | cons c cs ih =>
    by_cases slash : c = '/'
    · subst slash
      rw [cutAtSlashes_append, List.getLast?_append_of_ne_nil _ (cutAtSlashes_ne_nil cs)] at last
      obtain ⟨ending, found⟩ : ∃ ending, (scan false (position + 1) [] cs).getLast? = some (.name name, ending) :=
        ih (by simp) last
      exact ⟨ending, by simp [scan, List.getLast?_append, found]⟩
    · simp only [scan, beq_iff_eq, slash, if_false]
      exact ih (by simp [plain, Ne.symm slash]) (by simpa using last)

theorem spans_relative {path : String} (relative : isAbsolute path = false) :
    spans path = scan true 0 [] path.toList := by
  unfold spans
  split
  · next cs same => simp [isAbsolute, same] at relative
  · rfl

theorem spans_absolute {path : String} {cs : List Char} (absolute : path.toList = '/' :: cs) :
    spans path = (.root, 1) :: scan false 1 [] cs := by
  simp [spans, absolute]

theorem isAbsolute_iff (path : String) : isAbsolute path = true ↔ ∃ cs, path.toList = '/' :: cs := by
  simp [isAbsolute, List.head?_eq_some_iff]

/-- A path that ends with a name has that name. -/
theorem fileName?_of_segments {path name : String} (isName : IsName name)
    (last : (segments path).getLast? = some name) : fileName? path = some name := by
  have last : (cutAtSlashes path.toList).getLast? = some name.toList := by
    rw [segments, List.getLast?_map] at last
    obtain ⟨cs, found, rfl⟩ := Option.map_eq_some_iff.mp last
    simpa using found
  have found : ∃ ending, (spans path).getLast? = some (.name name, ending) := by
    cases absolute : isAbsolute path with
    | false =>
      rw [spans_relative absolute]
      exact getLast?_scan isName (by simp) last
    | true =>
      obtain ⟨cs, same⟩ := (isAbsolute_iff path).mp absolute
      rw [same, show '/' :: cs = [] ++ '/' :: cs from rfl, cutAtSlashes_append,
        List.getLast?_append_of_ne_nil _ (cutAtSlashes_ne_nil cs)] at last
      obtain ⟨ending, found⟩ : ∃ ending, (scan false 1 [] cs).getLast? = some (.name name, ending) :=
        getLast?_scan isName (by simp) last
      exact ⟨ending, by simp [spans_absolute same, List.getLast?_cons, found]⟩
  obtain ⟨ending, found⟩ := found
  simp [fileName?, components, List.getLast?_map, found]

/-- What a path ends with is a name. -/
theorem isName_of_fileName? {path name : String} (named : fileName? path = some name) : IsName name := by
  have last : ∃ ending, (Component.name name, ending) ∈ spans path := by
    unfold fileName? components at named
    rw [List.getLast?_map] at named
    cases found : (spans path).getLast? with
    | none => simp [found] at named
    | some span =>
      obtain ⟨component, ending⟩ := span
      cases component <;> simp_all
      exact ⟨ending, List.mem_of_getLast? found⟩
  obtain ⟨ending, member⟩ := last
  cases absolute : isAbsolute path with
  | false =>
    rw [spans_relative absolute] at member
    exact isName_of_mem_scan (by simp) member
  | true =>
    obtain ⟨cs, same⟩ := (isAbsolute_iff path).mp absolute
    rw [spans_absolute same] at member
    exact isName_of_mem_scan List.not_mem_nil (by simpa using member)

/-- A name is its own name. -/
theorem fileName?_name {name : String} (isName : IsName name) : fileName? name = some name := by
  refine fileName?_of_segments isName ?_
  rw [segments, cutAtSlashes_plain isName.plain]
  simp

/-- Sources that are called the same in reports have outputs of the same name. -/
theorem stem_of_label {path other : String} (same : label path = label other) : stem path = stem other := by
  have itself : ∀ {path other : String}, fileName? path = none → fileName? other = some path → False :=
    fun unnamed named => by simp [fileName?_name (isName_of_fileName? named)] at unnamed
  unfold label at same
  unfold stem
  cases first : fileName? path with
  | none =>
    cases second : fileName? other with
    | none => rfl
    | some name =>
      rw [first, second, Option.getD_none, Option.getD_some] at same
      exact (itself first (same ▸ second)).elim
  | some name =>
    cases second : fileName? other with
    | none =>
      rw [first, second, Option.getD_none, Option.getD_some] at same
      exact (itself second (same ▸ first)).elim
    | some name' =>
      rw [first, second, Option.getD_some, Option.getD_some] at same
      rw [same]

/-- A component ends inside the text that is being read. -/
theorem bounds_of_mem_scan {first : Bool} {position ending : Nat} {pending cs : List Char} {component : Component}
    (member : (component, ending) ∈ scan first position pending cs) :
    position ≤ ending ∧ ending ≤ position + cs.length := by
  have here {first : Bool} {position : Nat} {pending : List Char} (inside : (component, ending) ∈
      ((component? first pending.reverse).map fun component => (component, position)).toList) : ending = position := by
    obtain ⟨_, _, same⟩ := Option.map_eq_some_iff.mp (Option.mem_toList.mp inside)
    cases same
    rfl
  induction cs generalizing first position pending with
  | nil =>
    have same := here member
    simp [same]
  | cons c cs ih =>
    rw [List.length_cons]
    by_cases slash : c = '/'
    · simp only [scan, beq_iff_eq, slash, if_true] at member
      rcases List.mem_append.mp member with inside | later
      · have same := here inside
        omega
      · have inside := ih later
        omega
    · simp only [scan, beq_iff_eq, slash, if_false] at member
      have inside := ih member
      omega

/-- A path that is cut behind a component has the components up to that one. -/
theorem scan_take {first : Bool} {position ending : Nat} {pending cs : List Char} {component : Component}
    {before after : List (Component × Nat)}
    (split : scan first position pending cs = before ++ (component, ending) :: after) :
    scan first position pending (cs.take (ending - position)) = before ++ [(component, ending)] := by
  induction cs generalizing first position pending before with
  | nil =>
    simp only [scan] at split ⊢
    cases found : component? first pending.reverse <;> cases before <;> simp_all [scan]
  | cons c cs ih =>
    have member : (component, ending) ∈ scan first position pending (c :: cs) := by simp [split]
    by_cases slash : c = '/'
    · simp only [scan, beq_iff_eq, slash, if_true] at split
      cases found : component? first pending.reverse with
      | none =>
        simp only [found, Option.map_none, Option.toList_none, List.nil_append] at split
        obtain ⟨below, _⟩ := bounds_of_mem_scan (split ▸ List.mem_append_right before List.mem_cons_self :
          (component, ending) ∈ scan false (position + 1) [] cs)
        rw [show ending - position = ending - (position + 1) + 1 by omega, List.take_succ_cons]
        simp [scan, slash, found, ih split]
      | some mark =>
        simp only [found, Option.map_some, Option.toList_some, List.singleton_append] at split
        cases before with
        | nil =>
          obtain ⟨same, _⟩ := List.cons.inj split
          cases same
          simp [scan, found]
        | cons earlier before =>
          obtain ⟨rfl, later⟩ := List.cons.inj split
          obtain ⟨below, _⟩ := bounds_of_mem_scan (later ▸ List.mem_append_right before List.mem_cons_self :
            (component, ending) ∈ scan false (position + 1) [] cs)
          rw [show ending - position = ending - (position + 1) + 1 by omega, List.take_succ_cons]
          simp [scan, slash, found, ih later]
    · simp only [scan, beq_iff_eq, slash, if_false] at split
      obtain ⟨below, _⟩ := bounds_of_mem_scan (split ▸ List.mem_append_right before List.mem_cons_self :
        (component, ending) ∈ scan first (position + 1) (c :: pending) cs)
      rw [show ending - position = ending - (position + 1) + 1 by omega, List.take_succ_cons]
      simp [scan, slash, ih split]

theorem relative_take {path : String} (relative : isAbsolute path = false) (count : Nat) :
    isAbsolute (String.ofList (path.toList.take count)) = false := by
  cases count with
  | zero => rfl
  | succ count => simpa [isAbsolute, List.head?_take] using relative

theorem spans_take {path : String} {before after : List (Component × Nat)} {component : Component} {ending : Nat}
    (split : spans path = before ++ (component, ending) :: after) :
    spans (String.ofList (path.toList.take ending)) = before ++ [(component, ending)] ∧
      isAbsolute (String.ofList (path.toList.take ending)) = isAbsolute path := by
  cases absolute : isAbsolute path with
  | false =>
    rw [spans_relative absolute] at split
    rw [spans_relative (relative_take absolute ending), relative_take absolute ending, String.toList_ofList]
    exact ⟨by simpa using scan_take split, rfl⟩
  | true =>
    obtain ⟨cs, same⟩ := (isAbsolute_iff path).mp absolute
    rw [spans_absolute same] at split
    rw [same]
    cases before with
    | nil =>
      obtain ⟨mark, _⟩ := List.cons.inj split
      cases mark
      exact ⟨by simp [spans, scan, component?], by simp [isAbsolute]⟩
    | cons root before =>
      obtain ⟨rfl, later⟩ := List.cons.inj split
      obtain ⟨below, _⟩ := bounds_of_mem_scan (later ▸ List.mem_append_right before List.mem_cons_self :
        (component, ending) ∈ scan false 1 [] cs)
      obtain ⟨count, rfl⟩ : ∃ count, ending = count + 1 := ⟨ending - 1, by omega⟩
      rw [List.take_succ_cons, spans_absolute (String.toList_ofList)]
      exact ⟨by simpa using scan_take later, by simp [isAbsolute]⟩

theorem ending_le_length {path : String} {component : Component} {ending : Nat}
    (member : (component, ending) ∈ spans path) : ending ≤ path.toList.length := by
  cases absolute : isAbsolute path with
  | false =>
    rw [spans_relative absolute] at member
    simpa using (bounds_of_mem_scan member).2
  | true =>
    obtain ⟨cs, same⟩ := (isAbsolute_iff path).mp absolute
    rw [spans_absolute same] at member
    rw [same, List.length_cons]
    rcases List.mem_cons.mp member with root | later
    · cases root
      omega
    · have bound := (bounds_of_mem_scan later).2
      omega

theorem parents_of_spans {path : String} {before : List (Component × Nat)} {last : Component × Nat}
    (split : spans path = before ++ [last]) :
    parents path = (before.map fun span => String.ofList (path.toList.take span.2)).reverse ++
      (if isAbsolute path then [] else [""]) := by
  simp [parents, split, List.map_reverse]

/-- The directories around the nearest one are the others. -/
theorem parents_of_parents {path nearest : String} {around : List String} (split : parents path = nearest :: around) :
    parents nearest = around := by
  obtain none | ⟨before, last, spansPath⟩ := List.eq_nil_or_concat (spans path)
  · simp [parents, none] at split
  rw [List.concat_eq_append] at spansPath
  rw [parents_of_spans spansPath] at split
  obtain rfl | ⟨before, ⟨component, ending⟩, rfl⟩ := List.eq_nil_or_concat before
  · cases absolute : isAbsolute path <;> simp [absolute] at split
    obtain ⟨rfl, rfl⟩ := split
    rfl
  rw [List.concat_eq_append] at spansPath split
  rw [List.map_append, List.reverse_append, List.map_singleton, List.reverse_singleton, List.singleton_append,
    List.cons_append] at split
  obtain ⟨rfl, rfl⟩ := List.cons.inj split
  have spansPath : spans path = before ++ (component, ending) :: [last] := by simp [spansPath]
  obtain ⟨spansNearest, absolute⟩ := spans_take spansPath
  rw [parents_of_spans spansNearest, absolute]
  congr 2
  refine List.map_congr_left fun span member => ?_
  have inside : span.2 ≤ (path.toList.take ending).length := by
    have within : (span.1, span.2) ∈ spans (String.ofList (path.toList.take ending)) :=
      spansNearest ▸ List.mem_append_left _ member
    have bound := ending_le_length within
    rwa [String.toList_ofList] at bound
  rw [List.length_take] at inside
  rw [String.toList_ofList, List.take_take, Nat.min_eq_left (by omega)]

end SafeMigration.Path
