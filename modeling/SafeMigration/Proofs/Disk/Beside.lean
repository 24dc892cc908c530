import SafeMigration.Proofs.Disk.Deposit

/-!
Going on from a path by a name, and the name at the end of a path.

A path leads where its components lead one after the other. So a path with a name leads to that name in the place of the
directory around it, and a path with another name in its stead leads to a node beside it.
-/

namespace SafeMigration.Path

/-- Where a component leads. -/
def Component.go (here : Location) : Component → Location
  | .root => []
  | .current => here
  | .parent => here.tail
  | .name text => text :: here

/-- A text between slashes leads where its component does, or nowhere if it is none. -/
theorem step_component? (first : Bool) (here : Location) (cs : List Char) :
    here.step (String.ofList cs) = ((component? first cs).toList.foldl Component.go here) := by
  unfold component? Location.step
  simp only [← String.toList_inj, String.toList_ofList]
  by_cases empty : cs = []
  · simp [empty]
  · by_cases dot : cs = ['.']
    · cases first <;> simp [dot, Component.go]
    · by_cases dots : cs = ['.', '.'] <;> simp [empty, dot, dots, Component.go]

theorem foldl_scan {first : Bool} {position : Nat} {pending cs : List Char} (plain : '/' ∉ pending) (here : Location) :
    ((scan first position pending cs).map (·.1)).foldl Component.go here =
      here.along ((cutAtSlashes (pending.reverse ++ cs)).map String.ofList) := by
  have own (first : Bool) (position : Nat) (pending : List Char) (here : Location) :
      ((((component? first pending.reverse).map fun component => (component, position)).toList).map (·.1)).foldl
        Component.go here = here.step (String.ofList pending.reverse) := by
    rw [step_component? first]
    cases component? first pending.reverse <;> rfl
  induction cs generalizing first position pending here with
  | nil =>
    have whole : cutAtSlashes pending.reverse = [pending.reverse] := cutAtSlashes_plain (by simpa using plain)
    rw [scan, own, List.append_nil, whole]
    rfl
  | cons c cs ih =>
    by_cases slash : c = '/'
    · have whole : cutAtSlashes pending.reverse = [pending.reverse] := cutAtSlashes_plain (by simpa using plain)
      simp only [scan, beq_iff_eq, slash, if_true, List.map_append, List.foldl_append, own]
      rw [ih (by simp), cutAtSlashes_append, whole]
      rfl
    · simp only [scan, beq_iff_eq, slash, if_false]
      rw [ih (by simp [plain, Ne.symm slash])]
      simp

/-- A path leads where its components lead. -/
theorem place_eq_components (home : Location) (path : String) :
    place home path = (components path).foldl Component.go home := by
  cases absolute : isAbsolute path with
  | false =>
    rw [components, spans_relative absolute, foldl_scan (by simp), place, origin, absolute]
    rfl
  | true =>
    obtain ⟨cs, same⟩ := (isAbsolute_iff path).mp absolute
    rw [components, spans_absolute same, List.map_cons, List.foldl_cons, foldl_scan (by simp), place, origin, absolute,
      segments, same, show '/' :: cs = [] ++ '/' :: cs from rfl, cutAtSlashes_append, if_pos rfl]
    rfl

/-- A path with a name leads to that name in the directory around it. -/
theorem place_of_fileName? {path name : String} (named : fileName? path = some name) (home : Location) :
    place home path = name :: place home ((parent? path).getD "") := by
  obtain ⟨before, ending, split⟩ : ∃ before ending, spans path = before ++ [(.name name, ending)] := by
    unfold fileName? components at named
    obtain none | ⟨before, ⟨component, ending⟩, split⟩ := List.eq_nil_or_concat (spans path)
    · simp [none] at named
    · rw [List.concat_eq_append] at split
      cases component <;> simp [split] at named
      exact ⟨before, ending, named ▸ split⟩
  have whole : place home path = name :: (before.map (·.1)).foldl Component.go home := by
    rw [place_eq_components, components, split, List.map_append, List.foldl_append]
    rfl
  rw [whole, parent?, parents_of_spans split]
  obtain rfl | ⟨front, ⟨component, inner⟩, rfl⟩ := List.eq_nil_or_concat before
  · have relative : isAbsolute path = false := by
      by_contra absolute
      obtain ⟨cs, same⟩ := (isAbsolute_iff path).mp (by simpa using absolute)
      rw [spans_absolute same] at split
      simp at split
    rw [relative]
    rfl
  · rw [List.concat_eq_append, List.append_assoc, List.singleton_append] at split
    obtain ⟨around, -⟩ := spans_take split
    rw [List.concat_eq_append, List.map_append, List.map_append, List.reverse_append]
    simp [place_eq_components, components, around]

theorem isAbsolute_of_plain {name : String} (plain : '/' ∉ name.toList) : isAbsolute name = false := by
  rw [← Bool.not_eq_true, isAbsolute_iff]
  rintro ⟨cs, same⟩
  exact plain (by simp [same])

/-- Where a path goes on from another, what stands before the name leads where the other does. -/
theorem behind_join (home : Location) (path : String) :
    ∃ around done, Behind home around done ∧ place home path = place home around ∧
      (∀ location, location ∈ reach home path ↔ location ∈ reach home around) ∧
      ∀ name, isAbsolute name = false → join path name = String.ofList (done ++ name.toList) := by
  cases ends : path.toList.getLast? with
  | none =>
    have empty : path = "" := String.toList_inj.mp (List.getLast?_eq_none_iff.mp ends)
    refine ⟨"", [], .start home, by rw [empty], fun location => by rw [empty], fun name relative => ?_⟩
    simp [join, relative, ends]
  | some c =>
    obtain ⟨front, whole⟩ := List.getLast?_eq_some_iff.mp ends
    have path_eq : path = String.ofList (front ++ [c]) := by rw [← whole, String.ofList_toList]
    by_cases slash : c = '/'
    · subst slash
      have shape : ∀ name, isAbsolute name = false → join path name = String.ofList (path.toList ++ name.toList) :=
        fun name relative => by simp [join, relative, ends]
      by_cases root : front = []
      · rw [root, List.nil_append] at path_eq
        exact ⟨"/", ['/'], .root home, by rw [path_eq], fun location => by rw [path_eq], path_eq ▸ shape⟩
      · have behind : Behind home (String.ofList front) (front ++ ['/']) := .slash root
        -- The slash at the end leads from the directory to itself.
        have closed : String.ofList (front ++ ['/'] ++ []) = path := by rw [List.append_nil, path_eq]
        have itself : place home path = place home (String.ofList front) := closed ▸ behind.place [] (by simp)
        have leads := fun location => closed ▸ (behind.leads [] (by simp)).mem_reach location
        refine ⟨String.ofList front, front ++ ['/'], behind, itself, fun location => ?_, whole ▸ shape⟩
        rw [leads, reach, List.mem_cons, or_iff_right_iff_imp, itself]
        rintro rfl
        exact (leads _).mp List.mem_cons_self
    · have nonempty : path.toList ≠ [] := by simp [whole]
      refine ⟨path, path.toList ++ ['/'], ?_, rfl, fun _ => .rfl, fun name relative => ?_⟩
      · have behind : Behind home (String.ofList path.toList) (path.toList ++ ['/']) := .slash nonempty
        rwa [String.ofList_toList] at behind
      · apply String.toList_inj.mp
        simp [join, relative, ends]

/-- Going on from a path by a name leads to that name from where the path leads. -/
theorem place_join {name : String} (plain : '/' ∉ name.toList) (home : Location) (path : String) :
    place home (join path name) = (place home path).step name := by
  obtain ⟨around, done, behind, same, -, shape⟩ := behind_join home path
  rw [shape name (isAbsolute_of_plain plain), behind.place _ plain, same, String.ofList_toList]

/-- The way goes on from the place of the path. -/
theorem mem_way_join {name : String} (plain : '/' ∉ name.toList) (home : Location) (path : String)
    (location : Location) : location ∈ way home (join path name) ↔ location ∈ reach home path := by
  obtain ⟨around, done, behind, -, same, shape⟩ := behind_join home path
  rw [shape name (isAbsolute_of_plain plain), same, (behind.leads _ plain).mem_reach]

end SafeMigration.Path
