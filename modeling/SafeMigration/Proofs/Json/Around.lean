import SafeMigration.Proofs.Json.Shape

/-!
One value among the fields of an object, and what a shape reads when it is another one.

The other fields are looked at as before. So if the fields are read with one value in this place and the other value
has no fault of its own, they are read with the other value as well, and what is read differs by it alone.
-/

namespace SafeMigration

theorem Entries.get?_append {α : Type} (entries others : Entries α) (key : String) :
    get? (entries ++ others) key = (get? entries key).or (get? others key) := by
  induction entries with
  | nil => rfl
  | cons entry entries ih =>
    rw [List.cons_append, get?, get?, ih]
    split <;> rfl

/-- Fields with one more among them, under a key that no field before it has. -/
structure Around (key : String) where
  before : Fields
  after : Fields
  first : ∀ entry ∈ before, entry.1 ≠ key

namespace Around

variable {key other : String} {keys : List String} (around : Around key) (value value' : Json)

/-- The fields with a value in this place. -/
def fill : Fields := around.before ++ (key, value) :: around.after

/-- Every field has others around it. -/
theorem exists_fill {fields : Fields} (found : Entries.get? fields key = some value) :
    ∃ around : Around key, fields = around.fill value := by
  induction fields with
  | nil => cases found
  | cons entry fields ih =>
    rw [Entries.get?] at found
    split at found
    next same =>
      cases found
      exact ⟨⟨[], fields, by simp⟩, by rw [fill, ← same]; rfl⟩
    next different =>
      obtain ⟨around, rfl⟩ := ih found
      exact ⟨⟨entry :: around.before, around.after, List.forall_mem_cons.mpr ⟨different, around.first⟩⟩, rfl⟩

theorem get?_fill : Entries.get? (around.fill value) key = some value := by
  rw [fill, Entries.get?_append, Entries.get?_eq_none around.first, Option.none_or, Entries.get?, if_pos rfl]

theorem get?_fill_of_ne (different : other ≠ key) :
    Entries.get? (around.fill value) other = Entries.get? (around.fill value') other := by
  simp only [fill, Entries.get?_append, Entries.get?, if_neg different.symm]

theorem only_fill (unnamed : key ∉ keys) : (around.fill value).only keys = (around.fill value').only keys := by
  simp [fill, Entries.only, unnamed]

/-- What is taken away with the field is all there was of it. -/
theorem without_fill (named : key ∈ keys) :
    (around.fill value).without keys = (around.fill value').without keys := by
  simp [fill, Entries.without, named]

/-- What is left of fields around a field that stays. -/
def without (keys : List String) : Around key where
  before := around.before.without keys
  after := around.after.without keys
  first entry member := around.first entry (List.mem_filter.mp member).1

theorem fill_without (stays : key ∉ keys) :
    (around.fill value).without keys = (around.without keys).fill value := by
  simp [fill, without, Entries.without, stays]

end Around

namespace Json.Shape

variable {α β : Type} {shape : Shape α} {functions : Shape (α → β)} {fields : Fields} {key other : String}
  {value value' : Json} {read : Json → Except Mismatch α} {a a' : α} {b : β}

theorem read_map_eq_ok_iff {f : α → β} :
    (f <$> shape).read fields = .ok b ↔ ∃ a, shape.read fields = .ok a ∧ f a = b := by
  change (do let g ← Except.ok f; let a ← shape.read fields; return g a) = Except.ok b ↔ _
  cases shape.read fields <;> simp [bind, Except.bind, pure, Except.pure]

theorem read_seq_eq_ok_iff :
    (functions <*> shape).read fields = .ok b ↔
      ∃ f a, functions.read fields = .ok f ∧ shape.read fields = .ok a ∧ f a = b := by
  change (do let g ← functions.read fields; let a ← shape.read fields; return g a) = Except.ok b ↔ _
  cases functions.read fields <;> cases shape.read fields <;> simp [bind, Except.bind, pure, Except.pure]

/-- A value is accepted under a key, and no slot looks at other fields to find a fault. -/
structure Takes (shape : Shape α) (key : String) (value : Json) : Prop where
  steady : ∀ slot ∈ shape.slots, ∀ fields others, slot.fault? fields = slot.fault? others
  faultless : ∀ slot ∈ shape.slots, slot.key = key → ∀ fields, slot.fault? fields value = none

namespace Takes

theorem map (f : α → β) (takes : shape.Takes key value) : (f <$> shape).Takes key value :=
  ⟨takes.steady, takes.faultless⟩

theorem seq (first : functions.Takes key value) (second : shape.Takes key value) :
    (functions <*> shape).Takes key value where
  steady slot member := (List.mem_append.mp member).elim (first.steady slot) (second.steady slot)
  faultless slot member := (List.mem_append.mp member).elim (first.faultless slot) (second.faultless slot)

theorem required (different : other ≠ key) : (required other read).Takes key value where
  steady slot member := by
    cases List.mem_singleton.mp member
    intro _ _
    rfl
  faultless slot member same := by
    cases List.mem_singleton.mp member
    exact absurd same different

theorem optional {otherwise : α} (different : other ≠ key) : (optional other read otherwise).Takes key value where
  steady slot member := by
    cases List.mem_singleton.mp member
    intro _ _
    rfl
  faultless slot member same := by
    cases List.mem_singleton.mp member
    exact absurd same different

/-- A value that is read has no fault. -/
theorem own {otherwise : α} (accepted : read value = .ok a) : (Shape.optional key read otherwise).Takes key value where
  steady slot member := by
    cases List.mem_singleton.mp member
    intro _ _
    rfl
  faultless slot member same fields := by
    cases List.mem_singleton.mp member
    exact faultOf_of_ok accepted

end Takes

theorem ofFields_eq_ok_iff :
    shape.ofFields fields = .ok a ↔
      (∀ field ∈ fields, ∀ slot ∈ shape.slots, slot.key = field.1 → slot.fault? fields field.2 = none) ∧
        shape.read fields = .ok a := by
  have faultless : (∀ field ∈ fields, ∀ slot ∈ shape.slots, slot.key = field.1 → slot.fault? fields field.2 = none) ↔
      fields.findSome? (faultAt? shape.slots fields) = none := by
    simp only [List.findSome?_eq_none_iff, faultAt?, ite_eq_right_iff]
  rw [ofFields, faultless]
  cases fields.findSome? (faultAt? shape.slots fields) <;> simp

/-- A sequence is read as the fields that it lists. -/
theorem ofItems_eq_ok_iff {expected : String} {items : List Json} :
    shape.ofItems expected items = .ok a ↔
      shape.ofFields (shape.keys.zip items) = .ok a ∧ items.length ≤ shape.slots.length := by
  simp only [ofItems, ofFields]
  split
  · simp
  · cases read : shape.read (shape.keys.zip items) with
    | error mismatch => cases mismatch <;> simp
    | ok other =>
      by_cases long : shape.slots.length < items.length
      · simp [long]
      · simp [long, Nat.le_of_not_lt long]

/-- With another value in one place the fields of an object are read, if they were read before. -/
theorem ofFields_fill {around : Around key} (takes : shape.Takes key value')
    (accepted : shape.ofFields (around.fill value) = .ok a) (own : shape.read (around.fill value') = .ok a') :
    shape.ofFields (around.fill value') = .ok a' := by
  obtain ⟨faultless, -⟩ := ofFields_eq_ok_iff.mp accepted
  refine ofFields_eq_ok_iff.mpr ⟨fun field member slot wanted same => ?_, own⟩
  rw [takes.steady slot wanted _ (around.fill value)]
  rcases List.mem_append.mp member with before | here
  · exact faultless field (List.mem_append_left _ before) slot wanted same
  rcases List.mem_cons.mp here with rfl | after
  · exact takes.faultless slot wanted same _
  · exact faultless field (List.mem_append_right _ (List.mem_cons_of_mem _ after)) slot wanted same

/-- A shape that does not name the place reads the same with both values. -/
theorem Local.ofFields_fill_eq (isLocal : shape.Local) (around : Around key) (unnamed : key ∉ shape.keys)
    (value value' : Json) : shape.ofFields (around.fill value) = shape.ofFields (around.fill value') := by
  rw [← isLocal.ofFields_only fun _ => id, around.only_fill value value' unnamed, isLocal.ofFields_only fun _ => id]

theorem Local.read_fill_eq (isLocal : shape.Local) (around : Around key) (unnamed : key ∉ shape.keys)
    (value value' : Json) : shape.read (around.fill value) = shape.read (around.fill value') :=
  isLocal.read fun _ named => around.get?_fill_of_ne value value' fun same => unnamed (same ▸ named)

end Json.Shape

end SafeMigration
