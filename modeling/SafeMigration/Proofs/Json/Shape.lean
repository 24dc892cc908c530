import SafeMigration.Json.Shape
import SafeMigration.Proofs.Entries

/-!
What a shape reads out of an object.

The fields of an object are looked at twice: each by itself for what is wrong with it, and then all together for the
value. Where keys are in order each stands once, so what look-ups find under the keys of the shape settles both.
-/

namespace SafeMigration.Json

theorem faultOf_of_ok {α : Type} {read : Json → Except Mismatch α} {value : Json} {a : α} (own : read value = .ok a) :
    faultOf read value = none := by
  rw [faultOf, own]

namespace Shape

variable {α β : Type} {shape : Shape α} {fields : Fields} {key other : String} {read : Json → Except Mismatch α} {a : α}

/-- Nothing is wrong with what stands under the keys of a shape, and this is the value. -/
structure Reads (shape : Shape α) (fields : Fields) (a : α) : Prop where
  faultless : ∀ slot ∈ shape.slots, ∀ value, Entries.get? fields slot.key = some value → slot.fault? fields value = none
  value : shape.read fields = .ok a

namespace Reads

/-- So the shape reads the value. -/
theorem ofFields (reads : shape.Reads fields a) (ordered : Entries.Ordered fields) : shape.ofFields fields = .ok a := by
  have faultless : fields.findSome? (faultAt? shape.slots fields) = none := by
    refine List.findSome?_eq_none_iff.mpr fun field member => List.findSome?_eq_none_iff.mpr fun slot wanted => ?_
    split
    next same =>
      have found := ordered.get?_of_mem member
      rw [← same] at found
      exact reads.faultless slot wanted field.2 found
    · rfl
  rw [Shape.ofFields, faultless]
  exact reads.value

theorem map (f : α → β) (reads : shape.Reads fields a) : (f <$> shape).Reads fields (f a) := by
  constructor
  case faultless => exact reads.faultless
  case value =>
    change (do let g ← Except.ok f; let b ← shape.read fields; return g b) = Except.ok (f a)
    rw [reads.value]
    rfl

theorem seq {functions : Shape (α → β)} {f : α → β} (first : functions.Reads fields f) (second : shape.Reads fields a) :
    (functions <*> shape).Reads fields (f a) := by
  constructor
  case faultless =>
    exact fun slot wanted => (List.mem_append.mp wanted).elim (first.faultless slot) (second.faultless slot)
  case value =>
    change (do let g ← functions.read fields; let b ← shape.read fields; return g b) = Except.ok (f a)
    rw [first.value, second.value]
    rfl

theorem required {value : Json} (told : Entries.get? fields key = some value) (own : read value = .ok a) :
    (required key read).Reads fields a := by
  constructor
  case faultless =>
    intro slot wanted found there
    cases List.mem_singleton.mp wanted
    cases told.symm.trans there
    exact faultOf_of_ok own
  case value => simp only [Shape.required, told, own]

/-- A field that is left out has the value for that. -/
theorem optional {value? : Option Json} {otherwise : α} (told : Entries.get? fields key = value?)
    (own : ∀ value, value? = some value → read value = .ok a) (absent : value? = none → a = otherwise) :
    (optional key read otherwise).Reads fields a := by
  constructor
  case faultless =>
    intro slot wanted found there
    cases List.mem_singleton.mp wanted
    exact faultOf_of_ok (own found (told.symm.trans there))
  case value =>
    cases value? with
    | none => simp only [Shape.optional, told, absent rfl]
    | some value => simp only [Shape.optional, told, own value rfl]

theorem maybe {write : α → Json} {a? : Option α} (told : Entries.get? fields key = a?.map write)
    (own : ∀ a, a? = some a → asOption read (write a) = .ok (some a)) : (maybe key read).Reads fields a? := by
  refine optional told (fun value given => ?_) fun absent => Option.map_eq_none_iff.mp absent
  obtain ⟨a, isGiven, rfl⟩ := Option.map_eq_some_iff.mp given
  rw [own a isGiven, isGiven]

/-- A field with two keys is given under one of them. -/
theorem eitherKey {second : Bool} {value : Json}
    (told : Entries.get? fields key = if second then none else some value)
    (told' : Entries.get? fields other = if second then some value else none) (own : read value = .ok a) :
    (eitherKey key other read).Reads fields a := by
  cases second with
  | false =>
    constructor
    case faultless =>
      intro slot wanted found there
      rcases List.mem_pair.mp wanted with rfl | rfl
      · cases told.symm.trans there
        exact faultOf_of_ok own
      · cases told'.symm.trans there
    case value => simp [Shape.eitherKey, told, own]
  | true =>
    constructor
    case faultless =>
      intro slot wanted found there
      rcases List.mem_pair.mp wanted with rfl | rfl
      · cases told.symm.trans there
      · cases told'.symm.trans there
        simp [Entries.has, told, faultOf_of_ok own]
    case value => simp [Shape.eitherKey, told, told', own]

end Reads

/-- What a shape reads is settled by what look-ups find under its keys. -/
structure Local (shape : Shape α) : Prop where
  fault {fields others : Fields} (same : ∀ key ∈ shape.keys, Entries.get? fields key = Entries.get? others key) :
    ∀ slot ∈ shape.slots, slot.fault? fields = slot.fault? others
  read {fields others : Fields} (same : ∀ key ∈ shape.keys, Entries.get? fields key = Entries.get? others key) :
    shape.read fields = shape.read others

/-- A field that no slot is for is not looked at, and slots that find the same faults find the same among the fields
that there are slots for. -/
theorem findSome?_faultAt?_only {slots : List Slot} {others : Fields} {keys : List String}
    (same : ∀ slot ∈ slots, slot.fault? others = slot.fault? fields) (named : ∀ slot ∈ slots, slot.key ∈ keys)
    (given : Fields) :
    (given.only keys).findSome? (faultAt? slots others) = given.findSome? (faultAt? slots fields) := by
  have alike : faultAt? slots others = faultAt? slots fields := by
    funext field
    induction slots with
    | nil => rfl
    | cons slot slots ih =>
      have later := ih (fun slot member => same slot (List.mem_cons_of_mem _ member))
        fun slot member => named slot (List.mem_cons_of_mem _ member)
      simp only [faultAt?, List.findSome?_cons, same slot List.mem_cons_self] at later ⊢
      rw [later]
  rw [alike]
  induction given with
  | nil => rfl
  | cons field given ih =>
    by_cases wanted : field.1 ∈ keys
    · rw [Entries.only, List.filter_cons_of_pos (by simpa using wanted), List.findSome?_cons, List.findSome?_cons]
      rw [← Entries.only, ih]
    · have faultless : faultAt? slots fields field = none :=
        List.findSome?_eq_none_iff.mpr fun slot member =>
          if_neg fun own : slot.key = field.1 => wanted (own ▸ named slot member)
      rw [Entries.only, List.filter_cons_of_neg (by simpa using wanted), List.findSome?_cons, faultless]
      exact ih

namespace Local

/-- Fields that a shape does not name have no influence on what it reads. -/
theorem ofFields_only (isLocal : shape.Local) {keys : List String} (named : ∀ key ∈ shape.keys, key ∈ keys)
    (fields : Fields) : shape.ofFields (fields.only keys) = shape.ofFields fields := by
  have same : ∀ key ∈ shape.keys, Entries.get? (fields.only keys) key = Entries.get? fields key :=
    fun key member => Entries.get?_only (named key member)
  have slotsNamed : ∀ slot ∈ shape.slots, slot.key ∈ keys :=
    fun slot member => named slot.key (List.mem_map_of_mem member)
  rw [Shape.ofFields, findSome?_faultAt?_only (isLocal.fault same) slotsNamed, isLocal.read same, Shape.ofFields]

theorem map (f : α → β) (isLocal : shape.Local) : (f <$> shape).Local where
  fault same := isLocal.fault same
  read same := by
    change (do let g ← Except.ok f; let b ← shape.read _; return g b) = do
      let g ← Except.ok f; let b ← shape.read _; return g b
    rw [isLocal.read same]

theorem seq {functions : Shape (α → β)} (first : functions.Local) (second : shape.Local) :
    (functions <*> shape).Local where
  fault same slot wanted := by
    have keys : (functions <*> shape).keys = functions.keys ++ shape.keys := List.map_append
    rw [keys, List.forall_mem_append] at same
    exact (List.mem_append.mp wanted).elim (first.fault same.1 slot) (second.fault same.2 slot)
  read same := by
    have keys : (functions <*> shape).keys = functions.keys ++ shape.keys := List.map_append
    rw [keys, List.forall_mem_append] at same
    change (do let g ← functions.read _; let b ← shape.read _; return g b) = do
      let g ← functions.read _; let b ← shape.read _; return g b
    rw [first.read same.1, second.read same.2]

theorem required (key : String) (read : Json → Except Mismatch α) : (required key read).Local where
  fault _ slot wanted := by
    cases List.mem_singleton.mp wanted
    rfl
  read same := by simp only [Shape.required, same key List.mem_cons_self]

theorem optional (key : String) (read : Json → Except Mismatch α) (otherwise : α) :
    (optional key read otherwise).Local where
  fault _ slot wanted := by
    cases List.mem_singleton.mp wanted
    rfl
  read same := by simp only [Shape.optional, same key List.mem_cons_self]

theorem maybe (key : String) (read : Json → Except Mismatch α) : (maybe key read).Local := optional ..

theorem eitherKey (key other : String) (read : Json → Except Mismatch α) : (eitherKey key other read).Local where
  fault same slot wanted := by
    rcases List.mem_pair.mp wanted with rfl | rfl
    · rfl
    · have given : Entries.has _ key = Entries.has _ key := congrArg Option.isSome (same key List.mem_cons_self)
      exact congrArg (fun given value => if given = true then some (.duplicateField key) else faultOf read value) given
  read same := by
    simp only [Shape.eitherKey, same key List.mem_cons_self, same other (List.mem_cons_of_mem _ List.mem_cons_self)]

end Local

end Shape

end SafeMigration.Json
