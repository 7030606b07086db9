import RecordSync.Text.Blank

/-! The kinds of record that are kept, and values held once for each kind. -/

namespace RecordSync.Record

open RecordSync.Text

/-- A teacher, or a teacher's induction. -/
inductive Entity where
  | contact
  | induction
  deriving DecidableEq, Repr, Inhabited

/-- Every kind, in the order of a full run: persons before what refers to them. -/
def Entity.all : List Entity := [.contact, .induction]

def Entity.name : Entity → String
  | .contact => "contact"
  | .induction => "induction"

theorem Entity.eq_of_name_eq {one other : Entity} (same : one.name = other.name) :
    one = other := by
  cases one <;> cases other <;> first | rfl | exact absurd same (by decide)

/-- Of two kinds there is no third. -/
theorem Entity.eq_or_eq {one other : Entity} (different : other ≠ one) (entity : Entity) :
    entity = one ∨ entity = other := by
  cases one <;> cases other <;> cases entity <;> simp_all

/-- The table that holds the rows of a kind. -/
def Entity.table : Entity → String
  | .contact => "persons"
  | .induction => "inductions"

/-- A text that is no name of what it should name. -/
structure UnknownName where
  noun : String
  text : String
  deriving DecidableEq, Repr

def UnknownName.message (unknown : UnknownName) : String :=
  "Unknown " ++ unknown.noun ++ ": " ++ unknown.text

/-- The kind with a name, whatever its case and the blanks around it. -/
def Entity.ofName (text : String) : Except UnknownName Entity :=
  let plain := lower (trim text)
  match Entity.all.find? (·.name == plain) with
  | some entity => .ok entity
  | none => .error ⟨"entity type", plain⟩

/-- One value for each kind. -/
structure PerEntity (α : Type) where
  contact : α
  induction : α
  deriving DecidableEq, Repr, Inhabited

namespace PerEntity

variable {α : Type}

def both (value : α) : PerEntity α := ⟨value, value⟩

def get (values : PerEntity α) : Entity → α
  | .contact => values.contact
  | .induction => values.induction

def set (values : PerEntity α) (entity : Entity) (value : α) : PerEntity α :=
  match entity with
  | .contact => { values with contact := value }
  | .induction => { values with induction := value }

def update (values : PerEntity α) (entity : Entity) (change : α → α) : PerEntity α :=
  values.set entity (change (values.get entity))

theorem ext_get {values others : PerEntity α}
    (same : ∀ entity, others.get entity = values.get entity) : others = values := by
  cases values
  cases others
  exact congr (congrArg mk (same .contact)) (same .induction)

@[simp] theorem get_both (value : α) (entity : Entity) : (both value).get entity = value := by
  cases entity <;> rfl

@[simp] theorem get_set_same (values : PerEntity α) (entity : Entity) (value : α) :
    (values.set entity value).get entity = value := by
  cases entity <;> rfl

theorem get_set_of_ne (values : PerEntity α) {entity other : Entity} (value : α)
    (different : other ≠ entity) : (values.set entity value).get other = values.get other := by
  cases entity <;> cases other <;> first | rfl | exact absurd rfl different

@[simp] theorem set_set (values : PerEntity α) (entity : Entity) (value later : α) :
    (values.set entity value).set entity later = values.set entity later := by
  cases entity <;> rfl

end PerEntity

end RecordSync.Record
