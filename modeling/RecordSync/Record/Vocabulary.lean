import RecordSync.Record.Entity

/-! The store's words for the state of a record and the status of an induction,
with the codes that the source uses for them. -/

namespace RecordSync.Record

/-- The state of a record in the source. A merged record is superseded by
another one and is kept as it is. -/
inductive RecordState where
  | active
  | inactive
  | merged
  deriving DecidableEq, Repr, Inhabited

namespace RecordState

def all : List RecordState := [.active, .inactive, .merged]

def name : RecordState → String
  | .active => "active"
  | .inactive => "inactive"
  | .merged => "merged"

def ofName (text : String) : Except UnknownName RecordState :=
  match all.find? (·.name == text) with
  | some state => .ok state
  | none => .error ⟨"source state", text⟩

def code : RecordState → Int
  | .active => 0
  | .inactive => 1
  | .merged => 2

def ofCode? (code : Int) : Option RecordState :=
  all.find? (·.code == code)

end RecordState

/-- How an induction stands. -/
inductive InductionStatus where
  | exempt
  | fail
  | failedInWales
  | inductionExtended
  | inProgress
  | notYetCompleted
  | pass
  | passedInWales
  | requiredToComplete
  deriving DecidableEq, Repr, Inhabited

namespace InductionStatus

def all : List InductionStatus :=
  [.exempt, .fail, .failedInWales, .inductionExtended, .inProgress, .notYetCompleted, .pass,
    .passedInWales, .requiredToComplete]

def name : InductionStatus → String
  | .exempt => "exempt"
  | .fail => "fail"
  | .failedInWales => "failed_in_wales"
  | .inductionExtended => "induction_extended"
  | .inProgress => "in_progress"
  | .notYetCompleted => "not_yet_completed"
  | .pass => "pass"
  | .passedInWales => "passed_in_wales"
  | .requiredToComplete => "required_to_complete"

def ofName (text : String) : Except UnknownName InductionStatus :=
  match all.find? (·.name == text) with
  | some status => .ok status
  | none => .error ⟨"induction status", text⟩

/-- The first of the codes that the source gives to statuses. -/
def firstCode : Int := 389040000

def code (status : InductionStatus) : Int :=
  firstCode + all.idxOf status

def ofCode? (code : Int) : Option InductionStatus :=
  all.find? (·.code == code)

end InductionStatus

end RecordSync.Record
