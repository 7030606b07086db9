import RecordSync.Change.Payload
import RecordSync.Proofs.DateText
import RecordSync.Record.Mapping
import RecordSync.Store.Column

/-! What the feed can say lies within the calendar: the instants of a payload
that is read, and the dates that they stand for. -/

namespace RecordSync

open RecordSync.Calendar RecordSync.Change RecordSync.Record RecordSync.Store RecordSync.Text

theorem bind_eq_ok_iff {ε α β : Type} {first : Except ε α} {next : α → Except ε β} {value : β} :
    first >>= next = .ok value ↔ ∃ middle, first = .ok middle ∧ next middle = .ok value := by
  cases first with
  | error fault => exact ⟨nofun, fun ⟨_, same, _⟩ => nomatch same⟩
  | ok middle =>
    refine ⟨fun same => ⟨middle, rfl, same⟩, ?_⟩
    rintro ⟨_, same, rest⟩
    cases same
    exact rest

theorem map_eq_ok_iff {ε α β : Type} {first : Except ε α} {change : α → β} {value : β} :
    first.map change = .ok value ↔ ∃ middle, first = .ok middle ∧ change middle = value := by
  cases first <;> simp [Except.map]

theorem bind_eq_error_iff {ε α β : Type} {first : Except ε α} {next : α → Except ε β} {fault : ε} :
    first >>= next = .error fault ↔
      first = .error fault ∨ ∃ middle, first = .ok middle ∧ next middle = .error fault := by
  cases first with
  | error other =>
    constructor
    · rintro ⟨⟩
      exact .inl rfl
    · rintro (same | ⟨_, same, _⟩)
      · cases same
        rfl
      · cases same
  | ok middle =>
    refine ⟨fun refused => .inr ⟨middle, rfl, refused⟩, ?_⟩
    rintro (same | ⟨_, same, refused⟩)
    · cases same
    · cases same
      exact refused

theorem map_eq_error_iff {ε α β : Type} {first : Except ε α} {change : α → β} {fault : ε} :
    first.map change = .error fault ↔ first = .error fault := by
  cases first <;> simp [Except.map]

namespace Calendar

theorem Instant.lt_iff {left right : Instant} : left < right ↔
    left.second < right.second ∨ left.second = right.second ∧ left.nano < right.nano := by
  simp [show left < right ↔ left.before right = true from Iff.rfl, before]

def Instant.Kept (instant : Instant) : Prop :=
  firstMillis ≤ instant.millis ∧ instant.millis ≤ lastMillis

theorem Instant.kept_iff {instant : Instant} : instant.Kept ↔
    -8334601228800000 ≤ instant.millis ∧ instant.millis ≤ 8210266876799999 := Iff.rfl

/-- Instants of years with four digits, and of the days beside them. -/
def Instant.FourDigit (instant : Instant) : Prop :=
  -69120100000 ≤ instant.second ∧ instant.second ≤ 259200200000

theorem Instant.FourDigit.kept {instant : Instant} (inside : instant.FourDigit) :
    instant.Kept := by
  have := instant.nano_lt
  rw [kept_iff]
  unfold FourDigit at inside
  simp only [millis]
  omega

theorem Instant.FourDigit.nearestDate {instant : Instant} (inside : instant.FourDigit) :
    (nearestDate instant).Kept := by
  rw [Date.kept_iff]
  unfold FourDigit at inside
  unfold Record.nearestDate addSeconds date
  split
  · simp only
    omega
  · simp only [show (0 : Int) < 43200 by omega, ↓reduceIte]
    omega

/-- The date of a midnight is the date itself. -/
theorem nearestDate_midnight (date : Date) : nearestDate (Instant.midnight date) = date := by
  cases date
  simp only [nearestDate, Instant.midnight, Instant.addSeconds, Instant.date]
  simp
  omega

/-- An offset is less than a day. -/
theorem readOffset_bounds {chars : List Char} {offset : Int}
    (read : readOffset chars = some offset) : -86400 < offset ∧ offset < 86400 := by
  have clock {direction : Int} (unit : direction = 1 ∨ direction = -1) {h k m n : Char}
      (read : ((twoDigits? h k).bind fun hours => (twoDigits? m n).bind fun minutes =>
        if hours ≤ 23 ∧ minutes ≤ 59 then some (direction * (hours * 3600 + minutes * 60) : Int)
        else none) = some offset) : -86400 < offset ∧ offset < 86400 := by
    simp only [Option.bind_eq_some_iff, Option.ite_none_right_eq_some, Option.some.injEq] at read
    obtain ⟨hours, _, minutes, _, small, rfl⟩ := read
    rcases unit with rfl | rfl <;> omega
  unfold readOffset at read
  split at read
  · cases read
    omega
  · cases read
    omega
  · split at read
    · exact clock (.inl rfl) read
    · split at read
      · exact clock (.inr rfl) read
      · cases read
  · cases read

/-- A time of day, whatever its offset, is not far from its date. -/
theorem readTimeOn_bounds {date : Date} {chars : List Char} {instant : Instant}
    (read : readTimeOn date chars = some instant) :
    date.day * 86400 - 86400 ≤ instant.second ∧ instant.second ≤ date.day * 86400 + 172800 := by
  unfold readTimeOn at read
  split at read
  · simp only [bind, Option.bind_eq_some_iff, Option.ite_none_right_eq_some,
      Option.dite_none_right_eq_some, Option.some.injEq] at read
    obtain ⟨hour, _, minute, _, second, _, ⟨nano, offset⟩, tail, small, _, rfl⟩ := read
    have offsetBounds : -86400 < offset ∧ offset < 86400 := by
      unfold readTail at tail
      split at tail
      · simp only [bind, Option.bind_eq_some_iff] at tail
        obtain ⟨_, _, _, offsetRead, same⟩ := tail
        cases same
        exact readOffset_bounds offsetRead
      · obtain ⟨_, offsetRead, same⟩ := Option.map_eq_some_iff.mp tail
        cases same
        exact readOffset_bounds offsetRead
    simp only at small ⊢
    omega
  · cases read

theorem twoDigits_le {tens ones : Char} {value : Nat} (read : twoDigits? tens ones = some value) :
    value ≤ 99 := by
  have single {c : Char} {digit : Nat} (read : digit? c = some digit) : digit ≤ 9 := by
    simp only [digit?, Option.ite_none_right_eq_some, Option.some.injEq, Char.isDigit,
      Bool.and_eq_true, decide_eq_true_eq, ge_iff_le, UInt32.le_iff_toNat_le] at read
    obtain ⟨⟨_, high⟩, rfl⟩ := read
    have high : c.toNat ≤ 57 := high
    simp only [show '0'.toNat = 48 from rfl]
    omega
  simp only [twoDigits?, bind, Option.bind_eq_some_iff] at read
  obtain ⟨_, tensRead, _, onesRead, same⟩ := read
  cases same
  have := single tensRead
  have := single onesRead
  omega

theorem Instant.ofTimestamp?_fourDigit {text : String} {instant : Instant}
    (read : Instant.ofTimestamp? text = some instant) : instant.FourDigit := by
  unfold ofTimestamp? at read
  split at read
  · simp only [bind, Option.bind_eq_some_iff, Option.ite_none_right_eq_some] at read
    obtain ⟨century, hundreds, year, years, month, _, day, _, date, named, _, time⟩ := read
    have := twoDigits_le hundreds
    have := twoDigits_le years
    have near := readTimeOn_bounds time
    simp only [Civil.date?, Option.ite_none_right_eq_some, Bool.and_eq_true] at named
    obtain ⟨⟨⟨real, _⟩, _⟩, same⟩ := named
    cases same
    have inside := Civil.day_bounds_of_isReal real (by simp only; omega) (by simp only; omega)
    unfold FourDigit
    omega
  · cases read

theorem Date.ofText?_kept {text : String} {date : Date} (read : Date.ofText? text = some date) :
    date.Kept := by
  unfold ofText? at read
  split at read
  · rename_i found dated
    cases read
    unfold Date.read at dated
    simp only [bind_eq_ok_iff] at dated
    obtain ⟨⟨year, _⟩, _, _, _, ⟨month, _⟩, _, _, _, ⟨day, rest⟩, _, dated⟩ := dated
    split at dated
    · cases dated
    · split at dated
      · rename_i named
        cases dated
        simp only [Civil.date?, Option.ite_none_right_eq_some, Bool.and_eq_true,
          decide_eq_true_eq] at named
        obtain ⟨⟨⟨real, low⟩, high⟩, same⟩ := named
        cases same
        exact Civil.kept_of_isReal real low high
      · cases dated
  · cases read

theorem Instant.nearestDate_kept {text : String} {instant : Instant}
    (read : Instant.ofTimestampOrDate? text = some instant) : (nearestDate instant).Kept := by
  unfold ofTimestampOrDate? at read
  rcases Option.or_eq_some_iff.mp read with stamp | ⟨_, plain⟩
  · exact (ofTimestamp?_fourDigit stamp).nearestDate
  · obtain ⟨date, dated, rfl⟩ := Option.map_eq_some_iff.mp plain
    rw [nearestDate_midnight]
    exact Date.ofText?_kept dated

end Calendar

namespace Record

theorem present_eq_ok_iff {α : Type} {field : String} {value : Option α} {found : α} :
    present field value = .ok found ↔ value = some found := by
  cases value <;> simp [present]

/-- What a person has from the details of a contact. -/
structure ContactDetails.Gives (details : ContactDetails) (person : Person) : Prop where
  trn : checkTrn (cleaned details.trn) = .ok person.trn
  firstName : resolveName details.statedFirstName details.firstName = some person.firstName
  middleName : resolveName details.statedMiddleName details.middleName = person.middleName
  lastName : resolveName details.statedLastName details.lastName = some person.lastName
  dateOfBirth : details.birthDate.map nearestDate = person.dateOfBirth
  emailAddress : cleaned details.emailAddress = person.emailAddress
  nationalInsuranceNumber :
    (cleaned details.nationalInsuranceNumber).map upper = person.nationalInsuranceNumber
  mergedInto : cleaned details.mergedInto = person.mergedIntoExternalId

theorem ContactDetails.person_eq_ok_iff {details : ContactDetails} {person : Person} :
    details.person = .ok person ↔ details.Gives person := by
  simp only [ContactDetails.person, bind_eq_ok_iff, present_eq_ok_iff]
  constructor
  · rintro ⟨_, firstName, _, lastName, _, trn, same⟩
    cases same
    exact ⟨trn, firstName, rfl, lastName, rfl, rfl, rfl, rfl⟩
  · rintro ⟨trn, firstName, middleName, lastName, born, email, number, merged⟩
    refine ⟨_, firstName, _, lastName, _, trn, ?_⟩
    rw [middleName, born, email, number, merged]
    rfl

/-- What an induction has from its details. -/
structure InductionDetails.Gives (details : InductionDetails) (induction : Induction) : Prop where
  personExternalId : clean details.personExternalId = some induction.personExternalId
  status : ∃ code, details.statusCode = some code ∧
    InductionStatus.ofCode code = .ok induction.status
  startDate : details.startDate.map nearestDate = induction.startDate
  completionDate : details.completionDate.map nearestDate = induction.completionDate
  inOrder : checkOrder induction.startDate induction.completionDate = .ok ()

theorem InductionDetails.induction_eq_ok_iff {details : InductionDetails} {induction : Induction} :
    details.induction = .ok induction ↔ details.Gives induction := by
  simp only [InductionDetails.induction, bind_eq_ok_iff, present_eq_ok_iff]
  constructor
  · rintro ⟨_, person, code, given, _, status, _, order, same⟩
    cases same
    exact ⟨person, ⟨code, given, status⟩, rfl, rfl, order⟩
  · rintro ⟨person, ⟨code, given, status⟩, started, completed, order⟩
    refine ⟨_, person, code, given, _, status, (), ?_⟩
    rw [started, completed]
    exact ⟨order, rfl⟩

/-- All dates of a snapshot lie within the calendar. -/
def Details.Dated : Details → Prop
  | .contact details => ∀ instant ∈ details.birthDate, (nearestDate instant).Kept
  | .induction details => (∀ instant ∈ details.startDate, (nearestDate instant).Kept) ∧
      ∀ instant ∈ details.completionDate, (nearestDate instant).Kept

def Content.Kept : Content → Prop
  | .person details => ∀ date ∈ details.dateOfBirth, date.Kept
  | .induction details => (∀ date ∈ details.startDate, date.Kept) ∧
      ∀ date ∈ details.completionDate, date.Kept

/-- Content is about the entity of its snapshot, and as well dated. -/
theorem Details.content_spec {details : Details} {content : Content}
    (mapped : details.content = .ok content) :
    content.entity = details.entity ∧ (details.Dated → content.Kept) := by
  cases details with
  | contact details =>
    obtain ⟨person, named, rfl⟩ := map_eq_ok_iff.mp mapped
    refine ⟨rfl, fun dated => ?_⟩
    have gives := ContactDetails.person_eq_ok_iff.mp named
    simpa [Content.Kept, Details.Dated, ← gives.dateOfBirth] using dated
  | induction details =>
    obtain ⟨induction, named, rfl⟩ := map_eq_ok_iff.mp mapped
    refine ⟨rfl, fun dated => ?_⟩
    have gives := InductionDetails.induction_eq_ok_iff.mp named
    simpa [Content.Kept, Details.Dated, ← gives.startDate, ← gives.completionDate] using dated

theorem Snapshot.mapped_eq_ok_iff {snapshot : Snapshot} {mapped : Mapped} :
    snapshot.mapped = .ok mapped ↔ RecordState.ofCode snapshot.origin.stateCode = .ok mapped.state ∧
      snapshot.details.content = .ok mapped.content := by
  simp only [Snapshot.mapped, bind_eq_ok_iff]
  constructor
  · rintro ⟨state, named, content, translated, same⟩
    cases same
    exact ⟨named, translated⟩
  · intro held
    exact ⟨_, held.1, _, held.2, rfl⟩

theorem Snapshot.mapped_spec {snapshot : Snapshot} {mapped : Mapped}
    (found : snapshot.mapped = .ok mapped) :
    mapped.content.entity = snapshot.entity ∧ (snapshot.details.Dated → mapped.content.Kept) := by
  exact Details.content_spec (mapped_eq_ok_iff.mp found).2

structure Snapshot.Kept (snapshot : Snapshot) : Prop where
  createdOn : snapshot.origin.createdOn.Kept
  modifiedOn : snapshot.origin.modifiedOn.Kept
  dated : snapshot.details.Dated

end Record

namespace Change

theorem optionalDate_dated {members : Members} {field : String} {found : Option Instant}
    (read : optionalDate members field = .ok found) :
    ∀ instant ∈ found, (nearestDate instant).Kept := by
  simp only [optionalDate, bind_eq_ok_iff] at read
  obtain ⟨text, _, read⟩ := read
  split at read
  · cases read
    simp
  · split at read
    · rename_i dated
      cases read
      rintro _ ⟨⟩
      exact Instant.nearestDate_kept dated
    · cases read

theorem requiredTimestamp_kept {members : Members} {field : String} {instant : Instant}
    (read : requiredTimestamp members field = .ok instant) : instant.Kept := by
  simp only [requiredTimestamp, bind_eq_ok_iff] at read
  obtain ⟨text, _, read⟩ := read
  split at read
  · rename_i stamp
    cases read
    exact (Instant.ofTimestamp?_fourDigit stamp).kept
  · cases read

theorem contactDetails_dated {attributes : Members} {details : ContactDetails}
    (read : contactDetails attributes = .ok details) : Details.Dated (.contact details) := by
  simp only [contactDetails, bind_eq_ok_iff] at read
  obtain ⟨_, _, _, _, _, _, _, _, _, _, _, _, _, _, _, dated, _, _, _, _, _, _, same⟩ := read
  cases same
  exact optionalDate_dated dated

theorem inductionDetails_dated {attributes : Members} {details : InductionDetails}
    (read : inductionDetails attributes = .ok details) : Details.Dated (.induction details) := by
  simp only [inductionDetails, bind_eq_ok_iff] at read
  obtain ⟨_, _, _, _, _, started, _, completed, same⟩ := read
  cases same
  exact ⟨optionalDate_dated started, optionalDate_dated completed⟩

/-- A snapshot that is read is about the entity of the feed. -/
theorem readSnapshot_spec {entity : Entity} {externalId : String} {members : Members}
    {snapshot : Snapshot} (read : readSnapshot entity externalId members = .ok snapshot) :
    snapshot.entity = entity ∧ snapshot.Kept := by
  simp only [readSnapshot, bind_eq_ok_iff] at read
  obtain ⟨_, created, _, modified, _, _, attributes, _, read⟩ := read
  have createdOn := requiredTimestamp_kept created
  have modifiedOn := requiredTimestamp_kept modified
  cases entity with
  | contact =>
    obtain ⟨_, detailed, same⟩ := bind_eq_ok_iff.mp read
    cases same
    obtain ⟨_, named, rfl⟩ := map_eq_ok_iff.mp detailed
    exact ⟨rfl, createdOn, modifiedOn, contactDetails_dated named⟩
  | induction =>
    obtain ⟨_, detailed, same⟩ := bind_eq_ok_iff.mp read
    cases same
    obtain ⟨_, named, rfl⟩ := map_eq_ok_iff.mp detailed
    exact ⟨rfl, createdOn, modifiedOn, inductionDetails_dated named⟩

/-- A change that a payload of a feed can report. -/
def Within (entity : Entity) : Change → Prop
  | .upserted snapshot => snapshot.entity = entity ∧ snapshot.Kept
  | .removed other _ => other = entity
  | .invalid .. => True

/-- Whether a change decides what becomes of a row: a snapshot that can become a
row, or a removal. -/
def decides (change : Change) (entity : Entity) (externalId : String) : Bool :=
  match change with
  | .upserted snapshot => snapshot.entity == entity && snapshot.externalId == externalId &&
      snapshot.mapped.toOption.isSome
  | .removed about id => about == entity && id == externalId
  | .invalid .. => false

theorem Within.target {change : Change} {entity about : Entity} {externalId : String}
    (within : change.Within entity) (target : change.target? = some (about, externalId)) :
    about = entity := by
  cases change with
  | upserted snapshot =>
    cases target
    exact within.1
  | removed _ _ =>
    cases target
    exact within
  | invalid _ _ _ => cases target

/-- A change decides on rows of its own entity only. -/
theorem Within.eq_of_decides {change : Change} {entity about : Entity} {externalId : String}
    (within : change.Within about) (decides : change.decides entity externalId = true) :
    entity = about := by
  cases change with
  | upserted snapshot =>
    simp only [Change.decides, Bool.and_eq_true, beq_iff_eq] at decides
    exact decides.1.1.symm.trans within.1
  | removed _ _ =>
    simp only [Change.decides, Bool.and_eq_true, beq_iff_eq] at decides
    exact decides.1.symm.trans within
  | invalid _ _ _ => cases decides

/-- A snapshot that becomes a row decides on it. -/
theorem decides_self {snapshot : Snapshot} {mapped : Mapped}
    (found : snapshot.mapped = .ok mapped) :
    (Change.upserted snapshot).decides snapshot.entity snapshot.externalId = true := by
  simp [Change.decides, found, Except.toOption]

/-- A change that decides on a row is about that row. -/
theorem target?_of_decides {change : Change} {entity : Entity} {externalId : String}
    (decides : change.decides entity externalId = true) :
    change.target? = some (entity, externalId) := by
  cases change with
  | upserted snapshot =>
    simp only [Change.decides, Bool.and_eq_true, beq_iff_eq] at decides
    obtain ⟨⟨rfl, rfl⟩, _⟩ := decides
    rfl
  | removed about id =>
    simp only [Change.decides, Bool.and_eq_true, beq_iff_eq] at decides
    obtain ⟨rfl, rfl⟩ := decides
    rfl
  | invalid name id fault => cases decides

theorem decides_of_target_ne {change : Change} {entity about : Entity}
    {externalId other : String} (target : change.target? = some (entity, externalId))
    (different : other ≠ externalId) : change.decides about other = false := by
  cases change with
  | upserted snapshot =>
    cases target
    simp [Change.decides, different.symm]
  | removed _ _ =>
    cases target
    simp [Change.decides, different.symm]
  | invalid _ _ _ => rfl

theorem readMembers_within {entity : Entity} {members : Members} {change : Change}
    (read : readMembers entity members = .ok change) : change.Within entity := by
  simp only [readMembers, bind_eq_ok_iff] at read
  obtain ⟨_, _, _, _, read⟩ := read
  split at read
  · obtain ⟨_, found, rfl⟩ := map_eq_ok_iff.mp read
    exact readSnapshot_spec found
  · obtain ⟨_, found, rfl⟩ := map_eq_ok_iff.mp read
    exact readSnapshot_spec found
  · cases read
    rfl
  · cases read

/-- A change is only read from an object delivered for an entity that there is. -/
theorem readValue_eq_ok {delivery : Delivery} {parsed : Except Json.Malformed Json.Value}
    {change : Change} (read : readValue delivery parsed = .ok change) : ∃ entity members,
      Entity.ofName delivery.entityName = .ok entity ∧ parsed = .ok (.object members) ∧
        readMembers entity members = .ok change := by
  unfold readValue at read
  cases named : Entity.ofName delivery.entityName with
  | error unknown =>
    rw [named] at read
    cases read
  | ok entity =>
    rw [named] at read
    cases parsed with
    | error cause => cases read
    | ok value =>
      cases value with
      | object members => exact ⟨entity, members, rfl, rfl, read⟩
      | _ => cases read

theorem readValue_within {delivery : Delivery} {parsed : Except Json.Malformed Json.Value}
    {change : Change} (read : readValue delivery parsed = .ok change) :
    ∃ entity, Entity.ofName delivery.entityName = .ok entity ∧ change.Within entity := by
  obtain ⟨entity, _, named, _, read⟩ := readValue_eq_ok read
  exact ⟨entity, named, readMembers_within read⟩

/-- Whatever is delivered, what it reports lies within the calendar, and what is
delivered for an entity is about that entity. -/
theorem decode_within (delivery : Delivery) : ∃ entity, (decode delivery).Within entity ∧
    ∀ other, Entity.ofName delivery.entityName = .ok other → entity = other := by
  have invalid (externalId : Option String) (fault : PayloadFault) :
      ∃ entity, (Change.invalid delivery.entityName externalId fault).Within entity ∧
        ∀ other, Entity.ofName delivery.entityName = .ok other → entity = other := by
    cases named : Entity.ofName delivery.entityName with
    | error unknown => exact ⟨default, trivial, nofun⟩
    | ok entity => exact ⟨entity, trivial, fun other same => by cases same; rfl⟩
  unfold decode
  cases delivery.unreadable with
  | some fault => exact invalid _ _
  | none =>
    generalize Json.Value.ofText delivery.payload = parsed
    dsimp only
    cases read : readValue delivery parsed with
    | error fault => exact invalid _ _
    | ok change =>
      obtain ⟨entity, named, within⟩ := readValue_within read
      refine ⟨entity, within, fun other same => ?_⟩
      rw [named] at same
      cases same
      rfl

theorem kept_of_decode {delivery : Delivery} {snapshot : Snapshot}
    (decoded : decode delivery = .upserted snapshot) : snapshot.Kept := by
  obtain ⟨_, within, _⟩ := decode_within delivery
  rw [decoded] at within
  exact within.2

end Change

namespace Store

theorem readDate_text {date : Option Date} (kept : ∀ found ∈ date, found.Kept) (place : Nat) :
    readDate place (date.map Date.text) = .ok date := by
  cases date with
  | none => rfl
  | some date => simp [readDate, Date.read_text (kept date rfl)]

theorem readStatus_name (place : Nat) (status : InductionStatus) :
    readStatus place status.name = .ok status := by
  cases status <;> rfl

/-- Content within the calendar is read as it was stored. -/
theorem contentColumns_read {content : Content} (kept : content.Kept) :
    (contentColumns content).read = .ok content := by
  cases content with
  | person details =>
    simp [contentColumns, ContentColumns.read, personColumns, readDate_text kept, bind, Except.bind,
      pure, Except.pure]
  | induction details =>
    simp [contentColumns, ContentColumns.read, inductionColumns, readStatus_name,
      readDate_text kept.1, readDate_text kept.2, bind, Except.bind, pure, Except.pure]

theorem readInstant_cell {instant : Instant} (kept : instant.Kept) (place : Nat) (name : String) :
    readInstant place name (instantCell instant) = .ok (.ofMillis instant.millis) := by
  have within : firstMillis ≤ instant.millis ∧ instant.millis ≤ lastMillis := kept
  simp only [readInstant, instantCell, within, and_self, ↓reduceIte]

/-- An instant is read from the count of its milliseconds. -/
theorem readInstant_spec {place : Nat} {name : String} {cell : NumberCell} {instant : Instant}
    (read : readInstant place name cell = .ok instant) :
    ∃ millis, cell = .integer millis ∧ instant = .ofMillis millis := by
  unfold readInstant at read
  split at read
  · rename_i millis
    split at read
    · cases read
      exact ⟨millis, rfl, rfl⟩
    · cases read
  · cases read

/-- What a stored row is read as: its ids, its fingerprint and its content stay. -/
theorem StoredRow.read_spec {stored : StoredRow} {row : Row} (read : stored.read = .ok row) :
    row.id = some stored.id ∧ row.externalId = stored.externalId ∧
      row.fingerprint = stored.fingerprint := by
  simp only [StoredRow.read, bind_eq_ok_iff] at read
  obtain ⟨_, _, _, _, _, _, _, _, _, _, same⟩ := read
  cases same
  exact ⟨rfl, rfl, rfl⟩

/-- What comes from the source is read column by column. -/
theorem StoredRow.read_source {stored : StoredRow} {row : Row} (read : stored.read = .ok row) :
    stored.content.read = .ok row.content ∧ row.state = stored.state ∧
      (∃ millis, stored.createdOn = .integer millis ∧ row.createdOn = .ofMillis millis) ∧
      ∃ millis, stored.modifiedOn = .integer millis ∧ row.modifiedOn = .ofMillis millis := by
  simp only [StoredRow.read, bind_eq_ok_iff] at read
  obtain ⟨_, content, _, created, _, modified, _, _, _, _, same⟩ := read
  cases same
  exact ⟨content, rfl, readInstant_spec created, readInstant_spec modified⟩

theorem StoredRow.read_lastSyncedAt {stored : StoredRow} {row : Row}
    (read : stored.read = .ok row) :
    ∃ millis, stored.lastSyncedAt = .integer millis ∧ row.lastSyncedAt = .ofMillis millis := by
  simp only [StoredRow.read, bind_eq_ok_iff] at read
  obtain ⟨_, _, _, _, _, _, _, _, _, last, same⟩ := read
  cases same
  exact readInstant_spec last

end Store

end RecordSync
