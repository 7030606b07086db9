import Mathlib.Data.List.ReduceOption
import RecordSync.Proofs.PayloadGrammar

/-! Dates are recovered as they were meant. The source keeps a date as local
midnight, so that its instant lies some hours beside the midnight of universal
time; the date whose midnight is nearest is the one that was written. -/

namespace RecordSync

open RecordSync.Calendar RecordSync.Change RecordSync.Json RecordSync.Record RecordSync.Text

namespace Calendar

/-- An instant later by a number of seconds, as long as its date is kept. -/
def Instant.addSeconds? (instant : Instant) (seconds : Int) : Option Instant :=
  let moved := instant.addSeconds seconds
  if Date.first ≤ moved.date ∧ moved.date ≤ Date.last then some moved else none

/-- The twelve hours before the midnight of a date and those from it on. -/
def Instant.Around (instant : Instant) (date : Date) : Prop :=
  ¬ instant < (midnight date).addSeconds (-43200) ∧ instant < (midnight date).addSeconds 43200

/-- A timestamp of midnight on a date at an offset from universal time. -/
inductive LocalMidnight : List Char → Date → Int → Prop where
  | stamp {dated timed shifted : List Char} {mark : Char} {date : Date} {offset : Int}
      (d : FullDate dated date) (mark_eq : mark = 'T' ∨ mark = 't' ∨ mark = ' ')
      (t : TimeOfDay timed 0 0) (o : Offset shifted offset) :
      LocalMidnight (dated ++ mark :: timed ++ shifted) date offset

/-- How the source writes a date: bare, or as midnight of a zone that is less than
twelve hours behind universal time and at most twelve ahead of it. -/
inductive DateText (chars : List Char) (date : Date) : Prop where
  | bare (dated : BareDate chars date)
  | zoned {offset : Int} (stamp : LocalMidnight chars date offset) (west : -43200 < offset)
      (east : offset ≤ 43200)

/-- Twelve hours on, the count of seconds has grown by them; the extra second of a
leap second is only lost among the nanoseconds. -/
theorem Instant.second_addSeconds {instant : Instant} {seconds : Int} (forward : 0 < seconds) :
    (instant.addSeconds seconds).second = instant.second + seconds := by
  unfold addSeconds
  split
  · rfl
  · rfl

theorem nearestDate_day (instant : Instant) :
    (nearestDate instant).day = (instant.second + 43200) / 86400 := by
  rw [nearestDate, Instant.date, Instant.second_addSeconds (by decide)]

/-- An instant lies around the midnight of one date only, and that is its nearest date. -/
theorem nearestDate_eq_iff {instant : Instant} {date : Date} :
    nearestDate instant = date ↔ instant.Around date := by
  have day := nearestDate_day instant
  generalize nearestDate instant = found at day ⊢
  obtain ⟨found⟩ := found
  obtain ⟨other⟩ := date
  simp only [Instant.Around, Instant.lt_iff, Instant.midnight, Instant.addSeconds, Date.mk.injEq,
    Nat.zero_lt_succ, ↓reduceDIte] at day ⊢
  omega

/-- Midnight at an offset stays within twelve hours of midnight. -/
theorem nearestDate_localMidnight (date : Date) {offset : Int} (west : -43200 < offset)
    (east : offset ≤ 43200) :
    nearestDate ((Instant.midnight date).addSeconds (-offset)) = date := by
  rw [nearestDate_eq_iff]
  simp only [Instant.Around, Instant.lt_iff, Instant.midnight, Instant.addSeconds,
    Nat.zero_lt_succ, ↓reduceDIte]
  omega

theorem nearestDate_mono {earlier later : Instant} (inOrder : ¬ later < earlier) :
    nearestDate earlier ≤ nearestDate later := by
  rw [Instant.lt_iff] at inOrder
  change (nearestDate earlier).day ≤ (nearestDate later).day
  rw [nearestDate_day, nearestDate_day]
  omega

theorem LocalMidnight.timestamp {chars : List Char} {date : Date} {offset : Int}
    (written : LocalMidnight chars date offset) :
    Timestamp chars ((Instant.midnight date).addSeconds (-offset)) := by
  cases written with
  | stamp d mark_eq t o =>
    have stamp := Timestamp.stamp d mark_eq t o (by decide)
    simpa [Instant.midnight, Instant.addSeconds, Int.sub_eq_add_neg] using stamp

end Calendar

namespace Record

def Details.dates : Details → List (Option Instant)
  | .contact details => [details.birthDate]
  | .induction details => [details.startDate, details.completionDate]

def Content.dates : Content → List (Option Date)
  | .person details => [details.dateOfBirth]
  | .induction details => [details.startDate, details.completionDate]

def Snapshot.instants (snapshot : Snapshot) : List Instant :=
  snapshot.origin.createdOn :: snapshot.origin.modifiedOn :: snapshot.details.dates.reduceOption

theorem Details.content_dates {details : Details} {content : Content}
    (mapped : details.content = .ok content) :
    content.dates = details.dates.map (·.map nearestDate) := by
  cases details with
  | contact details =>
    obtain ⟨person, named, rfl⟩ := map_eq_ok_iff.mp mapped
    have gives := ContactDetails.person_eq_ok_iff.mp named
    simp only [Content.dates, dates, List.map_cons, List.map_nil, gives.dateOfBirth]
  | induction details =>
    obtain ⟨induction, named, rfl⟩ := map_eq_ok_iff.mp mapped
    have gives := InductionDetails.induction_eq_ok_iff.mp named
    simp only [Content.dates, dates, List.map_cons, List.map_nil, gives.startDate,
      gives.completionDate]

theorem Details.dated_iff {details : Details} :
    details.Dated ↔ ∀ instant ∈ details.dates.reduceOption, (nearestDate instant).Kept := by
  cases details <;>
    simp [Dated, dates, List.reduceOption_mem_iff, or_imp, forall_and, @eq_comm _ (some _)]

end Record

namespace Change

/-- What is delivered as a snapshot is a payload object that says so. -/
theorem snapshotOf_decode {delivery : Delivery} {snapshot : Snapshot}
    (decoded : decode delivery = .upserted snapshot) :
    ∃ members, SnapshotOf members snapshot := by
  unfold decode at decoded
  split at decoded
  · cases decoded
  · dsimp only at decoded
    split at decoded
    · rename_i change read
      cases decoded
      obtain ⟨_, members, _, _, read⟩ := readValue_eq_ok_iff.mp read
      rcases readMembers_eq_ok_iff.mp read with ⟨_, _, _, same⟩ | ⟨_, _, said, _, same⟩
      · cases same
      · cases same
        exact ⟨members, said⟩
    · cases decoded

theorem TimestampField.nearestDate {members : Members} {field : String} {instant : Instant}
    (given : TimestampField members field instant) : (nearestDate instant).Kept := by
  obtain ⟨text, _, stamp⟩ := given
  exact (Instant.ofTimestamp?_fourDigit (Instant.ofTimestamp?_eq_some_iff.mpr stamp)).nearestDate

/-- Half a day after any instant that a payload gives, the calendar has not ended. -/
theorem decoded_addSeconds {delivery : Delivery} {snapshot : Snapshot}
    (decoded : decode delivery = .upserted snapshot) :
    ∀ instant ∈ snapshot.instants,
      ∃ later, instant.addSeconds? 43200 = some later ∧ later.date = nearestDate instant := by
  obtain ⟨members, said⟩ := snapshotOf_decode decoded
  have dated := (kept_of_decode decoded).dated
  have kept : ∀ instant ∈ snapshot.instants, (nearestDate instant).Kept := by
    simp only [Snapshot.instants, List.forall_mem_cons]
    exact ⟨said.createdOn.nearestDate, said.modifiedOn.nearestDate, Details.dated_iff.mp dated⟩
  intro instant member
  exact ⟨_, if_pos (kept instant member), rfl⟩

theorem optionalDate_dateText {members : Members} {field text : String} {date : Date}
    (given : lookup? field members = some (.text text))
    (written : DateText (trim text).toList date) :
    ∃ instant, optionalDate members field = .ok (some instant) ∧ nearestDate instant = date := by
  cases written with
  | bare dated =>
    exact ⟨_, optionalDate_eq_ok_iff.mpr (.date given dated), nearestDate_midnight date⟩
  | zoned stamp west east =>
    exact ⟨_, optionalDate_eq_ok_iff.mpr (.timestamp given stamp.timestamp),
      nearestDate_localMidnight date west east⟩

end Change

namespace Record

def MappingFault.aboutOrder : MappingFault → Bool
  | .completedBeforeStart .. => true
  | _ => false

theorem present_aboutOrder {α : Type} {field : String} {value : Option α} {fault : MappingFault}
    (refused : present field value = .error fault) : fault.aboutOrder = false := by
  cases value with
  | none =>
    cases refused
    rfl
  | some value => cases refused

theorem InductionStatus.ofCode_aboutOrder {code : Int} {fault : MappingFault}
    (refused : InductionStatus.ofCode code = .error fault) : fault.aboutOrder = false := by
  unfold ofCode at refused
  split at refused
  · cases refused
  · cases refused
    rfl

theorem RecordState.ofCode_aboutOrder {code : Int} {fault : MappingFault}
    (refused : RecordState.ofCode code = .error fault) : fault.aboutOrder = false := by
  unfold ofCode at refused
  split at refused
  · cases refused
  · cases refused
    rfl

/-- The instants of an induction come in order: it is not completed before it starts. -/
def InductionDetails.InOrder (details : InductionDetails) : Prop :=
  ∀ started ∈ details.startDate, ∀ completed ∈ details.completionDate, ¬ completed < started

theorem checkOrder_eq_ok_iff {start completed : Option Date} :
    checkOrder start completed = .ok () ↔
      ∀ first ∈ start, ∀ last ∈ completed, first ≤ last := by
  cases start with
  | none => simp [checkOrder]
  | some first =>
    cases completed with
    | none => simp [checkOrder]
    | some last =>
      have notBefore : ¬ last < first ↔ first ≤ last := Int.not_lt
      simp [checkOrder, notBefore]

/-- Dates whose instants come in order do so themselves. -/
theorem InductionDetails.InOrder.checkOrder {details : InductionDetails}
    (inOrder : details.InOrder) :
    checkOrder (details.startDate.map nearestDate) (details.completionDate.map nearestDate) =
      .ok () := by
  rw [checkOrder_eq_ok_iff]
  intro first started last completed
  obtain ⟨start, given, rfl⟩ := Option.map_eq_some_iff.mp started
  obtain ⟨ending, said, rfl⟩ := Option.map_eq_some_iff.mp completed
  exact nearestDate_mono (inOrder start given ending said)

/-- An induction is turned away for its dates only if its instants are out of order. -/
theorem Snapshot.mapped_aboutOrder {snapshot : Snapshot} {details : InductionDetails}
    {fault : MappingFault} (about : snapshot.details = .induction details)
    (inOrder : details.InOrder) (refused : snapshot.mapped = .error fault) :
    fault.aboutOrder = false := by
  simp only [Snapshot.mapped, about, Details.content, bind_eq_error_iff, map_eq_error_iff,
    InductionDetails.induction, inOrder.checkOrder] at refused
  rcases refused with state | ⟨_, _, content | ⟨_, _, impossible⟩⟩
  · exact RecordState.ofCode_aboutOrder state
  · rcases content with person | ⟨_, _, missing | ⟨_, _, status | ⟨_, _, order | ⟨_, _, whole⟩⟩⟩⟩
    · exact present_aboutOrder person
    · exact present_aboutOrder missing
    · exact InductionStatus.ofCode_aboutOrder status
    · cases order
    · cases whole
  · cases impossible

/-- A date is recovered from any instant that a payload can give. Half a day on
lies within the calendar, and the nearest date is the only one whose midnight is
less than half a day ahead or at most half a day behind. So a bare date and a local
midnight give back the date that was written, later instants give no earlier
dates, and an induction whose instants come in order keeps that order. -/
theorem nearestDate_recovers :
    (∀ delivery snapshot, decode delivery = .upserted snapshot → ∀ instant ∈ snapshot.instants,
      (∃ later, instant.addSeconds? 43200 = some later ∧ later.date = nearestDate instant) ∧
        ∀ date, nearestDate instant = date ↔ instant.Around date) ∧
    (∀ (snapshot : Snapshot) (mapped : Mapped), snapshot.mapped = .ok mapped →
      mapped.content.dates = snapshot.details.dates.map (·.map nearestDate)) ∧
    (∀ date offset, -43200 < offset → offset ≤ 43200 →
      nearestDate ((Instant.midnight date).addSeconds (-offset)) = date) ∧
    (∀ members field text date, lookup? field members = some (.text text) →
      DateText (trim text).toList date →
      ∃ instant, optionalDate members field = .ok (some instant) ∧ nearestDate instant = date) ∧
    (∀ earlier later, ¬ later < earlier → nearestDate earlier ≤ nearestDate later) ∧
    ∀ (snapshot : Snapshot) (details : InductionDetails), snapshot.details = .induction details →
      details.InOrder → ∀ completed start,
        snapshot.mapped ≠ .error (.completedBeforeStart completed start) := by
  refine ⟨?_, ?_, fun date offset => nearestDate_localMidnight date,
    fun _ _ _ _ => optionalDate_dateText, fun _ _ => nearestDate_mono, ?_⟩
  · intro delivery snapshot decoded instant member
    exact ⟨decoded_addSeconds decoded instant member, fun date => nearestDate_eq_iff⟩
  · intro snapshot mapped found
    exact Details.content_dates (Snapshot.mapped_eq_ok_iff.mp found).2
  · intro snapshot details about inOrder completed start refused
    cases Snapshot.mapped_aboutOrder about inOrder refused

/-- An induction that starts at the midnight of a zone twelve hours ahead and ends
in the leap second before the next one. -/
private def leapingInduction : Delivery :=
  .ofText "induction" ("\x7b\"id\":\"i\",\"createdon\":\"2016-01-01T00:00:00Z\"," ++
    "\"modifiedon\":\"2016-12-31T23:59:60Z\",\"statecode\":0,\"attributes\":\x7b" ++
    "\"dfeta_personid\":\"p\",\"dfeta_inductionstatus\":389040006," ++
    "\"dfeta_startdate\":\"2016-12-31T00:00:00+12:00\"," ++
    "\"dfeta_completiondate\":\"2016-12-31T11:59:60.25Z\"\x7d\x7d")

private def dayBegins : Instant := .ofMillis 1483099200000

private def leapSecond : Instant := ⟨1483185599, 1250000000, by decide⟩

private def leapingDetails : InductionDetails :=
  ⟨"p", some 389040006, some dayBegins, some leapSecond⟩

private def leapingSnapshot : Snapshot :=
  ⟨⟨"i", .ofMillis 1451606400000, ⟨1483228799, 1000000000, by decide⟩, 0⟩,
    .induction leapingDetails⟩

/-- The last day of 2016. -/
private def lastOfYear : Date := .ofCivil ⟨2016, 12, 31⟩

private theorem lastOfYear_written : DateText "2016-12-31T00:00:00+12:00".toList lastOfYear := by
  have two {tens ones : Char} {value : Nat} (read : twoDigits? tens ones = some value) :=
    twoDigits?_eq_some_iff.mp read
  have zero := two (show twoDigits? '0' '0' = some 0 from rfl)
  have twelve := two (show twoDigits? '1' '2' = some 12 from rfl)
  have dated := FullDate.named (two (show twoDigits? '2' '0' = some 20 from rfl))
    (two (show twoDigits? '1' '6' = some 16 from rfl)) twelve
    (two (show twoDigits? '3' '1' = some 31 from rfl)) (by decide)
  have timed := TimeOfDay.clock zero zero zero .absent (by decide) (by decide) (by decide)
  have shifted := Offset.east twelve zero (by decide) (by decide)
  exact .zoned (.stamp dated (.inl rfl) timed shifted) (by decide) (by decide)

/-- Both ends of the induction are on the day that was written. -/
theorem nearestDate_recovers_leap_second :
    decode leapingInduction = .upserted leapingSnapshot ∧
    (∀ instant ∈ leapingSnapshot.instants, ∃ later,
      instant.addSeconds? 43200 = some later ∧ later.date = nearestDate instant) ∧
    leapingDetails.InOrder ∧
    (∃ mapped, leapingSnapshot.mapped = .ok mapped ∧
      mapped.content.dates = [some lastOfYear, some lastOfYear]) ∧
    (∀ completed start, leapingSnapshot.mapped ≠ .error (.completedBeforeStart completed start)) ∧
    nearestDate ((Instant.midnight lastOfYear).addSeconds (-43200)) = lastOfYear ∧
    (∃ instant, optionalDate [("born", .text "2016-12-31T00:00:00+12:00")] "born" =
      .ok (some instant) ∧ nearestDate instant = lastOfYear) ∧
    nearestDate dayBegins ≤ nearestDate leapSecond := by
  obtain ⟨instants, dates, zoned, written, monotone, order⟩ := nearestDate_recovers
  have decoded : decode leapingInduction = .upserted leapingSnapshot := by decide +kernel
  have inOrder : leapingDetails.InOrder := by
    rintro _ ⟨⟩ _ ⟨⟩
    decide
  have mapped : leapingSnapshot.mapped = .ok ⟨.induction ⟨"p", .pass, some lastOfYear,
    some lastOfYear⟩, .active⟩ := by decide +kernel
  exact ⟨decoded, fun instant member => (instants _ _ decoded instant member).1, inOrder,
    ⟨_, mapped, dates _ _ mapped⟩, order _ _ rfl inOrder, zoned _ _ (by decide) (by decide),
    written _ _ _ _ rfl lastOfYear_written, monotone _ _ (by decide)⟩

end Record

end RecordSync
