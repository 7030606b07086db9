import Mathlib
import RecordSync.Proofs.NearestDate

/-! What a row says is a normal form. Texts are trimmed, names chosen, numbers put
in capitals, dates rounded and codes translated; a snapshot that says just what
came out of this is left as it is. -/

namespace RecordSync

open RecordSync.Calendar RecordSync.Change RecordSync.Record RecordSync.Text

namespace Text

/-- A text that is not empty and has no white space at either end. -/
structure Tidy (text : String) : Prop where
  nonempty : text ≠ ""
  first : ∀ c ∈ text.toList.head?, isBlank c = false
  last : ∀ c ∈ text.toList.getLast?, isBlank c = false

theorem trimChars_eq_self_iff {chars : List Char} : trimChars chars = chars ↔
    (∀ c ∈ chars.head?, isBlank c = false) ∧ ∀ c ∈ chars.getLast?, isBlank c = false := by
  have front : chars.dropWhile isBlank = chars ↔ ∀ c ∈ chars.head?, isBlank c = false := by
    cases chars <;> simp [List.dropWhile_eq_self_iff]
  have back : chars.rdropWhile isBlank = chars ↔ ∀ c ∈ chars.getLast?, isBlank c = false := by
    cases chars <;> simp [List.rdropWhile_eq_self_iff, List.getLast?_eq_some_getLast]
  rw [← front, ← back, trimChars_eq]
  constructor
  · intro whole
    have short := (List.rdropWhile_prefix isBlank (l := chars.dropWhile isBlank)).length_le
    rw [whole] at short
    have first := (List.dropWhile_suffix isBlank).eq_of_length_le short
    rw [first] at whole
    exact ⟨first, whole⟩
  · rintro ⟨first, last⟩
    rw [first, last]

theorem tidy_iff {text : String} : Tidy text ↔ clean text = some text := by
  have same : trim text = text ↔ trimChars text.toList = text.toList := by
    rw [trim, ← String.toList_inj, String.toList_ofList]
  rw [clean_eq_some_iff, Filled, @eq_comm _ text, same, trimChars_eq_self_iff]
  constructor
  · intro tidy
    have ends := trimChars_eq_self_iff.mpr ⟨tidy.first, tidy.last⟩
    exact ⟨(same.mpr ends).symm ▸ tidy.nonempty, tidy.first, tidy.last⟩
  · rintro ⟨filled, first, last⟩
    rw [same.mpr (trimChars_eq_self_iff.mpr ⟨first, last⟩)] at filled
    exact ⟨filled, first, last⟩

theorem tidy_of_clean {text trimmed : String} (cleaned : clean text = some trimmed) :
    Tidy trimmed := by
  obtain ⟨filled, rfl⟩ := clean_eq_some_iff.mp cleaned
  rw [tidy_iff, clean_eq_some_iff, Filled, trim_trim]
  exact ⟨filled, rfl⟩

theorem isLower_iff {c : Char} : c.isLower = true ↔ 97 ≤ c.toNat ∧ c.toNat ≤ 122 := by
  simp [Char.isLower, UInt32.le_iff_toNat_le, ← Char.toNat_val]

theorem toNat_toUpper {c : Char} (small : c.isLower = true) :
    c.toUpper.toNat = c.toNat - 32 := by
  have bounds := isLower_iff.mp small
  have valid : (c.toNat - 32).isValidChar := .inl (by omega)
  rw [Char.toUpper_eq_of_isLower small, Char.toNat_ofNat, if_pos valid]

/-- Neither a letter nor its capital is white space. -/
theorem isBlank_toUpper (c : Char) : isBlank c.toUpper = isBlank c := by
  by_cases small : c.isLower = true
  · have bounds := isLower_iff.mp small
    rw [Bool.eq_iff_iff]
    simp only [isBlank, toNat_toUpper small, Bool.or_eq_true, Bool.and_eq_true, decide_eq_true_eq,
      beq_iff_eq]
    omega
  · rw [Char.toUpper_eq_of_not_isLower small]

theorem isLower_of_mem_upper {text : String} {c : Char} (member : c ∈ (upper text).toList) :
    c.isLower = false := by
  rw [upper, String.toList_ofList, List.mem_map] at member
  obtain ⟨other, _, rfl⟩ := member
  exact other.isLower_toUpper_eq_false

theorem upper_eq_self {text : String} (large : ∀ c ∈ text.toList, c.isLower = false) :
    upper text = text := by
  have same : text.toList.map Char.toUpper = text.toList :=
    (List.map_congr_left fun c member =>
      Char.toUpper_eq_of_not_isLower (Bool.eq_false_iff.mp (large c member))).trans (List.map_id _)
  rw [upper, same, String.ofList_toList]

theorem Tidy.upper {text : String} (tidy : Tidy text) : Tidy (upper text) := by
  have filled : text.toList ≠ [] := by
    rw [ne_eq, String.toList_eq_nil_iff]
    exact tidy.nonempty
  constructor
  · rw [Text.upper, ne_eq, String.ofList_eq_empty_iff, List.map_eq_nil_iff]
    exact filled
  · rw [Text.upper, String.toList_ofList, List.head?_map]
    intro c member
    obtain ⟨other, first, rfl⟩ := Option.map_eq_some_iff.mp member
    rw [isBlank_toUpper]
    exact tidy.first other first
  · rw [Text.upper, String.toList_ofList, List.getLast?_map]
    intro c member
    obtain ⟨other, last, rfl⟩ := Option.map_eq_some_iff.mp member
    rw [isBlank_toUpper]
    exact tidy.last other last

end Text

namespace Record

/-- The details that say what a row says: the chosen names as primary ones, and
each date as its midnight. -/
def Person.details (person : Person) : ContactDetails where
  trn := person.trn
  firstName := some person.firstName
  middleName := person.middleName
  lastName := some person.lastName
  statedFirstName := none
  statedMiddleName := none
  statedLastName := none
  birthDate := person.dateOfBirth.map Instant.midnight
  emailAddress := person.emailAddress
  nationalInsuranceNumber := person.nationalInsuranceNumber
  mergedInto := person.mergedIntoExternalId

def Induction.details (induction : Induction) : InductionDetails where
  personExternalId := induction.personExternalId
  statusCode := some induction.status.code
  startDate := induction.startDate.map Instant.midnight
  completionDate := induction.completionDate.map Instant.midnight

def Content.details : Content → Details
  | .person details => .contact details.details
  | .induction details => .induction details.details

/-- The snapshot that says what came out, with the origin of the one it came from. -/
def Mapped.snapshot (mapped : Mapped) (origin : Origin) : Snapshot where
  origin := { origin with stateCode := mapped.state.code }
  details := mapped.content.details

def Content.texts : Content → List String
  | .person details => details.trn.toList ++ [details.firstName] ++ details.middleName.toList ++
      [details.lastName] ++ details.emailAddress.toList ++
      details.nationalInsuranceNumber.toList ++ details.mergedIntoExternalId.toList
  | .induction details => [details.personExternalId]

/-- What is true of some kinds of content beyond their texts. -/
inductive Content.Orderly : Content → Prop where
  | person {details : Person}
      (trn : ∀ text ∈ details.trn, text.toList.length = 7 ∧ ∀ c ∈ text.toList, c.isDigit = true)
      (number : ∀ text ∈ details.nationalInsuranceNumber, ∀ c ∈ text.toList, c.isLower = false) :
      Orderly (.person details)
  | induction {details : Induction}
      (order : ∀ start ∈ details.startDate, ∀ completed ∈ details.completionDate,
        start ≤ completed) : Orderly (.induction details)

/-- A normal form: its texts are tidy, a teacher reference number has seven digits,
a national insurance number has no small letters and an induction is not completed
before it starts. -/
structure Content.Normal (content : Content) : Prop where
  tidy : ∀ text ∈ content.texts, Tidy text
  orderly : content.Orderly

theorem tidy_of_cleaned {given : Option String} : ∀ text ∈ cleaned given, Tidy text := by
  intro text found
  obtain ⟨_, _, trimmed⟩ := Option.bind_eq_some_iff.mp found
  exact tidy_of_clean trimmed

theorem tidy_of_resolveName {stated primary : Option String} :
    ∀ text ∈ resolveName stated primary, Tidy text := by
  intro text found
  rcases Option.or_eq_some_iff.mp found with first | ⟨_, second⟩
  · exact tidy_of_cleaned text first
  · exact tidy_of_cleaned text second

/-- A tidy text is its own trimmed form. -/
theorem cleaned_eq_self {given : Option String} (tidy : ∀ text ∈ given, Tidy text) :
    cleaned given = given := by
  cases given with
  | none => rfl
  | some text =>
    rw [cleaned, Option.bind_some]
    exact tidy_iff.mp (tidy text rfl)

theorem resolveName_eq_self {given : Option String} (tidy : ∀ text ∈ given, Tidy text) :
    resolveName none given = given := by
  rw [resolveName, cleaned_eq_self tidy]
  rfl

theorem checkTrn_eq_ok_iff {trn found : Option String} : checkTrn trn = .ok found ↔
    trn = found ∧ ∀ text ∈ trn, text.toList.length = 7 ∧ ∀ c ∈ text.toList, c.isDigit = true := by
  cases trn with
  | none => simp [checkTrn]
  | some text =>
    simp only [checkTrn, List.all_eq_true, Option.mem_some, forall_eq']
    constructor
    · intro checked
      split at checked
      · rename_i digits
        injection checked with same
        exact ⟨same, digits⟩
      · cases checked
    · intro held
      rw [if_pos held.2, held.1]

/-- What is mapped is a normal form. -/
theorem ContactDetails.Gives.normal {details : ContactDetails} {person : Person}
    (gives : details.Gives person) : (Content.person person).Normal := by
  obtain ⟨trn, digits⟩ := checkTrn_eq_ok_iff.mp gives.trn
  have number : ∀ text ∈ person.nationalInsuranceNumber,
      Tidy text ∧ ∀ c ∈ text.toList, c.isLower = false := by
    intro text found
    rw [← gives.nationalInsuranceNumber] at found
    obtain ⟨written, kept, rfl⟩ := Option.map_eq_some_iff.mp found
    exact ⟨(tidy_of_cleaned written kept).upper, fun c => isLower_of_mem_upper⟩
  constructor
  · simp only [Content.texts, List.mem_append, List.mem_singleton, Option.mem_toList, or_imp,
      forall_and, forall_eq]
    exact ⟨⟨⟨⟨⟨⟨trn ▸ tidy_of_cleaned, tidy_of_resolveName _ gives.firstName⟩,
      gives.middleName ▸ tidy_of_resolveName⟩, tidy_of_resolveName _ gives.lastName⟩,
      gives.emailAddress ▸ tidy_of_cleaned⟩, fun text found => (number text found).1⟩,
      gives.mergedInto ▸ tidy_of_cleaned⟩
  · exact .person (trn ▸ digits) fun text found => (number text found).2

theorem InductionDetails.Gives.normal {details : InductionDetails} {induction : Induction}
    (gives : details.Gives induction) : (Content.induction induction).Normal := by
  constructor
  · simp only [Content.texts, List.mem_singleton, forall_eq]
    exact tidy_of_clean gives.personExternalId
  · exact .induction (checkOrder_eq_ok_iff.mp gives.inOrder)

theorem Details.content_normal {details : Details} {content : Content}
    (mapped : details.content = .ok content) : content.Normal := by
  cases details with
  | contact details =>
    obtain ⟨_, named, rfl⟩ := map_eq_ok_iff.mp mapped
    exact (ContactDetails.person_eq_ok_iff.mp named).normal
  | induction details =>
    obtain ⟨_, named, rfl⟩ := map_eq_ok_iff.mp mapped
    exact (InductionDetails.induction_eq_ok_iff.mp named).normal

/-- Dates are those of their midnights. -/
theorem map_nearestDate_midnight (date : Option Date) :
    (date.map Instant.midnight).map nearestDate = date := by
  cases date <;> simp [nearestDate_midnight]

theorem RecordState.ofCode_code (state : RecordState) :
    RecordState.ofCode state.code = .ok state := by
  cases state <;> rfl

theorem InductionStatus.ofCode_code (status : InductionStatus) :
    InductionStatus.ofCode status.code = .ok status := by
  cases status <;> rfl

/-- A normal form is what its own details give. -/
theorem Person.details_gives {person : Person} (normal : (Content.person person).Normal) :
    person.details.Gives person := by
  obtain ⟨tidy, orderly⟩ := normal
  cases orderly with
  | person trn number =>
    have given {field : Option String}
        (among : ∀ text ∈ field, text ∈ (Content.person person).texts) :
        ∀ text ∈ field, Tidy text := fun text found => tidy text (among text found)
    constructor
    case trn =>
      rw [details, cleaned_eq_self (given (by simp +contextual [Content.texts]))]
      exact checkTrn_eq_ok_iff.mpr ⟨rfl, trn⟩
    case nationalInsuranceNumber =>
      rw [details, cleaned_eq_self (given (by simp +contextual [Content.texts]))]
      cases written : person.nationalInsuranceNumber with
      | none => rfl
      | some text => exact congrArg some (upper_eq_self (number text written))
    case dateOfBirth => exact map_nearestDate_midnight _
    case firstName | middleName | lastName =>
      exact resolveName_eq_self (given (by simp +contextual [details, Content.texts]))
    case emailAddress | mergedInto =>
      exact cleaned_eq_self (given (by simp +contextual [details, Content.texts]))

theorem Induction.details_gives {induction : Induction}
    (normal : (Content.induction induction).Normal) : induction.details.Gives induction := by
  obtain ⟨tidy, orderly⟩ := normal
  cases orderly with
  | induction order =>
    constructor
    case personExternalId => exact tidy_iff.mp (tidy _ (List.mem_singleton_self _))
    case status => exact ⟨_, rfl, InductionStatus.ofCode_code induction.status⟩
    case startDate | completionDate => exact map_nearestDate_midnight _
    case inOrder => exact checkOrder_eq_ok_iff.mpr order

theorem Content.Normal.details_content {content : Content} (normal : content.Normal) :
    content.details.content = .ok content := by
  cases content with
  | person person =>
    rw [details, Details.content, ContactDetails.person_eq_ok_iff.mpr (person.details_gives normal)]
    rfl
  | induction induction =>
    rw [details, Details.content,
      InductionDetails.induction_eq_ok_iff.mpr (induction.details_gives normal)]
    rfl

/-- Normal forms are the fixed points. -/
theorem Content.normal_iff {content : Content} :
    content.Normal ↔ content.details.content = .ok content :=
  ⟨Content.Normal.details_content, Details.content_normal⟩

theorem Content.Kept.details_dated {content : Content} (kept : content.Kept) :
    content.details.Dated := by
  cases content with
  | person details =>
    simpa [Content.details, Details.Dated, Person.details, nearestDate_midnight, Content.Kept]
      using kept
  | induction details =>
    simpa [Content.details, Details.Dated, Induction.details, nearestDate_midnight, Content.Kept]
      using kept

/-- A row that is mapped from a decoded snapshot is a normal form. What it says,
written as a snapshot again, lies within the calendar and is mapped to the same row. -/
theorem mapped_normal {delivery : Delivery} {snapshot : Snapshot} {mapped : Mapped}
    (decoded : decode delivery = .upserted snapshot) (found : snapshot.mapped = .ok mapped) :
    mapped.content.Normal ∧ (mapped.snapshot snapshot.origin).details.Dated ∧
      (mapped.snapshot snapshot.origin).mapped = .ok mapped := by
  have kept := (Snapshot.mapped_spec found).2 (kept_of_decode decoded).dated
  have normal := Details.content_normal (Snapshot.mapped_eq_ok_iff.mp found).2
  refine ⟨normal, kept.details_dated, Snapshot.mapped_eq_ok_iff.mpr ⟨?_, ?_⟩⟩
  · exact RecordState.ofCode_code mapped.state
  · exact normal.details_content

/-- A person with a blank stated name, blanks around texts, small letters in a
number and a birth date in summer time. -/
private def untidyPerson : Delivery :=
  .ofText "contact" ("\x7b\"id\":\"c\",\"createdon\":\"2016-01-01T00:00:00Z\"," ++
    "\"modifiedon\":\"2016-01-02T00:00:00Z\",\"statecode\":1,\"attributes\":\x7b" ++
    "\"dfeta_trn\":\" 1234567\",\"firstname\":\"Ann \",\"dfeta_statedfirstname\":\"\u2003\"," ++
    "\"lastname\":\"Lee\",\"dfeta_ninumber\":\"q1\u00a0\"," ++
    "\"birthdate\":\"1990-06-14T23:00:00Z\"\x7d\x7d")

private def untidySnapshot : Snapshot :=
  ⟨⟨"c", .ofMillis 1451606400000, .ofMillis 1451692800000, 1⟩,
    .contact ⟨some " 1234567", some "Ann ", none, some "Lee", none, none, none,
      some (.ofMillis 645404400000), none, some "q1\u00a0", none⟩⟩

private def tidied : Mapped :=
  ⟨.person ⟨some "1234567", "Ann", none, "Lee", some (.ofCivil ⟨1990, 6, 15⟩), none, some "Q1",
    none⟩, .inactive⟩

/-- The untidy person comes out tidy, and stays so. -/
theorem mapped_normal_untidy :
    decode untidyPerson = .upserted untidySnapshot ∧ untidySnapshot.mapped = .ok tidied ∧
      tidied.content.Normal ∧ (tidied.snapshot untidySnapshot.origin).details.Dated ∧
      (tidied.snapshot untidySnapshot.origin).mapped = .ok tidied := by
  have decoded : decode untidyPerson = .upserted untidySnapshot := by decide +kernel
  have found : untidySnapshot.mapped = .ok tidied := by decide +kernel
  exact ⟨decoded, found, mapped_normal decoded found⟩

end Record

end RecordSync
