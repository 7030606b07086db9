import Mathlib.Data.List.DropRight
import RecordSync.Proofs.DateGrammar
import RecordSync.Proofs.Utf8

/-! The payloads that are read as a change, by their fields, and what the change
says. Every other payload is reported as invalid. -/

namespace RecordSync.Text

theorem trimChars_eq (chars : List Char) :
    trimChars chars = (chars.dropWhile isBlank).rdropWhile isBlank := rfl

/-- What is trimmed has no blanks left to lose. -/
theorem trim_trim (text : String) : trim (trim text) = trim text := by
  have settled (chars : List Char) : trimChars (trimChars chars) = trimChars chars := by
    have front : (trimChars chars).dropWhile isBlank = trimChars chars := by
      rw [List.dropWhile_eq_self_iff]
      intro some
      have inside := List.rdropWhile_prefix isBlank (l := chars.dropWhile isBlank)
      rw [trimChars_eq] at some
      have first := List.dropWhile_get_zero_not isBlank chars
        (Nat.lt_of_lt_of_le some inside.length_le)
      rwa [List.get_eq_getElem, ← inside.getElem some] at first
    rw [trimChars_eq (trimChars chars), front, trimChars_eq, List.rdropWhile_idempotent]
  rw [trim, trim, String.toList_ofList, settled]

/-- Blanks are all that there is to lose in a text that is blank. -/
theorem isBlank_of_trim_eq {text : String} (blank : trim text = "") :
    ∀ c ∈ text.toList, isBlank c = true := by
  have nothing : trimChars text.toList = [] := by
    rwa [trim, String.ofList_eq_empty_iff] at blank
  rw [trimChars_eq, List.rdropWhile_eq_nil_iff] at nothing
  intro c member
  rw [← List.takeWhile_append_dropWhile (p := isBlank) (l := text.toList)] at member
  rcases List.mem_append.mp member with front | behind
  · exact List.all_eq_true.mp List.all_takeWhile c front
  · exact nothing c behind

theorem toLower_of_isBlank {c : Char} (blank : isBlank c = true) : c.toLower = c := by
  unfold Char.toLower
  split
  · rename_i capital
    simp only [isBlank, Bool.or_eq_true, Bool.and_eq_true, decide_eq_true_eq, beq_iff_eq] at blank
    have low : 65 ≤ c.toNat := capital.1
    have high : c.toNat ≤ 90 := capital.2
    omega
  · rfl

end RecordSync.Text

namespace RecordSync.Json

open RecordSync.Text

/-- What is written as a whole number: there is neither a fraction nor an exponent,
and zero has no sign. -/
theorem Numeral.integer?_eq_some_iff {numeral : Numeral} {value : Int} :
    numeral.integer? = some value ↔ numeral.isWhole = true ∧
      if numeral.negative then value = -digitsValue numeral.whole ∧ value < 0 ∧
        -(Number.signed64 : Int) ≤ value
      else value = digitsValue numeral.whole ∧ value < Number.word64 := by
  unfold integer?
  cases numeral.isWhole with
  | false => simp
  | true =>
    simp only [Bool.not_true, Bool.false_eq_true, ↓reduceIte, true_and]
    split
    · rw [Option.ite_none_right_eq_some, Option.some.injEq]
      omega
    · rw [Option.ite_none_right_eq_some, Option.some.injEq]
      omega

end RecordSync.Json

namespace RecordSync.Change

open RecordSync.Calendar RecordSync.Json RecordSync.Record RecordSync.Text

/-- A text that is left when the blanks around it are taken away. -/
def Filled (text : String) : Prop := trim text ≠ ""

/-- A field that may be given as a text. One that is missing, null or blank is absent. -/
inductive TextField (members : Members) (field : String) : Option String → Prop where
  | missing (absent : lookup? field members = none) : TextField members field none
  | null (isNull : lookup? field members = some .null) : TextField members field none
  | blank {text : String} (given : lookup? field members = some (.text text))
      (blank : ¬ Filled text) : TextField members field none
  | text {text : String} (given : lookup? field members = some (.text text))
      (filled : Filled text) : TextField members field (some text)

/-- A field that has to be given as a text, without the blanks around it. -/
def RequiredText (members : Members) (field text : String) : Prop :=
  ∃ given, lookup? field members = some (.text given) ∧ Filled given ∧ text = trim given

/-- A field that may be given as a whole number of 32 bits. -/
inductive CodeField (members : Members) (field : String) : Option Int → Prop where
  | missing (absent : lookup? field members = none) : CodeField members field none
  | null (isNull : lookup? field members = some .null) : CodeField members field none
  | code {code : Int} (given : lookup? field members = some (.number (.integer code)))
      (low : -2147483648 ≤ code) (high : code < 2147483648) : CodeField members field (some code)

/-- A field that may be given as a timestamp, or as a bare date that stands for
its midnight. -/
inductive DateField (members : Members) (field : String) : Option Instant → Prop where
  | missing (absent : lookup? field members = none) : DateField members field none
  | null (isNull : lookup? field members = some .null) : DateField members field none
  | blank {text : String} (given : lookup? field members = some (.text text))
      (blank : ¬ Filled text) : DateField members field none
  | timestamp {text : String} {instant : Instant} (given : lookup? field members = some (.text text))
      (stamp : Timestamp (trim text).toList instant) : DateField members field (some instant)
  | date {text : String} {date : Date} (given : lookup? field members = some (.text text))
      (dated : BareDate (trim text).toList date) : DateField members field (some (.midnight date))

/-- A field that has to be given as a timestamp. -/
def TimestampField (members : Members) (field : String) (instant : Instant) : Prop :=
  ∃ text, lookup? field members = some (.text text) ∧ Timestamp (trim text).toList instant

/-- The attributes of a payload; none are given when the field is missing or null. -/
inductive AttributesField (members : Members) : Members → Prop where
  | missing (absent : lookup? "attributes" members = none) : AttributesField members []
  | null (isNull : lookup? "attributes" members = some .null) : AttributesField members []
  | object {attributes : Members} (given : lookup? "attributes" members = some (.object attributes)) :
      AttributesField members attributes

/-- What the attributes of a person say. -/
structure ContactAttributes (attributes : Members) (details : ContactDetails) : Prop where
  trn : TextField attributes "dfeta_trn" details.trn
  firstName : TextField attributes "firstname" details.firstName
  middleName : TextField attributes "middlename" details.middleName
  lastName : TextField attributes "lastname" details.lastName
  statedFirstName : TextField attributes "dfeta_statedfirstname" details.statedFirstName
  statedMiddleName : TextField attributes "dfeta_statedmiddlename" details.statedMiddleName
  statedLastName : TextField attributes "dfeta_statedlastname" details.statedLastName
  birthDate : DateField attributes "birthdate" details.birthDate
  emailAddress : TextField attributes "emailaddress1" details.emailAddress
  nationalInsuranceNumber : TextField attributes "dfeta_ninumber" details.nationalInsuranceNumber
  mergedInto : TextField attributes "masterid" details.mergedInto

/-- What the attributes of an induction say. -/
structure InductionAttributes (attributes : Members) (details : InductionDetails) : Prop where
  personExternalId : RequiredText attributes "dfeta_personid" details.personExternalId
  statusCode : CodeField attributes "dfeta_inductionstatus" details.statusCode
  startDate : DateField attributes "dfeta_startdate" details.startDate
  completionDate : DateField attributes "dfeta_completiondate" details.completionDate

/-- What the attributes of an entity say. -/
def AttributesOf (attributes : Members) : Details → Prop
  | .contact details => ContactAttributes attributes details
  | .induction details => InductionAttributes attributes details

/-- What a payload object says of a record. -/
structure SnapshotOf (members : Members) (snapshot : Snapshot) : Prop where
  externalId : RequiredText members "id" snapshot.externalId
  createdOn : TimestampField members "createdon" snapshot.origin.createdOn
  modifiedOn : TimestampField members "modifiedon" snapshot.origin.modifiedOn
  stateCode : CodeField members "statecode" (some snapshot.origin.stateCode)
  attributes : ∃ attributes, AttributesField members attributes ∧
    AttributesOf attributes snapshot.details

/-- A payload that asks for a removal, in any case of its letters. -/
def AsksRemoval (members : Members) : Prop :=
  ∃ kind, lookup? "change" members = some (.text kind) ∧ lower kind = "remove"

/-- A payload that asks for an upsert, or for nothing in particular. -/
def AsksUpsert (members : Members) : Prop :=
  TextField members "change" none ∨
    ∃ kind, lookup? "change" members = some (.text kind) ∧ lower kind = "upsert"

/-- Bytes that are the text of a JSON value. -/
def Spells (bytes : List UInt8) (value : Value) : Prop :=
  ∃ text, Utf8.encode text = bytes ∧ Value.ofText text = .ok value

theorem clean_eq_some_iff {text trimmed : String} :
    clean text = some trimmed ↔ Filled text ∧ trimmed = trim text := by
  simp only [clean, Filled, Option.ite_none_left_eq_some, String.isEmpty_iff, Option.some.injEq,
    @eq_comm _ trimmed]

theorem clean_eq_none_iff {text : String} : clean text = none ↔ ¬ Filled text := by
  rw [Option.eq_none_iff_forall_not_mem]
  simp only [Option.mem_def, clean_eq_some_iff, not_and]
  exact ⟨fun absent filled => absent _ filled rfl, fun blank _ filled => absurd filled blank⟩

section

variable {members : Members} {field : String}

theorem optionalText_eq_ok_iff {found : Option String} :
    optionalText members field = .ok found ↔ TextField members field found := by
  unfold optionalText
  constructor
  · intro read
    split at read
    · rename_i absent
      cases read
      exact .missing absent
    · rename_i isNull
      cases read
      exact .null isNull
    · rename_i text given
      cases read
      split
      · rename_i filled
        obtain ⟨trimmed, cleaned⟩ := Option.isSome_iff_exists.mp filled
        exact .text given (clean_eq_some_iff.mp cleaned).1
      · rename_i blank
        exact .blank given (clean_eq_none_iff.mp (by simpa using blank))
    · cases read
  · intro held
    cases held with
    | missing absent => simp [absent]
    | null isNull => simp [isNull]
    | blank given blank => simp [given, clean_eq_none_iff.mpr blank]
    | text given filled => simp [given, clean_eq_some_iff.mpr ⟨filled, rfl⟩]

theorem requiredText_eq_ok_iff {text : String} :
    requiredText members field = .ok text ↔ RequiredText members field text := by
  simp only [requiredText, bind_eq_ok_iff, optionalText_eq_ok_iff]
  constructor
  · rintro ⟨found, held, read⟩
    cases held with
    | text given filled =>
      simp only [Option.bind_some, clean_eq_some_iff.mpr ⟨filled, rfl⟩] at read
      cases read
      exact ⟨_, given, filled, rfl⟩
    | _ => cases read
  · rintro ⟨given, there, filled, rfl⟩
    refine ⟨_, .text there filled, ?_⟩
    simp only [Option.bind_some, clean_eq_some_iff.mpr ⟨filled, rfl⟩]
    rfl

theorem optionalCode_eq_ok_iff {found : Option Int} :
    optionalCode members field = .ok found ↔ CodeField members field found := by
  have fits : (Number.signed32 : Int) = 2147483648 := rfl
  unfold optionalCode
  constructor
  · intro read
    split at read
    · rename_i absent
      cases read
      exact .missing absent
    · rename_i isNull
      cases read
      exact .null isNull
    · rename_i number given
      cases number with
      | integer value =>
        dsimp only at read
        split at read
        · rename_i inside
          cases read
          exact .code given (by omega) (by omega)
        · cases read
      | float negative magnitude => cases read
    · cases read
  · intro held
    cases held with
    | missing absent => simp [absent]
    | null isNull => simp [isNull]
    | @code code given low high =>
      have inside : -(Number.signed32 : Int) ≤ code ∧ code < Number.signed32 := by omega
      simp only [given, inside, and_self, ↓reduceIte]

theorem requiredCode_eq_ok_iff {code : Int} :
    requiredCode members field = .ok code ↔ CodeField members field (some code) := by
  simp only [requiredCode, bind_eq_ok_iff, optionalCode_eq_ok_iff]
  constructor
  · rintro ⟨found, held, read⟩
    cases found with
    | none => cases read
    | some value =>
      cases read
      exact held
  · intro held
    exact ⟨some code, held, rfl⟩

/-- A timestamp is more than blanks. -/
theorem filled_of_timestamp {text : String} {instant : Instant}
    (stamp : Timestamp (trim text).toList instant) : Filled text := by
  intro blank
  rw [blank] at stamp
  exact absurd stamp.colon_mem (by simp)

theorem filled_of_bareDate {text : String} {date : Date}
    (dated : BareDate (trim text).toList date) : Filled text := by
  intro blank
  rw [blank] at dated
  exact absurd dated.hyphen_mem (by simp)

theorem requiredTimestamp_eq_ok_iff {instant : Instant} :
    requiredTimestamp members field = .ok instant ↔ TimestampField members field instant := by
  simp only [requiredTimestamp, bind_eq_ok_iff, requiredText_eq_ok_iff]
  constructor
  · rintro ⟨_, ⟨given, there, filled, rfl⟩, read⟩
    split at read
    · rename_i stamp
      cases read
      exact ⟨given, there, Instant.ofTimestamp?_eq_some_iff.mp stamp⟩
    · cases read
  · rintro ⟨given, there, stamp⟩
    refine ⟨_, ⟨given, there, filled_of_timestamp stamp, rfl⟩, ?_⟩
    rw [Instant.ofTimestamp?_eq_some_iff.mpr stamp]
    rfl

theorem optionalDate_eq_ok_iff {found : Option Instant} :
    optionalDate members field = .ok found ↔ DateField members field found := by
  simp only [optionalDate, bind_eq_ok_iff, optionalText_eq_ok_iff]
  constructor
  · rintro ⟨text, held, read⟩
    cases held with
    | missing absent =>
      cases read
      exact .missing absent
    | null isNull =>
      cases read
      exact .null isNull
    | blank given blank =>
      cases read
      exact .blank given blank
    | text given filled =>
      dsimp only at read
      split at read
      · rename_i instant dated
        cases read
        rcases Option.or_eq_some_iff.mp dated with stamp | ⟨_, plain⟩
        · exact .timestamp given (Instant.ofTimestamp?_eq_some_iff.mp stamp)
        · obtain ⟨date, named, rfl⟩ := Option.map_eq_some_iff.mp plain
          rw [trim_trim] at named
          exact .date given (Date.ofText?_eq_some_iff.mp named)
      · cases read
  · intro held
    cases held with
    | missing absent => exact ⟨none, .missing absent, rfl⟩
    | null isNull => exact ⟨none, .null isNull, rfl⟩
    | blank given blank => exact ⟨none, .blank given blank, rfl⟩
    | timestamp given stamp =>
      refine ⟨_, .text given (filled_of_timestamp stamp), ?_⟩
      simp only [Instant.ofTimestampOrDate?, Instant.ofTimestamp?_eq_some_iff.mpr stamp,
        Option.some_or]
      rfl
    | date given dated =>
      refine ⟨_, .text given (filled_of_bareDate dated), ?_⟩
      simp only [Instant.ofTimestampOrDate?, dated.ofTimestamp?_eq_none, trim_trim,
        Date.ofText?_eq_some_iff.mpr dated, Option.none_or, Option.map_some]
      rfl

end

theorem attributesOf_eq_ok_iff {members attributes : Members} :
    attributesOf members = .ok attributes ↔ AttributesField members attributes := by
  unfold attributesOf
  constructor
  · intro read
    split at read
    · rename_i absent
      cases read
      exact .missing absent
    · rename_i isNull
      cases read
      exact .null isNull
    · rename_i given
      cases read
      exact .object given
    · cases read
  · intro held
    cases held with
    | missing absent => simp [absent]
    | null isNull => simp [isNull]
    | object given => simp [given]

theorem contactDetails_eq_ok_iff {attributes : Members} {details : ContactDetails} :
    contactDetails attributes = .ok details ↔ ContactAttributes attributes details := by
  simp only [contactDetails, bind_eq_ok_iff, optionalText_eq_ok_iff, optionalDate_eq_ok_iff]
  constructor
  · rintro ⟨_, trn, _, first, _, middle, _, last, _, statedFirst, _, statedMiddle, _, statedLast,
      _, birth, _, email, _, number, _, merged, same⟩
    cases same
    exact ⟨trn, first, middle, last, statedFirst, statedMiddle, statedLast, birth, email, number,
      merged⟩
  · intro held
    exact ⟨_, held.trn, _, held.firstName, _, held.middleName, _, held.lastName, _,
      held.statedFirstName, _, held.statedMiddleName, _, held.statedLastName, _, held.birthDate, _,
      held.emailAddress, _, held.nationalInsuranceNumber, _, held.mergedInto, rfl⟩

theorem inductionDetails_eq_ok_iff {attributes : Members} {details : InductionDetails} :
    inductionDetails attributes = .ok details ↔ InductionAttributes attributes details := by
  simp only [inductionDetails, bind_eq_ok_iff, requiredText_eq_ok_iff, optionalCode_eq_ok_iff,
    optionalDate_eq_ok_iff]
  constructor
  · rintro ⟨_, person, _, status, _, start, _, completion, same⟩
    cases same
    exact ⟨person, status, start, completion⟩
  · intro held
    exact ⟨_, held.personExternalId, _, held.statusCode, _, held.startDate, _,
      held.completionDate, rfl⟩

theorem readSnapshot_eq_ok_iff {entity : Entity} {members : Members} {snapshot : Snapshot} :
    (∃ externalId, RequiredText members "id" externalId ∧
      readSnapshot entity externalId members = .ok snapshot) ↔
        snapshot.entity = entity ∧ SnapshotOf members snapshot := by
  simp only [readSnapshot, bind_eq_ok_iff, requiredTimestamp_eq_ok_iff, requiredCode_eq_ok_iff,
    attributesOf_eq_ok_iff]
  constructor
  · rintro ⟨externalId, id, created, createdOn, modified, modifiedOn, code, stateCode, attributes,
      given, read⟩
    cases entity with
    | contact =>
      obtain ⟨_, detailed, same⟩ := bind_eq_ok_iff.mp read
      cases same
      obtain ⟨details, found, rfl⟩ := map_eq_ok_iff.mp detailed
      exact ⟨rfl, id, createdOn, modifiedOn, stateCode, attributes, given,
        contactDetails_eq_ok_iff.mp found⟩
    | induction =>
      obtain ⟨_, detailed, same⟩ := bind_eq_ok_iff.mp read
      cases same
      obtain ⟨details, found, rfl⟩ := map_eq_ok_iff.mp detailed
      exact ⟨rfl, id, createdOn, modifiedOn, stateCode, attributes, given,
        inductionDetails_eq_ok_iff.mp found⟩
  · rintro ⟨rfl, id, createdOn, modifiedOn, stateCode, attributes, given, said⟩
    refine ⟨_, id, _, createdOn, _, modifiedOn, _, stateCode, _, given, ?_⟩
    obtain ⟨origin, details⟩ := snapshot
    cases details with
    | contact details =>
      exact bind_eq_ok_iff.mpr ⟨_, map_eq_ok_iff.mpr
        ⟨details, contactDetails_eq_ok_iff.mpr said, rfl⟩, rfl⟩
    | induction details =>
      exact bind_eq_ok_iff.mpr ⟨_, map_eq_ok_iff.mpr
        ⟨details, inductionDetails_eq_ok_iff.mpr said, rfl⟩, rfl⟩

/-- A text that is a word but for the case of its letters is not blank. -/
theorem filled_of_lower {text word : String} (same : lower text = word) {c : Char}
    (inside : c ∈ word.toList) (visible : isBlank c = false) : Filled text := by
  intro blank
  rw [← same, lower, String.toList_ofList, List.mem_map] at inside
  obtain ⟨other, member, rfl⟩ := inside
  have isBlank := isBlank_of_trim_eq blank other member
  rw [toLower_of_isBlank isBlank, isBlank] at visible
  cases visible

/-- A payload object is read as a removal or as a snapshot. -/
theorem readMembers_eq_ok_iff {entity : Entity} {members : Members} {change : Change} :
    readMembers entity members = .ok change ↔
      (∃ externalId, RequiredText members "id" externalId ∧ AsksRemoval members ∧
        change = .removed entity externalId) ∨
      ∃ snapshot, AsksUpsert members ∧ SnapshotOf members snapshot ∧ snapshot.entity = entity ∧
        change = .upserted snapshot := by
  have upserted {externalId : String} (id : RequiredText members "id" externalId)
      (asked : AsksUpsert members)
      (read : (readSnapshot entity externalId members).map .upserted = .ok change) :
      ∃ snapshot, AsksUpsert members ∧ SnapshotOf members snapshot ∧ snapshot.entity = entity ∧
        change = .upserted snapshot := by
    obtain ⟨snapshot, found, rfl⟩ := map_eq_ok_iff.mp read
    obtain ⟨about, said⟩ := readSnapshot_eq_ok_iff.mp ⟨externalId, id, found⟩
    exact ⟨snapshot, asked, said, about, rfl⟩
  simp only [readMembers, bind_eq_ok_iff, requiredText_eq_ok_iff, optionalText_eq_ok_iff]
  constructor
  · rintro ⟨externalId, id, kind, held, read⟩
    split at read
    · rename_i absent
      rw [Option.map_eq_none_iff] at absent
      subst absent
      exact .inr (upserted id (.inl held) read)
    · rename_i upsert
      obtain ⟨text, rfl, same⟩ := Option.map_eq_some_iff.mp upsert
      cases held with
      | text given _ => exact .inr (upserted id (.inr ⟨text, given, same⟩) read)
    · rename_i remove
      obtain ⟨text, rfl, same⟩ := Option.map_eq_some_iff.mp remove
      cases read
      cases held with
      | text given _ => exact .inl ⟨externalId, id, ⟨text, given, same⟩, rfl⟩
    · cases read
  · rintro (⟨externalId, id, ⟨kind, given, same⟩, rfl⟩ | ⟨snapshot, asked, said, about, rfl⟩)
    · have filled : Filled kind := filled_of_lower same (c := 'e') (by decide) (by decide)
      refine ⟨externalId, id, some kind, .text given filled, ?_⟩
      simp only [Option.map_some, same]
      rfl
    · obtain ⟨externalId, id, read⟩ := readSnapshot_eq_ok_iff.mpr ⟨about, said⟩
      rcases asked with held | ⟨kind, given, same⟩
      · exact ⟨externalId, id, none, held, map_eq_ok_iff.mpr ⟨snapshot, read, rfl⟩⟩
      · have filled : Filled kind := filled_of_lower same (c := 'e') (by decide) (by decide)
        refine ⟨externalId, id, some kind, .text given filled, ?_⟩
        simp only [Option.map_some, same]
        exact map_eq_ok_iff.mpr ⟨snapshot, read, rfl⟩

theorem ofName_eq_ok_iff {text : String} {entity : Entity} :
    Entity.ofName text = .ok entity ↔ lower (trim text) = entity.name := by
  unfold Entity.ofName
  dsimp only
  constructor
  · intro named
    split at named
    · rename_i found
      cases named
      have same := List.find?_some found
      simp only [beq_iff_eq] at same
      exact same.symm
    · cases named
  · intro same
    have found : Entity.all.find? (·.name == lower (trim text)) = some entity := by
      rw [same]
      cases entity <;> decide
    simp only [found]

theorem readValue_eq_ok_iff {delivery : Delivery} {parsed : Except Malformed Value}
    {change : Change} : readValue delivery parsed = .ok change ↔ ∃ entity members,
      lower (trim delivery.entityName) = entity.name ∧ parsed = .ok (.object members) ∧
        readMembers entity members = .ok change := by
  constructor
  · intro read
    obtain ⟨entity, members, named, parsed, read⟩ := readValue_eq_ok read
    exact ⟨entity, members, ofName_eq_ok_iff.mp named, parsed, read⟩
  · rintro ⟨entity, members, named, rfl, read⟩
    unfold readValue
    rw [ofName_eq_ok_iff.mpr named]
    exact read

theorem recoveredId_eq_some_iff {parsed : Except Malformed Value} {externalId : String} :
    recoveredId parsed = some externalId ↔
      ∃ members, parsed = .ok (.object members) ∧ RequiredText members "id" externalId := by
  constructor
  · intro recovered
    cases parsed with
    | error cause => cases recovered
    | ok value =>
      simp only [recoveredId, Option.bind_eq_some_iff, clean_eq_some_iff] at recovered
      obtain ⟨text, ⟨held, found, isText⟩, filled, same⟩ := recovered
      cases value with
      | object members =>
        cases held with
        | text given =>
          cases isText
          exact ⟨members, rfl, text, found, filled, same⟩
        | _ => cases isText
      | _ => cases found
  · rintro ⟨members, rfl, text, given, filled, same⟩
    simp only [recoveredId, Value.get?, given, Option.bind_some, Value.text?,
      clean_eq_some_iff]
    exact ⟨filled, same⟩

/-- What is delivered as a text is the change that its value is read as. -/
theorem decode_ofText (entityName text : String) :
    (∀ change, (∀ name id fault, change ≠ Change.invalid name id fault) →
      (decode (.ofText entityName text) = change ↔
        readValue (.ofText entityName text) (Value.ofText text) = .ok change)) ∧
      ∀ name id fault, decode (.ofText entityName text) = .invalid name id fault →
        name = entityName ∧ id = recoveredId (Value.ofText text) := by
  unfold decode
  simp only [Delivery.ofText]
  cases read : readValue ⟨entityName, text, none⟩ (Value.ofText text) with
  | error fault =>
    refine ⟨fun change valid => ?_, ?_⟩
    · simpa using fun same => valid _ _ _ same.symm
    · rintro name id fault ⟨⟩
      exact ⟨rfl, rfl⟩
  | ok change =>
    refine ⟨fun other _ => by simp, ?_⟩
    rintro name id fault rfl
    obtain ⟨_, _, _, _, read⟩ := readValue_eq_ok_iff.mp read
    rcases readMembers_eq_ok_iff.mp read with ⟨_, _, _, impossible⟩ | ⟨_, _, _, _, impossible⟩
    · cases impossible
    · cases impossible

/-- The bytes of a text are those of no other one. -/
theorem spells_encode_iff {text : String} {value : Value} :
    Spells (Utf8.encode text) value ↔ Value.ofText text = .ok value := by
  constructor
  · rintro ⟨other, same, parsed⟩
    have one := Utf8.decode_spec.mpr same
    rw [Utf8.decode_spec.mpr rfl] at one
    cases one
    exact parsed
  · intro parsed
    exact ⟨text, rfl, parsed⟩

/-- Whatever is delivered under whatever name, it is read as a removal or as a
snapshot exactly when it is written as one, and then it says what is written.
What is invalid keeps its name, and the id if it is written. -/
theorem decode_accepts_grammar (entityName : String) (bytes : List UInt8) :
    let change := decode (.ofBytes entityName bytes)
    (∀ entity externalId, change = .removed entity externalId ↔
      lower (trim entityName) = entity.name ∧ ∃ members, Spells bytes (.object members) ∧
        RequiredText members "id" externalId ∧ AsksRemoval members) ∧
    (∀ snapshot, change = .upserted snapshot ↔
      lower (trim entityName) = snapshot.entity.name ∧ ∃ members, Spells bytes (.object members) ∧
        AsksUpsert members ∧ SnapshotOf members snapshot) ∧
    ∀ name id fault, change = .invalid name id fault → name = entityName ∧
      ∀ externalId, id = some externalId ↔
        ∃ members, Spells bytes (.object members) ∧ RequiredText members "id" externalId := by
  intro change
  by_cases valid : ∃ text, Utf8.encode text = bytes
  · obtain ⟨text, rfl⟩ := valid
    have delivered : change = decode (.ofText entityName text) := by
      rw [← Delivery.ofBytes_encode]
    obtain ⟨decoded, invalid⟩ := decode_ofText entityName text
    simp only [spells_encode_iff, delivered]
    refine ⟨fun entity externalId => ?_, fun snapshot => ?_, fun name id fault same => ?_⟩
    · rw [decoded _ (fun _ _ _ same => by cases same), readValue_eq_ok_iff]
      constructor
      · rintro ⟨about, members, named, parsed, read⟩
        rcases readMembers_eq_ok_iff.mp read with ⟨_, id, asked, same⟩ | ⟨_, _, _, _, same⟩
        · cases same
          exact ⟨named, members, parsed, id, asked⟩
        · cases same
      · rintro ⟨named, members, parsed, id, asked⟩
        exact ⟨entity, members, named, parsed,
          readMembers_eq_ok_iff.mpr (.inl ⟨externalId, id, asked, rfl⟩)⟩
    · rw [decoded _ (fun _ _ _ same => by cases same), readValue_eq_ok_iff]
      constructor
      · rintro ⟨about, members, named, parsed, read⟩
        rcases readMembers_eq_ok_iff.mp read with ⟨_, _, _, same⟩ | ⟨_, asked, said, rfl, same⟩
        · cases same
        · cases same
          exact ⟨named, members, parsed, asked, said⟩
      · rintro ⟨named, members, parsed, asked, said⟩
        exact ⟨snapshot.entity, members, named, parsed,
          readMembers_eq_ok_iff.mpr (.inr ⟨snapshot, asked, said, rfl, rfl⟩)⟩
    · obtain ⟨rfl, rfl⟩ := invalid name id fault same
      exact ⟨rfl, fun externalId => recoveredId_eq_some_iff⟩
  · have noText : ∀ text, Utf8.encode text ≠ bytes := not_exists.mp valid
    have unspelled (value : Value) : ¬ Spells bytes value := fun ⟨text, same, _⟩ => noText text same
    obtain ⟨fault, delivered⟩ := Delivery.ofBytes_of_ne noText entityName
    have decoded : change = .invalid entityName none (.unreadable fault) := by
      simp only [change, delivered, decode]
    simp only [decoded, unspelled, false_and, exists_false, and_false, iff_false]
    refine ⟨fun _ _ impossible => ?_, fun _ impossible => ?_, fun name id fault same => ?_⟩
    · cases impossible
    · cases impossible
    · cases same
      exact ⟨rfl, fun _ impossible => nomatch impossible⟩

end RecordSync.Change
