import Mathlib.Data.List.Nodup
import RecordSync.Proofs.PayloadGrammar
import RecordSync.Settings.File

/-! Which settings are accepted, and the layer that each of their values is from:
the environment, the file, or the standard values. -/

namespace RecordSync.Text

open RecordSync.Calendar (Digits)

theorem natural?_eq_some_iff {chars : List Char} {value : Nat} :
    natural? chars = some value ↔ Digits chars value := by
  unfold natural?
  constructor
  · intro read
    split at read
    · cases read
    · rename_i digits
      simp only [Bool.or_eq_true, List.isEmpty_iff, Bool.not_eq_true', not_or,
        Bool.not_eq_false, List.all_eq_true] at digits
      exact ⟨digits.1, digits.2, Option.some.inj read⟩
  · rintro ⟨nonempty, all, rfl⟩
    rw [if_neg]
    simpa [nonempty] using all

/-- How an unsigned number below a bound is written: in digits, with or without a
plus sign. -/
inductive Unsigned (bound : Nat) (text : String) (value : Nat) : Prop where
  | bare {digits : List Char} (chars : text.toList = digits) (number : Digits digits value)
      (below : value < bound)
  | signed {digits : List Char} (chars : text.toList = '+' :: digits)
      (number : Digits digits value) (below : value < bound)

theorem readUnsigned_eq_some_iff {bound : Nat} {text : String} {value : Nat} :
    readUnsigned bound text = some value ↔ Unsigned bound text value := by
  simp only [readUnsigned, Option.filter_eq_some_iff, natural?_eq_some_iff, decide_eq_true_eq]
  constructor
  · rintro ⟨number, below⟩
    split at number
    · rename_i digits signed
      exact .signed signed number below
    · exact .bare rfl number below
  · rintro (⟨rfl, number, below⟩ | ⟨signed, number, below⟩)
    · refine ⟨?_, below⟩
      split
      · rename_i digits signed
        -- a plus sign is no digit
        rw [signed] at number
        exact absurd (number.all '+' List.mem_cons_self) (by decide)
      · exact number
    · rw [signed]
      exact ⟨number, below⟩

end RecordSync.Text

namespace RecordSync.Settings

open RecordSync.Json RecordSync.Number RecordSync.Run RecordSync.Text

def under (name : String) (members : List (List Glyph × Document)) : List Document :=
  (members.filter fun member => (textOf member.1).toOption == some name).map (·.2)

/-- What a record says of its fields: in an array of at most as many documents they
stand in their order, and in an object, whose keys are texts, each stands under its
name and none does twice. Other names are passed over. -/
inductive Says (names : List String) : Document → (String → Option Document) → Prop where
  | inOrder {members : List Document} {given : String → Option Document}
      (few : members.length ≤ names.length)
      (placed : ∀ place (inside : place < names.length), given names[place] = members[place]?) :
      Says names (.array members) given
  | byName {members : List (List Glyph × Document)} {given : String → Option Document}
      (texts : ∀ member ∈ members, ∃ name, textOf member.1 = .ok name)
      (named : ∀ name ∈ names, under name members = (given name).toList) :
      Says names (.object members) given

/-- A value is the one that is given, or the standard one. -/
inductive Given {β : Type} (fits : Document → β → Prop) (standard : β) :
    Option Document → β → Prop where
  | left : Given fits standard none standard
  | given {document : Document} {value : β} (fit : fits document value) :
      Given fits standard (some document) value

/-- A whole number below a bound, written in digits alone. -/
inductive Natural (bound : Nat) : Document → Nat → Prop where
  | digits {numeral : Numeral} {value : Nat} (whole : numeral.isWhole = true)
      (unsigned : numeral.negative = false) (number : digitsValue numeral.whole = value)
      (below : value < bound) : Natural bound (.number numeral) value

def Flag (document : Document) (value : Bool) : Prop := document = .bool value

/-- A number, or null for no limit. -/
inductive Limit : Document → Option Nat → Prop where
  | unlimited : Limit .null none
  | limit {document : Document} {value : Nat} (number : Natural word64 document value) :
      Limit document (some value)

/-- The retry policy that a section gives. -/
structure RetryFrom (given : String → Option Document) (retry : RetryPolicy) : Prop where
  maxAttempts : Given (Natural word32) 5 (given "max_attempts") retry.maxAttempts
  attemptsPerRun : Given (Natural word32) 3 (given "attempts_per_run") retry.attemptsPerRun
  baseDelay : Given (Natural word64) 250 (given "base_delay_ms") retry.baseDelay
  maxDelay : Given (Natural word64) 5000 (given "max_delay_ms") retry.maxDelay

def retryNames : List String :=
  ["max_attempts", "attempts_per_run", "base_delay_ms", "max_delay_ms"]

def RetrySection (document : Document) (retry : RetryPolicy) : Prop :=
  ∃ given, Says retryNames document given ∧ RetryFrom given retry

/-- The settings that a file gives. -/
structure SettingsFrom (given : String → Option Document) (settings : Settings) : Prop where
  batchSize : Given (Natural word64) 100 (given "batch_size") settings.batchSize
  maxInvalid : Given Limit (some 25) (given "max_invalid_per_batch") settings.maxInvalid
  abort : Given Flag false (given "abort_on_mapping_error") settings.abortOnMappingError
  poll : Given (Natural word64) 30 (given "poll_interval_secs") settings.pollSeconds
  retry : Given RetrySection ⟨5, 3, 250, 5000⟩ (given "retry") settings.retry

def settingsNames : List String :=
  ["batch_size", "max_invalid_per_batch", "abort_on_mapping_error", "poll_interval_secs", "retry"]

/-- What stands where the settings file should be gives these settings. There need not
be a file, unless it was asked for by its path. -/
inductive Filed : Option String → FileState → Settings → Prop where
  | missing : Filed none .missing ⟨100, some 25, false, 30, ⟨5, 3, 250, 5000⟩⟩
  | text {explicit : Option String} {text : String} {document : Document}
      {given : String → Option Document} {settings : Settings}
      (parsed : Document.ofText text = .ok document) (told : Says settingsNames document given)
      (filled : SettingsFrom given settings) :
      Filed explicit (.bytes (Utf8.encode text)) settings

/-- What a variable of the environment sets a number to: nothing if it is not set, and
otherwise it has to be a positive number with nothing but blanks around it. -/
inductive Variable (environment : String → Option String) (key : String) (bound : Nat) :
    Option Nat → Prop where
  | unset (absent : environment key = none) : Variable environment key bound none
  | set {raw : String} {value : Nat} (given : environment key = some raw)
      (written : Unsigned bound (trim raw) value) (positive : 0 < value) :
      Variable environment key bound (some value)

end RecordSync.Settings

namespace RecordSync.Settings

open RecordSync.Json RecordSync.Number RecordSync.Run RecordSync.Text

variable {α β : Type}

def setOne (given : String → Option Document) (value : α) (field : Field α) : Option α :=
  match given field.name with
  | none => some value
  | some document => field.set document value

def setAll (given : String → Option Document) (fields : List (Field α)) (value : α) : Option α :=
  fields.foldlM (setOne given) value

theorem setAll_nil (given : String → Option Document) (value : α) :
    setAll given [] value = some value := rfl

theorem setAll_cons (given : String → Option Document) (field : Field α)
    (fields : List (Field α)) (value : α) :
    setAll given (field :: fields) value =
      (setOne given value field).bind (setAll given fields) := by
  rw [setAll, List.foldlM_cons]
  rfl

theorem setAll_congr {given other : String → Option Document} {fields : List (Field α)}
    (same : ∀ field ∈ fields, given field.name = other field.name) (value : α) :
    setAll given fields value = setAll other fields value := by
  induction fields generalizing value with
  | nil => rfl
  | cons field fields ih =>
    obtain ⟨here, behind⟩ := List.forall_mem_cons.mp same
    rw [setAll_cons, setAll_cons, setOne, setOne, here]
    exact congrArg _ (funext (ih behind))

/-- Nothing given, nothing set. -/
theorem setAll_none {given : String → Option Document} {fields : List (Field α)}
    (nothing : ∀ field ∈ fields, given field.name = none) (value : α) :
    setAll given fields value = some value := by
  induction fields with
  | nil => rfl
  | cons field fields ih =>
    obtain ⟨here, behind⟩ := List.forall_mem_cons.mp nothing
    rw [setAll_cons, setOne, here]
    exact ih behind

/-- Two fields that may be set in either order. -/
def Field.Commutes (first second : Field α) : Prop :=
  ∀ document other value, (first.set document value).bind (second.set other) =
    (second.set other value).bind (first.set document)

/-- Fields with names of their own that may be set in any order. -/
structure Independent (fields : List (Field α)) : Prop where
  named : (fields.map (·.name)).Nodup
  commute : fields.Pairwise Field.Commutes

/-- A field may be set before the others as well as in its turn. -/
theorem Independent.set_first {fields : List (Field α)} (independent : Independent fields)
    {field : Field α} (member : field ∈ fields) {given : String → Option Document}
    (absent : given field.name = none) (document : Document) (value : α) :
    (field.set document value).bind (setAll given fields) =
      setAll (Function.update given field.name (some document)) fields value := by
  obtain ⟨named, commute⟩ := independent
  induction fields generalizing value with
  | nil => cases member
  | cons head fields ih =>
    rw [List.map_cons, List.nodup_cons] at named
    rw [List.pairwise_cons] at commute
    have others (name : String) (other : name ≠ field.name) :
        Function.update given field.name (some document) name = given name :=
      Function.update_of_ne other _ _
    by_cases same : head.name = field.name
    · have first : head = field := by
        rcases List.mem_cons.mp member with rfl | behind
        · rfl
        · exact absurd (same ▸ List.mem_map_of_mem behind) named.1
      subst first
      have unset (value : α) : setAll given (head :: fields) value = setAll given fields value := by
        rw [setAll_cons, setOne, absent]
        rfl
      have behind (value : α) :
          setAll (Function.update given head.name (some document)) fields value =
            setAll given fields value := by
        refine setAll_congr (fun other inside => others _ fun same => ?_) value
        exact named.1 (same ▸ List.mem_map_of_mem inside)
      rw [setAll_cons _ head, setOne, Function.update_self, funext unset, funext behind]
    · have behind : field ∈ fields := by
        rcases List.mem_cons.mp member with rfl | behind
        · exact absurd rfl same
        · exact behind
      have turn := funext fun value => ih behind value named.2 commute.2
      rw [setAll_cons _ head, setOne, others _ same, ← setOne, ← turn]
      rw [funext (setAll_cons given head fields), ← Option.bind_assoc, ← Option.bind_assoc]
      congr 1
      unfold setOne
      cases given head.name with
      | none => exact Option.bind_fun_some _
      | some other => exact (commute.1 field behind other document value).symm

theorem readArray_eq_setAll {given : String → Option Document} {fields : List (Field α)}
    {members : List Document} (few : members.length ≤ fields.length)
    (placed : ∀ place (inside : place < fields.length), given fields[place].name = members[place]?)
    (value : α) : readArray value fields members = setAll given fields value := by
  induction fields generalizing members value with
  | nil =>
    obtain rfl := List.length_eq_zero_iff.mp (Nat.le_zero.mp few)
    rfl
  | cons field fields ih =>
    have here : given field.name = members[0]? := placed 0 (Nat.zero_lt_succ _)
    have behind (rest : List Document) (tail : members.tail = rest) (place : Nat)
        (inside : place < fields.length) : given fields[place].name = rest[place]? := by
      rw [← tail, List.getElem?_tail]
      exact placed (place + 1) (Nat.succ_lt_succ inside)
    cases members with
    | nil =>
      have rest := ih (Nat.zero_le _) (behind [] rfl) value
      rw [setAll_cons, setOne, here]
      rwa [readArray] at rest ⊢
    | cons document rest =>
      rw [setAll_cons, setOne, here]
      exact congrArg _ (funext fun next => ih (Nat.le_of_succ_le_succ few) (behind rest rfl) next)

theorem readArray_of_more {fields : List (Field α)} {members : List Document}
    (more : fields.length < members.length) (value : α) : readArray value fields members = none := by
  induction fields generalizing members value with
  | nil =>
    cases members with
    | nil => cases more
    | cons => rfl
  | cons field fields ih =>
    cases members with
    | nil => cases more
    | cons document rest =>
      have behind := funext (ih (Nat.lt_of_succ_lt_succ more))
      rw [readArray, behind]
      exact Option.bind_fun_none _

theorem under_cons (name : String) (key : List Glyph) (document : Document)
    (members : List (List Glyph × Document)) : under name ((key, document) :: members) =
      if (textOf key).toOption = some name then document :: under name members
      else under name members := by
  rw [under, List.filter_cons]
  simp only [beq_iff_eq]
  split <;> rfl

/-- What the members of an object give of some fields, none of which was given before. -/
def Gives (names seen : List String) (members : List (List Glyph × Document))
    (given : String → Option Document) : Prop :=
  ∀ name ∈ names, under name members = (given name).toList ∧ (name ∈ seen → given name = none)

section Gives

variable {names seen : List String} {name : String} {key : List Glyph} {document : Document}
  {members : List (List Glyph × Document)} {given : String → Option Document}

theorem under_cons_self (spelt : textOf key = .ok name) :
    under name ((key, document) :: members) = document :: under name members := by
  rw [under_cons, spelt]
  exact if_pos rfl

theorem under_cons_of_ne (spelt : textOf key = .ok name) {other : String} (apart : other ≠ name) :
    under other ((key, document) :: members) = under other members := by
  rw [under_cons, spelt, if_neg]
  exact fun same => apart (Option.some.inj same).symm

/-- A member that is none of the fields gives nothing. -/
theorem gives_cons_of_notMem (spelt : textOf key = .ok name) (unknown : name ∉ names) :
    Gives names seen ((key, document) :: members) given ↔ Gives names seen members given := by
  refine forall₂_congr fun other inside => ?_
  rw [under_cons_of_ne spelt fun same => unknown (same ▸ inside)]

theorem Gives.cons (gives : Gives names (name :: seen) members given)
    (spelt : textOf key = .ok name) (known : name ∈ names) (first : name ∉ seen) :
    Gives names seen ((key, document) :: members)
      (Function.update given name (some document)) := by
  intro other inside
  by_cases same : other = name
  · obtain ⟨stands, unseen⟩ := gives name known
    have absent := unseen List.mem_cons_self
    rw [same, under_cons_self spelt, stands, absent, Function.update_self]
    exact ⟨rfl, fun before => absurd before first⟩
  · obtain ⟨stands, unseen⟩ := gives other inside
    rw [under_cons_of_ne spelt same, Function.update_of_ne same]
    exact ⟨stands, fun before => unseen (List.mem_cons_of_mem _ before)⟩

/-- A field in front is given by that member alone. -/
theorem Gives.head (gives : Gives names seen ((key, document) :: members) given)
    (spelt : textOf key = .ok name) (known : name ∈ names) :
    given name = some document ∧ name ∉ seen ∧ under name members = [] := by
  obtain ⟨stands, unseen⟩ := gives name known
  rw [under_cons_self spelt] at stands
  cases shown : given name with
  | none =>
    rw [shown] at stands
    cases stands
  | some other =>
    rw [shown] at stands
    obtain ⟨rfl, lone⟩ := List.cons.inj stands
    refine ⟨rfl, fun before => ?_, lone⟩
    cases shown.symm.trans (unseen before)

theorem Gives.tail (gives : Gives names seen ((key, document) :: members) given)
    (spelt : textOf key = .ok name) (known : name ∈ names) :
    Gives names (name :: seen) members (Function.update given name none) := by
  intro other inside
  by_cases same : other = name
  · obtain ⟨-, -, lone⟩ := gives.head spelt known
    rw [same, lone, Function.update_self]
    exact ⟨rfl, fun _ => rfl⟩
  · obtain ⟨stands, unseen⟩ := gives other inside
    rw [under_cons_of_ne spelt same] at stands
    rw [Function.update_of_ne same]
    exact ⟨stands, fun before => unseen (List.mem_of_ne_of_mem same before)⟩

end Gives

/-- What an object gives is set in whatever order it stands there. -/
theorem readObject_eq_some_iff {fields : List (Field α)} (independent : Independent fields)
    {members : List (List Glyph × Document)} {seen : List String} {value result : α} :
    readObject fields seen value members = some result ↔
      (∀ member ∈ members, ∃ name, textOf member.1 = .ok name) ∧
        ∃ given, Gives (fields.map (·.name)) seen members given ∧
          setAll given fields value = some result := by
  induction members generalizing seen value with
  | nil =>
    constructor
    · intro read
      refine ⟨by simp, fun _ => none, fun name _ => ⟨rfl, fun _ => rfl⟩, ?_⟩
      rw [setAll_none fun _ _ => rfl]
      exact read
    · rintro ⟨-, given, gives, set⟩
      rwa [setAll_none] at set
      intro field inside
      have nothing := (gives _ (List.mem_map_of_mem inside)).1
      exact Option.toList_eq_nil_iff.mp nothing.symm
  | cons member members ih =>
    obtain ⟨key, document⟩ := member
    rw [List.forall_mem_cons, readObject]
    cases spelt : textOf key with
    | error => simp [bind, Except.toOption]
    | ok name =>
      simp only [Except.toOption, bind, Option.bind_some]
      cases found : fields.find? (·.name == name) with
      | none =>
        have unknown : name ∉ fields.map (·.name) := by
          simpa [List.find?_eq_none] using found
        simp only [ih, gives_cons_of_notMem spelt unknown]
        exact and_congr_left' (by simp)
      | some field =>
        have inside := List.mem_of_find?_eq_some found
        obtain rfl : field.name = name := by simpa using List.find?_some found
        have known := List.mem_map_of_mem (f := (·.name)) inside
        by_cases again : field.name ∈ seen
        · simp only [List.contains_iff_mem, again, if_true]
          refine iff_of_false (by rintro ⟨⟩) ?_
          rintro ⟨-, given, gives, -⟩
          exact (gives.head spelt known).2.1 again
        · simp only [List.contains_iff_mem, again, if_false]
          constructor
          · intro read
            obtain ⟨next, set, rest⟩ := Option.bind_eq_some_iff.mp read
            obtain ⟨texts, given, gives, all⟩ := ih.mp rest
            have absent := (gives _ known).2 List.mem_cons_self
            refine ⟨⟨⟨_, rfl⟩, texts⟩, _, gives.cons spelt known again, ?_⟩
            rw [← independent.set_first inside absent, set]
            exact all
          · rintro ⟨⟨-, texts⟩, given, gives, all⟩
            -- without the field in front the record gives what the rest of it gives
            have back : given = Function.update (Function.update given field.name none)
                field.name (some document) := by
              rw [Function.update_idem, ← (gives.head spelt known).1, Function.update_eq_self]
            rw [back, ← independent.set_first inside (Function.update_self ..)] at all
            obtain ⟨next, set, rest⟩ := Option.bind_eq_some_iff.mp all
            exact Option.bind_eq_some_iff.mpr
              ⟨next, set, ih.mpr ⟨texts, _, gives.tail spelt known, rest⟩⟩

/-- A record is read as what it says of its fields, set one after the other. -/
theorem readRecord_eq_some_iff {fields : List (Field α)} (independent : Independent fields)
    {document : Document} {value result : α} :
    readRecord fields value document = some result ↔
      ∃ given, Says (fields.map (·.name)) document given ∧
        setAll given fields value = some result := by
  constructor
  · intro read
    cases document with
    | array members =>
      have few : members.length ≤ fields.length := by
        by_contra more
        rw [readRecord, readArray_of_more (Nat.lt_of_not_le more)] at read
        cases read
      refine ⟨fun name => members[(fields.map (·.name)).idxOf name]?, ?_⟩
      have placed (place : Nat) (inside : place < (fields.map (·.name)).length) :
          members[(fields.map (·.name)).idxOf (fields.map (·.name))[place]]? = members[place]? := by
        rw [independent.named.idxOf_getElem]
      refine ⟨.inOrder (by rwa [List.length_map]) placed, ?_⟩
      rw [← readArray_eq_setAll few fun place inside => ?_]
      · exact read
      · have here := placed place (by rwa [List.length_map])
        rwa [List.getElem_map] at here
    | object members =>
      obtain ⟨texts, given, gives, set⟩ := (readObject_eq_some_iff independent).mp read
      exact ⟨given, .byName texts fun name inside => (gives name inside).1, set⟩
    | null | bool | number | text => cases read
  · rintro ⟨given, told, set⟩
    cases told with
    | inOrder few placed =>
      rw [List.length_map] at few
      rw [readRecord, readArray_eq_setAll few fun place inside => ?_]
      · exact set
      · have here := placed place (by rwa [List.length_map])
        rwa [List.getElem_map] at here
    | byName texts named =>
      exact (readObject_eq_some_iff independent).mpr
        ⟨texts, given, fun name inside => ⟨named name inside, nofun⟩, set⟩

/-- The part of a record that a field sets, and the documents that fit it. -/
structure Field.Sets (field : Field α) (fits : Document → β → Prop) (get : α → β)
    (put : β → α → α) : Prop where
  some_iff : ∀ {document value next}, field.set document value = some next ↔
    ∃ part, fits document part ∧ next = put part value
  put_get : ∀ value, put (get value) value = value

theorem Field.Sets.setOne_eq_some_iff {field : Field α} {fits : Document → β → Prop} {get : α → β}
    {put : β → α → α} (sets : field.Sets fits get put) {given : String → Option Document}
    {value next : α} : setOne given value field = some next ↔
      ∃ part, Given fits (get value) (given field.name) part ∧ next = put part value := by
  unfold setOne
  cases given field.name with
  | none =>
    constructor
    · rintro ⟨⟩
      exact ⟨_, .left, (sets.put_get value).symm⟩
    · rintro ⟨_, ⟨⟩, rfl⟩
      exact congrArg some (sets.put_get value).symm
  | some document =>
    refine sets.some_iff.trans (exists_congr fun part => and_congr_left fun _ => ?_)
    exact ⟨.given, fun | .given fit => fit⟩

section Fits

variable {document : Document}

theorem readNatural_eq_some_iff {bound value : Nat} (word : bound ≤ word64) :
    readNatural bound document = some value ↔ Natural bound document value := by
  cases document with
  | number numeral =>
    constructor
    · intro read
      simp only [readNatural] at read
      split at read
      · rename_i number found
        obtain ⟨whole, written⟩ := Numeral.integer?_eq_some_iff.mp found
        obtain ⟨below, same⟩ := Option.ite_none_right_eq_some.mp read
        cases same
        split at written
        · exact absurd written.2.1 (Int.not_lt.mpr (Int.natCast_nonneg value))
        · rename_i unsigned
          exact .digits whole (Bool.not_eq_true _ ▸ unsigned) (Int.ofNat.inj written.1).symm below
      · cases read
    · rintro ⟨whole, unsigned, rfl, below⟩
      have found : numeral.integer? = some (digitsValue numeral.whole : Int) :=
        Numeral.integer?_eq_some_iff.mpr ⟨whole, by simp [unsigned]; omega⟩
      simp only [readNatural, found]
      exact if_pos below
  | null | bool | text | array | object => exact ⟨nofun, nofun⟩

theorem readFlag_eq_some_iff {value : Bool} :
    readFlag document = some value ↔ Flag document value := by
  cases document with
  | bool other => simp [readFlag, Flag]
  | null | number | text | array | object => exact ⟨nofun, nofun⟩

theorem readLimit_eq_some_iff {value : Option Nat} :
    readLimit document = some value ↔ Limit document value := by
  cases document with
  | null =>
    constructor
    · rintro ⟨⟩
      exact .unlimited
    · rintro (_ | ⟨⟨⟩⟩)
      rfl
  | number numeral =>
    rw [readLimit, Option.map_eq_some_iff]
    simp only [readNatural_eq_some_iff le_rfl]
    constructor
    · rintro ⟨number, fit, rfl⟩
      exact .limit fit
    · rintro ⟨⟩
      exact ⟨_, ‹_›, rfl⟩
    · nofun
  | bool | text | array | object => exact ⟨nofun, fun | .limit number => nomatch number⟩

end Fits

/-- A field that reads a document and puts what it finds into its place. -/
theorem Field.sets_of_read {name : String} {read : Document → Option β}
    {fits : Document → β → Prop} {get : α → β} {put : β → α → α}
    (reads : ∀ {document part}, read document = some part ↔ fits document part)
    (put_get : ∀ value, put (get value) value = value) :
    Field.Sets ⟨name, fun document value => do return put (← read document) value⟩ fits get put where
  some_iff {document value next} := by
    refine Option.bind_eq_some_iff.trans (exists_congr fun part => and_congr reads ?_)
    exact Option.some_inj.trans eq_comm
  put_get := put_get

theorem Field.Sets.commutes {γ : Type} {first second : Field α} {fits : Document → β → Prop}
    {get : α → β} {put : β → α → α} {fits' : Document → γ → Prop} {get' : α → γ}
    {put' : γ → α → α} (one : first.Sets fits get put) (other : second.Sets fits' get' put')
    (apart : ∀ part part' value, put' part' (put part value) = put part (put' part' value)) :
    first.Commutes second := by
  intro document document' value
  apply Option.ext
  intro next
  simp only [Option.bind_eq_some_iff, one.some_iff, other.some_iff]
  constructor
  · rintro ⟨_, ⟨part, fit, rfl⟩, part', fit', rfl⟩
    exact ⟨_, ⟨part', fit', rfl⟩, part, fit, apart part part' value⟩
  · rintro ⟨_, ⟨part', fit', rfl⟩, part, fit, rfl⟩
    exact ⟨_, ⟨part, fit, rfl⟩, part', fit', (apart part part' value).symm⟩

/-- The fields of a retry policy, and what each sets. -/
theorem retryFields_sets : ∃ attempts perRun base most : Field RetryPolicy,
    retryFields = [attempts, perRun, base, most] ∧
      [attempts.name, perRun.name, base.name, most.name] = retryNames ∧
      attempts.Sets (Natural word32) (·.maxAttempts)
        (fun part retry => { retry with maxAttempts := part }) ∧
      perRun.Sets (Natural word32) (·.attemptsPerRun)
        (fun part retry => { retry with attemptsPerRun := part }) ∧
      base.Sets (Natural word64) (·.baseDelay)
        (fun part retry => { retry with baseDelay := part }) ∧
      most.Sets (Natural word64) (·.maxDelay)
        (fun part retry => { retry with maxDelay := part }) := by
  refine ⟨_, _, _, _, rfl, rfl, ?_, ?_, ?_, ?_⟩
  · exact Field.sets_of_read (readNatural_eq_some_iff (by decide)) fun _ => rfl
  · exact Field.sets_of_read (readNatural_eq_some_iff (by decide)) fun _ => rfl
  · exact Field.sets_of_read (readNatural_eq_some_iff le_rfl) fun _ => rfl
  · exact Field.sets_of_read (readNatural_eq_some_iff le_rfl) fun _ => rfl

theorem retryFields_names : retryFields.map (·.name) = retryNames := rfl

theorem retryFields_independent : Independent retryFields := by
  obtain ⟨attempts, perRun, base, most, fields, -, setsAttempts, setsPerRun, setsBase, setsMost⟩ :=
    retryFields_sets
  refine ⟨by rw [retryFields_names]; decide, ?_⟩
  rw [fields]
  simp only [List.pairwise_cons, List.forall_mem_cons, List.not_mem_nil, false_imp_iff,
    implies_true, List.Pairwise.nil, and_true]
  exact ⟨⟨setsAttempts.commutes setsPerRun fun _ _ _ => rfl,
    setsAttempts.commutes setsBase fun _ _ _ => rfl,
    setsAttempts.commutes setsMost fun _ _ _ => rfl⟩,
    ⟨setsPerRun.commutes setsBase fun _ _ _ => rfl,
      setsPerRun.commutes setsMost fun _ _ _ => rfl⟩,
    setsBase.commutes setsMost fun _ _ _ => rfl⟩

theorem readRecord_retry_eq_some_iff {document : Document} {retry : RetryPolicy} :
    readRecord retryFields .standard document = some retry ↔
      RetrySection document retry := by
  obtain ⟨attempts, perRun, base, most, fields, names, setsAttempts, setsPerRun, setsBase,
    setsMost⟩ := retryFields_sets
  simp only [retryNames, List.cons.injEq, and_true] at names
  rw [readRecord_eq_some_iff retryFields_independent, retryFields_names, RetrySection]
  refine exists_congr fun given => and_congr_right fun _ => ?_
  simp only [fields, setAll_cons, setAll_nil, Option.bind_eq_some_iff,
    setsAttempts.setOne_eq_some_iff, setsPerRun.setOne_eq_some_iff, setsBase.setOne_eq_some_iff,
    setsMost.setOne_eq_some_iff, names]
  constructor
  · rintro ⟨_, ⟨_, attempts, rfl⟩, _, ⟨_, perRun, rfl⟩, _, ⟨_, base, rfl⟩, _, ⟨_, most, rfl⟩, ⟨⟩⟩
    exact ⟨attempts, perRun, base, most⟩
  · rintro ⟨attempts, perRun, base, most⟩
    exact ⟨_, ⟨_, attempts, rfl⟩, _, ⟨_, perRun, rfl⟩, _, ⟨_, base, rfl⟩, _, ⟨_, most, rfl⟩, rfl⟩

/-- The fields of settings, and what each sets. -/
theorem settingsFields_sets : ∃ batch invalid abort poll retry : Field Settings,
    settingsFields = [batch, invalid, abort, poll, retry] ∧
      [batch.name, invalid.name, abort.name, poll.name, retry.name] = settingsNames ∧
      batch.Sets (Natural word64) (·.batchSize)
        (fun part settings => { settings with batchSize := part }) ∧
      invalid.Sets Limit (·.maxInvalid)
        (fun part settings => { settings with maxInvalid := part }) ∧
      abort.Sets Flag (·.abortOnMappingError)
        (fun part settings => { settings with abortOnMappingError := part }) ∧
      poll.Sets (Natural word64) (·.pollSeconds)
        (fun part settings => { settings with pollSeconds := part }) ∧
      retry.Sets RetrySection (·.retry) (fun part settings => { settings with retry := part }) := by
  refine ⟨_, _, _, _, _, rfl, rfl, ?_, ?_, ?_, ?_, ?_⟩
  · exact Field.sets_of_read (readNatural_eq_some_iff le_rfl) fun _ => rfl
  · exact Field.sets_of_read readLimit_eq_some_iff fun _ => rfl
  · exact Field.sets_of_read readFlag_eq_some_iff fun _ => rfl
  · exact Field.sets_of_read (readNatural_eq_some_iff le_rfl) fun _ => rfl
  · exact Field.sets_of_read readRecord_retry_eq_some_iff fun _ => rfl

theorem settingsFields_names : settingsFields.map (·.name) = settingsNames := rfl

theorem settingsFields_independent : Independent settingsFields := by
  obtain ⟨batch, invalid, abort, poll, retry, fields, -, setsBatch, setsInvalid, setsAbort,
    setsPoll, setsRetry⟩ := settingsFields_sets
  refine ⟨by rw [settingsFields_names]; decide, ?_⟩
  rw [fields]
  simp only [List.pairwise_cons, List.forall_mem_cons, List.not_mem_nil, false_imp_iff,
    implies_true, List.Pairwise.nil, and_true]
  exact ⟨⟨setsBatch.commutes setsInvalid fun _ _ _ => rfl,
    setsBatch.commutes setsAbort fun _ _ _ => rfl,
    setsBatch.commutes setsPoll fun _ _ _ => rfl,
    setsBatch.commutes setsRetry fun _ _ _ => rfl⟩,
    ⟨setsInvalid.commutes setsAbort fun _ _ _ => rfl,
      setsInvalid.commutes setsPoll fun _ _ _ => rfl,
      setsInvalid.commutes setsRetry fun _ _ _ => rfl⟩,
    ⟨setsAbort.commutes setsPoll fun _ _ _ => rfl,
      setsAbort.commutes setsRetry fun _ _ _ => rfl⟩,
    setsPoll.commutes setsRetry fun _ _ _ => rfl⟩

theorem readRecord_settings_eq_some_iff {document : Document} {settings : Settings} :
    readRecord settingsFields .standard document = some settings ↔
      ∃ given, Says settingsNames document given ∧ SettingsFrom given settings := by
  obtain ⟨batch, invalid, abort, poll, retry, fields, names, setsBatch, setsInvalid, setsAbort,
    setsPoll, setsRetry⟩ := settingsFields_sets
  simp only [settingsNames, List.cons.injEq, and_true] at names
  rw [readRecord_eq_some_iff settingsFields_independent, settingsFields_names]
  refine exists_congr fun given => and_congr_right fun _ => ?_
  simp only [fields, setAll_cons, setAll_nil, Option.bind_eq_some_iff,
    setsBatch.setOne_eq_some_iff, setsInvalid.setOne_eq_some_iff, setsAbort.setOne_eq_some_iff,
    setsPoll.setOne_eq_some_iff, setsRetry.setOne_eq_some_iff, names]
  constructor
  · rintro ⟨_, ⟨_, batch, rfl⟩, _, ⟨_, invalid, rfl⟩, _, ⟨_, abort, rfl⟩, _, ⟨_, poll, rfl⟩, _,
      ⟨_, retry, rfl⟩, ⟨⟩⟩
    exact ⟨batch, invalid, abort, poll, retry⟩
  · rintro ⟨batch, invalid, abort, poll, retry⟩
    exact ⟨_, ⟨_, batch, rfl⟩, _, ⟨_, invalid, rfl⟩, _, ⟨_, abort, rfl⟩, _, ⟨_, poll, rfl⟩, _,
      ⟨_, retry, rfl⟩, rfl⟩

theorem ofText_eq_ok_iff {text : String} {settings : Settings} :
    ofText text = .ok settings ↔ ∃ document given, Document.ofText text = .ok document ∧
      Says settingsNames document given ∧ SettingsFrom given settings := by
  unfold ofText
  constructor
  · intro read
    split at read
    · cases read
    · rename_i document parsed
      split at read
      · rename_i found set
        cases read
        obtain ⟨given, told, filled⟩ := readRecord_settings_eq_some_iff.mp set
        exact ⟨document, given, parsed, told, filled⟩
      · cases read
  · rintro ⟨document, given, parsed, told, filled⟩
    simp only [parsed, readRecord_settings_eq_some_iff.mpr ⟨given, told, filled⟩]

theorem ofFile_eq_ok_iff {explicit : Option String} {file : FileState} {settings : Settings} :
    ofFile explicit file = .ok settings ↔ Filed explicit file settings := by
  constructor
  · intro read
    cases file with
    | missing =>
      cases explicit with
      | none =>
        cases read
        exact .missing
      | some path => cases read
    | directory => cases read
    | bytes bytes =>
      cases decoded : Utf8.decode bytes with
      | error fault =>
        rw [ofFile, decoded] at read
        cases read
      | ok text =>
        rw [ofFile, decoded] at read
        obtain rfl := Utf8.decode_spec.mp decoded
        obtain ⟨document, given, parsed, told, filled⟩ := ofText_eq_ok_iff.mp read
        exact .text parsed told filled
  · rintro (_ | ⟨parsed, told, filled⟩)
    · rfl
    · rw [ofFile, Utf8.decode_spec.mpr rfl]
      exact ofText_eq_ok_iff.mpr ⟨_, _, parsed, told, filled⟩

theorem positive?_eq_ok_iff {key : String} {bound : Nat} {environment : String → Option String}
    {found : Option Nat} :
    positive? key bound environment = .ok found ↔ Variable environment key bound found := by
  unfold positive?
  cases given : environment key with
  | none =>
    constructor
    · rintro ⟨⟩
      exact .unset given
    · rintro (_ | ⟨present, _, _⟩)
      · rfl
      · rw [given] at present
        cases present
  | some raw =>
    constructor
    · intro read
      simp only at read
      split at read
      · rename_i written
        cases read
        exact .set given (readUnsigned_eq_some_iff.mp written) (Nat.succ_pos _)
      · cases read
    · rintro (absent | ⟨present, written, positive⟩)
      · rw [given] at absent
        cases absent
      · rw [given] at present
        cases present
        simp only [readUnsigned_eq_some_iff.mpr written]
        obtain ⟨value, rfl⟩ := Nat.exists_eq_succ_of_ne_zero positive.ne'
        rfl

/-- Settings that a run can work with. -/
structure Usable (settings : Settings) : Prop where
  batchSize : 1 ≤ settings.batchSize
  maxAttempts : 1 ≤ settings.retry.maxAttempts
  attemptsPerRun : 1 ≤ settings.retry.attemptsPerRun
  delays : settings.retry.baseDelay ≤ settings.retry.maxDelay

theorem validate_eq_ok_iff {settings accepted : Settings} :
    settings.validate = .ok accepted ↔ accepted = settings ∧ settings.Usable := by
  unfold validate
  constructor
  · intro valid
    split at valid
    · cases valid
    · split at valid
      · cases valid
      · split at valid
        · cases valid
        · cases valid
          exact ⟨rfl, by omega, by omega, by omega, by omega⟩
  · rintro ⟨rfl, batchSize, maxAttempts, attemptsPerRun, delays⟩
    rw [if_neg (by omega), if_neg (by omega), if_neg (by omega)]

theorem override_eq_ok_iff {filed settings : Settings} {environment : String → Option String} :
    filed.override environment = .ok settings ↔ ∃ batchSize maxAttempts,
      Variable environment batchSizeKey word64 batchSize ∧
        Variable environment maxAttemptsKey word32 maxAttempts ∧
          settings = { filed with
            batchSize := batchSize.getD filed.batchSize
            retry := { filed.retry with
              maxAttempts := maxAttempts.getD filed.retry.maxAttempts } } := by
  simp only [override, bind_eq_ok_iff, positive?_eq_ok_iff]
  constructor
  · rintro ⟨batchSize, setsBatch, maxAttempts, setsAttempts, same⟩
    exact ⟨batchSize, maxAttempts, setsBatch, setsAttempts, (Except.ok.inj same).symm⟩
  · rintro ⟨batchSize, maxAttempts, setsBatch, setsAttempts, rfl⟩
    exact ⟨batchSize, setsBatch, maxAttempts, setsAttempts, rfl⟩

/-- The settings that a file and the environment make up are accepted exactly if the file
can be read, each variable that is set is a positive number, and what results can be worked
with, whatever the environment overrides. The batch size and the number of attempts are
those of the environment if it sets them; everything else is as in the file, and what the
file leaves out has its standard value. -/
theorem load_eq_ok_iff (explicit : Option String) (file : FileState)
    (environment : String → Option String) (settings : Settings) :
    load explicit file environment = .ok settings ↔ ∃ filed batchSize maxAttempts,
      Filed explicit file filed ∧
        Variable environment "TRS_SYNC_BATCH_SIZE" word64 batchSize ∧
          Variable environment "TRS_SYNC_MAX_ATTEMPTS" word32 maxAttempts ∧
            settings = { filed with
              batchSize := batchSize.getD filed.batchSize
              retry := { filed.retry with
                maxAttempts := maxAttempts.getD filed.retry.maxAttempts } } ∧
            settings.Usable := by
  simp only [load, bind_eq_ok_iff, ofFile_eq_ok_iff, override_eq_ok_iff, validate_eq_ok_iff]
  constructor
  · rintro ⟨filed, reads, _, ⟨batchSize, maxAttempts, setsBatch, setsAttempts, rfl⟩, rfl, usable⟩
    exact ⟨filed, batchSize, maxAttempts, reads, setsBatch, setsAttempts, rfl, usable⟩
  · rintro ⟨filed, batchSize, maxAttempts, reads, setsBatch, setsAttempts, rfl, usable⟩
    exact ⟨filed, reads, _, ⟨batchSize, maxAttempts, setsBatch, setsAttempts, rfl⟩, rfl, usable⟩

/-- A batch size of zero in the file does not matter if the environment sets it. -/
example : load none (.bytes (Utf8.encode "\x7b\"batch_size\": 0, \"retry\": [2]\x7d"))
    (fun key => if key = batchSizeKey then some " +7 " else none) =
      .ok ⟨7, some 25, false, 30, ⟨2, 3, 250, 5000⟩⟩ := by
  decide +kernel

end RecordSync.Settings
