import RecordSync.Proofs.Separation
import RecordSync.Store.Replay

/-! Quarantined records tried again. What a run puts into the quarantine decodes to the
very change that it could not write, and to replay an entry is to apply its change. -/

namespace RecordSync

open RecordSync.Calendar RecordSync.Change RecordSync.Feed RecordSync.Record RecordSync.Run
  RecordSync.Store

namespace Store

variable {store applied after : Store} {author : Author} {actor : String} {change : Change}
  {now : Instant} {outcome : Outcome}

theorem Quarantine.mem_put {quarantine : Quarantine} {entry found : Quarantined}
    (member : found ∈ (quarantine.put entry).1.entries) :
    found ∈ quarantine.entries ∨ ∃ id, found = { entry with id } := by
  unfold Quarantine.put at member
  split at member
  · obtain ⟨other, there, same⟩ := List.mem_map.mp member
    split at same
    · exact .inr ⟨_, same.symm⟩
    · exact .inl (same ▸ there)
  · rcases List.mem_append.mp member with there | last
    · exact .inl there
    · exact .inr ⟨_, List.mem_singleton.mp last⟩

/-- What is in the quarantine once a record is given up. -/
theorem mem_of_surrender {record : Surrender} {id : Nat} {found : Quarantined}
    (given : store.surrender author record = .ok (id, after))
    (member : found ∈ after.quarantine.entries) : found ∈ store.quarantine.entries ∨
      found.entity = record.entity ∧ found.sequence = record.sequence ∧
        found.reason = record.reason ∧ found.payload = record.payload := by
  unfold surrender at given
  split at given
  · cases given
  · cases given
    rcases Quarantine.mem_put member with there | ⟨_, rfl⟩
    · exact .inl there
    · exact .inr ⟨rfl, rfl, rfl, rfl⟩

/-- A change that could not be applied, though no call failed, changes nothing. -/
theorem apply_of_not_applied (applies : store.apply actor change now = .ok (outcome, after))
    (without : outcome.isApplied = false) : after = store := by
  obtain ⟨current, done⟩ := apply_planned applies
  generalize plan change current now = planned at done
  cases planned with
  | insert row =>
    obtain ⟨_, _, same⟩ := map_eq_ok_iff.mp done
    cases same
    cases without
  | update row stale changed previous =>
    obtain ⟨_, _, same⟩ := map_eq_ok_iff.mp done
    cases same
    cases without
  | delete entity externalId =>
    simp only [carryOut] at done
    split at done <;> cases done <;> cases without
  | skip outcome =>
    cases done
    rfl

def replayNote (entry : Quarantined) : Note :=
  ⟨entry.entity.name, entry.subjectId, .resolved, none, some (toString entry.id), some "replayed"⟩

/-- A replay of an entry beside a plain application of its change to the same store. -/
structure ReplayedAs (store : Store) (entry : Quarantined) (resolver : Author)
    (outcome : Outcome) (applied : Store) (report : ReplayReport) (after : Store) : Prop where
  reported : report = ⟨entry.id, outcome, outcome.isApplied, reasonOf outcome⟩
  rows : after.rows = applied.rows
  chronicles : ∀ entity externalId,
    after.log.chronicle entity externalId = applied.log.chronicle entity externalId
  attempts : after.attempts = store.attempts
  cursors : after.cursors = store.cursors
  still : outcome.isApplied = false → after = store
  logged : outcome.isApplied = true → after.log =
    if entry.isOpen then applied.log.append resolver (replayNote entry) else applied.log
  closed : outcome.isApplied = true →
    ∃ closed, after.quarantine.find? entry.id = some closed ∧ closed.isOpen = false
  others : ∀ other : Quarantined, other.id ≠ entry.id →
    (other ∈ after.quarantine.entries ↔ other ∈ store.quarantine.entries)

theorem Quarantine.find?_replace {quarantine : Quarantine} {entry successor : Quarantined}
    {id : Int} {given : Nat} (found : quarantine.find? id = some entry)
    (same : successor.id = entry.id) :
    (⟨replace quarantine.entries successor, given⟩ : Quarantine).find? id = some successor := by
  have key : (entry.id : Int) = id := by simpa using List.find?_some found
  have moved (other : Quarantined) :
      ((if other.id = successor.id then successor else other).id : Int) = other.id := by
    split
    · rename_i taken
      rw [taken]
    · rfl
  unfold find? at found ⊢
  simp only [replace, List.find?_map, Function.comp_def, moved]
  rw [found, Option.map_some, if_pos same.symm]

theorem Quarantine.mem_replace_of_ne {entries : List Quarantined} {successor other : Quarantined}
    (different : other.id ≠ successor.id) :
    other ∈ replace entries successor ↔ other ∈ entries := by
  constructor
  · intro member
    obtain ⟨former, there, same⟩ := List.mem_map.mp member
    split at same
    · exact absurd (congrArg Quarantined.id same).symm different
    · exact same ▸ there
  · intro there
    exact List.mem_map.mpr ⟨other, there, if_neg different⟩

theorem reasonOf_of_applied (applied : outcome.isApplied = true) : reasonOf outcome = none := by
  cases outcome <;> first | rfl | cases applied

section
variable {entry : Quarantined} {id : Int} {resolver : String}
  (found : store.quarantine.find? id = some entry)
  (applies : store.apply actor (decode entry.delivery) now = .ok (outcome, applied))
include found applies

/-- A replay does what applying the change does, and resolves the entry if it was
applied. -/
theorem replay_of_applies : ∃ report after,
    store.replay actor resolver id now = .ok (report, after) ∧
      store.ReplayedAs entry ⟨resolver, now⟩ outcome applied report after := by
  have key : (entry.id : Int) = id := by simpa using List.find?_some found
  have still := apply_quarantine applies
  have attempts := apply_attempts applies
  have cursors := apply_cursors applies
  unfold replay
  simp only [found, applies]
  cases success : outcome.isApplied with
  | false =>
    have never : ¬ outcome.isApplied = true := by simp [success]
    have same := apply_of_not_applied applies success
    subst same
    refine ⟨_, _, rfl, ?_, rfl, fun _ _ => rfl, rfl, rfl, fun _ => rfl, fun impossible => ?_,
      fun impossible => ?_, fun _ _ => Iff.rfl⟩
    · rw [success]
    · exact absurd impossible never
    · exact absurd impossible never
  | true =>
    have never : ¬ outcome.isApplied = false := by simp [success]
    unfold resolve
    simp only [still, found, ↓reduceIte]
    cases unresolved : entry.isOpen with
    | false =>
      simp only [Bool.false_eq_true, ↓reduceIte, Option.map_some, Option.getD_some]
      refine ⟨_, _, rfl, ?_, rfl, fun _ _ => rfl, attempts, cursors,
        fun impossible => absurd impossible never, ?_, ?_, ?_⟩
      · rw [success, reasonOf_of_applied success]
      · intro _
        rw [unresolved]
        rfl
      · intro _
        refine ⟨entry, ?_, unresolved⟩
        rw [key]
        simpa [still] using found
      · intro other _
        simp [still]
    | true =>
      simp only [↓reduceIte, Option.map_some, Option.getD_some]
      refine ⟨_, _, rfl, ?_, rfl, ?_, attempts, cursors,
        fun impossible => absurd impossible never, ?_, ?_, ?_⟩
      · rw [success, reasonOf_of_applied success]
      · intro about externalId
        exact Log.chronicle_append_other _ _ (fun ofRow => by cases ofRow)
      · intro _
        rw [unresolved]
        rfl
      · intro _
        rw [key]
        exact ⟨_, Quarantine.find?_replace found rfl, rfl⟩
      · intro other different
        exact Quarantine.mem_replace_of_ne different

end

end Store

/-- A feed holds an entry on one of its pages, whatever it remembers when it is read. -/
def Feed.Source.Delivers (source : Source) (entity : Entity) (entry : Entry) : Prop :=
  ∃ marks position most page after,
    (source.remembering marks).fetch entity position most = .ok (page, after) ∧
      entry ∈ page.entries

theorem Feed.Source.Delivers.named {source : Source} {entity : Entity} {entry : Entry}
    (delivers : source.Delivers entity entry) : entry.delivery.entityName = entity.name := by
  obtain ⟨_, _, _, _, _, fetched, member⟩ := delivers
  exact fetch_named fetched entry member

/-- Read as UTF-8 text and with its entity's name, a delivery is what is kept of it. -/
theorem Feed.Entry.delivery_kept {entry : Entry} {entity : Entity} {found : Quarantined}
    (named : entry.delivery.entityName = entity.name) (readable : entry.delivery.unreadable = none)
    (about : found.entity = entity) (payload : found.payload = entry.delivery.payload) :
    found.delivery = entry.delivery := by
  obtain ⟨_, entityName, text, _⟩ := entry
  cases readable
  unfold Quarantined.delivery Delivery.ofText
  rw [about, payload]
  exact congrArg (Delivery.mk · text none) named.symm

namespace Run

open Work

variable {σ : Type} {worker : Worker σ} {entity : Entity}

/-- To apply a change that cannot be used takes no call, so nothing can fail. -/
theorem Worker.Failed.valid {change : Change} {fault : SyncFault} {now : Instant} {desk : Desk σ}
    (failed : worker.Failed change fault now desk) (name : String) (externalId : Option String)
    (cause : PayloadFault) : change ≠ .invalid name externalId cause := by
  rintro rfl
  obtain ⟨_, _, tried, _⟩ := failed
  injection tried with impossible
  cases impossible

/-- What the quarantine holds of a delivery that could not be written: decoding it gives
the very change that was tried, which is one that can be used. -/
structure Worker.StandsFor (worker : Worker σ) (entity : Entity) (entry : Entry)
    (found : Quarantined) : Prop where
  about : found.entity = entity
  place : found.sequence = entry.sequence
  failed : ∃ fault now desk, worker.Failed (decode entry.delivery) fault now desk ∧
    found.reason = fault.message
  change : decode found.delivery = decode entry.delivery
  valid : ∀ name externalId cause, decode found.delivery ≠ .invalid name externalId cause

theorem Worker.Failed.standsFor {entry : Entry} {fault : SyncFault} {now : Instant}
    {desk : Desk σ} {found : Quarantined}
    (failed : worker.Failed (decode entry.delivery) fault now desk)
    (named : entry.delivery.entityName = entity.name) (about : found.entity = entity)
    (place : found.sequence = entry.sequence) (reason : found.reason = fault.message)
    (payload : found.payload = entry.delivery.payload) : worker.StandsFor entity entry found := by
  have readable : entry.delivery.unreadable = none := by
    cases unreadable : entry.delivery.unreadable with
    | none => rfl
    | some cause =>
      refine absurd ?_ (failed.valid entry.delivery.entityName none (.unreadable cause))
      simp only [decode, unreadable]
  have same : decode found.delivery = decode entry.delivery := by
    rw [Entry.delivery_kept named readable about payload]
  refine ⟨about, place, ⟨fault, now, desk, failed, reason⟩, same, ?_⟩
  rw [same]
  exact failed.valid

/-- What is new in the quarantine stands for deliveries of the feed. -/
def Worker.Accounts (worker : Worker σ) (entity : Entity) (start after : Desk σ) : Prop :=
  (∃ marks, after.source = start.source.remembering marks) ∧
    ∀ found ∈ after.store.quarantine.entries, found ∈ start.store.quarantine.entries ∨
      ∃ entry, start.source.Delivers entity entry ∧ worker.StandsFor entity entry found

theorem Worker.Accounts.onStore {start before after : Desk σ}
    (accounts : worker.Accounts entity start before) (beside : before.SameBeside after)
    (still : after.store.quarantine = before.store.quarantine) :
    worker.Accounts entity start after := by
  obtain ⟨source, entries⟩ := accounts
  exact ⟨beside.source ▸ source, still ▸ entries⟩

theorem Worker.accounts_preserved (worker : Worker σ) (entity : Entity) (start : Desk σ) :
    worker.Preserves entity (start.source.Delivers entity) (worker.Accounts entity start) where
  alike alike accounts := accounts.onStore alike.toSameBeside (by rw [alike.store])
  fetched := by
    rintro before after position page fetched store _ ⟨⟨marks, same⟩, entries⟩
    rw [same] at fetched
    refine ⟨⟨?_, store ▸ entries⟩, fun entry member => ⟨_, _, _, _, _, fetched, member⟩⟩
    obtain ⟨later, remembered, _⟩ := Source.fetch_marks fetched
    exact ⟨later, by rw [remembered, Source.remembering_remembering]⟩
  applied := by
    intro before after entry outcome now _ beside applied accounts
    have still := apply_quarantine applied
    exact accounts.onStore beside still
  counted := by
    intro before after entry fault now attempts beside recorded accounts
    exact accounts.onStore beside (recordFailure_onlyAttempts recorded).quarantine
  surrendered := by
    rintro before after entry fault now attempts id delivered failed beside given
      ⟨source, entries⟩
    refine ⟨beside.source ▸ source, fun found member => ?_⟩
    rcases mem_of_surrender given member with there | ⟨about, place, reason, payload⟩
    · exact entries found there
    · exact .inr ⟨entry, delivered, failed.standsFor delivered.named about place reason payload⟩
  moved := by
    rintro before after position now alike ⟨source, entries⟩
    have beside : after.source = before.source := by
      rw [alike.source]
      cases worker.cursors <;> rfl
    have still : after.store.quarantine = before.store.quarantine := by
      rw [alike.store, Desk.moved_quarantine]
    exact ⟨beside ▸ source, still ▸ entries⟩
  cleared := by
    intro before after position beside cleared accounts
    exact accounts.onStore beside (clearAttempts_onlyAttempts cleared).quarantine

/-- Whatever a run puts into the quarantine stands for a delivery of its feed whose
change it could not write. At any later time, in any store, to replay an entry is to
apply that change: with the same outcome, or the same fault, and the same effect on rows.
The entry is resolved if the change was applied, and otherwise nothing changes. -/
theorem Worker.replays_faithfully (worker : Worker σ) (entity : Entity) (request : Request)
    (desk : Desk σ) :
    (worker.serve entity request).Ends desk (fun _ after =>
      ∀ found ∈ after.store.quarantine.entries, found ∈ desk.store.quarantine.entries ∨
        ∃ entry, desk.source.Delivers entity entry ∧ worker.StandsFor entity entry found) ∧
    ∀ (store : Store) (actor resolver : String) (id : Int) (now : Instant),
      match store.quarantine.find? id with
      | none => store.replay actor resolver id now = .error (.quarantineNotFound id)
      | some entry =>
        match store.apply actor (decode entry.delivery) now with
        | .error fault => store.replay actor resolver id now = .error (.sync fault)
        | .ok (outcome, applied) => ∃ report after,
            store.replay actor resolver id now = .ok (report, after) ∧
              store.ReplayedAs entry ⟨resolver, now⟩ outcome applied report after := by
  constructor
  · have start : worker.Accounts entity desk desk :=
      ⟨⟨_, (desk.source.remembering_marks).symm⟩, fun _ there => .inl there⟩
    exact ((worker.accounts_preserved entity desk).serve request start).mono
      fun _ _ accounts => accounts.2
  · intro store actor resolver id now
    cases found : store.quarantine.find? id with
    | none =>
      unfold replay
      rw [found]
    | some entry =>
      dsimp only
      cases applies : store.apply actor (decode entry.delivery) now with
      | error fault =>
        unfold replay
        simp only [found, applies]
      | ok answer => exact replay_of_applies found applies

/-- No row can be written. -/
private def jammed : Surroundings Unit where
  now around := (.ofMillis 0, around)
  cancelled around := (false, around)
  meet call around :=
    match call with
    | .write .. => (some (.store .locked), around)
    | _ => (none, around)
  wait _ around := around

private def hasty : Worker Unit :=
  ⟨jammed, "sync", .store, ⟨1, false, some 25, false, false, .immediate 1 1⟩⟩

private def oneContact : Desk Unit :=
  ⟨.empty, .start, .memory ⟨["\x7b\"id\":\"a\",\"createdon\":\"2020-01-01T00:00:00Z\"," ++
    "\"modifiedon\":\"2020-01-01T00:00:00Z\",\"statecode\":0," ++
    "\"attributes\":\x7b\"firstname\":\"A\",\"lastname\":\"B\"\x7d\x7d"], []⟩, ()⟩

/-- A record that could not be written is created by its replay. -/
theorem Worker.replays_faithfully_created :
    ∃ tally after report final, (hasty.serve .contact .batch).exec oneContact = (.ok tally, after) ∧
      (∀ found ∈ after.store.quarantine.entries, ∃ entry,
        oneContact.source.Delivers .contact entry ∧ hasty.StandsFor .contact entry found) ∧
      after.store.replay "sync" "operator" 1 (.ofMillis 1) = .ok (report, final) ∧
      report = ⟨1, .created, true, none⟩ ∧
      ∃ closed, final.quarantine.find? 1 = some closed ∧ closed.isOpen = false := by
  obtain ⟨stands, replays⟩ := replays_faithfully hasty .contact .batch oneContact
  have ran := @exec_of_answer _ _ (hasty.serve .contact .batch) oneContact
    ⟨.contact, 1, 0, 0, 0, 0, 0, 0, 0, 0, 1, 0, 1, 0, 1, .windowFull, false⟩ (by decide +kernel)
  have again : (((hasty.serve .contact .batch).exec oneContact).2.store.replay "sync" "operator" 1
      (.ofMillis 1)).toOption.map (·.1) = some ⟨1, .created, true, none⟩ := by decide +kernel
  generalize ((hasty.serve .contact .batch).exec oneContact).2 = after at ran again
  have replayed := replays after.store "sync" "operator" 1 (.ofMillis 1)
  split at replayed
  · rw [replayed] at again
    cases again
  · split at replayed
    · rw [replayed] at again
      cases again
    · obtain ⟨report, final, done, same⟩ := replayed
      rw [done] at again
      injection again with told
      change report = _ at told
      have reported := told.symm.trans same.reported
      injection reported with id _ success
      obtain ⟨closed, found, resolved⟩ := same.closed success.symm
      rw [← id] at found
      refine ⟨_, after, report, final, ran, fun found member => ?_, done, told, closed, found,
        resolved⟩
      exact (stands.of_exec ran found member).resolve_left List.not_mem_nil

end Run

end RecordSync
