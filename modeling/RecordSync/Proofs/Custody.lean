import RecordSync.Proofs.Replaying

/-! The quarantine over its whole history. Entries are admitted, resolved and opened
again, by hand, by a run or by a replay; each keeps the id that it got first, and the
log says of each whether it is open. -/

namespace RecordSync

open RecordSync.Calendar RecordSync.Change RecordSync.Record RecordSync.Store

namespace Store

/-- What may be done to a store: any operation, or a replay of a quarantined record. -/
inductive Deed where
  | operation (operation : Operation)
  | replay (rowActor resolver : String) (id : Int) (now : Instant)

/-- The store once a deed is over. One that fails leaves it as it was. -/
def undergo (store : Store) : Deed → Store
  | .operation operation => store.perform operation
  | .replay rowActor resolver id now =>
    match store.replay rowActor resolver id now with
    | .ok (_, after) => after
    | .error _ => store

def history (deeds : List Deed) : Store := deeds.foldl undergo empty

def EventKind.isOfQuarantine : EventKind → Bool
  | .quarantined => true
  | .resolved => true
  | _ => false

/-- The last event about a quarantine entry, which it names by its id. -/
def Log.lastOn (log : Log) (id : Nat) : Option Event :=
  log.find? fun event =>
    event.note.kind.isOfQuarantine && event.note.newValue == some (toString id)

def Quarantined.key (entry : Quarantined) : Nat × Entity × Nat :=
  (entry.id, entry.entity, entry.sequence)

/-- One entry has given way to its successor, and the others are as they were. -/
def Quarantine.Succeeds (before after : Quarantine) (entry successor : Quarantined) : Prop :=
  ∃ front behind, before.entries = front ++ entry :: behind ∧
    after.entries = front ++ successor :: behind

/-- What resolving an entry does: it is resolved, one event says so, and nothing else is
changed. -/
structure ResolvedBy (author : Author) (comment : Option String) (entry : Quarantined)
    (before after : Store) : Prop where
  succeeds : before.quarantine.Succeeds after.quarantine entry
    { entry with resolvedAt := some (kept author.time) }
  logged : after.log = before.log.append author
    ⟨entry.entity.name, entry.subjectId, .resolved, none, some (toString entry.id), comment⟩
  lastId : after.quarantine.lastId = before.quarantine.lastId
  rows : after.rows = before.rows
  attempts : after.attempts = before.attempts
  cursors : after.cursors = before.cursors

/-- What giving a record up again does to its entry. -/
def Quarantined.again (entry : Quarantined) (author : Author) (record : Surrender) : Quarantined :=
  { entry with
    externalId := record.externalId
    reason := record.reason
    attempts := record.attempts
    payload := record.payload
    quarantinedAt := kept author.time
    resolvedAt := none }

/-- How the quarantine stands, and what may be done about its entries. -/
structure InCustody (store : Store) : Prop where
  /-- There is one entry for a place in a feed, at most. -/
  single : (store.quarantine.entries.map fun entry => (entry.entity, entry.sequence)).Nodup
  /-- An entry is open exactly if the last event about it says so. -/
  told : ∀ entry ∈ store.quarantine.entries, ∃ event,
    store.log.lastOn entry.id = some event ∧
      (entry.isOpen = true ↔ event.note.kind = .quarantined)
  /-- An open entry can be resolved. -/
  resolves : ∀ entry ∈ store.quarantine.entries, entry.isOpen = true → ∀ author comment,
    ∃ after, store.resolve author entry.id comment = some (true, after) ∧
      ResolvedBy author comment entry store after
  /-- One that is resolved stays as it is. -/
  stays : ∀ entry ∈ store.quarantine.entries, entry.isOpen = false → ∀ author comment,
    store.resolve author entry.id comment = some (false, store)
  /-- Without an entry there is nothing to resolve. -/
  unknown : ∀ id : Int, (∀ entry ∈ store.quarantine.entries, (entry.id : Int) ≠ id) →
    ∀ author comment, store.resolve author id comment = none
  /-- A record that has an entry can be given up again, which opens it. -/
  reopens : ∀ entry ∈ store.quarantine.entries, ∀ author record,
    record.entity = entry.entity → record.sequence = entry.sequence →
      ∃ after, store.surrender author record = .ok (entry.id, after) ∧
        store.quarantine.Succeeds after.quarantine entry (entry.again author record)
  /-- As many entries are open as are listed. -/
  counted : store.quarantine.openCount = (store.quarantine.list false).length

/-- Entries stay under their ids, and no id is given to another place. -/
structure Lasting (earlier later : Store) : Prop where
  stays : ∀ entry ∈ earlier.quarantine.entries,
    ∃ successor ∈ later.quarantine.entries, successor.key = entry.key
  own : ∀ entry ∈ earlier.quarantine.entries, ∀ other ∈ later.quarantine.entries,
    other.id = entry.id ↔ other.entity = entry.entity ∧ other.sequence = entry.sequence

section Log

variable {log : Log} {author : Author} {note : Note} {id : Nat}

/-- The latest event is the last one about the entry that it names. -/
theorem Log.lastOn_append_same (log : Log) (author : Author)
    (about : note.kind.isOfQuarantine = true) (named : note.newValue = some (toString id)) :
    (log.append author note).lastOn id =
      some ⟨log.length + 1, note, author.actor, author.time.millis⟩ := by
  rw [Log.lastOn, Log.append, List.find?_cons]
  simp only [about, named, beq_self_eq_true, Bool.and_self]

/-- An event about something else says nothing about an entry. -/
theorem Log.lastOn_append_other (log : Log) (author : Author)
    (other : note.kind.isOfQuarantine = true → note.newValue ≠ some (toString id)) :
    (log.append author note).lastOn id = log.lastOn id := by
  rw [Log.lastOn, Log.append, List.find?_cons_of_neg, Log.lastOn]
  simpa using other

theorem toString_id_ne {id other : Nat} (different : other ≠ id) :
    some (toString other) ≠ some (toString id) := by
  intro same
  have digits : Nat.toDigits 10 other = Nat.toDigits 10 id :=
    String.ofList_injective (Option.some.inj same)
  have value := congrArg (Nat.ofDigitChars 10 · 0) digits
  simp only [Nat.ofDigitChars_ten_toDigits] at value
  exact different value

end Log

variable {store after : Store} {author : Author}

/-- What a deed can do to the quarantine, and what the log then says. -/
inductive Keeps (before after : Store) : Prop where
  | aside (quarantine : after.quarantine = before.quarantine)
      (told : ∀ id, after.log.lastOn id = before.log.lastOn id)
  | admitted {entry : Quarantined} {author : Author} {note : Note}
      (entries : after.quarantine.entries = before.quarantine.entries ++ [entry])
      (fresh : ∀ other ∈ before.quarantine.entries, other.id ≠ entry.id)
      (isOpen : entry.isOpen = true) (held : entry.sequence ≤ greatestPosition)
      (log : after.log = before.log.append author note) (kind : note.kind = .quarantined)
      (named : note.newValue = some (toString entry.id))
  | succeeded {entry successor : Quarantined} {author : Author} {note : Note}
      (succeeds : before.quarantine.Succeeds after.quarantine entry successor)
      (key : successor.key = entry.key) (log : after.log = before.log.append author note)
      (about : note.kind.isOfQuarantine = true)
      (told : successor.isOpen = true ↔ note.kind = .quarantined)
      (named : note.newValue = some (toString entry.id))

/-- What the entries of a quarantine rest upon. -/
structure Entrusted (store : Store) : Prop where
  booked : store.Booked
  held : ∀ entry ∈ store.quarantine.entries, entry.sequence ≤ greatestPosition
  told : ∀ entry ∈ store.quarantine.entries, ∃ event,
    store.log.lastOn entry.id = some event ∧
      (entry.isOpen = true ↔ event.note.kind = .quarantined)

theorem empty_entrusted : empty.Entrusted := ⟨empty_booked, nofun, nofun⟩

theorem Keeps.entrusted (keeps : store.Keeps after) (entrusted : store.Entrusted)
    (booked : after.Booked) : after.Entrusted := by
  cases keeps with
  | aside quarantine told =>
    refine ⟨booked, ?_, ?_⟩
    · rw [quarantine]
      exact entrusted.held
    · simp only [quarantine, told]
      exact entrusted.told
  | @admitted entry author note entries fresh isOpen held log kind named =>
    have about : note.kind.isOfQuarantine = true := by rw [kind]; rfl
    refine ⟨booked, ?_, ?_⟩
    · rw [entries, List.forall_mem_append, List.forall_mem_singleton]
      exact ⟨entrusted.held, held⟩
    · rw [entries, List.forall_mem_append, List.forall_mem_singleton, log]
      refine ⟨fun other there => ?_, _, Log.lastOn_append_same _ _ about named, ?_⟩
      · rw [Log.lastOn_append_other]
        · exact entrusted.told other there
        · rw [named]
          exact fun _ => toString_id_ne (fresh other there).symm
      · exact iff_of_true isOpen kind
  | @succeeded entry successor author note succeeds key log about told named =>
    obtain ⟨front, behind, shape, replaced⟩ := succeeds
    have ids := entrusted.booked.quarantine.ids
    obtain ⟨sameId, _, sameSequence⟩ : successor.id = entry.id ∧
        successor.entity = entry.entity ∧ successor.sequence = entry.sequence := by
      simpa [Quarantined.key] using key
    rw [shape, List.map_append, List.map_cons, List.nodup_middle, ← List.map_append,
      List.nodup_cons] at ids
    have held := entrusted.held
    have before := entrusted.told
    rw [shape] at held before
    simp only [List.forall_mem_append, List.forall_mem_cons] at held before
    have apart (other : Quarantined) (there : other ∈ front ++ behind) :
        after.log.lastOn other.id = store.log.lastOn other.id := by
      rw [log, Log.lastOn_append_other]
      rw [named]
      exact fun _ => toString_id_ne fun taken => ids.1 (taken ▸ List.mem_map_of_mem there)
    have here := Log.lastOn_append_same store.log author about named
    refine ⟨booked, ?_, ?_⟩
    · rw [replaced]
      simp only [List.forall_mem_append, List.forall_mem_cons]
      exact ⟨held.1, sameSequence ▸ held.2.1, held.2.2⟩
    · rw [replaced]
      simp only [List.forall_mem_append, List.forall_mem_cons]
      refine ⟨fun other there => ?_, ⟨_, by rw [sameId, log]; exact here, told⟩,
        fun other there => ?_⟩
      · rw [apart other (List.mem_append_left _ there)]
        exact before.1 other there
      · rw [apart other (List.mem_append_right _ there)]
        exact before.2.2 other there

/-- The keys of the entries that there were are still the first ones. -/
theorem Keeps.keys (keeps : store.Keeps after) :
    store.quarantine.entries.map (·.key) <+: after.quarantine.entries.map (·.key) := by
  cases keeps with
  | aside quarantine _ => rw [quarantine]
  | admitted entries _ _ _ _ _ _ =>
    rw [entries, List.map_append]
    exact List.prefix_append _ _
  | succeeded succeeds key _ _ _ _ =>
    obtain ⟨front, behind, shape, replaced⟩ := succeeds
    rw [shape, replaced, List.map_append, List.map_cons, List.map_append, List.map_cons, key]

namespace Quarantine

variable {quarantine : Quarantine} {entry : Quarantined}

theorem Keyed.find?_of_mem (keyed : quarantine.Keyed) (member : entry ∈ quarantine.entries) :
    quarantine.find? entry.id = some entry := by
  cases found : quarantine.find? entry.id with
  | none => simpa using List.find?_eq_none.mp found entry member
  | some other =>
    have same : other.id = entry.id := Int.ofNat.inj (by simpa using List.find?_some found)
    exact congrArg some
      (List.inj_on_of_nodup_map keyed.ids (List.mem_of_find?_eq_some found) member same)

theorem Keyed.at?_of_mem (keyed : quarantine.Keyed) (member : entry ∈ quarantine.entries) :
    quarantine.at? entry.entity entry.sequence = some entry := by
  cases found : quarantine.at? entry.entity entry.sequence with
  | none => exact absurd rfl (at?_eq_none found entry member)
  | some other =>
    obtain ⟨there, sameEntity, sameSequence⟩ := at?_eq_some found
    exact congrArg some (List.inj_on_of_nodup_map keyed.places there member
      (Prod.ext sameEntity sameSequence))

end Quarantine

section Steps

variable {entry : Quarantined} {record : Surrender}

theorem Booked.resolve_open (booked : store.Booked) (member : entry ∈ store.quarantine.entries)
    (isOpen : entry.isOpen = true) (author : Author) (comment : Option String) :
    ∃ after, store.resolve author entry.id comment = some (true, after) ∧
      ResolvedBy author comment entry store after := by
  obtain ⟨front, behind, shape, replaced, _⟩ := @Quarantine.Keyed.replace store.quarantine
    { entry with resolvedAt := some (kept author.time) } entry booked.quarantine member rfl
  unfold Store.resolve
  simp only [booked.quarantine.find?_of_mem member, isOpen, if_true]
  exact ⟨_, rfl, ⟨front, behind, shape, replaced⟩, rfl, rfl, rfl, rfl, rfl⟩

theorem Booked.resolve_closed (booked : store.Booked) (member : entry ∈ store.quarantine.entries)
    (closed : entry.isOpen = false) (author : Author) (comment : Option String) :
    store.resolve author entry.id comment = some (false, store) := by
  unfold Store.resolve
  simp only [booked.quarantine.find?_of_mem member, closed, Bool.false_eq_true, if_false]

theorem resolve_unknown {id : Int} (unknown : ∀ entry ∈ store.quarantine.entries, (entry.id : Int) ≠ id)
    (author : Author) (comment : Option String) : store.resolve author id comment = none := by
  have absent : store.quarantine.find? id = none := by
    simpa [Quarantine.find?, List.find?_eq_none] using unknown
  unfold Store.resolve
  simp only [absent]

theorem ResolvedBy.keeps {comment : Option String}
    (resolved : ResolvedBy author comment entry store after) : store.Keeps after :=
  .succeeded resolved.succeeds rfl resolved.logged rfl (iff_of_false nofun nofun) rfl

def surrenderNote (entry : Quarantined) : Note :=
  ⟨entry.entity.name, entry.subjectId, .quarantined, none, some (toString entry.id),
    some entry.reason⟩

theorem Booked.surrender_again (booked : store.Booked)
    (member : entry ∈ store.quarantine.entries) (sameEntity : record.entity = entry.entity)
    (sameSequence : record.sequence = entry.sequence) (held : entry.sequence ≤ greatestPosition)
    (author : Author) : ∃ after, store.surrender author record = .ok (entry.id, after) ∧
      store.quarantine.Succeeds after.quarantine entry (entry.again author record) ∧
      after.log = store.log.append author (surrenderNote (entry.again author record)) := by
  obtain ⟨front, behind, shape, replaced, _⟩ := @Quarantine.Keyed.replace store.quarantine
    (entry.again author record) entry booked.quarantine member rfl
  unfold Store.surrender Quarantine.put
  rw [if_neg (by omega)]
  simp only [sameEntity, sameSequence, booked.quarantine.at?_of_mem member]
  exact ⟨_, rfl, ⟨front, behind, shape, replaced⟩, rfl⟩

theorem Booked.surrender_keeps (booked : store.Booked) {id : Nat}
    (given : store.surrender author record = .ok (id, after)) : store.Keeps after := by
  have held : record.sequence ≤ greatestPosition := by
    unfold Store.surrender at given
    by_contra above
    rw [if_pos (by omega)] at given
    cases given
  cases found : store.quarantine.at? record.entity record.sequence with
  | none =>
    unfold Store.surrender Quarantine.put at given
    rw [if_neg (by omega)] at given
    simp only [found] at given
    cases given
    refine .admitted rfl (fun other there taken => ?_) rfl held rfl rfl rfl
    have := booked.quarantine.given other there
    have taken : other.id = store.quarantine.lastId + 1 := taken
    omega
  | some entry =>
    obtain ⟨member, sameEntity, sameSequence⟩ := Quarantine.at?_eq_some found
    obtain ⟨again, given', succeeds, logged⟩ := booked.surrender_again member sameEntity.symm
      sameSequence.symm (by omega) author
    rw [given'] at given
    cases given
    exact .succeeded succeeds rfl logged rfl (iff_of_true rfl rfl) rfl

theorem Booked.resolve_keeps (booked : store.Booked) {id : Int} {comment : Option String} {wasOpen : Bool}
    (resolved : store.resolve author id comment = some (wasOpen, after)) : store.Keeps after := by
  cases found : store.quarantine.find? id with
  | none =>
    unfold Store.resolve at resolved
    simp only [found] at resolved
    cases resolved
  | some entry =>
    have member := List.mem_of_find?_eq_some found
    obtain rfl : (entry.id : Int) = id := by simpa using List.find?_some found
    cases isOpen : entry.isOpen with
    | true =>
      obtain ⟨other, again, resolvedBy⟩ := booked.resolve_open member isOpen author comment
      rw [again] at resolved
      cases resolved
      exact resolvedBy.keeps
    | false =>
      rw [booked.resolve_closed member isOpen author comment] at resolved
      cases resolved
      exact .aside rfl fun _ => rfl

/-- What becomes of a row is logged as such, if at all. -/
theorem keeps_of_row {note : Note} (ofRow : note.kind.isOfQuarantine = false)
    (quarantine : after.quarantine = store.quarantine)
    (log : after.log = store.log.append author note) : store.Keeps after := by
  refine .aside quarantine fun id => ?_
  rw [log, Log.lastOn_append_other]
  rw [ofRow]
  nofun

theorem upsert_keeps {row : Row} (done : store.upsert author row = .ok after) :
    store.Keeps after := by
  unfold upsert at done
  split at done
  · unfold insert at done
    dsimp only at done
    split at done
    · cases done
    · split at done
      · cases done
      · split at done
        · cases done
        · cases done
          exact keeps_of_row rfl rfl rfl
  · unfold overwrite at done
    dsimp only at done
    split at done
    · cases done
    · split at done
      · cases done
      · cases done
        exact keeps_of_row rfl rfl rfl

theorem delete_keeps (store : Store) (author : Author) (entity : Entity) (externalId : String) :
    store.Keeps (store.delete author entity externalId).2 := by
  unfold delete
  dsimp only
  split
  · exact .aside rfl fun _ => rfl
  · exact keeps_of_row rfl rfl rfl

theorem apply_keeps {actor : String} {change : Change} {now : Instant} {outcome : Outcome}
    (applied : store.apply actor change now = .ok (outcome, after)) : store.Keeps after := by
  obtain ⟨current, done⟩ := apply_planned applied
  generalize plan change current now = planned at done
  cases planned with
  | insert row =>
    obtain ⟨_, written, same⟩ := map_eq_ok_iff.mp done
    cases same
    exact upsert_keeps written
  | update row stale changed previous =>
    obtain ⟨_, written, same⟩ := map_eq_ok_iff.mp done
    cases same
    exact upsert_keeps written
  | delete entity externalId =>
    cases done
    exact store.delete_keeps ⟨actor, now⟩ entity externalId
  | skip outcome =>
    cases done
    exact .aside rfl fun _ => rfl

theorem Booked.perform_keeps (booked : store.Booked) (operation : Operation) :
    store.Keeps (store.perform operation) := by
  have still : store.Keeps store := .aside rfl fun _ => rfl
  have orSame {result : Except SyncFault Store}
      (keeps : ∀ after, result = .ok after → store.Keeps after) :
      store.Keeps (store.orSame result) := by
    cases result with
    | error fault => exact still
    | ok after => exact keeps after rfl
  cases operation with
  | upsert author row => exact orSame fun after => upsert_keeps
  | delete author entity externalId => exact store.delete_keeps author entity externalId
  | recordFailure entity sequence externalId error now =>
    apply orSame
    intro after done
    obtain ⟨⟨_, _⟩, recorded, rfl⟩ := map_eq_ok_iff.mp done
    obtain ⟨_, rfl⟩ := recordFailure_eq_ok recorded
    exact .aside rfl fun _ => rfl
  | surrender author record =>
    apply orSame
    intro after done
    obtain ⟨⟨_, _⟩, given, rfl⟩ := map_eq_ok_iff.mp done
    exact booked.surrender_keeps given
  | clearAttempts entity position =>
    apply orSame
    intro after done
    rw [clearAttempts_eq_ok done]
    exact .aside rfl fun _ => rfl
  | resolve author id comment =>
    unfold Store.perform
    dsimp only
    split
    · rename_i resolved
      exact booked.resolve_keeps resolved
    · exact still
  | advanceCursor entity expected next now =>
    apply orSame
    intro after done
    obtain ⟨_, _, rfl⟩ := advanceCursor_eq_ok done
    exact .aside rfl fun _ => rfl
  | resetCursor author entity => exact keeps_of_row rfl rfl rfl
  | unserved => exact still

end Steps

/-- A replay applies a change and then, at most, resolves an entry. -/
theorem replay_eq_ok {rowActor resolver : String} {id : Int} {now : Instant} {report : ReplayReport}
    (replayed : store.replay rowActor resolver id now = .ok (report, after)) :
    ∃ change outcome applied, store.apply rowActor change now = .ok (outcome, applied) ∧
      (after = applied ∨ ∃ wasOpen,
        applied.resolve ⟨resolver, now⟩ id (some "replayed") = some (wasOpen, after)) := by
  unfold replay at replayed
  split at replayed
  · cases replayed
  · split at replayed
    · cases replayed
    · rename_i outcome applied applies
      refine ⟨_, outcome, applied, applies, ?_⟩
      split at replayed
      · cases resolved : applied.resolve ⟨resolver, now⟩ id (some "replayed") with
        | none =>
          rw [resolved] at replayed
          cases replayed
          exact .inl rfl
        | some result =>
          rw [resolved] at replayed
          cases replayed
          exact .inr ⟨result.1, rfl⟩
      · cases replayed
        exact .inl rfl

/-- What a history does to the quarantine: it stays in order, and the keys of the entries
that there were are still the first ones. -/
structure Carries (before after : Store) : Prop where
  entrusted : after.Entrusted
  keys : before.quarantine.entries.map (·.key) <+: after.quarantine.entries.map (·.key)

theorem Entrusted.carries (entrusted : store.Entrusted) : store.Carries store :=
  ⟨entrusted, List.prefix_rfl⟩

theorem Carries.trans {first second third : Store} (one : first.Carries second)
    (two : second.Carries third) : first.Carries third :=
  ⟨two.entrusted, one.keys.trans two.keys⟩

theorem Entrusted.keeps (entrusted : store.Entrusted) (keeps : store.Keeps after)
    (booked : after.Booked) : store.Carries after :=
  ⟨keeps.entrusted entrusted booked, keeps.keys⟩

theorem Entrusted.undergo (entrusted : store.Entrusted) (deed : Deed) :
    store.Carries (store.undergo deed) := by
  have booked := entrusted.booked
  cases deed with
  | operation operation =>
    exact entrusted.keeps (booked.perform_keeps operation) (booked.perform operation)
  | replay rowActor resolver id now =>
    cases replayed : store.replay rowActor resolver id now with
    | error fault =>
      simp only [Store.undergo, replayed]
      exact entrusted.carries
    | ok result =>
      simp only [Store.undergo, replayed]
      obtain ⟨change, outcome, applied, applies, done⟩ := replay_eq_ok replayed
      have written := entrusted.keeps (apply_keeps applies)
        (booked.beside (apply_attempts applies) (apply_quarantine applies))
      rcases done with same | ⟨wasOpen, resolved⟩
      · exact same ▸ written
      · exact written.trans (written.entrusted.keeps
          (written.entrusted.booked.resolve_keeps resolved)
          (written.entrusted.booked.resolve resolved))

theorem Entrusted.foldl (entrusted : store.Entrusted) (deeds : List Deed) :
    store.Carries (deeds.foldl Store.undergo store) := by
  induction deeds generalizing store with
  | nil => exact entrusted.carries
  | cons deed deeds ih =>
    have first := entrusted.undergo deed
    exact first.trans (ih first.entrusted)

theorem Entrusted.inCustody (entrusted : store.Entrusted) : store.InCustody where
  single := entrusted.booked.quarantine.places
  told := entrusted.told
  resolves _ member isOpen := entrusted.booked.resolve_open member isOpen
  stays _ member closed := entrusted.booked.resolve_closed member closed
  unknown _ unknown := resolve_unknown unknown
  reopens entry member author record sameEntity sameSequence := by
    obtain ⟨after, given, succeeds, _⟩ := entrusted.booked.surrender_again member sameEntity
      sameSequence (entrusted.held entry member) author
    exact ⟨after, given, succeeds⟩
  counted := by
    rw [Quarantine.openCount, Quarantine.list, List.length_mergeSort]
    rfl

theorem Carries.lasting (carries : store.Carries after) : store.Lasting after := by
  have keyed := carries.entrusted.booked.quarantine
  have stays (entry : Quarantined) (member : entry ∈ store.quarantine.entries) :
      ∃ successor ∈ after.quarantine.entries, successor.key = entry.key := by
    have there := carries.keys.subset (List.mem_map_of_mem (f := (·.key)) member)
    obtain ⟨successor, inside, same⟩ := List.mem_map.mp there
    exact ⟨successor, inside, same⟩
  refine ⟨stays, fun entry member other inside => ?_⟩
  obtain ⟨successor, there, same⟩ := stays entry member
  obtain ⟨sameId, sameEntity, sameSequence⟩ : successor.id = entry.id ∧
      successor.entity = entry.entity ∧ successor.sequence = entry.sequence := by
    simpa [Quarantined.key] using same
  constructor
  · intro taken
    obtain rfl := List.inj_on_of_nodup_map keyed.ids inside there (taken.trans sameId.symm)
    exact ⟨sameEntity, sameSequence⟩
  · rintro ⟨entity, sequence⟩
    obtain rfl := List.inj_on_of_nodup_map keyed.places inside there
      (Prod.ext (entity.trans sameEntity.symm) (sequence.trans sameSequence.symm))
    exact sameId

/-- Whatever is done to a store that was empty at first: there is one entry for a place in
a feed at most, an entry is open exactly if the last event about it says so, an open one
can be resolved and a resolved one opened again, with nothing else changed; and whatever
is done from there on, an entry keeps its id, and no other entry gets it. -/
theorem quarantine_follows_life_cycle (deeds more : List Deed) :
    (history deeds).InCustody ∧ (history deeds).Lasting (history (deeds ++ more)) := by
  have entrusted := (empty_entrusted.foldl deeds).entrusted
  refine ⟨entrusted.inCustody, ?_⟩
  rw [history, history, List.foldl_append]
  exact (entrusted.foldl more).lasting

/-- Given up, resolved, and given up again: the entry is open under its first id. -/
example :
    let givenUp := Deed.operation
      (.surrender ⟨"run", .ofMillis 0⟩ ⟨.contact, 7, none, "locked", 2, "payload"⟩)
    let store := history [givenUp, .operation (.resolve ⟨"desk", .ofMillis 1⟩ 1 none), givenUp]
    store.quarantine.entries.map (fun entry => (entry.id, entry.isOpen)) = [(1, true)] ∧
      (store.log.lastOn 1).map (·.id) = some 3 := by
  decide +kernel

end Store

end RecordSync
