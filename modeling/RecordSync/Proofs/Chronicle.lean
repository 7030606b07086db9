import Mathlib.Computability.Language
import Mathlib.Data.List.Chain
import RecordSync.Proofs.Ledger
import RecordSync.Proofs.Mirror

/-! The log as a chronicle of the rows. Whatever is asked of a store, in whatever
order and with whatever success, the events about a row tell its lives one after
the other, and what they tell last is how the row stands. -/

namespace RecordSync

open RecordSync.Calendar RecordSync.Record RecordSync.Store
open scoped Computability

namespace Store

/-- What can be asked of a store that may change it. -/
inductive Operation where
  | upsert (author : Author) (row : Row)
  | delete (author : Author) (entity : Entity) (externalId : String)
  | recordFailure (entity : Entity) (sequence : Nat) (externalId : Option String) (error : String)
      (now : Instant)
  | surrender (author : Author) (record : Surrender)
  | clearAttempts (entity : Entity) (position : Nat)
  | resolve (author : Author) (id : Int) (comment : Option String)
  | advanceCursor (entity : Entity) (expected next : Nat) (now : Instant)
  | resetCursor (author : Author) (entity : Entity)
  /-- Any of the others, when the database does not serve it. -/
  | unserved

/-- The store after an operation that gave a store, or none. -/
def orSame (store : Store) (result : Except SyncFault Store) : Store :=
  match result with
  | .ok after => after
  | .error _ => store

/-- The store once an operation is over. One that fails leaves it as it was. -/
def perform (store : Store) : Operation → Store
  | .upsert author row => store.orSame (store.upsert author row)
  | .delete author entity externalId => (store.delete author entity externalId).2
  | .recordFailure entity sequence externalId error now =>
    store.orSame ((store.recordFailure entity sequence externalId error now).map (·.2))
  | .surrender author record => store.orSame ((store.surrender author record).map (·.2))
  | .clearAttempts entity position => store.orSame (store.clearAttempts entity position)
  | .resolve author id comment =>
    match store.resolve author id comment with
    | some (_, after) => after
    | none => store
  | .advanceCursor entity expected next now =>
    store.orSame (store.advanceCursor entity expected next now)
  | .resetCursor author entity => (store.resetCursor author entity).2
  | .unserved => store

def EventKind.isOfRow : EventKind → Bool
  | .created => true
  | .updated => true
  | .deleted => true
  | _ => false

/-- What the log says of a row, the earliest event first. -/
def Log.chronicle (log : Log) (entity : Entity) (externalId : String) : List Event :=
  ((log.about entity.name externalId).filter (·.note.kind.isOfRow)).reverse

/-- One life of a row up to the present: it is created, and may be updated. -/
def life : Language EventKind := {[.created]} * {[.updated]}∗

/-- Lives that came to an end, one after the other. -/
def pastLives : Language EventKind := (life * {[.deleted]})∗

/-- Events that tell the lives of a row, up to the fingerprint that it has now,
if there is one. Each event sets out from where the one before it ended. -/
inductive Tells (entity : Entity) (externalId : String) : List Event → Option String → Prop where
  | unwritten : Tells entity externalId [] none
  | created {events : List Event} {event : Event} {print : String}
      (told : Tells entity externalId events none)
      (note : event.note = rowNote entity externalId .created none (some print)) :
      Tells entity externalId (events ++ [event]) (some print)
  | updated {events : List Event} {event : Event} {before print : String}
      (told : Tells entity externalId events (some before))
      (note : event.note = rowNote entity externalId .updated (some before) (some print)) :
      Tells entity externalId (events ++ [event]) (some print)
  | deleted {events : List Event} {event : Event} {before : String}
      (told : Tells entity externalId events (some before))
      (note : event.note = rowNote entity externalId .deleted (some before) none) :
      Tells entity externalId (events ++ [event]) none

namespace Tells

variable {entity : Entity} {externalId : String} {events : List Event} {print : Option String}

theorem lives (told : Tells entity externalId events print) :
    events.map (·.note.kind) ∈ if print.isSome then pastLives * life else pastLives := by
  induction told with
  | unwritten => exact Language.nil_mem_kstar _
  | created _ note ih =>
    rw [List.map_append, List.map_singleton, note]
    exact Language.append_mem_mul ih
      (Language.append_mem_mul (Set.mem_singleton [EventKind.created]) (Language.nil_mem_kstar _))
  | updated _ note ih =>
    rw [List.map_append, List.map_singleton, note]
    have more : life * {[EventKind.updated]} ≤ life := by
      rw [life, mul_assoc]
      exact mul_le_mul_right kstar_mul_le_kstar _
    have longer : pastLives * life * {[EventKind.updated]} ≤ pastLives * life := by
      rw [mul_assoc]
      exact mul_le_mul_right more _
    exact longer (Language.append_mem_mul ih (Set.mem_singleton [EventKind.updated]))
  | deleted _ note ih =>
    rw [List.map_append, List.map_singleton, note]
    have ended : pastLives * life * {[EventKind.deleted]} ≤ pastLives := by
      rw [mul_assoc]
      exact kstar_mul_le_kstar
    exact ended (Language.append_mem_mul ih (Set.mem_singleton [EventKind.deleted]))

/-- The last event leaves the fingerprint that there is. -/
theorem last (told : Tells entity externalId events print) :
    events.getLast?.bind (·.note.newValue) = print := by
  cases told with
  | unwritten => rfl
  | created _ note => simp [note, rowNote]
  | updated _ note => simp [note, rowNote]
  | deleted _ note => simp [note, rowNote]

theorem values (told : Tells entity externalId events print) :
    ∀ event ∈ events, (event.note.oldValue = none ↔ event.note.kind = .created) ∧
      (event.note.newValue = none ↔ event.note.kind = .deleted) := by
  induction told with
  | unwritten => simp
  | created _ note ih => simpa [or_imp, forall_and, note, rowNote] using ih
  | updated _ note ih => simpa [or_imp, forall_and, note, rowNote] using ih
  | deleted _ note ih => simpa [or_imp, forall_and, note, rowNote] using ih

/-- Each event sets out from the value that the one before it left. -/
theorem linked (told : Tells entity externalId events print) :
    events.IsChain fun earlier later => later.note.oldValue = earlier.note.newValue := by
  have joined {events : List Event} {event : Event} {before : Option String}
      (told : Tells entity externalId events before)
      (chain : events.IsChain fun earlier later => later.note.oldValue = earlier.note.newValue)
      (old : event.note.oldValue = before) : (events ++ [event]).IsChain fun earlier later =>
        later.note.oldValue = earlier.note.newValue := by
    refine chain.append (List.isChain_singleton event) ?_
    intro previous ended _ same
    have left := told.last
    rw [Option.mem_def.mp ended] at left
    cases same
    exact old.trans left.symm
  induction told with
  | unwritten => exact .nil
  | created told note ih => exact joined told ih (by rw [note]; rfl)
  | updated told note ih => exact joined told ih (by rw [note]; rfl)
  | deleted told note ih => exact joined told ih (by rw [note]; rfl)

end Tells

/-- A note about the row is the next line of its chronicle. -/
theorem Log.chronicle_append_same (log : Log) (author : Author) (entity : Entity)
    (externalId : String) {kind : EventKind} (ofRow : kind.isOfRow = true)
    (oldValue newValue : Option String) :
    ∃ event : Event, event.note = rowNote entity externalId kind oldValue newValue ∧
      (log.append author (rowNote entity externalId kind oldValue newValue)).chronicle entity
        externalId = log.chronicle entity externalId ++ [event] := by
  refine ⟨⟨log.length + 1, rowNote entity externalId kind oldValue newValue, author.actor,
    author.time.millis⟩, rfl, ?_⟩
  simp [Log.chronicle, Log.about, Log.append, rowNote, ofRow]

/-- A note about something else is none. -/
theorem Log.chronicle_append_other (log : Log) (author : Author) {note : Note} {entity : Entity}
    {externalId : String} (other : note.kind.isOfRow = true →
      note.subject = entity.name → note.subjectId ≠ externalId) :
    (log.append author note).chronicle entity externalId = log.chronicle entity externalId := by
  unfold Log.chronicle Log.about Log.append
  rw [List.filter_filter, List.filter_filter, List.filter_cons_of_neg]
  simp only [Bool.and_eq_true, beq_iff_eq, not_and]
  intro ofRow subject
  exact other ofRow subject

/-- Events are numbered as they come, the newest first in the log. -/
structure Log.Numbered (log : Log) : Prop where
  ordered : log.Pairwise fun newer older => older.id < newer.id
  bounded : ∀ event ∈ log, event.id ≤ log.length

theorem Log.Numbered.append {log : Log} (numbered : log.Numbered) (author : Author) (note : Note) :
    (log.append author note).Numbered := by
  refine ⟨List.pairwise_cons.mpr ⟨?_, numbered.ordered⟩, ?_⟩
  · intro event member
    exact Nat.lt_succ_of_le (numbered.bounded event member)
  · intro event member
    rcases List.mem_cons.mp member with rfl | old
    · exact Nat.le_refl _
    · exact Nat.le_succ_of_le (numbered.bounded event old)

theorem Log.Numbered.chronicle {log : Log} (numbered : log.Numbered) (entity : Entity)
    (externalId : String) :
    (log.chronicle entity externalId).Pairwise fun earlier later => earlier.id < later.id :=
  List.pairwise_reverse.mpr ((numbered.ordered.filter _).filter _)

def print? (store : Store) (entity : Entity) (externalId : String) : Option String :=
  ((store.rows.get entity).find? externalId).map (·.fingerprint)

/-- A store whose log tells of each row how it stands. -/
structure Chronicled (store : Store) : Prop where
  keyed : store.Keyed
  numbered : store.log.Numbered
  tells : ∀ entity externalId,
    Tells entity externalId (store.log.chronicle entity externalId) (store.print? entity externalId)

namespace Chronicled

variable {store after : Store}

theorem empty : Store.empty.Chronicled := by
  refine ⟨?_, ⟨.nil, nofun⟩, ?_⟩
  · intro entity
    rw [show Store.empty.rows = .both .empty from rfl, PerEntity.get_both]
    exact RowTable.empty_keyed
  · intro entity externalId
    cases entity <;> exact .unwritten

/-- What touches neither rows nor log is not told. -/
theorem beside (chronicled : store.Chronicled) (rows : after.rows = store.rows)
    (log : after.log = store.log) : after.Chronicled := by
  refine ⟨?_, log ▸ chronicled.numbered, ?_⟩
  · intro entity
    rw [rows]
    exact chronicled.keyed entity
  · intro entity externalId
    unfold print?
    rw [rows, log]
    exact chronicled.tells entity externalId

/-- The log may tell of other things. -/
theorem noted (chronicled : store.Chronicled) {author : Author} {note : Note}
    (other : note.kind.isOfRow = false) (rows : after.rows = store.rows)
    (log : after.log = store.log.append author note) : after.Chronicled := by
  refine ⟨?_, log ▸ chronicled.numbered.append author note, ?_⟩
  · intro entity
    rw [rows]
    exact chronicled.keyed entity
  · intro entity externalId
    unfold print?
    rw [rows, log, Log.chronicle_append_other _ _ fun ofRow => by simp [other] at ofRow]
    exact chronicled.tells entity externalId

/-- A table is changed under one key, and the log says so in one event. -/
theorem written (chronicled : store.Chronicled) {entity : Entity} {externalId : String}
    {table : RowTable} {author : Author} {kind : EventKind} {oldValue newValue : Option String}
    (keyed : table.Keyed)
    (others : ∀ other, other ≠ externalId →
      table.find? other = (store.rows.get entity).find? other)
    (ofRow : kind.isOfRow = true)
    (told : ∀ events event, event.note = rowNote entity externalId kind oldValue newValue →
      Tells entity externalId events (store.print? entity externalId) →
        Tells entity externalId (events ++ [event])
          ((table.find? externalId).map (·.fingerprint))) :
    (store.withRows entity table author
      (rowNote entity externalId kind oldValue newValue)).Chronicled := by
  refine ⟨?_, chronicled.numbered.append author _, ?_⟩
  · intro about
    by_cases same : about = entity
    · subst same
      simpa [withRows] using keyed
    · simpa only [withRows, PerEntity.get_set_of_ne _ _ same] using chronicled.keyed about
  · intro about name
    have before := chronicled.tells about name
    by_cases here : about = entity ∧ name = externalId
    · obtain ⟨rfl, rfl⟩ := here
      obtain ⟨event, note, appended⟩ :=
        store.log.chronicle_append_same author about name ofRow oldValue newValue
      simp only [withRows, appended, print?, PerEntity.get_set_same]
      exact told _ event note before
    · have silent : (store.log.append author
          (rowNote entity externalId kind oldValue newValue)).chronicle about name =
          store.log.chronicle about name := by
        apply Log.chronicle_append_other
        intro _ subject named
        exact here ⟨(Entity.eq_of_name_eq subject).symm, named.symm⟩
      have unchanged : ((store.rows.set entity table).get about).find? name =
          (store.rows.get about).find? name := by
        by_cases same : about = entity
        · subst same
          rw [PerEntity.get_set_same]
          exact others name fun named => here ⟨rfl, named⟩
        · rw [PerEntity.get_set_of_ne _ _ same]
      simp only [withRows, silent, print?, unchanged]
      exact before

theorem insert (chronicled : store.Chronicled) {author : Author} {row : Row}
    (done : store.insert author row = .ok after) : after.Chronicled := by
  obtain ⟨absent, _, rfl⟩ := insert_spec done
  apply chronicled.written ((chronicled.keyed _).insert absent)
    (fun other different => RowTable.find?_insert_of_ne different) rfl
  intro events event note told
  rw [RowTable.find?_insert_same absent]
  rw [print?, absent] at told
  exact .created told note

theorem overwrite (chronicled : store.Chronicled) {author : Author} {id : Int} {row : Row}
    (done : store.overwrite author id row = .ok after) : after.Chronicled := by
  obtain ⟨existing, exact, _, rfl⟩ := overwrite_spec done
  have keyed := chronicled.keyed row.entity
  obtain ⟨there, _⟩ := keyed.find?_of_findExact? exact
  obtain ⟨member, named⟩ := RowTable.mem_of_find? there
  apply chronicled.written (keyed.overwrite member named.symm)
    (fun other different => RowTable.find?_overwrite_of_ne keyed member named.symm different) rfl
  intro events event note told
  rw [RowTable.find?_overwrite_same keyed member named.symm]
  rw [print?, there] at told
  exact .updated told note

theorem upsert (chronicled : store.Chronicled) {author : Author} {row : Row}
    (done : store.upsert author row = .ok after) : after.Chronicled := by
  unfold Store.upsert at done
  split at done
  · exact chronicled.insert done
  · exact chronicled.overwrite done

theorem delete (chronicled : store.Chronicled) (author : Author) (entity : Entity)
    (externalId : String) : (store.delete author entity externalId).2.Chronicled := by
  unfold Store.delete
  dsimp only
  split
  · exact chronicled
  · rename_i existing there
    apply chronicled.written ((chronicled.keyed entity).erase externalId)
      (fun other different => RowTable.find?_erase_of_ne different) rfl
    intro events event note told
    rw [RowTable.find?_erase_same]
    rw [print?, there] at told
    exact .deleted told note

theorem orSame (chronicled : store.Chronicled) {result : Except SyncFault Store}
    (kept : ∀ after, result = .ok after → after.Chronicled) :
    (store.orSame result).Chronicled := by
  cases result with
  | error fault => exact chronicled
  | ok after => exact kept after rfl

/-- Whatever is asked of a store, its log goes on telling of the rows. -/
theorem perform (chronicled : store.Chronicled) (operation : Operation) :
    (store.perform operation).Chronicled := by
  cases operation with
  | upsert author row => exact chronicled.orSame fun after done => chronicled.upsert done
  | delete author entity externalId => exact chronicled.delete author entity externalId
  | recordFailure entity sequence externalId error now =>
    apply chronicled.orSame
    intro after done
    obtain ⟨⟨_, _⟩, recorded, rfl⟩ := map_eq_ok_iff.mp done
    have only := recordFailure_onlyAttempts recorded
    exact chronicled.beside only.rows only.log
  | surrender author record =>
    apply chronicled.orSame
    intro after done
    obtain ⟨⟨_, _⟩, given, rfl⟩ := map_eq_ok_iff.mp done
    unfold Store.surrender at given
    split at given
    · cases given
    · cases given
      exact chronicled.noted rfl rfl rfl
  | clearAttempts entity position =>
    apply chronicled.orSame
    intro after cleared
    have only := clearAttempts_onlyAttempts cleared
    exact chronicled.beside only.rows only.log
  | resolve author id comment =>
    unfold Store.perform Store.resolve
    dsimp only
    split
    · rename_i answer after answered
      split at answered
      · cases answered
      · split at answered
        · cases answered
          exact chronicled.noted rfl rfl rfl
        · cases answered
          exact chronicled
    · exact chronicled
  | advanceCursor entity expected next now =>
    apply chronicled.orSame
    intro after done
    obtain ⟨_, _, rfl⟩ := advanceCursor_eq_ok done
    exact chronicled.beside rfl rfl
  | resetCursor author entity => exact chronicled.noted rfl rfl rfl
  | unserved => exact chronicled

theorem foldl (chronicled : store.Chronicled) (operations : List Operation) :
    (operations.foldl Store.perform store).Chronicled := by
  induction operations generalizing store with
  | nil => exact chronicled
  | cons operation rest ih => exact ih (chronicled.perform operation)

end Chronicled

/-- Whatever was asked of a store that was empty at first, the events about a row
are lives one after the other, the last of them still going on if the row is
there; each event sets out from the value that the one before it left, and the
last one left the fingerprint of the row. -/
theorem log_tells_rows (operations : List Operation) (entity : Entity) (externalId : String) :
    let store := operations.foldl perform empty
    let events := store.log.chronicle entity externalId
    let row := (store.rows.get entity).find? externalId
    (events.Pairwise fun earlier later => earlier.id < later.id) ∧
      events.map (·.note.kind) ∈ pastLives * (1 + life) ∧
      (row.isSome = true ↔ ∃ last, events.getLast? = some last ∧ last.note.kind ≠ .deleted) ∧
      (events.IsChain fun earlier later => later.note.oldValue = earlier.note.newValue) ∧
      (∀ event ∈ events, (event.note.oldValue = none ↔ event.note.kind = .created) ∧
        (event.note.newValue = none ↔ event.note.kind = .deleted)) ∧
      row.map (·.fingerprint) = events.getLast?.bind (·.note.newValue) := by
  intro store events row
  have chronicled : store.Chronicled := Chronicled.empty.foldl operations
  have told : Tells entity externalId events (row.map (·.fingerprint)) :=
    chronicled.tells entity externalId
  refine ⟨chronicled.numbered.chronicle entity externalId, ?_, ?_, told.linked, told.values,
    told.last.symm⟩
  · have lives := told.lives
    rw [mul_add, mul_one, Language.mem_add]
    split at lives
    · exact .inr lives
    · exact .inl lives
  · have last := told.last
    rw [← Option.isSome_map, ← last]
    cases ended : events.getLast? with
    | none => simp
    | some event =>
      have values := (told.values event (List.mem_of_getLast? ended)).2
      simp [← values, Option.isSome_iff_ne_none]

private def exempt (id : Option Int) (fingerprint : String) : Row :=
  ⟨id, "a", .induction ⟨"p", .exempt, none, none⟩, .active, .ofMillis 0, .ofMillis 0, .ofMillis 0,
    .ofMillis 0, fingerprint⟩

/-- A row is made, overwritten, deleted and made anew. In between it is to be made while
it is there, and overwritten when it is gone; neither is told. -/
private def twoLives : List Operation :=
  let clerk : Author := ⟨"sync", .ofMillis 0⟩
  [.upsert clerk (exempt none "first"), .upsert clerk (exempt none "twice"),
    .upsert clerk (exempt (some 1) "second"), .delete clerk .induction "a",
    .upsert clerk (exempt (some 1) "late"), .upsert clerk (exempt none "third")]

theorem log_tells_rows_made_anew :
    let store := twoLives.foldl perform empty
    let events := store.log.chronicle .induction "a"
    events.map (fun event => (event.note.kind, event.note.oldValue, event.note.newValue)) =
      [(.created, none, some "first"), (.updated, some "first", some "second"),
        (.deleted, some "second", none), (.created, none, some "third")] ∧
    [EventKind.created, .updated, .deleted, .created] ∈ pastLives * (1 + life) ∧
    ((store.rows.get .induction).find? "a").map (·.fingerprint) = some "third" := by
  intro store events
  obtain ⟨told, kinds, ended⟩ :
      events.map (fun event => (event.note.kind, event.note.oldValue, event.note.newValue)) =
        [(.created, none, some "first"), (.updated, some "first", some "second"),
          (.deleted, some "second", none), (.created, none, some "third")] ∧
      events.map (·.note.kind) = [.created, .updated, .deleted, .created] ∧
      events.getLast?.bind (·.note.newValue) = some "third" := by
    decide +kernel
  obtain ⟨_, lives, _, _, _, last⟩ := log_tells_rows twoLives .induction "a"
  exact ⟨told, kinds ▸ lives, last.trans ended⟩

end Store

end RecordSync
