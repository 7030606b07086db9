import RecordSync.Proofs.Calm
import RecordSync.Proofs.Separation

/-! The same run at two desks. What it reads and answers depends on nothing but the
kind of record that it is about, so desks that agree on that kind still agree on it
after the run. -/

namespace RecordSync

open RecordSync.Calendar RecordSync.Change RecordSync.Feed RecordSync.Record RecordSync.Run
  RecordSync.Store

namespace Feed

/-- Two feeds that do not differ in what they hold and remember of a kind. -/
def Source.Agrees (entity : Entity) : Source → Source → Prop
  | .memory one, .memory other => other.get entity = one.get entity
  | .lines one, .lines other => other.directory = one.directory ∧
      other.files.get entity = one.files.get entity ∧ other.marks.get entity = one.marks.get entity
  | _, _ => False

namespace Source.Agrees

variable {entity : Entity} {one other third : Source}

theorem refl (entity : Entity) (source : Source) : source.Agrees entity source := by
  cases source with
  | memory feed => rfl
  | lines feed => exact ⟨rfl, rfl, rfl⟩

theorem symm (agrees : one.Agrees entity other) : other.Agrees entity one := by
  cases one <;> cases other
  · exact Eq.symm agrees
  · exact agrees
  · exact agrees
  · exact ⟨agrees.1.symm, agrees.2.1.symm, agrees.2.2.symm⟩

theorem trans (first : one.Agrees entity other) (second : other.Agrees entity third) :
    one.Agrees entity third := by
  cases one <;> cases other <;> cases third <;> try exact first.elim
  · exact Eq.trans second first
  · exact second.elim
  · exact second.elim
  · exact ⟨second.1.trans first.1, second.2.1.trans first.2.1, second.2.2.trans first.2.2⟩

theorem remembering {source : Source} {marks : PerEntity Mark}
    (kept : marks.get entity = source.marks.get entity) :
    source.Agrees entity (source.remembering marks) := by
  cases source with
  | memory feed => rfl
  | lines feed => exact ⟨rfl, rfl, kept⟩

/-- The same page is read, or the same fault met. -/
theorem fetch (agrees : one.Agrees entity other) (position most : Nat) :
    match one.fetch entity position most, other.fetch entity position most with
    | .ok (page, after), .ok (same, later) => same = page ∧ after.Agrees entity later
    | .error fault, .error same => same = fault
    | _, _ => False := by
  cases one with
  | memory feed =>
    cases other with
    | lines feed => exact agrees.elim
    | memory mirror =>
      have same : mirror.get entity = feed.get entity := agrees
      simp only [Source.fetch, MemoryFeed.fetch, MemoryFeed.entries, same, true_and]
      exact agrees
  | lines feed =>
    cases other with
    | memory feed => exact agrees.elim
    | lines mirror =>
      obtain ⟨directory, files, marks⟩ := agrees
      simp only [Source.fetch, LineFeed.fetch, LineFeed.path, directory, files, marks]
      cases found : feed.files.get entity with
      | missing => exact ⟨rfl, directory, files, marks⟩
      | directory => rfl
      | bytes bytes =>
        refine ⟨rfl, rfl, files, ?_⟩
        simp only [PerEntity.get_set_same]

theorem entryBound (agrees : one.Agrees entity other) :
    entryBound other entity = entryBound one entity := by
  cases one <;> cases other
  · simp only [Run.entryBound, MemoryFeed.length, show _ = _ from agrees]
  · exact agrees.elim
  · exact agrees.elim
  · simp only [Run.entryBound, agrees.2.1]

end Source.Agrees

end Feed

def Run.Ending.given : Ending → Nat
  | .quarantined => 1
  | _ => 0

namespace Store

/-- What the log says of a kind of record, without the numbers of its events. -/
def Log.told (log : Log) (entity : Entity) : List (Note × String × Int) :=
  (log.ofEntity entity).map fun event => (event.note, event.actor, event.time)

/-- Two stores that do not differ in a kind of record. Once one of its records was
given up, nothing is said of its events and of the quarantine. -/
structure Concurs (entity : Entity) (given : Nat) (one other : Store) : Prop where
  rows : other.rows.get entity = one.rows.get entity
  attempts : other.attempts.get entity = one.attempts.get entity
  cursors : other.cursors.get entity = one.cursors.get entity
  events : given = 0 → other.log.told entity = one.log.told entity
  quarantine : given = 0 → other.quarantine.ofEntity entity = one.quarantine.ofEntity entity

/-- Two operations with the same answer, or the same fault, that leave stores which do
not differ in a kind of record, as far as so many records given up allow. -/
def Accord {α β : Type} (entity : Entity) (given : β → Nat) (answer : α → β) :
    Except SyncFault (α × Store) → Except SyncFault (α × Store) → Prop
  | .ok (value, one), .ok (same, other) =>
    answer same = answer value ∧ one.Concurs entity (given (answer value)) other
  | .error fault, .error same => same = fault
  | _, _ => False

variable {entity : Entity} {given : Nat} {one other third : Store}

theorem Concurs.refl (entity : Entity) (given : Nat) (store : Store) :
    store.Concurs entity given store :=
  ⟨rfl, rfl, rfl, fun _ => rfl, fun _ => rfl⟩

theorem Concurs.symm (concurs : one.Concurs entity given other) :
    other.Concurs entity given one :=
  ⟨concurs.rows.symm, concurs.attempts.symm, concurs.cursors.symm,
    fun none => (concurs.events none).symm, fun none => (concurs.quarantine none).symm⟩

theorem Concurs.trans (first : one.Concurs entity given other)
    (second : other.Concurs entity given third) : one.Concurs entity given third :=
  ⟨second.rows.trans first.rows, second.attempts.trans first.attempts,
    second.cursors.trans first.cursors,
    fun none => (second.events none).trans (first.events none),
    fun none => (second.quarantine none).trans (first.quarantine none)⟩

theorem Concurs.mono {more : Nat} (concurs : one.Concurs entity given other)
    (fewer : more = 0 → given = 0) : one.Concurs entity more other :=
  ⟨concurs.rows, concurs.attempts, concurs.cursors, fun none => concurs.events (fewer none),
    fun none => concurs.quarantine (fewer none)⟩

theorem Spares.concurs (spares : one.Spares entity other) (given : Nat) :
    one.Concurs entity given other := by
  refine ⟨spares.rows, spares.attempts, spares.cursors, fun _ => ?_, fun _ => spares.quarantine⟩
  unfold Log.told
  rw [spares.events]

section
variable (concurs : one.Concurs entity given other)
include concurs

theorem Concurs.cursor_eq : other.cursor entity = one.cursor entity := by
  simp only [Store.cursor, concurs.cursors]

theorem Concurs.read_eq (externalId : String) :
    other.read entity externalId = one.read entity externalId := by
  simp only [Store.read, concurs.rows]

/-- The same write of a row is logged in the same words. -/
theorem Concurs.withRows (table : RowTable) (author : Author) (note : Note) :
    (one.withRows entity table author note).Concurs entity given
      (other.withRows entity table author note) := by
  refine ⟨?_, concurs.attempts, concurs.cursors, ?_, concurs.quarantine⟩
  · simp only [Store.withRows, PerEntity.get_set_same]
  · intro none
    have events := concurs.events none
    simp only [Log.told, Log.ofEntity, Store.withRows, Log.append, List.filter_cons] at events ⊢
    split
    · simp only [List.map_cons, events]
    · exact events

theorem Concurs.carryOut (author : Author) {plan : Plan} (about : plan.About entity) :
    Accord entity (fun _ => given) id (one.carryOut author plan) (other.carryOut author plan) := by
  have inserted {row : Row} (about : row.entity = entity) (outcome : Outcome) :
      Accord entity (fun _ => given) id ((one.insert author row).map fun store => (outcome, store))
        ((other.insert author row).map fun store => (outcome, store)) := by
    subst about
    unfold Store.insert
    simp only [concurs.rows]
    split
    · rfl
    · split
      · rfl
      · split
        · rfl
        · exact ⟨rfl, concurs.withRows _ _ _⟩
  have overwritten {row : Row} {key : Int} (about : row.entity = entity) (outcome : Outcome) :
      Accord entity (fun _ => given) id
        ((one.overwrite author key row).map fun store => (outcome, store))
        ((other.overwrite author key row).map fun store => (outcome, store)) := by
    subst about
    unfold Store.overwrite
    simp only [concurs.rows]
    split
    · rfl
    · split
      · rfl
      · exact ⟨rfl, concurs.withRows _ _ _⟩
  have upserted {row : Row} (about : row.entity = entity) (outcome : Outcome) :
      Accord entity (fun _ => given) id ((one.upsert author row).map fun store => (outcome, store))
        ((other.upsert author row).map fun store => (outcome, store)) := by
    unfold Store.upsert
    cases row.id with
    | none => exact inserted about outcome
    | some key => exact overwritten about outcome
  cases plan with
  | insert row => exact upserted about _
  | update row stale changed previous => exact upserted about _
  | delete subject externalId =>
    cases about
    unfold Store.carryOut Store.delete
    simp only [concurs.rows]
    split
    · exact ⟨rfl, concurs⟩
    · exact ⟨rfl, concurs.withRows _ _ _⟩
  | skip outcome => exact ⟨rfl, concurs⟩

theorem Concurs.recordFailure (sequence : Nat) (externalId : Option String) (error : String)
    (now : Instant) :
    Accord entity (fun _ => given) id (one.recordFailure entity sequence externalId error now)
      (other.recordFailure entity sequence externalId error now) := by
  unfold Store.recordFailure
  simp only [concurs.attempts]
  split
  · rfl
  · exact ⟨rfl, concurs.rows, by simp only [PerEntity.get_set_same], concurs.cursors,
      concurs.events, concurs.quarantine⟩

/-- Entries may get different ids, so no more is said of the events. -/
theorem Concurs.surrender (author : Author) {record : Surrender} (about : record.entity = entity) :
    Accord entity (fun ending => given + Ending.given ending) (fun _ => .quarantined)
      (one.surrender author record) (other.surrender author record) := by
  subst about
  unfold Store.surrender
  split
  · rfl
  · refine ⟨rfl, concurs.rows, ?_, concurs.cursors, nofun, nofun⟩
    simp only [concurs.attempts, PerEntity.get_set_same]

theorem Concurs.clearAttempts (position : Nat) :
    Accord entity (fun _ => given) id ((one.clearAttempts entity position).map ((), ·))
      ((other.clearAttempts entity position).map ((), ·)) := by
  unfold Store.clearAttempts
  split
  · rfl
  · refine ⟨rfl, concurs.rows, ?_, concurs.cursors, concurs.events, concurs.quarantine⟩
    simp only [PerEntity.update, concurs.attempts, PerEntity.get_set_same]

theorem Concurs.advanceCursor (expected next : Nat) (now : Instant) :
    Accord entity (fun _ => given) id ((one.advanceCursor entity expected next now).map ((), ·))
      ((other.advanceCursor entity expected next now).map ((), ·)) := by
  unfold Store.advanceCursor
  simp only [concurs.cursor_eq]
  split
  · rfl
  · split
    · rfl
    · refine ⟨rfl, concurs.rows, concurs.attempts, ?_, concurs.events, concurs.quarantine⟩
      simp only [setCursor, PerEntity.get_set_same]

end

end Store

namespace Run

open Work

variable {σ α β : Type}

/-- Surroundings that are calm, and that waiting does not change either. -/
structure Surroundings.Steady (surroundings : Surroundings σ) (now : Instant) (calm : σ → Prop) :
    Prop extends surroundings.Calm now calm where
  rests : ∀ millis around, calm around → calm (surroundings.wait millis around)

theorem motionless_steady (now : Instant) : (motionless now).Steady now fun _ => True :=
  ⟨motionless_calm now, fun _ _ _ => trivial⟩

/-- A number for each end: that of an answer, or one number for all faults. -/
def Work.byEnd (faults : Nat) (count : α → Nat) : Except SyncFault α → Nat
  | .ok value => count value
  | .error _ => faults

/-- Two desks in calm surroundings that do not differ in a kind of record. -/
structure Desk.Agrees (calm : σ → Prop) (entity : Entity) (given : Nat) (one other : Desk σ) :
    Prop where
  store : one.store.Concurs entity given other.store
  memory : other.memory.get entity = one.memory.get entity
  source : one.source.Agrees entity other.source
  quiet : calm one.around
  calmly : calm other.around

namespace Desk.Agrees

variable {calm : σ → Prop} {entity : Entity} {given : Nat} {one other after later : Desk σ}

theorem refl (entity : Entity) (given : Nat) (desk : Desk σ) (quiet : calm desk.around) :
    desk.Agrees calm entity given desk :=
  ⟨.refl entity given _, rfl, .refl entity _, quiet, quiet⟩

theorem mono {more : Nat} (agrees : one.Agrees calm entity given other)
    (fewer : more = 0 → given = 0) : one.Agrees calm entity more other :=
  ⟨agrees.store.mono fewer, agrees.memory, agrees.source, agrees.quiet, agrees.calmly⟩

/-- Only the stores changed, and in the same way. -/
theorem onStore {more : Nat} (agrees : one.Agrees calm entity given other) {store mirror : Store}
    (concurs : store.Concurs entity more mirror) :
    ({ one with store } : Desk σ).Agrees calm entity more { other with store := mirror } :=
  ⟨concurs, agrees.memory, agrees.source, agrees.quiet, agrees.calmly⟩

end Desk.Agrees

/-- The same work at two desks comes to the same answer or fault, and leaves desks that
agree as far as so many records given up allow. -/
def Work.Twin (calm : σ → Prop) (entity : Entity) (work : Work σ α) (one other : Desk σ)
    (given : Except SyncFault α → Nat) : Prop :=
  work.Ends one fun result after => work.Ends other fun same later =>
    same = result ∧ after.Agrees calm entity (given result) later

namespace Work

variable {calm : σ → Prop} {entity : Entity} {work : Work σ α} {one other : Desk σ}
  {middle : Except SyncFault α → Nat} {given : Except SyncFault β → Nat} {count : Nat}

theorem twin_pure {kept : Except SyncFault α → Nat} (value : α)
    (agrees : one.Agrees calm entity (kept (.ok value)) other) :
    Twin calm entity (pure value) one other kept :=
  ⟨rfl, agrees⟩

/-- What the second part is to keep, it keeps after every answer of the first. -/
theorem Twin.bind {next : α → Work σ β} (first : work.Twin calm entity one other middle)
    (faulted : ∀ fault, given (.error fault) = 0 → middle (.error fault) = 0)
    (rest : ∀ value after later, work.exec one = (.ok value, after) →
      after.Agrees calm entity (middle (.ok value)) later →
      (next value).Twin calm entity after later given) :
    Twin calm entity (work >>= next) one other given := by
  obtain ⟨same, agrees⟩ := first
  unfold Twin Ends
  rcases ran : work.exec one with ⟨fault | value, after⟩
  · rcases alsoRan : work.exec other with ⟨result, later⟩
    rw [ran, alsoRan] at same agrees
    cases same
    rw [exec_bind_of_error ran, exec_bind_of_error alsoRan]
    exact ⟨rfl, agrees.mono (faulted fault)⟩
  · rcases alsoRan : work.exec other with ⟨result, later⟩
    rw [ran, alsoRan] at same agrees
    cases same
    rw [exec_bind_of_ok ran, exec_bind_of_ok alsoRan]
    exact rest value after later ran agrees

theorem Twin.mono {more : Except SyncFault α → Nat} (twin : work.Twin calm entity one other middle)
    (fewer : ∀ result, more result = 0 → middle result = 0) :
    work.Twin calm entity one other more :=
  ⟨twin.1, twin.2.mono (fewer _)⟩

theorem Twin.attempt (twin : work.Twin calm entity one other fun _ => count) :
    (Worker.attempt work).Twin calm entity one other fun _ => count := by
  obtain ⟨same, agrees⟩ := twin
  exact ⟨congrArg Except.ok same, agrees⟩

theorem Twin.of_get {next : Desk σ → Work σ β} (same : next other = next one)
    (rest : (next one).Twin calm entity one other given) :
    Twin calm entity (get >>= next) one other given := by
  show (next one).Ends one fun result after => (next other).Ends other fun same later =>
    same = result ∧ after.Agrees calm entity (given result) later
  rw [same]
  exact rest

/-- Entries that are taken in alike one by one are taken in alike altogether. -/
theorem foldlM_twin {γ : Type} {step : β → γ → Work σ β} (count : β → Nat) {faults : Nat}
    (entries : List γ) (state : β)
    (kept : ∀ entry ∈ entries, ∀ state one other, one.Agrees calm entity (count state) other →
      (step state entry).Twin calm entity one other (byEnd faults count))
    (agrees : one.Agrees calm entity (count state) other) :
    (entries.foldlM step state).Twin calm entity one other
      (byEnd faults count) := by
  induction entries generalizing state one other with
  | nil => exact twin_pure state agrees
  | cons entry rest ih =>
    rw [List.foldlM_cons]
    apply (kept entry List.mem_cons_self state one other agrees).bind
    · exact fun _ none => none
    · intro state after later _ agrees
      exact ih state (fun entry member => kept entry (List.mem_cons_of_mem _ member)) agrees

end Work

namespace Worker

variable {worker : Worker σ} {now : Instant} {calm : σ → Prop} {entity : Entity} {given : Nat}
  {one other : Desk σ} {entry : Entry} {change : Change}

theorem answer_onStore_twin (operation : Store → Except SyncFault (α × Store)) {answer : α → β}
    {count : β → Nat} (agrees : one.Agrees calm entity given other)
    (accord : Store.Accord entity count answer (operation one.store) (operation other.store)) :
    (answer <$> onStore operation : Work σ β).Twin calm entity one other (byEnd given count) := by
  unfold Twin Ends
  rw [map_eq_pure_bind, exec_bind, exec_bind, exec_onStore, exec_onStore]
  cases done : operation one.store with
  | error fault =>
    cases alsoDone : operation other.store with
    | error same =>
      rw [done, alsoDone] at accord
      exact ⟨congrArg Except.error accord, agrees⟩
    | ok answered =>
      rw [done, alsoDone] at accord
      exact accord.elim
  | ok answered =>
    cases alsoDone : operation other.store with
    | error fault =>
      rw [done, alsoDone] at accord
      exact accord.elim
    | ok same =>
      rw [done, alsoDone] at accord
      exact ⟨congrArg Except.ok accord.1, agrees.onStore accord.2⟩

theorem onStore_twin {operation : Store → Except SyncFault (α × Store)}
    (agrees : one.Agrees calm entity given other)
    (accord : Store.Accord entity (fun _ => given) id (operation one.store)
      (operation other.store)) :
    (onStore operation).Twin calm entity one other fun _ => given := by
  rw [← id_map (onStore operation)]
  apply (answer_onStore_twin operation agrees accord).mono
  intro result none
  cases result <;> exact none

/-- What a worker plans for a change concerns its kind of record alone. -/
theorem preview_about (within : change.Within entity) {time : Instant} {plan : Plan}
    {before after : Desk σ}
    (ran : (worker.preview change time).exec before = (.ok plan, after)) : plan.About entity := by
  have atomic := (worker.preview_atomic change time before).of_exec ran
  obtain ⟨previewed, _⟩ := atomic.asked
  unfold Store.preview at previewed
  split at previewed
  · cases previewed
    exact plan_about within none time
  · obtain ⟨current, _, rfl⟩ := map_eq_ok_iff.mp previewed
    exact plan_about within current time

section
variable (steady : worker.surroundings.Steady now calm)
  (agrees : one.Agrees calm entity given other)
include steady agrees

theorem now_twin : worker.now.Twin calm entity one other fun _ => given := by
  obtain ⟨told, quiet⟩ := steady.clock _ agrees.quiet
  obtain ⟨same, calmly⟩ := steady.clock _ agrees.calmly
  exact ⟨congrArg Except.ok (same.trans told.symm), agrees.store, agrees.memory, agrees.source,
    quiet, calmly⟩

theorem isCancelled_twin : worker.isCancelled.Twin calm entity one other fun _ => given := by
  obtain ⟨told, quiet⟩ := steady.going _ agrees.quiet
  obtain ⟨same, calmly⟩ := steady.going _ agrees.calmly
  exact ⟨congrArg Except.ok (same.trans told.symm), agrees.store, agrees.memory, agrees.source,
    quiet, calmly⟩

theorem wait_twin (millis : Nat) :
    (worker.wait millis).Twin calm entity one other fun _ => given :=
  ⟨rfl, agrees.store, agrees.memory, agrees.source, steady.rests _ _ agrees.quiet,
    steady.rests _ _ agrees.calmly⟩

theorem meet_twin (call : Call) : (worker.meet call).Twin calm entity one other fun _ => given := by
  obtain ⟨faultless, quiet⟩ := steady.faultless call _ agrees.quiet
  obtain ⟨alike, calmly⟩ := steady.faultless call _ agrees.calmly
  unfold Twin Ends
  rw [exec_meet, exec_meet, faultless, alike]
  exact ⟨rfl, agrees.store, agrees.memory, agrees.source, quiet, calmly⟩

/-- A call to the store that concerns the kind of record alone. -/
theorem meet_onStore_twin (call : Call) {operation : Store → Except SyncFault (α × Store)}
    (accords : ∀ {first second : Store}, first.Concurs entity given second →
      Store.Accord entity (fun _ => given) id (operation first) (operation second)) :
    Twin calm entity (do worker.meet call; onStore operation) one other fun _ => given := by
  apply (meet_twin steady agrees call).bind
  · exact fun _ none => none
  · intro _ met mate _ agrees
    exact onStore_twin agrees (accords agrees.store)

theorem readRow_twin (externalId : String) :
    (worker.readRow entity externalId).Twin calm entity one other fun _ => given := by
  apply meet_onStore_twin steady agrees
  intro first second concurs
  rw [concurs.read_eq]
  cases first.read entity externalId with
  | error fault => rfl
  | ok row => exact ⟨rfl, concurs⟩

theorem preview_twin (within : change.Within entity) (time : Instant) :
    (worker.preview change time).Twin calm entity one other fun _ => given := by
  unfold preview
  cases target : change.target? with
  | none => exact twin_pure _ agrees
  | some key =>
    obtain ⟨about, externalId⟩ := key
    cases within.target target
    apply (readRow_twin steady agrees externalId).bind
    · exact fun _ none => none
    · intro row after later _ agrees
      exact twin_pure _ agrees

theorem carryOut_twin {plan : Plan} (about : plan.About entity) (time : Instant) :
    (worker.carryOut plan time).Twin calm entity one other fun _ => given := by
  unfold carryOut
  cases callFor plan with
  | none => exact onStore_twin agrees (agrees.store.carryOut ⟨worker.actor, time⟩ about)
  | some call => exact meet_onStore_twin steady agrees call fun concurs => concurs.carryOut _ about

theorem applyOnce_twin (within : change.Within entity) :
    (worker.applyOnce change).Twin calm entity one other fun _ => given := by
  unfold applyOnce
  apply (now_twin steady agrees).bind
  · exact fun _ none => none
  · intro time told mate _ agrees
    have applied : (worker.apply change time).Twin calm entity told mate fun _ => given := by
      unfold apply
      apply (preview_twin steady agrees within time).bind
      · exact fun _ none => none
      · intro plan planned later ran agrees
        exact carryOut_twin steady agrees (preview_about within ran) time
    apply applied.attempt.bind
    · exact fun _ none => none
    · intro attempted after later _ agrees
      cases attempted with
      | ok outcome => exact twin_pure _ agrees
      | error fault =>
        dsimp only
        split
        · exact twin_pure _ agrees
        · exact ⟨rfl, agrees⟩

theorem deferOrSurrender_twin (fault : SyncFault) (time : Instant) :
    (worker.deferOrSurrender entity entry change fault time).Twin calm entity one other
      (byEnd 1 fun ending => given + ending.given) := by
  unfold deferOrSurrender
  split
  · rw [← bind_assoc]
    apply (meet_onStore_twin steady agrees _ fun concurs => concurs.recordFailure ..).bind
    · exact fun _ impossible => absurd impossible Nat.one_ne_zero
    · intro attempts noted mate _ agrees
      split
      · apply (meet_twin steady agrees _).bind
        · exact fun _ impossible => absurd impossible Nat.one_ne_zero
        · intro _ met partner _ agrees
          have called := answer_onStore_twin
            (fun store => store.surrender ⟨worker.actor, time⟩ ⟨entity, entry.sequence,
              change.externalId?, fault.message, attempts, entry.delivery.payload⟩)
            agrees (agrees.store.surrender _ rfl)
          rw [map_eq_pure_bind] at called
          apply called.mono
          intro result none
          cases result with
          | error fault => exact absurd none Nat.one_ne_zero
          | ok ending => exact none
      · exact twin_pure _ agrees
  · exact twin_pure _ agrees

theorem applyWithRetries_twin (within : change.Within entity) (retry left : Nat) :
    (worker.applyWithRetries entity entry change retry left).Twin calm entity one other
      (byEnd 1 fun ending => given + ending.given) := by
  induction left generalizing retry one other with
  | zero =>
    unfold applyWithRetries
    apply (applyOnce_twin steady agrees within).bind
    · exact fun _ impossible => absurd impossible Nat.one_ne_zero
    · intro attempted after later _ agrees
      rcases attempted with ⟨fault, time⟩ | outcome
      · exact deferOrSurrender_twin steady agrees fault time
      · exact twin_pure _ agrees
  | succ left ih =>
    unfold applyWithRetries
    apply (applyOnce_twin steady agrees within).bind
    · exact fun _ impossible => absurd impossible Nat.one_ne_zero
    · intro attempted after later _ agrees
      rcases attempted with ⟨fault, time⟩ | outcome
      · apply (isCancelled_twin steady agrees).bind
        · exact fun _ impossible => absurd impossible Nat.one_ne_zero
        · intro cancelled asked mate _ agrees
          split
          · exact deferOrSurrender_twin steady agrees fault time
          · apply (wait_twin steady agrees _).bind
            · exact fun _ impossible => absurd impossible Nat.one_ne_zero
            · intro _ rested partner _ agrees
              exact ih agrees (retry + 1)
      · exact twin_pure _ agrees

theorem planOn_twin (within : change.Within entity) (planned : Planned) (time : Instant) :
    (worker.planOn planned change time).Twin calm entity one other fun _ => given := by
  unfold planOn
  cases target : change.target? with
  | none => exact twin_pure _ agrees
  | some key =>
    obtain ⟨about, externalId⟩ := key
    cases within.target target
    dsimp only
    split
    · exact twin_pure _ agrees
    · apply (readRow_twin steady agrees externalId).bind
      · exact fun _ none => none
      · intro row after later _ agrees
        exact twin_pure _ agrees

/-- A record is dealt with alike at both desks. -/
theorem dealWith_twin (within : (decode entry.delivery).Within entity) (planned : Planned) :
    (worker.dealWith entity planned entry).Twin calm entity one other
      (byEnd 1 fun answer => given + answer.1.given) := by
  unfold dealWith
  split
  · apply (now_twin steady agrees).bind
    · exact fun _ impossible => absurd impossible Nat.one_ne_zero
    · intro time told mate _ agrees
      apply (planOn_twin steady agrees within planned time).bind
      · exact fun _ impossible => absurd impossible Nat.one_ne_zero
      · intro answer after later _ agrees
        exact twin_pure _ agrees
  · apply (applyWithRetries_twin steady agrees within 0 _).bind
    · exact fun _ none => none
    · intro ending after later _ agrees
      exact twin_pure _ agrees

end

theorem quarantined_note (progress : Progress) (options : Options) (sequence : Nat)
    (ending : Ending) : (progress.note options sequence ending).tally.quarantined =
      progress.tally.quarantined + ending.given := by
  cases ending with
  | terminal outcome => cases outcome <;> rfl
  | quarantined => rfl
  | deferred => rfl

/-- The entries of a page bear the name of its kind of record. -/
theorem fetch_named (worker : Worker σ) (entity : Entity) (position : Nat) (desk : Desk σ) :
    (worker.fetch entity position).Ends desk fun result _ => ∀ page, result = .ok page →
      ∀ entry ∈ page.entries, entry.delivery.entityName = entity.name := by
  unfold fetch
  apply (worker.meet_ends _ desk).bind
  · intro fault after _
    exact nofun
  · intro _ met _
    apply Ends.of_get
    cases fetched : met.source.fetch entity position worker.options.window with
    | error fault => exact ends_throw _ nofun
    | ok answer =>
      rintro _ ⟨⟩
      exact Source.fetch_named fetched

section
variable (steady : worker.surroundings.Steady now calm)
include steady

theorem step_twin (within : (decode entry.delivery).Within entity) (progress : Progress)
    (agrees : one.Agrees calm entity (given + progress.tally.quarantined) other) :
    (worker.step entity progress entry).Twin calm entity one other
      (byEnd 1 fun next => given + next.tally.quarantined) := by
  unfold step
  split
  · exact twin_pure _ agrees
  · apply (isCancelled_twin steady agrees).bind
    · exact fun _ impossible => absurd impossible Nat.one_ne_zero
    · intro cancelled asked mate _ agrees
      split
      · exact twin_pure _ agrees
      · apply (dealWith_twin steady agrees within progress.planned).bind
        · exact fun _ none => none
        · intro answer after later _ agrees
          apply twin_pure
          show after.Agrees calm entity
            (given + (progress.note _ _ answer.1).tally.quarantined) later
          rw [quarantined_note, ← Nat.add_assoc]
          exact agrees

theorem fetch_twin (position : Nat) (agrees : one.Agrees calm entity given other) :
    (worker.fetch entity position).Twin calm entity one other fun _ => given := by
  unfold fetch
  apply (meet_twin steady agrees _).bind
  · exact fun _ none => none
  · intro _ met mate _ agrees
    have fetched := agrees.source.fetch position worker.options.window
    unfold Twin
    apply Ends.of_get
    cases done : met.source.fetch entity position worker.options.window with
    | error fault =>
      cases alsoDone : mate.source.fetch entity position worker.options.window with
      | error same =>
        rw [done, alsoDone] at fetched
        subst fetched
        apply ends_throw
        apply Ends.of_get
        rw [alsoDone]
        exact ends_throw _ ⟨rfl, agrees⟩
      | ok answer =>
        rw [done, alsoDone] at fetched
        exact fetched.elim
    | ok answer =>
      cases alsoDone : mate.source.fetch entity position worker.options.window with
      | error fault =>
        rw [done, alsoDone] at fetched
        exact fetched.elim
      | ok same =>
        rw [done, alsoDone] at fetched
        obtain ⟨pages, source⟩ := fetched
        apply Ends.of_set
        apply ends_pure
        apply Ends.of_get
        rw [alsoDone]
        exact ⟨congrArg Except.ok pages, agrees.store, agrees.memory, source, agrees.quiet,
          agrees.calmly⟩

theorem loadCursor_twin (agrees : one.Agrees calm entity given other) :
    (worker.loadCursor entity).Twin calm entity one other fun _ => given := by
  unfold loadCursor
  apply (meet_twin steady agrees _).bind
  · exact fun _ none => none
  · intro _ met mate _ agrees
    cases place : worker.cursors with
    | memory => exact ⟨congrArg Except.ok agrees.memory, agrees⟩
    | store => exact ⟨congrArg Except.ok agrees.store.cursor_eq, agrees⟩

theorem advanceCursor_twin (expected next : Nat) (agrees : one.Agrees calm entity given other) :
    (worker.advanceCursor entity expected next).Twin calm entity one other fun _ => given := by
  unfold advanceCursor
  apply (meet_twin steady agrees _).bind
  · exact fun _ none => none
  · intro _ met mate _ agrees
    cases worker.cursors with
    | memory =>
      have there := agrees.memory
      apply Ends.of_get
      unfold MemoryCursors.advance
      by_cases found : met.memory.get entity = expected
      · simp only [found, ne_eq, not_true_eq_false, ↓reduceIte]
        apply ends_set
        apply Ends.of_get
        simp only [there, found, not_true_eq_false, ↓reduceIte]
        exact ends_set ⟨rfl, agrees.store, by simp, agrees.source, agrees.quiet, agrees.calmly⟩
      · simp only [found, ne_eq, not_false_eq_true, ↓reduceIte]
        apply ends_throw
        apply Ends.of_get
        simp only [there, found, not_false_eq_true, ↓reduceIte]
        exact ends_throw _ ⟨rfl, agrees⟩
    | store =>
      apply (now_twin steady agrees).bind
      · exact fun _ none => none
      · intro time told partner _ agrees
        exact onStore_twin agrees (agrees.store.advanceCursor expected next time)

theorem settle_twin (tally : Tally) (agrees : one.Agrees calm entity given other) :
    (worker.settle entity tally).Twin calm entity one other fun _ => given := by
  unfold settle
  split
  · apply (advanceCursor_twin steady _ _ agrees).bind
    · exact fun _ none => none
    · intro _ moved mate _ agrees
      apply (meet_onStore_twin steady agrees _ fun concurs => concurs.clearAttempts _).attempt.bind
      · exact fun _ none => none
      · intro _ after later _ agrees
        exact twin_pure _ agrees
  · exact twin_pure _ agrees

/-- A window is gone through alike at both desks. -/
theorem windowFrom_twin (cursor : Nat) (planned : Planned)
    (agrees : one.Agrees calm entity given other) :
    (worker.windowFrom entity cursor planned).Twin calm entity one other
      (byEnd 1 fun window => given + window.1.quarantined) := by
  unfold windowFrom
  apply (fetch_twin steady cursor agrees).bind
  · exact fun _ impossible => absurd impossible Nat.one_ne_zero
  · intro page opened mate ran agrees
    have named := (worker.fetch_named entity cursor one).of_exec ran page rfl
    apply (foldlM_twin (fun progress : Progress => given + progress.tally.quarantined)
      page.entries _ ?_ agrees).bind
    · exact fun _ none => none
    · intro progress attended partner _ agrees
      apply (settle_twin steady _ agrees).bind
      · exact fun _ impossible => absurd impossible Nat.one_ne_zero
      · intro _ after later _ agrees
        exact twin_pure _ agrees
    · intro entry member progress first second agrees
      exact step_twin steady (decode_within_of_named (named entry member)) progress agrees

theorem nextCursor_twin (total : Tally) (agrees : one.Agrees calm entity given other) :
    (worker.nextCursor entity total).Twin calm entity one other fun _ => given := by
  unfold nextCursor
  split
  · exact twin_pure _ agrees
  · exact loadCursor_twin steady agrees

theorem drainOn_twin (maxBatches : Option Nat) (fuel : Nat) (total : Tally) (planned : Planned)
    (agrees : one.Agrees calm entity (given + total.quarantined) other) :
    (worker.drainOn entity maxBatches fuel total planned).Twin calm entity one other
      (byEnd 1 fun tally => given + tally.quarantined) := by
  induction fuel generalizing total planned one other with
  | zero => exact twin_pure _ agrees
  | succ fuel ih =>
    unfold drainOn
    split
    · apply (nextCursor_twin steady total agrees).bind
      · exact fun _ impossible => absurd impossible Nat.one_ne_zero
      · intro cursor found mate _ agrees
        apply (windowFrom_twin steady cursor planned agrees).bind
        · exact fun _ none => none
        · intro window after later _ agrees
          apply ih
          show after.Agrees calm entity (given + (total.quarantined + window.1.quarantined)) later
          rw [← Nat.add_assoc]
          exact agrees
    · exact twin_pure _ agrees

/-- A run answers alike at both desks. -/
theorem runUntilIdle_twin (maxBatches : Option Nat) (agrees : one.Agrees calm entity given other) :
    (worker.runUntilIdle entity maxBatches).Twin calm entity one other
      (byEnd 1 fun tally => given + tally.quarantined) := by
  unfold runUntilIdle
  apply (loadCursor_twin steady agrees).bind
  · exact fun _ impossible => absurd impossible Nat.one_ne_zero
  · intro cursor found mate _ agrees
    unfold drainFrom
    apply Twin.of_get
    · rw [agrees.source.entryBound]
    · apply (windowFrom_twin steady cursor [] agrees).bind
      · exact fun _ none => none
      · intro window after later _ agrees
        exact drainOn_twin steady maxBatches _ _ _ agrees

end

end Worker

end Run

end RecordSync
