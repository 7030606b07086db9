import Mathlib.Logic.Function.Basic
import RecordSync.Proofs.Window

/-! Workers beside each other. They share the store, the cursors and the feed,
and each of their windows proceeds in three kinds of steps: load the cursor and
fetch, deal with one record, and move the cursor. Between two steps of one
window anything may happen: steps of other windows, a cursor put back, a feed
that grows. -/

namespace RecordSync.Run

open RecordSync.Calendar RecordSync.Change RecordSync.Feed RecordSync.Record RecordSync.Store
open Work

variable {σ : Type}

namespace Worker

/-- A window in which nothing is done yet. -/
def opened (worker : Worker σ) (entity : Entity) (cursor : Nat) (planned : Planned) : Progress :=
  ⟨{ Tally.start entity cursor with batches := 1, dryRun := worker.options.dryRun },
    cursor, none, planned⟩

/-- The first step of a window, from a given position or from the cursor. -/
def openWindow (worker : Worker σ) (entity : Entity) (onward : Option Nat) (planned : Planned) :
    Work σ (Page × Progress) := do
  let cursor ← match onward with
    | some position => pure position
    | none => worker.loadCursor entity
  let page ← worker.fetch entity cursor
  return (page, worker.opened entity cursor planned)

/-- The page of a window belongs to the position that the window sets out from. -/
theorem openWindow_ends (worker : Worker σ) (entity : Entity) (onward : Option Nat)
    (planned : Planned) (desk : Desk σ) (sound : desk.source.Sound) :
    (worker.openWindow entity onward planned).Ends desk fun result after =>
      desk.Reread after ∧ ∀ opening, result = .ok opening → ∃ cursor,
        (onward = none → cursor = desk.cursor worker.cursors entity) ∧
        opening.2 = worker.opened entity cursor planned ∧ desk.source.Readable entity ∧
        opening.1.Covers (desk.source.entries entity) (desk.source.extent entity) cursor
          worker.options.window := by
  have fetched (cursor : Nat) (found : Desk σ) (alike : desk.Alike found)
      (there : onward = none → cursor = desk.cursor worker.cursors entity) :
      Ends (do
        let page ← worker.fetch entity cursor
        return (page, worker.opened entity cursor planned)) found fun result after =>
          desk.Reread after ∧ ∀ opening, result = .ok opening → ∃ cursor,
            (onward = none → cursor = desk.cursor worker.cursors entity) ∧
            opening.2 = worker.opened entity cursor planned ∧ desk.source.Readable entity ∧
            opening.1.Covers (desk.source.entries entity) (desk.source.extent entity) cursor
              worker.options.window := by
    have same : found.source = desk.source := alike.source
    apply (worker.fetch_ends entity cursor found (same ▸ sound)).bind
    · intro fault after ends
      exact ⟨alike.trans_reread ends.1, fun _ impossible => by cases impossible⟩
    · intro page after ends
      refine ends_pure _ ⟨alike.trans_reread ends.1, ?_⟩
      rintro _ ⟨⟩
      exact ⟨cursor, there, rfl, same ▸ ends.2 page rfl⟩
  unfold openWindow
  cases onward with
  | some position =>
    simp only [pure_bind]
    exact fetched position desk (.refl desk) fun impossible => by cases impossible
  | none =>
    apply (worker.loadCursor_ends entity desk).bind
    · intro fault after ends
      exact ⟨ends.1.reread sound, fun _ impossible => by cases impossible⟩
    · intro cursor found ends
      exact fetched cursor found ends.1 fun _ => ends.2 cursor rfl

/-- What remains of a window once its page is fetched. -/
def finish (worker : Worker σ) (entity : Entity) (page : Page) (progress : Progress) :
    Work σ (Tally × Planned) := do
  let progress ← page.entries.foldlM (worker.step entity) progress
  worker.settle entity (worker.conclude page progress)
  return (worker.conclude page progress, progress.planned)

/-- One window, from a position that it is given or else from the cursor. -/
def windowOn (worker : Worker σ) (entity : Entity) (onward : Option Nat) (planned : Planned) :
    Work σ (Tally × Planned) := do
  let opening ← worker.openWindow entity onward planned
  worker.finish entity opening.1 opening.2

/-- Where a window of a run sets out from: a dry run goes on from a position. -/
def onward (worker : Worker σ) (position : Nat) : Option Nat :=
  if worker.options.dryRun then some position else none

theorem onward_of_real {worker : Worker σ} (real : worker.options.dryRun = false)
    (position : Nat) : worker.onward position = none := by
  simp [onward, real]

theorem loadCursor_windowFrom (worker : Worker σ) (entity : Entity) (planned : Planned) :
    (worker.loadCursor entity >>= fun cursor => worker.windowFrom entity cursor planned) =
      worker.windowOn entity none planned := by
  simp [windowFrom, windowOn, openWindow, finish, opened]

theorem nextCursor_windowFrom (worker : Worker σ) (entity : Entity) (total : Tally)
    (planned : Planned) :
    (worker.nextCursor entity total >>= fun cursor => worker.windowFrom entity cursor planned) =
      worker.windowOn entity (worker.onward total.cursorAfter) planned := by
  cases dry : worker.options.dryRun with
  | true => simp [windowFrom, windowOn, openWindow, finish, opened, nextCursor, onward, dry]
  | false =>
    simp only [nextCursor, onward, dry, Bool.false_eq_true, ↓reduceIte]
    exact loadCursor_windowFrom worker entity planned

theorem processBatch_eq_windowOn (worker : Worker σ) (entity : Entity) :
    worker.processBatch entity = worker.windowOn entity none [] >>= fun window => pure window.1 := by
  unfold processBatch
  rw [← bind_assoc, loadCursor_windowFrom]

theorem drainOn_succ (worker : Worker σ) (entity : Entity) (maxBatches : Option Nat) (fuel : Nat)
    (total : Tally) (planned : Planned) :
    worker.drainOn entity maxBatches (fuel + 1) total planned =
      if goesOn maxBatches total then
        worker.windowOn entity (worker.onward total.cursorAfter) planned >>= fun window =>
          worker.drainOn entity maxBatches fuel (total.absorb window.1) window.2
      else return total := by
  rw [← nextCursor_windowFrom, bind_assoc]
  rfl

/-- A run is bounded by the feed that it finds. -/
theorem exec_runUntilIdle (worker : Worker σ) (entity : Entity) (maxBatches : Option Nat)
    (desk : Desk σ) :
    (worker.runUntilIdle entity maxBatches).exec desk = exec (do
      let (first, planned) ← worker.windowOn entity none []
      worker.drainOn entity maxBatches (entryBound desk.source entity) first planned) desk := by
  rw [← loadCursor_windowFrom, bind_assoc]
  unfold runUntilIdle drainFrom
  rcases ran : (worker.loadCursor entity).exec desk with ⟨fault | cursor, after⟩
  · rw [exec_bind_of_error ran, exec_bind_of_error ran]
  · have source := ((worker.loadCursor_ends entity desk).of_exec ran).1.source
    rw [exec_bind_of_ok ran, exec_bind_of_ok ran, ← source]
    rfl

end Worker

/-- A window under way: its page, the records it has not come to yet, and how
far it got. -/
structure OpenWindow (σ : Type) where
  worker : Worker σ
  reader : Nat
  entity : Entity
  page : Page
  left : List Entry
  progress : Progress
  around : σ

structure Verdict where
  entity : Entity
  entry : Entry
  ending : Ending

/-- What the workers share, with the windows under way and how records ended so
far. A feed is read through readers, each with marks of its own. -/
structure System (σ : Type) where
  store : Store
  memory : MemoryCursors
  source : Source
  marks : Nat → PerEntity Mark
  windows : Nat → Option (OpenWindow σ)
  verdicts : List Verdict

namespace System

def cursor (system : System σ) (place : CursorPlace) (entity : Entity) : Nat :=
  match place with
  | .memory => system.memory.get entity
  | .store => system.store.cursor entity

/-- What a worker finds when it takes a step. -/
def desk (system : System σ) (reader : Nat) (around : σ) : Desk σ :=
  ⟨system.store, system.memory, system.source.remembering (system.marks reader), around⟩

/-- The system once a worker has taken a step. -/
def seat (system : System σ) (reader : Nat) (desk : Desk σ) : System σ :=
  { system with
    store := desk.store
    memory := desk.memory
    marks := Function.update system.marks reader desk.source.marks }

def put (system : System σ) (id : Nat) (window : Option (OpenWindow σ)) : System σ :=
  { system with windows := Function.update system.windows id window }

/-- Keeps how a record ended; in a dry run no record ends. -/
def noting (system : System σ) (window : OpenWindow σ) (entry : Entry) (ending : Option Ending) :
    System σ :=
  match ending with
  | some ending =>
    if window.worker.options.dryRun then system
    else { system with verdicts := ⟨window.entity, entry, ending⟩ :: system.verdicts }
  | none => system

/-- At first the cursors are at the start and nothing is under way. Nothing is
said of the rows, the ledger, the quarantine and the log. -/
structure Initial (system : System σ) : Prop where
  cursors : ∀ place entity, system.cursor place entity = 0
  marks : ∀ reader, system.marks reader = .both .top
  windows : ∀ id, system.windows id = none
  verdicts : system.verdicts = []

/-- A feed and an empty store. -/
def start (source : Source) : System σ :=
  ⟨.empty, .start, source, fun _ => .both .top, fun _ => none, []⟩

theorem start_initial (source : Source) : (start source : System σ).Initial := by
  refine ⟨?_, fun _ => rfl, fun _ => rfl, rfl⟩
  intro place entity
  cases place <;> cases entity <;> rfl

/-- One step of anyone. A window that goes on from a given position is one of a
dry run; a fault ends a window, and a window may be abandoned at any time. -/
inductive Step : System σ → System σ → Prop where
  | grown {system : System σ} {source : Source} (grows : system.source.Grows source) :
      Step system { system with source }
  | rewound {system : System σ} {result : Except SyncFault Nat} {after : Desk σ}
      (worker : Worker σ) (reader : Nat) (entity : Entity) (around : σ)
      (ran : (worker.resetCursor entity).exec (system.desk reader around) = (result, after)) :
      Step system (system.seat reader after)
  | opened {system : System σ} {id : Nat} {page : Page} {progress : Progress} {after : Desk σ}
      (worker : Worker σ) (reader : Nat) (entity : Entity) (onward : Option Nat)
      (planned : Planned) (around : σ) (idle : system.windows id = none)
      (dry : onward ≠ none → worker.options.dryRun = true)
      (ran : (worker.openWindow entity onward planned).exec (system.desk reader around) =
        (.ok (page, progress), after)) :
      Step system ((system.seat reader after).put id
        (some ⟨worker, reader, entity, page, page.entries, progress, after.around⟩))
  | unopened {system : System σ} {fault : SyncFault} {after : Desk σ}
      (worker : Worker σ) (reader : Nat) (entity : Entity) (onward : Option Nat)
      (planned : Planned) (around : σ)
      (ran : (worker.openWindow entity onward planned).exec (system.desk reader around) =
        (.error fault, after)) :
      Step system (system.seat reader after)
  | attended {system : System σ} {id : Nat} {window : OpenWindow σ} {entry : Entry}
      {rest : List Entry} {ending : Option Ending} {progress : Progress} {after : Desk σ}
      (underway : system.windows id = some window) (left : window.left = entry :: rest)
      (ran : (window.worker.attend window.entity window.progress entry).exec
        (system.desk window.reader window.around) = (.ok (ending, progress), after)) :
      Step system (((system.seat window.reader after).noting window entry ending).put id
        (some { window with left := rest, progress, around := after.around }))
  | faulted {system : System σ} {id : Nat} {window : OpenWindow σ} {entry : Entry}
      {rest : List Entry} {fault : SyncFault} {after : Desk σ}
      (underway : system.windows id = some window) (left : window.left = entry :: rest)
      (ran : (window.worker.attend window.entity window.progress entry).exec
        (system.desk window.reader window.around) = (.error fault, after)) :
      Step system ((system.seat window.reader after).put id none)
  | settled {system : System σ} {id : Nat} {window : OpenWindow σ} {result : Except SyncFault Unit}
      {after : Desk σ} (underway : system.windows id = some window) (left : window.left = [])
      (ran : (window.worker.settle window.entity
        (window.worker.conclude window.page window.progress)).exec
        (system.desk window.reader window.around) = (result, after)) :
      Step system ((system.seat window.reader after).put id none)
  | abandoned {system : System σ} (id : Nat) : Step system (system.put id none)

/-- The states that a system comes to, in whatever order its steps are taken. -/
inductive Reaches (first : System σ) : System σ → Prop where
  | refl : Reaches first first
  | step {system after : System σ} (reaches : Reaches first system) (step : Step system after) :
      Reaches first after

theorem Reaches.trans {first second third : System σ} (one : Reaches first second)
    (two : Reaches second third) : Reaches first third := by
  induction two with
  | refl => exact one
  | step _ step ih => exact .step ih step

/-- The next step of a window: it is opened, deals with its next record, or ends. -/
def proceed (worker : Worker σ) (entity : Entity) (around : σ) (system : System σ) (id : Nat) :
    System σ :=
  match system.windows id with
  | none =>
    match (worker.openWindow entity none []).exec (system.desk id around) with
    | (.ok (page, progress), after) => (system.seat id after).put id
        (some ⟨worker, id, entity, page, page.entries, progress, after.around⟩)
    | (.error _, after) => system.seat id after
  | some window =>
    match window.left with
    | entry :: rest =>
      match (window.worker.attend window.entity window.progress entry).exec
          (system.desk window.reader window.around) with
      | (.ok (ending, progress), after) =>
        ((system.seat window.reader after).noting window entry ending).put id
          (some { window with left := rest, progress, around := after.around })
      | (.error _, after) => (system.seat window.reader after).put id none
    | [] =>
      match (window.worker.settle window.entity
          (window.worker.conclude window.page window.progress)).exec
          (system.desk window.reader window.around) with
      | (_, after) => (system.seat window.reader after).put id none

theorem proceed_step {system : System σ} (worker : Worker σ) (entity : Entity) (around : σ)
    (id : Nat) : Step system (proceed worker entity around system id) := by
  unfold proceed
  split
  · rename_i idle
    split
    · exact .opened worker id entity none [] around idle nofun ‹_›
    · exact .unopened worker id entity none [] around ‹_›
  · rename_i underway
    split
    · rename_i left
      split
      · exact .attended underway left ‹_›
      · exact .faulted underway left ‹_›
    · rename_i left
      split
      exact .settled underway left ‹_›

end System

end RecordSync.Run
