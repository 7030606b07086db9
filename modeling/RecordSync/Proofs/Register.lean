import RecordSync.Proofs.Ledger

/-! The cursors as registers. Any number of workers load, move and reset them, in
whatever order their calls come; each call is answered before the next one. -/

namespace RecordSync.Store

open RecordSync.Calendar RecordSync.Record

/-- A call on the cursor of a kind of record. Only a reset is logged, with its author. -/
inductive CursorCall where
  | load (entity : Entity)
  | advance (entity : Entity) (expected next : Nat) (now : Instant)
  | reset (entity : Entity) (author : Author)
  deriving DecidableEq

inductive CursorAnswer where
  | found (position : Nat)
  | moved
  | refused (fault : SyncFault)
  | rewound (previous : Nat)
  deriving DecidableEq

namespace CursorCall

def entity : CursorCall → Entity
  | load entity => entity
  | advance entity .. => entity
  | reset entity _ => entity

/-- Whether all positions of a call can be stored. -/
def Fits : CursorCall → Prop
  | advance _ _ next _ => next ≤ greatestPosition
  | _ => True

end CursorCall

/-- What a call answers, and the store that it leaves. -/
def ask (store : Store) : CursorCall → CursorAnswer × Store
  | .load entity => (.found (store.cursor entity), store)
  | .advance entity expected next now =>
    match store.advanceCursor entity expected next now with
    | .ok after => (.moved, after)
    | .error fault => (.refused fault, store)
  | .reset entity author =>
    let (previous, after) := store.resetCursor author entity
    (.rewound previous, after)

end RecordSync.Store

namespace RecordSync

open RecordSync.Calendar RecordSync.Record RecordSync.Store

/-- What a call answers over cursors in memory, and where it leaves them. -/
def MemoryCursors.ask (cursors : MemoryCursors) : CursorCall → CursorAnswer × MemoryCursors
  | .load entity => (.found (cursors.get entity), cursors)
  | .advance entity expected next _ =>
    match cursors.advance entity expected next with
    | .ok after => (.moved, after)
    | .error fault => (.refused fault, cursors)
  | .reset entity _ =>
    let (previous, after) := cursors.reset entity
    (.rewound previous, after)

abbrev Exchange := CursorCall × CursorAnswer

/-- Calls with their answers, and the state that the last call leaves. -/
def exchanges {κ : Type} (ask : κ → CursorCall → CursorAnswer × κ) (state : κ) :
    List CursorCall → List Exchange × κ
  | [] => ([], state)
  | call :: calls =>
    let (answer, next) := ask state call
    let (rest, last) := exchanges ask next calls
    ((call, answer) :: rest, last)

def Exchange.puts (entity : Entity) (position : Nat) : Exchange → Prop
  | (.advance about _ next _, .moved) => about = entity ∧ next = position
  | (.reset about _, _) => about = entity ∧ position = 0
  | _ => False

namespace Store

/-- Nothing changed but the cursor of one kind and the log. -/
structure OnlyCursor (entity : Entity) (before after : Store) : Prop where
  rows : after.rows = before.rows
  attempts : after.attempts = before.attempts
  quarantine : after.quarantine = before.quarantine
  others : ∀ other, other ≠ entity → after.cursors.get other = before.cursors.get other

def resetNote (entity : Entity) (previous : Nat) : Note :=
  ⟨"feed_cursor", entity.name, .cursorReset, some (toString previous), some "0", none⟩

/-- What a call on a cursor may be answered, and what it then does. -/
inductive Registers (before : Store) : CursorCall → CursorAnswer → Store → Prop where
  | loaded (entity : Entity) :
      Registers before (.load entity) (.found (before.cursor entity)) before
  | moved {entity : Entity} {expected next : Nat} {now : Instant} {after : Store}
      (there : before.cursor entity = expected) (held : next ≤ greatestPosition)
      (arrived : after.cursor entity = next) (only : OnlyCursor entity before after)
      (unlogged : after.log = before.log) :
      Registers before (.advance entity expected next now) .moved after
  | elsewhere {entity : Entity} {expected next : Nat} {now : Instant}
      (different : before.cursor entity ≠ expected) :
      Registers before (.advance entity expected next now)
        (.refused (.cursorMoved entity expected (before.cursor entity))) before
  | beyond {entity : Entity} {expected next : Nat} {now : Instant}
      (there : before.cursor entity = expected) (above : greatestPosition < next) :
      Registers before (.advance entity expected next now)
        (.refused (.feed (.cursorOutOfRange next))) before
  | rewound {entity : Entity} {author : Author} {after : Store}
      (start : after.cursor entity = 0) (only : OnlyCursor entity before after)
      (logged : after.log =
        before.log.append author (resetNote entity (before.cursor entity))) :
      Registers before (.reset entity author) (.rewound (before.cursor entity)) after

/-- Every one of the calls, in its turn, is answered as a register answers it. -/
inductive Served : Store → List Exchange → Store → Prop where
  | nil (store : Store) : Served store [] store
  | cons {first next last : Store} {call : CursorCall} {answer : CursorAnswer}
      {rest : List Exchange} (head : first.Registers call answer next)
      (tail : Served next rest last) : Served first ((call, answer) :: rest) last

variable {store before after : Store} {entity : Entity} {position : Nat} {call : CursorCall}
  {answer : CursorAnswer}

@[simp] theorem cursor_setCursor_same (store : Store) (entity : Entity) (position : Nat)
    (now : Instant) : (store.setCursor entity position now).cursor entity = position := by
  simp [cursor, setCursor]

theorem cursors_setCursor_other (store : Store) {other : Entity} (position : Nat) (now : Instant)
    (different : other ≠ entity) :
    (store.setCursor entity position now).cursors.get other = store.cursors.get other :=
  PerEntity.get_set_of_ne _ _ different

theorem registers_ask (store : Store) (call : CursorCall) :
    store.Registers call (store.ask call).1 (store.ask call).2 := by
  cases call with
  | load entity => exact .loaded entity
  | advance entity expected next now =>
    unfold ask advanceCursor
    by_cases there : store.cursor entity = expected
    · by_cases above : greatestPosition < next
      · simp only [there, above, ne_eq, not_true_eq_false, ↓reduceIte]
        exact .beyond there above
      · simp only [there, above, ne_eq, not_true_eq_false, ↓reduceIte]
        have held : next ≤ greatestPosition := Nat.le_of_not_lt above
        refine .moved there held (cursor_setCursor_same ..) ⟨rfl, rfl, rfl, ?_⟩ rfl
        intro other different
        exact cursors_setCursor_other store next now different
    · simp only [there, ne_eq, not_false_eq_true, ↓reduceIte]
      exact .elsewhere there
  | reset entity author =>
    refine .rewound (cursor_setCursor_same ..) ⟨rfl, rfl, rfl, ?_⟩ rfl
    intro other different
    exact cursors_setCursor_other store 0 author.time different

theorem served_exchanges (store : Store) (calls : List CursorCall) :
    Served store (exchanges ask store calls).1 (exchanges ask store calls).2 := by
  induction calls generalizing store with
  | nil => exact .nil store
  | cons call rest ih => exact .cons (registers_ask store call) (ih _)

/-- Only an exchange that puts a cursor at a position can bring it there. -/
theorem Registers.cursor_ne (registers : before.Registers call answer after)
    (away : before.cursor entity ≠ position)
    (kept : ¬ Exchange.puts entity position (call, answer)) : after.cursor entity ≠ position := by
  have elsewhere {about : Entity} (only : OnlyCursor about before after)
      (different : entity ≠ about) : after.cursor entity ≠ position := by
    rw [cursor, only.others entity different]
    exact away
  cases registers with
  | loaded => exact away
  | @moved about _ _ _ _ there held arrived only unlogged =>
    by_cases same : entity = about
    · subst same
      intro there
      exact kept ⟨rfl, arrived.symm.trans there⟩
    · exact elsewhere only same
  | elsewhere => exact away
  | beyond => exact away
  | @rewound about _ _ start only logged =>
    by_cases same : entity = about
    · subst same
      intro there
      exact kept ⟨rfl, there.symm.trans start⟩
    · exact elsewhere only same

theorem Served.cursor_ne {history : List Exchange} (served : Served before history after)
    (away : before.cursor entity ≠ position)
    (kept : ∀ exchange ∈ history, ¬ exchange.puts entity position) :
    after.cursor entity ≠ position := by
  induction served with
  | nil => exact away
  | cons head _ ih =>
    apply ih
    · exact head.cursor_ne away (kept _ List.mem_cons_self)
    · intro exchange member
      exact kept exchange (List.mem_cons_of_mem _ member)

/-- Of exchanges in two parts, the second begins where the first one ends. -/
theorem Served.split {earlier later : List Exchange}
    (served : Served before (earlier ++ later) after) :
    ∃ middle, Served before earlier middle ∧ Served middle later after := by
  induction earlier generalizing before with
  | nil => exact ⟨before, .nil before, served⟩
  | cons exchange rest ih =>
    cases served with
    | cons head tail =>
      obtain ⟨middle, one, two⟩ := ih tail
      exact ⟨middle, .cons head one, two⟩

/-- Two moves of one cursor from one position, and away from it, have a call between
them that puts the cursor there again. -/
theorem Served.returns {earlier between later : List Exchange} {expected one two : Nat}
    {first second : Instant}
    (served : Served before (earlier ++ (.advance entity expected one first, .moved) ::
      (between ++ (.advance entity expected two second, .moved) :: later)) after)
    (away : one ≠ expected) : ∃ exchange ∈ between, exchange.puts entity expected := by
  obtain ⟨_, _, fromFirst⟩ := served.split
  cases fromFirst with
  | cons move rest =>
    obtain ⟨_, gap, fromSecond⟩ := rest.split
    cases fromSecond with
    | cons otherMove _ =>
      cases move with
      | moved _ _ arrived _ _ =>
        cases otherMove with
        | moved there _ _ _ _ =>
          apply Classical.byContradiction
          intro never
          refine gap.cursor_ne (arrived ▸ away) ?_ there
          intro exchange member puts
          exact never ⟨exchange, member, puts⟩

/-- What a call on one kind of record answers depends on the cursor of that kind
alone, and so does where the call leaves it. -/
theorem ask_congr {other : Store} (same : other.cursors.get call.entity =
    store.cursors.get call.entity) :
    (other.ask call).1 = (store.ask call).1 ∧
      (other.ask call).2.cursors.get call.entity = (store.ask call).2.cursors.get call.entity := by
  have cursor : other.cursor call.entity = store.cursor call.entity := by
    simp only [Store.cursor, same]
  cases call with
  | load entity => exact ⟨congrArg CursorAnswer.found cursor, same⟩
  | advance entity expected next now =>
    simp only [CursorCall.entity] at cursor same
    simp only [ask, advanceCursor, cursor]
    by_cases there : store.cursor entity = expected
    · by_cases above : greatestPosition < next
      · simpa [there, above, CursorCall.entity] using same
      · simp [there, above, CursorCall.entity, setCursor]
    · simpa [there, CursorCall.entity] using same
  | reset entity author =>
    simp only [CursorCall.entity] at cursor
    simp [ask, resetCursor, cursor, setCursor, CursorCall.entity]

/-- A call on one kind of record leaves the cursors of the others alone. -/
theorem ask_other (store : Store) (different : call.entity ≠ entity) :
    (store.ask call).2.cursors.get entity = store.cursors.get entity := by
  have registers := registers_ask store call
  generalize (store.ask call).1 = answer at registers
  generalize (store.ask call).2 = after at registers
  cases registers with
  | loaded => rfl
  | moved _ _ _ only _ => exact only.others entity (Ne.symm different)
  | elsewhere => rfl
  | beyond => rfl
  | rewound _ only _ => exact only.others entity (Ne.symm different)

/-- The calls on one kind of record are answered as if they were the only ones. -/
theorem exchanges_filter (calls : List CursorCall) {other : Store}
    (same : other.cursors.get entity = store.cursors.get entity) :
    (exchanges ask store calls).1.filter (·.1.entity = entity) =
        (exchanges ask other (calls.filter (·.entity = entity))).1 ∧
      (exchanges ask store calls).2.cursors.get entity =
        (exchanges ask other (calls.filter (·.entity = entity))).2.cursors.get entity := by
  induction calls generalizing store other with
  | nil => exact ⟨rfl, same.symm⟩
  | cons call rest ih =>
    by_cases about : call.entity = entity
    · subst about
      obtain ⟨answer, cursor⟩ := ask_congr same
      obtain ⟨answers, last⟩ := ih cursor
      simp only [exchanges, List.filter_cons, decide_true, ↓reduceIte, answer, answers]
      exact ⟨trivial, last⟩
    · simp only [exchanges, List.filter_cons, about, decide_false, Bool.false_eq_true, ↓reduceIte]
      exact ih (same.trans (ask_other store about).symm)

/-- Memory stands for a store if each cursor is at the same position in both. -/
def SamePositions (cursors : MemoryCursors) (store : Store) : Prop :=
  ∀ entity, cursors.get entity = store.cursor entity

theorem SamePositions.moved {cursors : MemoryCursors} (paired : SamePositions cursors store)
    (entity : Entity) (position : Nat) (now : Instant) :
    SamePositions (cursors.set entity position) (store.setCursor entity position now) := by
  intro other
  by_cases same : other = entity
  · subst same
    rw [PerEntity.get_set_same, cursor_setCursor_same]
  · rw [PerEntity.get_set_of_ne _ _ same, paired other, cursor, cursor,
      cursors_setCursor_other store position now same]

theorem SamePositions.ask {cursors : MemoryCursors} (paired : SamePositions cursors store)
    (fits : call.Fits) :
    (cursors.ask call).1 = (store.ask call).1 ∧
      SamePositions (cursors.ask call).2 (store.ask call).2 := by
  cases call with
  | load entity => exact ⟨congrArg CursorAnswer.found (paired entity), paired⟩
  | advance entity expected next now =>
    have held : ¬ greatestPosition < next := Nat.not_lt.mpr fits
    simp only [MemoryCursors.ask, MemoryCursors.advance, Store.ask, advanceCursor,
      paired entity]
    by_cases there : store.cursor entity = expected
    · simp only [there, held, ne_eq, not_true_eq_false, ↓reduceIte, true_and]
      exact paired.moved entity next now
    · simp only [there, ne_eq, not_false_eq_true, ↓reduceIte, true_and]
      exact paired
  | reset entity author =>
    exact ⟨congrArg CursorAnswer.rewound (paired entity), paired.moved entity 0 author.time⟩

theorem SamePositions.exchanges {cursors : MemoryCursors} {calls : List CursorCall}
    (paired : SamePositions cursors store) (fit : ∀ call ∈ calls, call.Fits) :
    (exchanges MemoryCursors.ask cursors calls).1 = (exchanges Store.ask store calls).1 ∧
      SamePositions (exchanges MemoryCursors.ask cursors calls).2
        (exchanges Store.ask store calls).2 := by
  induction calls generalizing store cursors with
  | nil => exact ⟨rfl, paired⟩
  | cons call rest ih =>
    obtain ⟨answer, onward⟩ := paired.ask (fit call List.mem_cons_self)
    obtain ⟨answers, last⟩ := ih onward fun other later =>
      fit other (List.mem_cons_of_mem _ later)
    refine ⟨?_, last⟩
    simp only [RecordSync.exchanges, answer, answers]

/-- Whatever calls come on the cursors of a store, and in whatever order: each is
answered as a register answers it; of two moves from one position, and away from it,
the second needs a call in between that put the cursor back there; the two kinds of
record do not meet; and cursors in memory answer alike, as far as the store can hold
the positions. -/
theorem cursors_compare_and_swap (store : Store) (calls : List CursorCall) :
    Served store (exchanges ask store calls).1 (exchanges ask store calls).2 ∧
    (∀ (entity : Entity) (expected one two : Nat) (first second : Instant)
      (earlier between later : List Exchange),
      (exchanges ask store calls).1 = earlier ++ (.advance entity expected one first, .moved) ::
        (between ++ (.advance entity expected two second, .moved) :: later) →
      one ≠ expected → ∃ exchange ∈ between, exchange.puts entity expected) ∧
    (∀ entity,
      (exchanges ask store calls).1.filter (·.1.entity = entity) =
          (exchanges ask store (calls.filter (·.entity = entity))).1 ∧
        (exchanges ask store calls).2.cursors.get entity =
          (exchanges ask store (calls.filter (·.entity = entity))).2.cursors.get entity) ∧
    (∀ cursors : MemoryCursors, SamePositions cursors store → (∀ call ∈ calls, call.Fits) →
      (exchanges MemoryCursors.ask cursors calls).1 = (exchanges ask store calls).1 ∧
        SamePositions (exchanges MemoryCursors.ask cursors calls).2
          (exchanges ask store calls).2) := by
  have served := served_exchanges store calls
  refine ⟨served, ?_, ?_, ?_⟩
  · intro entity expected one two first second earlier between later history away
    rw [history] at served
    exact served.returns away
  · intro entity
    exact exchanges_filter calls rfl
  · intro cursors paired fit
    exact paired.exchanges fit

/-- A worker that lost a race is told so; once the cursor is back at the start, its
move is one like any other. -/
example : (exchanges ask empty
    [.advance .contact 0 3 default, .advance .contact 0 2 default, .load .induction,
      .reset .contact ⟨"sync", default⟩, .advance .contact 0 2 default]).1.map (·.2) =
    [.moved, .refused (.cursorMoved .contact 0 3), .found 0, .rewound 3, .moved] := by
  decide +kernel

end Store

end RecordSync
