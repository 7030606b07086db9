import Mathlib.Data.List.Infix
import RecordSync.Proofs.Ceiling
import RecordSync.Proofs.Isolation

/-! How far the caller's policies let a window get. A window in which nothing fails
reaches the shortest part of its page that ends with one invalid record too many or with
a record that cannot become a row, and applies just that part. -/

namespace RecordSync

open RecordSync.Calendar RecordSync.Change RecordSync.Feed RecordSync.Record RecordSync.Run
  RecordSync.Store

namespace Feed

def Entry.isInvalid (entry : Entry) : Bool :=
  match decode entry.delivery with
  | .invalid .. => true
  | _ => false

/-- Whether what was delivered is a snapshot that cannot become a row. -/
def Entry.isRejected (entry : Entry) : Bool :=
  match decode entry.delivery with
  | .upserted snapshot => snapshot.mapped.toOption.isNone
  | _ => false

def invalidCount (entries : List Entry) : Nat := entries.countP Entry.isInvalid

theorem invalidCount_snoc (entries : List Entry) (entry : Entry) :
    invalidCount (entries ++ [entry]) = invalidCount entries + entry.isInvalid.toNat := by
  simp [invalidCount, List.countP_append, List.countP_singleton, Bool.toNat, Bool.cond_eq_ite]

end Feed

namespace Run.Options

/-- A policy stops a window behind the last of some records: it is the one by which more
records are invalid than the limit allows, or it cannot become a row. -/
inductive Halts (options : Options) : List Entry → Stop → Prop where
  | tooManyInvalid {front : List Entry} {entry : Entry} {limit : Nat}
      (counts : options.ignoreInvalid = false) (limited : options.maxInvalid = some limit)
      (full : invalidCount front = limit) (invalid : entry.isInvalid = true) :
      Halts options (front ++ [entry]) (.tooManyInvalid (limit + 1))
  | mappingError {front : List Entry} {entry : Entry}
      (aborts : options.abortOnMappingError = true) (rejected : entry.isRejected = true) :
      Halts options (front ++ [entry]) (.mappingError entry.sequence)

/-- The records of a page that the policies let a window reach: the shortest part of it
at which a policy stops the window, or the whole page if there is none. -/
inductive Admits (options : Options) (entries : List Entry) :
    List Entry → Option Stop → Prop where
  | stopped {reached : List Entry} {stop : Stop} (part : reached <+: entries)
      (halts : options.Halts reached stop)
      (first : ∀ shorter other, shorter <+: reached → options.Halts shorter other →
        shorter = reached) : Admits options entries reached (some stop)
  | whole (never : ∀ part stop, part <+: entries → ¬ options.Halts part stop) :
      Admits options entries entries none

theorem Admits.part {options : Options} {entries reached : List Entry} {stop : Option Stop}
    (admits : options.Admits entries reached stop) : reached <+: entries := by
  cases admits with
  | stopped part _ _ => exact part
  | whole _ => exact List.prefix_rfl

theorem Halts.getLast?_isSome {options : Options} {records : List Entry} {stop : Stop}
    (halts : options.Halts records stop) : records.getLast?.isSome = true := by
  cases halts <;> simp

/-- Whether a record stops a window in which so many were invalid before it. -/
def halt? (options : Options) (invalid : Nat) (entry : Entry) : Option Stop :=
  if entry.isInvalid then
    match options.ignoreInvalid, options.maxInvalid with
    | false, some limit => if limit ≤ invalid then some (.tooManyInvalid (invalid + 1)) else none
    | _, _ => none
  else if entry.isRejected && options.abortOnMappingError then some (.mappingError entry.sequence)
  else none

/-- The records up to the one that stops a window, and its reason. -/
def cut (options : Options) (invalid : Nat) : List Entry → List Entry × Option Stop
  | [] => ([], none)
  | entry :: rest =>
    match options.halt? invalid entry with
    | some stop => ([entry], some stop)
    | none =>
      let (reached, stop) := options.cut (invalid + entry.isInvalid.toNat) rest
      (entry :: reached, stop)

variable {options : Options} {front entries : List Entry} {entry : Entry} {stop : Stop}

/-- No policy stopped a window before the end of some records. -/
def Passes (options : Options) (front : List Entry) : Prop :=
  ∀ part stop, part <+: front → ¬ options.Halts part stop

theorem passes_nil : options.Passes [] := by
  intro part stop inside halts
  obtain rfl := List.prefix_nil.mp inside
  generalize same : ([] : List Entry) = none at halts
  cases halts <;> simp at same

/-- Until a policy stops a window, the limit is not exceeded. -/
theorem Passes.invalidCount_le (passes : options.Passes front) {limit : Nat}
    (counts : options.ignoreInvalid = false) (limited : options.maxInvalid = some limit) :
    invalidCount front ≤ limit := by
  induction front using List.reverseRecOn with
  | nil => exact Nat.zero_le _
  | append_singleton front entry ih =>
    have before := ih fun part stop inside => passes part stop (inside.trans (List.prefix_append _ _))
    rw [invalidCount_snoc]
    cases invalid : entry.isInvalid with
    | false => exact before
    | true =>
      have free : invalidCount front ≠ limit := fun full =>
        passes _ _ List.prefix_rfl (.tooManyInvalid counts limited full invalid)
      simp only [Bool.toNat_true]
      omega

theorem Entry.not_rejected_of_invalid (invalid : entry.isInvalid = true) :
    entry.isRejected = false := by
  unfold Entry.isInvalid at invalid
  unfold Entry.isRejected
  split at invalid
  · rename_i said
    rw [said]
  · cases invalid

theorem Passes.halts_iff (passes : options.Passes front) :
    options.Halts (front ++ [entry]) stop ↔
      options.halt? (invalidCount front) entry = some stop := by
  unfold halt?
  constructor
  · intro halts
    generalize same : front ++ [entry] = records at halts
    cases halts with
    | @tooManyInvalid before last limit counts limited full invalid =>
      obtain ⟨rfl, ⟨⟩⟩ := List.append_inj' same rfl
      simp only [invalid, counts, limited, full, if_true, le_refl]
    | @mappingError before last aborts rejected =>
      obtain ⟨rfl, ⟨⟩⟩ := List.append_inj' same rfl
      have valid : entry.isInvalid = false := by
        by_contra invalid
        rw [Entry.not_rejected_of_invalid (by simpa using invalid)] at rejected
        cases rejected
      simp only [valid, rejected, aborts, Bool.false_eq_true, if_false, Bool.and_self, if_true]
  · intro stops
    split at stops
    · rename_i invalid
      split at stops
      · rename_i limit counts limited
        obtain ⟨full, same⟩ := Option.ite_none_right_eq_some.mp stops
        cases same
        have within := passes.invalidCount_le counts limited
        obtain rfl := Nat.le_antisymm within full
        exact .tooManyInvalid counts limited rfl invalid
      · cases stops
    · obtain ⟨both, same⟩ := Option.ite_none_right_eq_some.mp stops
      cases same
      simp only [Bool.and_eq_true] at both
      exact .mappingError both.2 both.1

theorem Passes.snoc (passes : options.Passes front)
    (goes : options.halt? (invalidCount front) entry = none) : options.Passes (front ++ [entry]) := by
  intro part stop inside halts
  rcases List.prefix_concat_iff.mp inside with rfl | shorter
  · rw [passes.halts_iff, goes] at halts
    cases halts
  · exact passes part stop shorter halts

/-- The records up to the one that stops a window are those that the policies admit. -/
theorem Passes.admits_cut (passes : options.Passes front) (entries : List Entry) :
    options.Admits (front ++ entries) (front ++ (options.cut (invalidCount front) entries).1)
      (options.cut (invalidCount front) entries).2 := by
  induction entries generalizing front with
  | nil =>
    rw [cut, List.append_nil]
    exact .whole passes
  | cons entry rest ih =>
    unfold cut
    cases stops : options.halt? (invalidCount front) entry with
    | some stop =>
      refine .stopped ?_ (passes.halts_iff.mpr stops) fun shorter other inside halts => ?_
      · exact ⟨rest, by simp⟩
      · rcases List.prefix_concat_iff.mp inside with same | earlier
        · exact same
        · exact absurd halts (passes shorter other earlier)
    | none =>
      have further := ih (passes.snoc stops)
      rw [invalidCount_snoc] at further
      simpa using further

theorem admits_cut (options : Options) (entries : List Entry) :
    options.Admits entries (options.cut 0 entries).1 (options.cut 0 entries).2 :=
  passes_nil.admits_cut entries

end Run.Options

namespace Store

variable {store after : Store} {actor : String} {now : Instant} {outcome : Outcome} {entry : Entry}

/-- A record tells in advance how it ends, if not what it does to its row. -/
theorem outcome_of_apply
    (applied : store.apply actor (decode entry.delivery) now = .ok (outcome, after)) :
    if entry.isInvalid then ∃ reason, outcome = .invalid reason
    else if entry.isRejected then ∃ fault, outcome = .rejected fault
    else outcome.isApplied = true := by
  obtain ⟨current, done⟩ := apply_planned applied
  unfold Entry.isInvalid Entry.isRejected
  generalize decode entry.delivery = change at done
  cases change with
  | invalid name id fault =>
    cases done
    exact ⟨_, rfl⟩
  | removed about externalId =>
    simp only [Bool.false_eq_true, ↓reduceIte]
    cases current with
    | none =>
      cases done
      rfl
    | some row =>
      simp only [plan, carryOut] at done
      split at done <;> cases done <;> rfl
  | upserted snapshot =>
    simp only [Bool.false_eq_true, ↓reduceIte]
    simp only [plan, planSnapshot] at done
    split at done
    · rename_i fault mapping
      cases done
      rw [if_pos (by rw [mapping]; rfl)]
      exact ⟨fault, rfl⟩
    · rename_i mapped mapping
      rw [if_neg (by rw [mapping]; exact Bool.false_ne_true)]
      split at done <;>
      · obtain ⟨_, _, same⟩ := map_eq_ok_iff.mp done
        cases same
        rfl

/-- How a record counts, and whether it stops the window, is told by the record. -/
theorem stopAfter_of_apply
    (applied : store.apply actor (decode entry.delivery) now = .ok (outcome, after))
    (tally : Tally) : (tally.record outcome).invalid = tally.invalid + entry.isInvalid.toNat ∧
      ∀ options : Options, options.stopAfter entry.sequence (tally.record outcome) outcome =
        options.halt? tally.invalid entry := by
  have told := outcome_of_apply applied
  unfold Options.halt?
  cases invalid : entry.isInvalid with
  | true =>
    simp only [invalid, ↓reduceIte] at told ⊢
    obtain ⟨reason, rfl⟩ := told
    have counted : (tally.record (.invalid reason)).invalid = tally.invalid + 1 := rfl
    refine ⟨counted, fun options => ?_⟩
    unfold Options.stopAfter
    cases options.ignoreInvalid with
    | true => rfl
    | false =>
      cases options.maxInvalid with
      | none => rfl
      | some limit => simp only [counted, Nat.lt_succ_iff]
  | false =>
    simp only [invalid, Bool.false_eq_true, ↓reduceIte] at told ⊢
    cases rejected : entry.isRejected with
    | true =>
      simp only [rejected, ↓reduceIte] at told
      obtain ⟨fault, rfl⟩ := told
      exact ⟨rfl, fun options => by simp [Options.stopAfter]⟩
    | false =>
      simp only [rejected, Bool.false_eq_true, ↓reduceIte] at told
      refine ⟨?_, fun options => ?_⟩ <;>
      cases outcome <;> first | rfl | cases told

end Store

namespace Run

open Work

variable {σ : Type}

/-- Surroundings in which no call fails and nobody tells the worker to stop, and that stay
so. The clock may say different things. -/
structure Surroundings.Smooth (surroundings : Surroundings σ) (clock : Instant → Prop)
    (smooth : σ → Prop) : Prop where
  clock : ∀ around, smooth around →
    clock (surroundings.now around).1 ∧ smooth (surroundings.now around).2
  going : ∀ around, smooth around →
    (surroundings.cancelled around).1 = false ∧ smooth (surroundings.cancelled around).2
  faultless : ∀ call around, smooth around →
    (surroundings.meet call around).1 = none ∧ smooth (surroundings.meet call around).2

/-- The store takes some records in, one after the other, whatever the clock says. -/
def Worker.Accepts (worker : Worker σ) (clock : Instant → Prop) : List Entry → Store → Prop
  | [], _ => True
  | entry :: rest, store => ∀ now, clock now → ∃ outcome after,
      store.apply worker.actor (decode entry.delivery) now = .ok (outcome, after) ∧
        worker.Accepts clock rest after

namespace Worker

variable {worker : Worker σ} {clock : Instant → Prop} {smooth : σ → Prop}
  {entity : Entity} {desk : Desk σ} {entry : Entry}

theorem Accepts.of_prefix {front entries : List Entry} {store : Store}
    (accepts : worker.Accepts clock entries store) (part : front <+: entries) :
    worker.Accepts clock front store := by
  induction front generalizing entries store with
  | nil => trivial
  | cons entry front ih =>
    obtain ⟨rest, rfl⟩ := part
    intro now allowed
    obtain ⟨outcome, after, applied, others⟩ := accepts now allowed
    exact ⟨outcome, after, applied, ih others (List.prefix_append front rest)⟩

theorem Handles.accepts {now : Instant} {planned final : Planned} {store later : Store}
    {trail : List (Entry × Outcome)} (real : worker.options.dryRun = false)
    (handles : worker.Handles now planned store trail final later) :
    worker.Accepts (· = now) (trail.map (·.1)) store := by
  induction handles with
  | nil _ => trivial
  | cons handled _ ih =>
    unfold handle at handled
    rw [if_neg (by simp [real])] at handled
    obtain ⟨_, applied, ⟨⟩⟩ := map_eq_ok_iff.mp handled
    rintro _ rfl
    exact ⟨_, _, applied, ih⟩

/-- Records that can be handled at one time are taken in at that time. -/
theorem accepts_of_handleAll {now : Instant} {store : Store} {entries : List Entry}
    (real : worker.options.dryRun = false)
    (accepted : (worker.handleAll now store entries).isOk = true) :
    worker.Accepts (· = now) entries store := by
  cases handled : worker.handleAll now store entries with
  | error fault =>
    rw [handled] at accepted
    cases accepted
  | ok state =>
    obtain ⟨trail, rfl, handles⟩ := Handles.of_handleAll handled
    exact handles.accepts real

/-- The same worker with a clock that stands still. -/
def at_ (worker : Worker σ) (now : Instant) : Worker σ :=
  { worker with surroundings := { worker.surroundings with now := fun around => (now, around) } }

section
variable (untroubled : worker.surroundings.Smooth clock smooth)
include untroubled

theorem calm_at (now : Instant) : (worker.at_ now).surroundings.Calm now smooth :=
  ⟨fun _ fine => ⟨rfl, fine⟩, untroubled.going, untroubled.faultless⟩

variable (fine : smooth desk.around)
include fine

/-- A record that the store takes in is applied at the first attempt. -/
theorem applyOnce_smooth {change : Change} (accepted : ∀ now, clock now → ∃ outcome after,
      desk.store.apply worker.actor change now = .ok (outcome, after)) :
    (worker.applyOnce change).Answers desk fun answer after => ∃ now outcome, clock now ∧
      answer = .ok outcome ∧
        desk.store.apply worker.actor change now = .ok (outcome, after.store) ∧
          desk.SameBeside after ∧ smooth after.around := by
  obtain ⟨allowed, still⟩ := untroubled.clock _ fine
  obtain ⟨outcome, store, applied⟩ := accepted _ allowed
  have told : worker.now.exec desk = _ := exec_ask _ desk
  unfold applyOnce Answers Ends
  rw [exec_bind_of_ok told]
  have applies : ((worker.at_ (worker.reading desk.around)).apply change
      (worker.reading desk.around)).Answers
        { desk with around := (worker.surroundings.now desk.around).2 } _ :=
    apply_answers (calm_at untroubled _) still applied
  obtain ⟨value, after, ran, rfl, stored, beside, calmly⟩ := applies.exec
  change (worker.apply change (worker.surroundings.now desk.around).1).exec _ = _ at ran
  rw [exec_bind_of_ok (exec_attempt _ _), ran]
  exact ⟨_, rfl, _, value, allowed, rfl, stored ▸ applied, ⟨beside.memory, beside.source⟩, calmly⟩

/-- A record that the store takes in is dealt with by applying it. -/
theorem step_smooth (real : worker.options.dryRun = false) {progress : Progress}
    (going : progress.stop = none) (accepted : ∀ now, clock now → ∃ outcome after,
      desk.store.apply worker.actor (decode entry.delivery) now = .ok (outcome, after)) :
    (worker.step entity progress entry).Answers desk fun next after => ∃ now outcome, clock now ∧
      next = progress.note worker.options entry.sequence (.terminal outcome) ∧
        desk.store.apply worker.actor (decode entry.delivery) now = .ok (outcome, after.store) ∧
          desk.SameBeside after ∧ smooth after.around := by
  have dealt (asked : Desk σ) (still : desk.Still smooth asked) :
      (worker.dealWith entity progress.planned entry).Answers asked fun answer after =>
        ∃ now outcome, clock now ∧ answer = (.terminal outcome, progress.planned) ∧
          desk.store.apply worker.actor (decode entry.delivery) now = .ok (outcome, after.store) ∧
            desk.SameBeside after ∧ smooth after.around := by
    have once := applyOnce_smooth untroubled still.2 (still.1.store ▸ accepted)
    unfold dealWith
    simp only [real, Bool.false_eq_true, ↓reduceIte]
    have retried (left : Nat) :
        (worker.applyWithRetries entity entry (decode entry.delivery) 0 left).Answers asked
          fun ending after => ∃ now outcome, clock now ∧ ending = .terminal outcome ∧
            desk.store.apply worker.actor (decode entry.delivery) now = .ok (outcome, after.store) ∧
              desk.SameBeside after ∧ smooth after.around := by
      cases left <;>
      · unfold applyWithRetries
        apply once.bind
        rintro _ after ⟨now, outcome, allowed, rfl, applied, beside, calmly⟩
        exact answers_pure _ ⟨now, outcome, allowed, rfl, still.1.store ▸ applied,
          still.1.toSameBeside.trans beside, calmly⟩
    apply (retried _).bind
    rintro _ after ⟨now, outcome, allowed, rfl, ended⟩
    exact answers_pure _ ⟨now, outcome, allowed, rfl, ended⟩
  unfold step
  simp only [going, Option.isSome_none, Bool.false_eq_true, ↓reduceIte]
  have asks := isCancelled_answers (calm_at untroubled (worker.reading desk.around)) fine
  apply Answers.bind (show worker.isCancelled.Answers desk _ from asks)
  rintro _ asked ⟨rfl, still⟩
  simp only [Bool.false_eq_true, ↓reduceIte]
  apply (dealt asked still).bind
  rintro _ after ⟨now, outcome, allowed, rfl, ended⟩
  exact answers_pure _ ⟨now, outcome, allowed, rfl, ended⟩

end

/-- What a window makes of the records that it reaches. -/
structure Took (worker : Worker σ) (clock : Instant → Prop) (smooth : σ → Prop) (before : Desk σ)
    (start : Progress) (reached : List Entry) (stop : Option Stop)
    (last : Progress) (after : Desk σ) : Prop extends before.SameBeside after where
  trail : ∃ trail, trail.map (·.1) = reached ∧
    Applied worker.actor clock before.store trail after.store ∧
      last.tally = start.tally.recordAll trail
  through : last.through = lastPlace start.through reached
  stop : last.stop = stop
  attempts : after.store.attempts = before.store.attempts
  quarantine : after.store.quarantine = before.store.quarantine
  cursors : after.store.cursors = before.store.cursors
  smooth : smooth after.around

theorem foldlM_step_smooth (untroubled : worker.surroundings.Smooth clock smooth)
    (real : worker.options.dryRun = false) (entries : List Entry) {progress : Progress}
    (going : progress.stop = none) (fine : smooth desk.around)
    (accepted : worker.Accepts clock (worker.options.cut progress.tally.invalid entries).1
      desk.store) :
    (entries.foldlM (worker.step entity) progress).Answers desk fun last after =>
      worker.Took clock smooth desk progress (worker.options.cut progress.tally.invalid entries).1
        (worker.options.cut progress.tally.invalid entries).2 last after := by
  induction entries generalizing progress desk with
  | nil =>
    refine answers_pure _ ⟨.refl desk, ⟨[], rfl, .nil (.refl _), rfl⟩, rfl, going, rfl, rfl, rfl, fine⟩
  | cons entry rest ih =>
    have first : ∀ now, clock now → ∃ outcome after,
        desk.store.apply worker.actor (decode entry.delivery) now = .ok (outcome, after) := by
      unfold Options.cut at accepted
      cases stops : worker.options.halt? progress.tally.invalid entry <;>
      · simp only [stops] at accepted
        exact fun now allowed => (accepted now allowed).imp fun _ => .imp fun _ => And.left
    rw [List.foldlM_cons]
    apply (step_smooth untroubled fine real going first).bind
    rintro _ after ⟨now, outcome, allowed, rfl, applied, beside, calmly⟩
    obtain ⟨counted, halts⟩ := stopAfter_of_apply applied progress.tally
    have attempts := apply_attempts applied
    have quarantine := apply_quarantine applied
    have cursors := apply_cursors applied
    unfold Options.cut at accepted ⊢
    cases stops : worker.options.halt? progress.tally.invalid entry with
    | some stop =>
      have stopped : (progress.note worker.options entry.sequence (.terminal outcome)).stop =
          some stop := (halts worker.options).trans stops
      rw [foldlM_step_of_stopped (by rw [stopped]; rfl)]
      exact answers_pure _ ⟨beside, ⟨[(entry, outcome)], rfl,
        .cons allowed applied (.nil (.refl _)), rfl⟩, rfl, stopped, attempts, quarantine, cursors,
        calmly⟩
    | none =>
      simp only [stops, ← counted] at accepted ⊢
      obtain ⟨_, _, again, others⟩ := accepted now allowed
      rw [applied] at again
      cases again
      apply (ih ((halts worker.options).trans stops) calmly others).mono
      rintro last final ⟨besideAgain, ⟨trail, records, trailed, tallied⟩, through, stop,
        attemptsAgain, quarantineAgain, cursorsAgain, smoothly⟩
      refine ⟨beside.trans besideAgain, ⟨(entry, outcome) :: trail, ?_, ?_, tallied⟩, ?_, stop,
        attemptsAgain.trans attempts, quarantineAgain.trans quarantine,
        cursorsAgain.trans cursors, smoothly⟩
      · rw [List.map_cons, records]
        rfl
      · exact .cons allowed applied trailed
      · rw [through, lastPlace_cons]
        rfl

section
variable (untroubled : worker.surroundings.Smooth clock smooth) (fine : smooth desk.around)
include untroubled fine

theorem meet_smooth (call : Call) : (worker.meet call).Answers desk fun _ after =>
    desk.Still smooth after :=
  meet_answers (calm_at untroubled (worker.reading desk.around)) fine call

theorem loadCursor_smooth : (worker.loadCursor entity).Answers desk fun cursor after =>
    cursor = desk.cursor worker.cursors entity ∧ desk.Still smooth after :=
  show ((worker.at_ (worker.reading desk.around)).loadCursor entity).Answers desk _ from
    loadCursor_answers (calm_at untroubled _) fine

theorem fetch_smooth {position : Nat} {page : Page} {source : Source}
    (fetched : desk.source.fetch entity position worker.options.window = .ok (page, source)) :
    (worker.fetch entity position).Answers desk fun answer after =>
      answer = page ∧ after = { desk with source, around := after.around } ∧
        smooth after.around := by
  unfold fetch
  apply (meet_smooth untroubled fine _).bind
  intro _ met still
  apply Ends.of_get
  obtain ⟨alike, calmly⟩ := still
  rw [alike.source, fetched]
  refine ⟨page, rfl, rfl, ?_, calmly⟩
  rw [← alike.store, ← alike.memory]
  rfl

/-- A window opens with its page. -/
theorem openWindow_smooth {page : Page} {source : Source}
    (fetched : desk.source.fetch entity (desk.cursor worker.cursors entity)
      worker.options.window = .ok (page, source)) :
    (worker.openWindow entity none []).Answers desk fun opening after =>
      opening = (page, worker.opened entity (desk.cursor worker.cursors entity) []) ∧
        after = { desk with source, around := after.around } ∧ smooth after.around := by
  unfold openWindow
  apply (loadCursor_smooth untroubled fine).bind
  rintro _ found ⟨rfl, alike, calmly⟩
  have same := alike.source
  apply (fetch_smooth untroubled calmly (same ▸ fetched)).bind
  rintro _ after ⟨rfl, left, smoothly⟩
  refine answers_pure _ ⟨rfl, ?_, smoothly⟩
  rw [left, alike.store, alike.memory]

/-- A cursor moves that is where it is expected, to where its place can hold it. -/
theorem advanceCursor_smooth {expected next : Nat}
    (there : desk.cursor worker.cursors entity = expected) (holds : worker.cursors.Holds next) :
    (worker.advanceCursor entity expected next).Answers desk fun _ _ => True := by
  unfold advanceCursor
  apply (meet_smooth untroubled fine _).bind
  intro _ met still
  rw [← still.1.cursor] at there
  cases place : worker.cursors with
  | memory =>
    rw [place] at there
    apply Ends.of_get
    simp only [MemoryCursors.advance, show met.memory.get entity = expected from there, ne_eq,
      not_true_eq_false, ↓reduceIte]
    exact ⟨(), rfl, trivial⟩
  | store =>
    rw [place] at there
    have within : ¬ greatestPosition < next := Nat.not_lt.mpr (holds place)
    have told : worker.now.exec met = _ := exec_ask _ met
    unfold Answers Ends
    rw [exec_bind_of_ok told, exec_onStore]
    simp only [Store.advanceCursor, show met.store.cursor entity = expected from there, within,
      ne_eq, not_true_eq_false, ↓reduceIte, Except.map]
    exact ⟨(), trivial, trivial⟩

theorem settle_smooth (real : worker.options.dryRun = false) {tally : Tally}
    (there : desk.cursor worker.cursors entity = tally.cursorBefore)
    (holds : tally.cursorBefore < tally.cursorAfter → worker.cursors.Holds tally.cursorAfter) :
    (worker.settle entity tally).Answers desk fun _ _ => True := by
  unfold settle
  simp only [real, Bool.not_false, Bool.true_and, decide_eq_true_eq]
  split
  · rename_i further
    apply (advanceCursor_smooth untroubled fine there (holds further)).bind
    intro _ advanced _
    unfold Answers Ends
    rw [exec_bind_of_ok (exec_attempt _ advanced)]
    exact ⟨(), rfl, trivial⟩
  · exact answers_pure _ trivial

end

/-- A window that made of its page what the policies admit, and nothing more. -/
structure ReachesExactly (worker : Worker σ) (clock : Instant → Prop) (entity : Entity)
    (page : Page) (before : Desk σ) (reached : List Entry) (stop : Option Stop) (tally : Tally)
    (after : Desk σ) : Prop where
  applied : ∃ trail, trail.map (·.1) = reached ∧
    Applied worker.actor clock before.store trail after.store ∧
      tally.bare = (Tally.start entity 0).recordAll trail
  start : tally.cursorBefore = before.cursor worker.cursors entity
  arrived : match stop with
    | some _ => ∃ last ∈ reached.getLast?, tally.cursorAfter = last.sequence
    | none => tally.cursorAfter = page.next
  ended : tally.stop = stop.getD
    (if page.entries.length < worker.options.window then .exhausted else .windowFull)
  cursor : after.cursor worker.cursors entity = tally.cursorAfter
  quarantine : after.store.quarantine = before.store.quarantine
  ledger : ∀ about sequence, after.store.Lists about sequence → before.store.Lists about sequence

/-- Given no reason to stop a window ends where its page does, else at its last record. -/
theorem conclude_arrived {page : Page} {progress : Progress}
    (through : progress.through ≤ page.next) :
    (worker.conclude page progress).cursorAfter =
      match progress.stop with
      | some _ => progress.through
      | none => page.next := by
  unfold conclude
  cases progress.stop with
  | some stop => rfl
  | none => exact Nat.max_eq_left through

section

variable {page : Page} {reached : List Entry} {stop : Option Stop} {last : Progress}
  {attended : Desk σ}

/-- What a window sums up begins at the cursor, and lies within its page. -/
theorem Took.concludes
    (took : worker.Took clock smooth desk
      (worker.opened entity (desk.cursor worker.cursors entity) []) reached stop last attended)
    (further : desk.cursor worker.cursors entity ≤ page.next)
    (inside : ∀ entry ∈ reached,
      desk.cursor worker.cursors entity < entry.sequence ∧ entry.sequence ≤ page.next) :
    (worker.conclude page last).cursorBefore = desk.cursor worker.cursors entity ∧
      desk.cursor worker.cursors entity ≤ (worker.conclude page last).cursorAfter ∧
      (worker.conclude page last).cursorAfter ≤ page.next ∧
      (worker.conclude page last).cursorAfter =
        stop.elim page.next fun _ => lastPlace (desk.cursor worker.cursors entity) reached := by
  have behind : desk.cursor worker.cursors entity ≤ last.through :=
    took.through ▸ le_lastPlace fun _ taken => (inside _ taken).1
  have within : last.through ≤ page.next :=
    took.through ▸ lastPlace_le further fun _ taken => (inside _ taken).2
  have arrived := worker.conclude_arrived within
  obtain ⟨trail, _, _, counted⟩ := took.trail
  rw [took.stop] at arrived
  refine ⟨?start, ?_, ?_, ?_⟩
  case start =>
    show last.tally.cursorBefore = _
    rw [counted, (Tally.recordAll_frame _ trail).1]
    rfl
  all_goals
    rw [arrived]
    cases stop
  · exact further
  · exact behind
  · exact le_rfl
  · exact within
  · rfl
  · exact took.through

/-- The end of a window that is through with what the policies admit. -/
theorem Took.settles (untroubled : worker.surroundings.Smooth clock smooth)
    (real : worker.options.dryRun = false)
    (took : worker.Took clock smooth desk
      (worker.opened entity (desk.cursor worker.cursors entity) []) reached stop last attended)
    (admits : worker.options.Admits page.entries reached stop)
    (further : desk.cursor worker.cursors entity ≤ page.next)
    (inside : ∀ entry ∈ page.entries,
      desk.cursor worker.cursors entity < entry.sequence ∧ entry.sequence ≤ page.next)
    (room : desk.cursor worker.cursors entity < page.next → worker.cursors.Holds page.next) :
    (worker.settle entity (worker.conclude page last)).Answers attended fun _ after =>
      worker.ReachesExactly clock entity page desk reached stop (worker.conclude page last)
        after := by
  obtain ⟨start, behind, within, arrived⟩ :=
    took.concludes further fun entry taken => inside entry (admits.part.subset taken)
  obtain ⟨beside, ⟨trail, records, applied, counted⟩, -, stopped, attempts, quarantine, cursors,
    smoothly⟩ := took
  have there : attended.cursor worker.cursors entity = (worker.conclude page last).cursorBefore :=
    (Desk.cursor_congr beside.memory cursors _ _).trans start.symm
  have settles := settle_smooth untroubled smoothly real there fun moves place =>
    within.trans (room (by omega) place)
  have moves := @settle_moved _ worker entity (fun _ => True) (fun _ => trivial)
    (worker.conclude page last) attended real there (start ▸ behind)
  apply (((settles.and_ends moves).and_ends (worker.settle_frame entity _ attended)).and_ends
    (worker.settle_lists entity _ attended)).mono
  rintro _ after ⟨⟨⟨-, moved⟩, -, same, untouched⟩, listed⟩
  refine ⟨⟨trail, records, applied.then_same same, ?counts⟩, start, ?arrived, ?ended, moved.cursor,
    untouched.trans quarantine, fun about sequence lists => ?ledger⟩
  case counts =>
    show last.tally.bare = _
    rw [counted, Tally.bare_recordAll]
    rfl
  case ended =>
    show last.stop.getD _ = _
    rw [stopped]
  case arrived =>
    rw [arrived]
    cases admits with
    | stopped _ halts _ =>
      obtain ⟨final, found⟩ := Option.isSome_iff_exists.mp halts.getLast?_isSome
      exact ⟨final, found, by simp [lastPlace, found]⟩
    | whole _ => rfl
  case ledger => exact (listed about sequence lists).of_same (by rw [attempts])

end

/-- Where no call fails, a window of a real run reaches exactly the records that the policies
admit, applies just these in their order, and moves the cursor behind the last of them, or to
the end of the page if no policy stopped it. -/
theorem policy_stops_exact (untroubled : worker.surroundings.Smooth clock smooth)
    (desk : Desk σ) (fine : smooth desk.around) (real : worker.options.dryRun = false)
    (sound : desk.source.Sound) {page : Page} {source : Source}
    (fetched : desk.source.fetch entity (desk.cursor worker.cursors entity)
      worker.options.window = .ok (page, source))
    (accepted : ∀ reached stop, worker.options.Admits page.entries reached stop →
      worker.Accepts clock reached desk.store)
    (room : desk.cursor worker.cursors entity < page.next → worker.cursors.Holds page.next) :
    ∃ reached stop tally after, worker.options.Admits page.entries reached stop ∧
      (worker.processBatch entity).exec desk = (.ok tally, after) ∧
        worker.ReachesExactly clock entity page desk reached stop tally after := by
  have admits := worker.options.admits_cut page.entries
  have covers := (Source.fetch_spec sound fetched).1
  obtain ⟨_, _, inside, _⟩ := covers.split (desk.source.entries_pairwise entity)
    fun _ => Source.le_extent_of_mem
  have window : (worker.windowOn entity none []).Answers desk fun window after =>
      worker.ReachesExactly clock entity page desk (worker.options.cut 0 page.entries).1
        (worker.options.cut 0 page.entries).2 window.1 after := by
    unfold windowOn finish
    apply (openWindow_smooth untroubled fine fetched).bind
    rintro _ found ⟨rfl, left, calmly⟩
    rw [left]
    have folds : (page.entries.foldlM (worker.step entity)
        (worker.opened entity (desk.cursor worker.cursors entity) [])).Answers
          { desk with source, around := found.around } _ :=
      foldlM_step_smooth untroubled real page.entries rfl calmly (accepted _ _ admits)
    apply folds.bind
    intro last attended took
    have settles := took.settles untroubled real admits covers.position_le_next
      (fun entry member => ⟨(covers.mem member).2, inside entry member⟩) room
    apply settles.bind
    rintro _ after ⟨applied, start, arrived, ended, cursor, quarantine, ledger⟩
    exact answers_pure _ ⟨applied, start, arrived, ended, cursor, quarantine, ledger⟩
  rw [processBatch_eq_windowOn]
  obtain ⟨tally, after, ran, reaches⟩ :=
    (window.bind fun window after reaches => answers_pure window.1 reaches).exec
  exact ⟨_, _, tally, after, admits, ran, reaches⟩

private def strict : Worker Unit :=
  ⟨motionless (.ofMillis 0), "sync", .store, ⟨10, false, some 1, true, false, .standard⟩⟩

private def inStateOf (code : String) : String :=
  "\x7b\"id\":\"a\",\"createdon\":\"2020-01-01T00:00:00Z\"," ++
    "\"modifiedon\":\"2020-01-01T00:00:00Z\",\"statecode\":" ++ code ++ "," ++
    "\"attributes\":\x7b\"firstname\":\"A\",\"lastname\":\"B\"\x7d\x7d"

private def twiceInvalid : Desk Unit :=
  ⟨.empty, .start, .memory ⟨["?", inStateOf "0", "?", inStateOf "7"], []⟩, ()⟩

/-- The second invalid record stops a window that bears only one. The record behind it
cannot become a row, and is not reached. -/
theorem policy_stops_exact_invalid : ∃ reached stop tally after,
    strict.options.Admits (twiceInvalid.source.entries .contact) reached stop ∧
      (strict.processBatch .contact).exec twiceInvalid = (.ok tally, after) ∧
        stop = some (.tooManyInvalid 2) ∧ tally.cursorAfter = 3 ∧ tally.created = 1 ∧
          tally.invalid = 2 ∧ tally.failed = 0 := by
  have untroubled : strict.surroundings.Smooth (· = .ofMillis 0) fun _ => True :=
    ⟨fun _ _ => ⟨rfl, trivial⟩, fun _ _ => ⟨rfl, trivial⟩, fun _ _ _ => ⟨rfl, trivial⟩⟩
  have accepted : strict.Accepts (· = .ofMillis 0) (twiceInvalid.source.entries .contact)
      twiceInvalid.store := accepts_of_handleAll rfl (by decide +kernel)
  have page : MemoryFeed.fetch ⟨["?", inStateOf "0", "?", inStateOf "7"], []⟩ .contact 0 10 =
      ⟨twiceInvalid.source.entries .contact, 4⟩ := by decide +kernel
  obtain ⟨reached, stop, tally, after, admits, ran, reaches⟩ :=
    @policy_stops_exact _ strict _ _ .contact untroubled twiceInvalid trivial rfl trivial
      ⟨twiceInvalid.source.entries .contact, 4⟩ twiceInvalid.source
      (congrArg (fun page => Except.ok (page, twiceInvalid.source)) page)
      (fun _ _ admits => accepted.of_prefix admits.part) (fun _ _ => by decide)
  have told : ((strict.processBatch .contact).exec twiceInvalid).1.toOption.map
      (fun tally => (tally.stop, tally.cursorAfter, tally.created, tally.invalid, tally.failed)) =
        some (.tooManyInvalid 2, 3, 1, 2, 0) := by
    decide +kernel
  rw [ran] at told
  injection told with told
  injection told with stopped told
  injection told with arrived told
  injection told with created told
  injection told with invalid failed
  refine ⟨reached, stop, tally, after, admits, ran, ?_, arrived, created, invalid, failed⟩
  have ended := stopped.symm.trans reaches.ended
  cases stop with
  | some stop => exact congrArg some ended.symm
  | none => cases ended

end Worker

end Run

end RecordSync
