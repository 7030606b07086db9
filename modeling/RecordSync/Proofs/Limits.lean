import RecordSync.Proofs.Answering
import RecordSync.Proofs.Calm

/-! Runs that are to take so many windows at most. The first window is taken before any limit
is looked at, and from then on a run with a limit does what the run without one does, until it
took as many. -/

namespace RecordSync.Run

open RecordSync.Calendar RecordSync.Change RecordSync.Feed RecordSync.Record RecordSync.Store
open Work

variable {σ : Type}

/-- The rows, the events, the ledger and the cursors are the same. -/
structure Desk.SameStored (before after : Desk σ) : Prop where
  store : after.store = before.store
  memory : after.memory = before.memory

theorem Desk.SameStored.refl (desk : Desk σ) : desk.SameStored desk := ⟨rfl, rfl⟩

theorem Desk.SameStored.trans {first second third : Desk σ} (one : first.SameStored second)
    (two : second.SameStored third) : first.SameStored third :=
  ⟨two.store.trans one.store, two.memory.trans one.memory⟩

def Work.StoresNothing {α : Type} (work : Work σ α) (desk : Desk σ) : Prop :=
  work.Ends desk fun _ after => desk.SameStored after

theorem Work.StoresNothing.pure {α : Type} (value : α) (desk : Desk σ) :
    Work.StoresNothing (Pure.pure value) desk :=
  ends_pure value (.refl desk)

theorem Work.StoresNothing.of_alike {α : Type} {work : Work σ α} {desk : Desk σ}
    (alike : work.Ends desk fun _ after => desk.Alike after) : work.StoresNothing desk :=
  alike.mono fun _ _ alike => ⟨alike.store, alike.memory⟩

theorem Work.StoresNothing.bind {α β : Type} {work : Work σ α} {desk : Desk σ} {next : α → Work σ β}
    (first : work.StoresNothing desk) (rest : ∀ value after, (next value).StoresNothing after) :
    Work.StoresNothing (work >>= next) desk := by
  apply Ends.bind first
  · intro fault after same
    exact same
  · intro value after same
    exact (rest value after).mono fun _ _ further => same.trans further

namespace Worker

/-- So many windows of one run: the first from a position that is given, or else from the
cursor, and each of the others from where the one before it ended. -/
def windows (worker : Worker σ) (entity : Entity) :
    Nat → Option Nat → Planned → Work σ (List Tally)
  | 0, _, _ => return []
  | count + 1, onward, planned => do
    let (batch, planned) ← worker.windowOn entity onward planned
    let rest ← worker.windows entity count (worker.onward batch.cursorAfter) planned
    return batch :: rest

/-- So many windows, each of them asked for by itself. -/
def batches (worker : Worker σ) (entity : Entity) : Nat → Work σ (List Tally)
  | 0 => return []
  | count + 1 => do
    let batch ← worker.processBatch entity
    let rest ← worker.batches entity count
    return batch :: rest

variable {worker : Worker σ} {entity : Entity} {desk last : Desk σ} {whole : Tally}

/-- One window is counted as one. -/
theorem windowOn_one (worker : Worker σ) (entity : Entity) (onward : Option Nat)
    (planned : Planned) (desk : Desk σ) :
    (worker.windowOn entity onward planned).Yields desk fun window _ => window.1.batches = 1 := by
  refine (worker.openWindow_opened entity onward planned desk).bind ?_
  rintro ⟨page, progress⟩ fetched ⟨cursor, rfl⟩
  apply Yields.bind_exec
  intro progress attended ran
  obtain ⟨one, _⟩ :=
    (worker.foldlM_step_midPage entity page cursor planned fetched).of_exec ran progress rfl
  exact .bind_exec fun _ after _ => yields_pure _ one

theorem fetch_storesNothing (worker : Worker σ) (entity : Entity) (position : Nat) (desk : Desk σ) :
    (worker.fetch entity position).StoresNothing desk := by
  unfold fetch
  apply (StoresNothing.of_alike (worker.meet_ends _ desk)).bind
  intro _ met
  apply Ends.of_get
  split
  · exact Ends.of_set (ends_pure _ ⟨rfl, rfl⟩)
  · exact ends_throw _ (.refl met)

/-- One window of a dry run stores nothing. -/
theorem windowOn_storesNothing (dry : worker.options.dryRun = true) (onward : Option Nat)
    (planned : Planned) (desk : Desk σ) :
    (worker.windowOn entity onward planned).StoresNothing desk := by
  have opened : (worker.openWindow entity onward planned).StoresNothing desk := by
    have fetched (cursor : Nat) (desk : Desk σ) : StoresNothing (do
        let page ← worker.fetch entity cursor
        return (page, worker.opened entity cursor planned)) desk :=
      (worker.fetch_storesNothing entity cursor desk).bind fun _ after => .pure _ after
    unfold openWindow
    cases onward with
    | some position =>
      simp only [pure_bind]
      exact fetched position desk
    | none =>
      have loaded := (worker.loadCursor_ends entity desk).mono fun _ _ loaded => loaded.1
      exact (StoresNothing.of_alike loaded).bind fetched
  apply opened.bind
  rintro ⟨page, progress⟩ desk
  have dealt : (page.entries.foldlM (worker.step entity) progress).StoresNothing desk := by
    generalize page.entries = entries
    induction entries generalizing progress desk with
    | nil => exact .pure progress desk
    | cons entry rest ih =>
      rw [List.foldlM_cons]
      exact (StoresNothing.of_alike (step_dry dry progress entry desk)).bind ih
  have still (progress : Progress) :
      worker.settle entity (worker.conclude page progress) = pure () := by
    simp [settle, dry]
  unfold finish
  apply dealt.bind
  intro progress after
  rw [still, pure_bind]
  exact .pure _ after

/-- Some windows, asked for one by one. -/
theorem batches_succ (worker : Worker σ) (entity : Entity) (count : Nat) :
    worker.batches entity (count + 1) = do
      let window ← worker.windowOn entity none []
      let rest ← worker.batches entity count
      return window.1 :: rest := by
  simp [batches, processBatch_eq_windowOn]

/-- A run that is not dry takes the windows that might be asked for one by one. -/
theorem exec_windows (real : worker.options.dryRun = false) (count : Nat) (desk : Desk σ) :
    (worker.windows entity count none []).exec desk = (worker.batches entity count).exec desk := by
  -- A run hands on where its window ended and what is planned; unless it is dry, neither counts.
  induction count generalizing desk with
  | zero => rfl
  | succ count ih =>
    rw [batches_succ]
    unfold windows
    rcases ran : (worker.windowOn entity none []).exec desk with ⟨fault | ⟨batch, planned⟩, after⟩
    · rw [exec_bind_of_error ran, exec_bind_of_error ran]
    · obtain rfl : planned = [] := windowOn_planned real none [] desk _ _ ran
      rw [exec_bind_of_ok ran, exec_bind_of_ok ran]
      simp only [onward_of_real real, exec_bind, ih]

theorem batches_storesNothing (dry : worker.options.dryRun = true) (count : Nat) (desk : Desk σ) :
    (worker.batches entity count).StoresNothing desk := by
  induction count generalizing desk with
  | zero => exact .pure [] desk
  | succ count ih =>
    rw [batches_succ]
    exact (windowOn_storesNothing dry none [] desk).bind fun _ between =>
      (ih between).bind fun _ after => .pure _ after

theorem windows_storesNothing (dry : worker.options.dryRun = true) (count : Nat)
    (onward : Option Nat) (planned : Planned) (desk : Desk σ) :
    (worker.windows entity count onward planned).StoresNothing desk := by
  induction count generalizing onward planned desk with
  | zero => exact .pure [] desk
  | succ count ih =>
    exact (windowOn_storesNothing dry onward planned desk).bind fun _ between =>
      (ih _ _ between).bind fun _ after => .pure _ after

theorem drainOn_storesNothing (dry : worker.options.dryRun = true) (most : Option Nat) (fuel : Nat)
    (total : Tally) (planned : Planned) (desk : Desk σ) :
    (worker.drainOn entity most fuel total planned).StoresNothing desk := by
  induction fuel generalizing total planned desk with
  | zero => exact .pure total desk
  | succ fuel ih =>
    rw [drainOn_succ]
    split
    · exact (windowOn_storesNothing dry _ planned desk).bind fun _ between => ih _ _ between
    · exact .pure total desk

/-- A dry run stores nothing. -/
theorem serve_storesNothing (dry : worker.options.dryRun = true) (request : Request)
    (desk : Desk σ) : (worker.serve entity request).StoresNothing desk := by
  have first := @windowOn_storesNothing _ worker entity dry none [] desk
  cases request with
  | batch =>
    show (worker.processBatch entity).StoresNothing desk
    rw [processBatch_eq_windowOn]
    exact first.bind fun window after => .pure window.1 after
  | untilIdle maxBatches =>
    exact Ends.congr (first.bind fun window between =>
      drainOn_storesNothing dry maxBatches _ window.1 window.2 between)
      (worker.exec_runUntilIdle entity maxBatches desk)

/-- One window, and those that follow it. -/
theorem exec_windows_succ {count : Nat} {onward : Option Nat} {planned : Planned}
    {window : Tally × Planned} {tallies : List Tally} {desk between after : Desk σ}
    (first : (worker.windowOn entity onward planned).exec desk = (.ok window, between))
    (rest : (worker.windows entity count (worker.onward window.1.cursorAfter) window.2).exec
      between = (.ok tallies, after)) :
    (worker.windows entity (count + 1) onward planned).exec desk =
      (.ok (window.1 :: tallies), after) := by
  unfold windows
  rw [exec_bind_of_ok first]
  exact exec_bind_of_ok rest

/-- The windows of a run after the first, under whatever limit: its counts are the sum of theirs,
and it took as many as it counted. -/
theorem drainOn_windows (worker : Worker σ) (entity : Entity) (most : Option Nat) (fuel : Nat)
    (total : Tally) (planned : Planned) (desk : Desk σ) :
    (worker.drainOn entity most fuel total planned).Yields desk fun tally after =>
      ∃ tallies, (worker.windows entity tallies.length (worker.onward total.cursorAfter)
          planned).exec desk = (.ok tallies, after) ∧
        tally = tallies.foldl Tally.absorb total ∧
        tally.batches = total.batches + tallies.length := by
  induction fuel generalizing total planned desk with
  | zero => exact yields_pure _ ⟨[], rfl, rfl, rfl⟩
  | succ fuel ih =>
    rw [drainOn_succ]
    split
    · apply Yields.bind_exec
      intro window between ran tally after answered
      have one := worker.windowOn_one entity _ _ desk window between ran
      obtain ⟨tallies, further, sum, count⟩ := ih _ _ between tally after answered
      refine ⟨window.1 :: tallies, exec_windows_succ ran further, sum, ?_⟩
      have joined : (total.absorb window.1).batches = total.batches + 1 :=
        congrArg (total.batches + ·) one
      rw [count, joined, List.length_cons]
      omega
    · exact yields_pure _ ⟨[], rfl, rfl, rfl⟩

/-- With a limit that is not exceeded yet, the later windows of a run are those that it takes
without one, as far as the limit allows. -/
theorem drainOn_limited (limit fuel : Nat) {total : Tally} {planned : Planned} {desk : Desk σ}
    (ran : (worker.drainOn entity none fuel total planned).exec desk = (.ok whole, last))
    (begun : 1 ≤ total.batches) (within : total.batches ≤ max limit 1) :
    (worker.drainOn entity (some limit) fuel total planned).Answers desk fun tally _ =>
      tally.batches = min (max limit 1) whole.batches := by
  have done {desk : Desk σ} (within : whole.batches ≤ max limit 1) :
      Answers (pure whole) desk fun tally _ => tally.batches = min (max limit 1) whole.batches :=
    answers_pure _ (Nat.min_eq_right within).symm
  -- Both runs take the same next window as long as there is room for one. Where there is none,
  -- as many were taken as the limit allows, and the run without it took no fewer.
  induction fuel generalizing total planned desk with
  | zero =>
    cases ran
    exact done within
  | succ fuel ih =>
    have limited : goesOn (some limit) total =
        (goesOn none total && decide (total.batches < limit)) := by simp [goesOn]
    cases goes : goesOn none total with
    | false =>
      rw [drainOn_of_stays goes] at ran
      rw [drainOn_of_stays (by rw [limited, goes, Bool.false_and])]
      cases ran
      exact done within
    | true =>
      rw [goes, Bool.true_and] at limited
      by_cases room : total.batches < limit
      · have further : goesOn (some limit) total = true := limited.trans (decide_eq_true room)
        rw [drainOn_succ, if_pos goes] at ran
        rw [drainOn_succ, if_pos further]
        rcases first : (worker.windowOn entity (worker.onward total.cursorAfter) planned).exec desk
          with ⟨fault | window, between⟩
        · rw [exec_bind_of_error first] at ran
          cases ran
        · rw [exec_bind_of_ok first] at ran
          have one := worker.windowOn_one entity _ _ desk window between first
          have joined : (total.absorb window.1).batches = total.batches + 1 :=
            congrArg (total.batches + ·) one
          unfold Answers Ends
          rw [exec_bind_of_ok first]
          exact ih ran (by omega) (by omega)
      · rw [drainOn_of_stays (limited.trans (decide_eq_false room))]
        obtain ⟨tallies, _, _, count⟩ :=
          worker.drainOn_windows entity none _ total planned desk whole last ran
        exact answers_pure _ (by omega)

/-- A run under whatever limit: its counts are the sum of those of its windows, of which it took
as many as it counted. -/
theorem runUntilIdle_windows (worker : Worker σ) (entity : Entity) (most : Option Nat)
    (desk : Desk σ) :
    (worker.runUntilIdle entity most).Yields desk fun total after => ∃ first rest,
      (worker.windows entity total.batches none []).exec desk = (.ok (first :: rest), after) ∧
      total = rest.foldl Tally.absorb first := by
  refine Yields.congr ?_ (worker.exec_runUntilIdle entity most desk)
  apply Yields.bind_exec
  intro window between ran total after answered
  have one := worker.windowOn_one entity none [] desk window between ran
  obtain ⟨rest, further, sum, count⟩ :=
    worker.drainOn_windows entity most _ _ _ between total after answered
  refine ⟨window.1, rest, ?_, sum⟩
  rw [count, one, Nat.add_comm]
  exact exec_windows_succ ran further

/-- A run that comes to its end without a limit does so with one. It takes as many windows as the
limit allows, and the first one in any case. -/
theorem runUntilIdle_limited (limit : Nat)
    (ran : (worker.runUntilIdle entity none).exec desk = (.ok whole, last)) :
    (worker.runUntilIdle entity (some limit)).Answers desk fun total _ =>
      total.batches = min (max limit 1) whole.batches := by
  rw [exec_runUntilIdle] at ran
  refine Ends.congr ?_ (worker.exec_runUntilIdle entity (some limit) desk)
  rcases first : (worker.windowOn entity none []).exec desk with ⟨fault | window, between⟩
  · rw [exec_bind_of_error first] at ran
    cases ran
  · rw [exec_bind_of_ok first] at ran
    have one := worker.windowOn_one entity none [] desk window between first
    unfold Ends
    rw [exec_bind_of_ok first]
    exact drainOn_limited limit _ ran (Nat.le_of_eq one.symm) (one ▸ Nat.le_max_right _ _)

/-- A run that took so many windows: its counts are the sum of theirs, and it leaves what as
many windows leave that are asked for one by one. On no dry run they are the same windows. -/
structure TakesWindows (worker : Worker σ) (entity : Entity) (before : Desk σ) (count : Nat)
    (total : Tally) (after : Desk σ) : Prop where
  counted : total.batches = count
  windows : ∃ first rest, total = rest.foldl Tally.absorb first ∧
    (worker.windows entity count none []).exec before = (.ok (first :: rest), after) ∧
    (worker.options.dryRun = false →
      (worker.batches entity count).exec before = (.ok (first :: rest), after))
  left : ((worker.batches entity count).exec before).2.SameStored after

theorem runUntilIdle_takes {most : Option Nat} {total : Tally} {after : Desk σ}
    (ran : (worker.runUntilIdle entity most).exec desk = (.ok total, after)) :
    worker.TakesWindows entity desk total.batches total after := by
  obtain ⟨first, rest, took, sum⟩ :=
    worker.runUntilIdle_windows entity most desk total after ran
  have same (real : worker.options.dryRun = false) :
      (worker.batches entity total.batches).exec desk = (.ok (first :: rest), after) := by
    rw [← exec_windows real, took]
  refine ⟨rfl, ⟨first, rest, sum, took, same⟩, ?_⟩
  cases dry : worker.options.dryRun with
  | false =>
    rw [same dry]
    exact .refl after
  | true =>
    have asked : (worker.batches entity total.batches).StoresNothing desk :=
      batches_storesNothing dry _ desk
    have unwritten := (windows_storesNothing dry total.batches none [] desk).of_exec took
    exact ⟨unwritten.store.trans asked.store.symm, unwritten.memory.trans asked.memory.symm⟩

/-- A run with a limit takes the first windows of the run without one, as many as the limit
allows, and leaves what they leave. Its first window it takes whatever the limit is. -/
theorem limited_run_takes_windows (worker : Worker σ) (entity : Entity) (desk : Desk σ) :
    (worker.Steady entity → worker.Ready entity desk →
      ∃ whole last, (worker.runUntilIdle entity none).exec desk = (.ok whole, last)) ∧
    ∀ whole last, (worker.runUntilIdle entity none).exec desk = (.ok whole, last) →
      worker.TakesWindows entity desk whole.batches whole last ∧
      ∀ limit, ∃ total after,
        (worker.runUntilIdle entity (some limit)).exec desk = (.ok total, after) ∧
        worker.TakesWindows entity desk (min (max limit 1) whole.batches) total after := by
  constructor
  · intro steady ready
    obtain ⟨whole, last, ran, _⟩ := (runUntilIdle_serves steady none ready).exec
    exact ⟨whole, last, ran⟩
  · intro whole last ran
    refine ⟨runUntilIdle_takes ran, fun limit => ?_⟩
    obtain ⟨total, after, limited, count⟩ := (runUntilIdle_limited limit ran).exec
    exact ⟨total, after, limited, count ▸ runUntilIdle_takes limited⟩

private def unhurried (size : Nat) : Worker Unit :=
  ⟨motionless (.ofMillis 0), "sync", .store, ⟨size, false, some 25, false, false, .immediate 5 1⟩⟩

private def twoAbsent : Desk Unit :=
  ⟨.empty, .start, .memory ⟨["\x7b\"id\":\"a\",\"change\":\"remove\"\x7d",
    "\x7b\"id\":\"b\",\"change\":\"remove\"\x7d", "?"], []⟩, ()⟩

/-- Three records in windows of one: of four windows, a run with a limit takes the first two. -/
theorem limited_run_takes_windows_two_of_four : ∃ (whole total : Tally) (last after : Desk Unit),
    ((unhurried 1).runUntilIdle .contact none).exec twoAbsent = (.ok whole, last) ∧
    whole.batches = 4 ∧
    ((unhurried 1).runUntilIdle .contact (some 2)).exec twoAbsent = (.ok total, after) ∧
    (unhurried 1).TakesWindows .contact twoAbsent 2 total after := by
  have steady : (unhurried 1).Steady .contact :=
    ⟨fun _ _ _ _ => nofun, fun _ => rfl, fun _ => rfl, fun _ => rfl, fun _ _ => rfl,
      fun _ _ => rfl⟩
  have ready : (unhurried 1).Ready .contact twoAbsent := ⟨trivial, trivial, by decide, nofun⟩
  obtain ⟨answers, takes⟩ := limited_run_takes_windows (unhurried 1) .contact twoAbsent
  obtain ⟨whole, last, ran⟩ := answers steady ready
  obtain ⟨_, limited⟩ := takes whole last ran
  obtain ⟨total, after, stopped, took⟩ := limited 2
  have four : (((unhurried 1).runUntilIdle .contact none).exec twoAbsent).1.toOption.map
      (·.batches) = some 4 := by decide +kernel
  rw [ran] at four
  have four : whole.batches = 4 := Option.some.inj four
  rw [four] at took
  exact ⟨whole, total, last, after, ran, four, stopped, took⟩

private def newcomer : Desk Unit :=
  ⟨.empty, .start, .memory ⟨["\x7b\"id\":\"a\",\"createdon\":\"2020-01-01T00:00:00Z\"," ++
    "\"modifiedon\":\"2020-01-01T00:00:00Z\",\"statecode\":0," ++
    "\"attributes\":\x7b\"firstname\":\"A\",\"lastname\":\"B\"\x7d\x7d"], []⟩, ()⟩

/-- A limit of no windows: the run takes one all the same and makes a row in it, though no
windows that are asked for one by one make none. -/
theorem limit_of_none_takes_one : ∃ (whole total : Tally) (last after : Desk Unit),
    ((unhurried 100).runUntilIdle .contact none).exec newcomer = (.ok whole, last) ∧
    ((unhurried 100).runUntilIdle .contact (some 0)).exec newcomer = (.ok total, after) ∧
    min 0 whole.batches = 0 ∧ total.batches = 1 ∧ total.created = 1 ∧
    ((unhurried 100).batches .contact 0).exec newcomer = (.ok [], newcomer) ∧
    ¬ newcomer.SameStored after := by
  have whole := @exec_of_answer _ _ ((unhurried 100).runUntilIdle .contact none) newcomer
    ⟨.contact, 1, 1, 1, 0, 0, 0, 0, 0, 0, 0, 0, 0, 0, 1, .exhausted, false⟩ (by decide +kernel)
  have taken := @exec_of_answer _ _ ((unhurried 100).runUntilIdle .contact (some 0)) newcomer
    ⟨.contact, 1, 1, 1, 0, 0, 0, 0, 0, 0, 0, 0, 0, 0, 1, .exhausted, false⟩ (by decide +kernel)
  have made : (((unhurried 100).runUntilIdle .contact (some 0)).exec
      newcomer).2.store.rows.contact.rows.length = 1 := by decide +kernel
  refine ⟨_, _, _, _, whole, taken, rfl, rfl, rfl, rfl, fun same => ?_⟩
  rw [same.store] at made
  cases made

end Worker

end RecordSync.Run
