import RecordSync.Proofs.Interleaving

/-! The runs of one worker as steps among others. Whatever a run does, it does
in steps of a window, so what holds of workers beside each other holds of it. -/

namespace RecordSync.Run

open RecordSync.Calendar RecordSync.Change RecordSync.Feed RecordSync.Record RecordSync.Store
open Work

variable {σ α β : Type}

namespace System

/-- The system while a worker has the desk and a window is open, or none is. -/
def during (system : System σ) (id reader : Nat) (desk : Desk σ) (verdicts : List Verdict)
    (window : Option (OpenWindow σ)) : System σ :=
  { (system.seat reader desk).put id window with verdicts }

/-- A desk at which the system's feed is read. -/
def Serves (system : System σ) (desk : Desk σ) : Prop :=
  desk.source = system.source.remembering desk.source.marks

theorem Serves.beside {system : System σ} {desk after : Desk σ} (serves : system.Serves desk)
    (beside : desk.SameBeside after) : system.Serves after := by
  unfold Serves at *
  rw [beside.source]
  exact serves

theorem Serves.reread {system : System σ} {desk after : Desk σ} (serves : system.Serves desk)
    (reread : desk.Reread after) : system.Serves after := by
  obtain ⟨marks, remembered⟩ := reread.marks
  unfold Serves at *
  rw [remembered, serves, Source.remembering_remembering, Source.remembering_marks_remembering]

theorem desk_serves (system : System σ) (reader : Nat) (around : σ) :
    system.Serves (system.desk reader around) :=
  (Source.remembering_marks_remembering _ _).symm

variable {system : System σ} {desk : Desk σ} {id reader : Nat} {verdicts : List Verdict}
  {window : Option (OpenWindow σ)}

theorem during_desk (serves : system.Serves desk) :
    (system.during id reader desk verdicts window).desk reader desk.around = desk := by
  cases desk
  unfold Serves at serves
  simp only [during, seat, put, System.desk, Function.update_self]
  rw [← serves]

theorem during_seat_put (after : Desk σ) (next : Option (OpenWindow σ)) :
    ((system.during id reader desk verdicts window).seat reader after).put id next =
      system.during id reader after verdicts next := by
  simp [during, seat, put, Function.update_idem]

theorem during_noting (system : System σ) (id reader : Nat) (desk : Desk σ)
    (verdicts : List Verdict) (after : Desk σ) (opened : OpenWindow σ) (entry : Entry)
    (ending : Option Ending) (next : Option (OpenWindow σ)) :
    ∃ later, (((system.during id reader desk verdicts window).seat reader after).noting
      opened entry ending).put id next = system.during id reader after later next := by
  unfold noting
  split
  · rename_i ending
    split
    · exact ⟨verdicts, during_seat_put after next⟩
    · refine ⟨⟨opened.entity, entry, ending⟩ :: verdicts, ?_⟩
      simp [during, seat, put, Function.update_idem]
  · exact ⟨verdicts, during_seat_put after next⟩

theorem during_idle (idle : system.windows id = none) :
    system.during id reader desk verdicts none = { system.seat reader desk with verdicts } := by
  have same : Function.update system.windows id none = system.windows := by
    rw [← idle, Function.update_eq_self]
  simp [during, seat, put, same]

/-- The records of a window, one step each. -/
theorem attend_reaches (worker : Worker σ) (entity : Entity) (page : Page) (left : List Entry)
    (verdicts : List Verdict) (progress : Progress) (serves : system.Serves desk) :
    (left.foldlM (worker.step entity) progress).Ends desk fun result after =>
      desk.SameBeside after ∧ ∃ later,
        Reaches (system.during id reader desk verdicts
          (some ⟨worker, reader, entity, page, left, progress, desk.around⟩))
        (system.during id reader after later (match result with
          | .ok progress => some ⟨worker, reader, entity, page, [], progress, after.around⟩
          | .error _ => none)) := by
  induction left generalizing desk verdicts progress with
  | nil => exact ends_pure progress ⟨.refl desk, verdicts, .refl⟩
  | cons entry rest ih =>
    have underway : (system.during id reader desk verdicts
        (some ⟨worker, reader, entity, page, entry :: rest, progress, desk.around⟩)).windows id =
        some ⟨worker, reader, entity, page, entry :: rest, progress, desk.around⟩ := by
      simp [during, put]
    rw [List.foldlM_cons, Worker.step_eq_attend, map_eq_pure_bind, bind_assoc]
    apply Ends.bind_exec
    · intro fault after ran
      have beside := ((worker.attend_frame entity progress entry desk).of_exec ran).1
      have faulted := Step.faulted underway rfl (by rw [during_desk serves]; exact ran)
      rw [during_seat_put] at faulted
      exact ⟨beside, verdicts, .step .refl faulted⟩
    · intro answer between ran
      obtain ⟨ending, next⟩ := answer
      have beside := ((worker.attend_frame entity progress entry desk).of_exec ran).1
      have attended := Step.attended underway rfl (by rw [during_desk serves]; exact ran)
      obtain ⟨noted, same⟩ := system.during_noting id reader desk verdicts between _ entry ending _
      rw [same] at attended
      rw [pure_bind]
      apply (ih noted next (serves.beside beside)).mono
      intro result after ends
      obtain ⟨besideAgain, later, reaches⟩ := ends
      exact ⟨beside.trans besideAgain, later, .trans (.step .refl attended) reaches⟩

/-- What a run of one worker comes to: the system can take the same way. -/
def Follows (system : System σ) (reader : Nat) (after : Desk σ) : Prop :=
  system.Serves after ∧ after.source.Sound ∧
    ∃ verdicts, Reaches system { system.seat reader after with verdicts }

/-- A whole window, from its first step to its last. -/
theorem window_follows (system : System σ) (worker : Worker σ) (entity : Entity)
    (onward : Option Nat) (planned : Planned) (around : σ) (idle : system.windows id = none)
    (dry : onward ≠ none → worker.options.dryRun = true)
    (sound : (system.source.remembering (system.marks reader)).Sound) :
    (worker.windowOn entity onward planned).Ends (system.desk reader around) fun _ after =>
      system.Follows reader after := by
  have served := system.desk_serves reader around
  apply Ends.bind_exec
  · intro fault after ran
    have ends := (worker.openWindow_ends entity onward planned _ sound).of_exec ran
    exact ⟨served.reread ends.1, ends.1.sound, system.verdicts,
      .step .refl (.unopened worker reader entity onward planned around ran)⟩
  · intro opening found ran
    obtain ⟨page, progress⟩ := opening
    have ends := (worker.openWindow_ends entity onward planned _ sound).of_exec ran
    have serves := served.reread ends.1
    have opened : Reaches system (system.during id reader found system.verdicts
        (some ⟨worker, reader, entity, page, page.entries, progress, found.around⟩)) :=
      .step .refl (.opened worker reader entity onward planned around idle dry ran)
    unfold Worker.finish
    apply (attend_reaches worker entity page page.entries system.verdicts progress serves).bind
    · intro fault after attended
      obtain ⟨beside, verdicts, reaches⟩ := attended
      rw [during_idle idle] at reaches
      exact ⟨serves.beside beside, beside.source ▸ ends.1.sound, verdicts, opened.trans reaches⟩
    · intro last attended reached
      obtain ⟨beside, verdicts, reaches⟩ := reached
      have servesStill := serves.beside beside
      have underway : (system.during id reader attended verdicts
          (some ⟨worker, reader, entity, page, [], last, attended.around⟩)).windows id =
          some ⟨worker, reader, entity, page, [], last, attended.around⟩ := by
        simp [during, put]
      have settles {result : Except SyncFault Unit} {after : Desk σ}
          (settled : (worker.settle entity (worker.conclude page last)).exec attended =
            (result, after)) : system.Follows reader after := by
        have besideAgain := ((worker.settle_frame entity _ attended).of_exec settled).1
        have step : Step _ ((System.seat _ reader after).put id none) :=
          .settled underway rfl (by rw [during_desk servesStill]; exact settled)
        rw [during_seat_put, during_idle idle] at step
        refine ⟨?_, ?_, verdicts, (opened.trans reaches).step step⟩
        · unfold Serves at *
          rw [besideAgain]
          exact servesStill
        · rw [besideAgain, beside.source]
          exact ends.1.sound
      apply Ends.bind_exec
      · intro fault after settled
        exact settles settled
      · intro _ after settled
        exact ends_pure _ (settles settled)

theorem Follows.trans {between after : Desk σ} (follows : system.Follows reader between)
    (onwards : ∀ verdicts, Follows { system.seat reader between with verdicts } reader after) :
    system.Follows reader after := by
  obtain ⟨serves, _, verdicts, reaches⟩ := follows
  obtain ⟨servesStill, sound, later, further⟩ := onwards verdicts
  have same : { System.seat { system.seat reader between with verdicts } reader after with
      verdicts := later } = { system.seat reader after with verdicts := later } := by
    simp [seat, Function.update_idem]
  rw [same] at further
  exact ⟨servesStill, sound, later, reaches.trans further⟩

theorem Follows.desk_eq (follows : system.Follows reader desk) (verdicts : List Verdict) :
    System.desk { system.seat reader desk with verdicts } reader desk.around = desk := by
  obtain ⟨serves, _⟩ := follows
  cases desk
  unfold Serves at serves
  simp only [seat, System.desk, Function.update_self]
  rw [← serves]

/-- What can be done in steps from any system with the same windows open can be done after
what was done in steps. -/
theorem Follows.further {work : Work σ α} (follows : system.Follows reader desk)
    (onwards : ∀ later : System σ, later.windows = system.windows →
      (later.source.remembering (later.marks reader)).Sound →
      work.Ends (later.desk reader desk.around) fun _ after => later.Follows reader after) :
    work.Ends desk fun _ after => system.Follows reader after := by
  unfold Ends
  apply follows.trans
  intro verdicts
  have sound : (Source.remembering (System.source { system.seat reader desk with verdicts })
      (System.marks { system.seat reader desk with verdicts } reader)).Sound := by
    simp only [seat, Function.update_self]
    rw [← follows.1]
    exact follows.2.1
  have ends := onwards { system.seat reader desk with verdicts } rfl sound
  rw [follows.desk_eq verdicts] at ends
  exact ends

/-- The later windows of a run. -/
theorem drainOn_follows (worker : Worker σ) (entity : Entity) (maxBatches : Option Nat)
    (fuel : Nat) (total : Tally) (planned : Planned) (idle : system.windows id = none)
    (follows : system.Follows reader desk) :
    (worker.drainOn entity maxBatches fuel total planned).Ends desk fun _ after =>
      system.Follows reader after := by
  induction fuel generalizing total planned desk with
  | zero => exact ends_pure total follows
  | succ fuel ih =>
    rw [Worker.drainOn_succ]
    split
    · have dry : worker.onward total.cursorAfter ≠ none → worker.options.dryRun = true := by
        intro given
        by_contra real
        simp [Worker.onward, real] at given
      have next := follows.further fun later windows sound =>
        have free : later.windows id = none := windows ▸ idle
        window_follows later worker entity _ planned _ free dry sound
      apply next.bind
      · intro fault after further
        exact further
      · intro window after further
        exact ih _ _ further
    · exact ends_pure total follows

/-- Whatever a single window does, the system can do in steps. -/
theorem processBatch_follows (worker : Worker σ) (entity : Entity) (around : σ)
    (idle : system.windows id = none)
    (sound : (system.source.remembering (system.marks reader)).Sound) :
    (worker.processBatch entity).Ends (system.desk reader around) fun _ after =>
      system.Follows reader after := by
  rw [Worker.processBatch_eq_windowOn]
  apply (window_follows system worker entity none [] around idle (by simp) sound).bind
  · intro fault after follows
    exact follows
  · intro window after follows
    exact ends_pure _ follows

/-- Whatever a run does until it is idle, the system can do in steps. -/
theorem runUntilIdle_follows (worker : Worker σ) (entity : Entity) (maxBatches : Option Nat)
    (around : σ) (idle : system.windows id = none)
    (sound : (system.source.remembering (system.marks reader)).Sound) :
    (worker.runUntilIdle entity maxBatches).Ends (system.desk reader around) fun _ after =>
      system.Follows reader after := by
  refine Ends.congr ?_ (worker.exec_runUntilIdle entity maxBatches _)
  apply (window_follows system worker entity none [] around idle (by simp) sound).bind
  · intro fault after follows
    exact follows
  · intro window after follows
    exact drainOn_follows worker entity maxBatches _ _ _ idle follows

end System

end RecordSync.Run
