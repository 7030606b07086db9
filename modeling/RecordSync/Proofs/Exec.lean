import RecordSync.Run.Drain

/-! What becomes of a part of the work: its answer or its fault, and the desk
that it leaves. A statement about both is carried from one part to the next. -/

namespace RecordSync.Run

open RecordSync.Calendar RecordSync.Feed RecordSync.Record RecordSync.Store

variable {σ α β : Type}

namespace Work

/-- The answer or the fault of a part of the work, with the desk afterwards. -/
def exec (work : Work σ α) (desk : Desk σ) : Except SyncFault α × Desk σ :=
  work.run desk

/-- However a part of the work ends, its end satisfies a condition. -/
def Ends (work : Work σ α) (desk : Desk σ) (post : Except SyncFault α → Desk σ → Prop) : Prop :=
  post (work.exec desk).1 (work.exec desk).2

variable {work : Work σ α} {desk after : Desk σ} {result : Except SyncFault α}

theorem Ends.of_exec {post : Except SyncFault α → Desk σ → Prop} (ends : work.Ends desk post)
    (ran : work.exec desk = (result, after)) : post result after := by
  unfold Ends at ends
  rw [ran] at ends
  exact ends

theorem Ends.mono {post weaker : Except SyncFault α → Desk σ → Prop} (ends : work.Ends desk post)
    (weaken : ∀ result after, post result after → weaker result after) :
    work.Ends desk weaker :=
  weaken _ _ ends

theorem Ends.congr {other : Work σ α} {post : Except SyncFault α → Desk σ → Prop}
    (ends : other.Ends desk post) (same : work.exec desk = other.exec desk) :
    work.Ends desk post := by
  unfold Ends
  rw [same]
  exact ends

@[simp] theorem exec_pure (value : α) (desk : Desk σ) :
    exec (pure value) desk = (.ok value, desk) := rfl

@[simp] theorem exec_throw (fault : SyncFault) (desk : Desk σ) :
    exec (throw fault : Work σ α) desk = (.error fault, desk) := rfl

theorem exec_bind (work : Work σ α) (next : α → Work σ β) (desk : Desk σ) :
    exec (work >>= next) desk =
      match work.exec desk with
      | (.ok value, desk) => (next value).exec desk
      | (.error fault, desk) => (.error fault, desk) := by
  have unfolded : exec (work >>= next) desk =
      ExceptT.bindCont next (work.exec desk).1 (work.exec desk).2 := rfl
  rw [unfolded]
  rcases work.exec desk with ⟨_ | _, _⟩ <;> rfl

theorem exec_bind_of_ok {next : α → Work σ β} {value : α}
    (ran : work.exec desk = (.ok value, after)) :
    exec (work >>= next) desk = (next value).exec after := by
  rw [exec_bind, ran]

theorem exec_bind_of_error {next : α → Work σ β} {fault : SyncFault}
    (ran : work.exec desk = (.error fault, after)) :
    exec (work >>= next) desk = (.error fault, after) := by
  rw [exec_bind, ran]

theorem ends_pure {post : Except SyncFault α → Desk σ → Prop} (value : α)
    (holds : post (.ok value) desk) : Ends (pure value) desk post := holds

theorem ends_throw {post : Except SyncFault α → Desk σ → Prop} (fault : SyncFault)
    (holds : post (.error fault) desk) : Ends (throw fault) desk post := holds

theorem Ends.of_get {next : Desk σ → Work σ β} {post : Except SyncFault β → Desk σ → Prop}
    (rest : (next desk).Ends desk post) : Ends (get >>= next) desk post := rest

theorem Ends.of_set {rest : Work σ β} {next : Desk σ} {post : Except SyncFault β → Desk σ → Prop}
    (ends : rest.Ends next post) : Ends (do set next; rest) desk post := ends

theorem ends_set {next : Desk σ} {post : Except SyncFault PUnit → Desk σ → Prop}
    (holds : post (.ok ()) next) : Ends (set next) desk post := holds

/-- A fault in the first part is the end of the whole; else the rest follows. -/
theorem Ends.bind_exec {next : α → Work σ β} {post : Except SyncFault β → Desk σ → Prop}
    (faulted : ∀ fault after, work.exec desk = (.error fault, after) → post (.error fault) after)
    (rest : ∀ value after, work.exec desk = (.ok value, after) → (next value).Ends after post) :
    Ends (work >>= next) desk post := by
  rcases ran : work.exec desk with ⟨fault | value, after⟩
  · unfold Ends
    rw [exec_bind_of_error ran]
    exact faulted fault after ran
  · unfold Ends
    rw [exec_bind_of_ok ran]
    exact rest value after ran

/-- The first part ends in the middle, from where the rest goes on. -/
theorem Ends.bind {next : α → Work σ β} {middle : Except SyncFault α → Desk σ → Prop}
    {post : Except SyncFault β → Desk σ → Prop} (first : work.Ends desk middle)
    (faulted : ∀ fault after, middle (.error fault) after → post (.error fault) after)
    (rest : ∀ value after, middle (.ok value) after → (next value).Ends after post) :
    Ends (work >>= next) desk post :=
  .bind_exec (fun fault after ran => faulted fault after (first.of_exec ran))
    fun value after ran => rest value after (first.of_exec ran)

/-- The work comes to an answer, which satisfies a condition. -/
def Answers (work : Work σ α) (desk : Desk σ) (post : α → Desk σ → Prop) : Prop :=
  work.Ends desk fun result after => ∃ value, result = .ok value ∧ post value after

theorem Answers.exec {post : α → Desk σ → Prop} (answers : work.Answers desk post) :
    ∃ value after, work.exec desk = (.ok value, after) ∧ post value after := by
  obtain ⟨value, same, holds⟩ := answers
  exact ⟨value, _, Prod.ext same rfl, holds⟩

theorem answers_pure {post : α → Desk σ → Prop} (value : α) (holds : post value desk) :
    Answers (pure value) desk post := ⟨value, rfl, holds⟩

theorem Answers.bind_ends {next : α → Work σ β} {middle : α → Desk σ → Prop}
    {post : Except SyncFault β → Desk σ → Prop} (first : work.Answers desk middle)
    (rest : ∀ value after, middle value after → (next value).Ends after post) :
    Ends (work >>= next) desk post := by
  apply Ends.bind first
  · intro fault after impossible
    obtain ⟨_, same, _⟩ := impossible
    cases same
  · intro value after answered
    obtain ⟨_, same, holds⟩ := answered
    cases same
    exact rest value after holds

theorem Answers.bind {next : α → Work σ β} {middle : α → Desk σ → Prop} {post : β → Desk σ → Prop}
    (first : work.Answers desk middle)
    (rest : ∀ value after, middle value after → (next value).Answers after post) :
    Answers (work >>= next) desk post :=
  first.bind_ends rest

theorem Answers.mono {post weaker : α → Desk σ → Prop} (answers : work.Answers desk post)
    (weaken : ∀ value after, post value after → weaker value after) : work.Answers desk weaker := by
  obtain ⟨value, same, holds⟩ := answers
  exact ⟨value, same, weaken value _ holds⟩

/-- What an answer satisfies, it also satisfies of all ends. -/
theorem Answers.and_ends {post : α → Desk σ → Prop} {others : Except SyncFault α → Desk σ → Prop}
    (answers : work.Answers desk post) (ends : work.Ends desk others) :
    work.Answers desk fun value after => post value after ∧ others (.ok value) after := by
  obtain ⟨value, same, holds⟩ := answers
  refine ⟨value, same, holds, ?_⟩
  rw [← same]
  exact ends

/-- An answer that the work comes to, if it comes to one, satisfies a condition. -/
def Yields (work : Work σ α) (desk : Desk σ) (post : α → Desk σ → Prop) : Prop :=
  ∀ value after, work.exec desk = (.ok value, after) → post value after

theorem Yields.congr {other : Work σ α} {post : α → Desk σ → Prop}
    (yields : other.Yields desk post) (same : work.exec desk = other.exec desk) :
    work.Yields desk post := by
  intro value after ran
  exact yields value after (same ▸ ran)

theorem yields_pure {post : α → Desk σ → Prop} (value : α) (holds : post value desk) :
    Yields (pure value) desk post := by
  rintro _ _ ⟨⟩
  exact holds

theorem Yields.bind_exec {next : α → Work σ β} {post : β → Desk σ → Prop}
    (rest : ∀ value after, work.exec desk = (.ok value, after) → (next value).Yields after post) :
    Yields (work >>= next) desk post := by
  intro answer final ran
  rcases first : work.exec desk with ⟨fault | value, between⟩
  · rw [exec_bind_of_error first] at ran
    cases ran
  · rw [exec_bind_of_ok first] at ran
    exact rest value between first answer final ran

/-- An answer of the first part satisfies a condition, from where the rest goes on. -/
theorem Yields.bind {next : α → Work σ β} {middle : α → Desk σ → Prop} {post : β → Desk σ → Prop}
    (first : work.Yields desk middle)
    (rest : ∀ value after, middle value after → (next value).Yields after post) :
    Yields (work >>= next) desk post :=
  .bind_exec fun value after ran => rest value after (first value after ran)

/-- The answer of a run that can be evaluated. -/
theorem exec_of_answer {value : α} (answer : (work.exec desk).1.toOption = some value) :
    work.exec desk = (.ok value, (work.exec desk).2) := by
  rcases ran : work.exec desk with ⟨fault | found, after⟩
  · rw [ran] at answer
    cases answer
  · rw [ran] at answer
    cases answer
    rfl

/-- The fault of a run that has no answer. -/
theorem exec_of_no_answer (none : (work.exec desk).1.toOption = none) :
    ∃ fault, work.exec desk = (.error fault, (work.exec desk).2) := by
  rcases ran : work.exec desk with ⟨fault | found, after⟩
  · exact ⟨fault, rfl⟩
  · rw [ran] at none
    cases none

/-- One condition on the end with an answer, another on the end with a fault. -/
def Either (answered : α → Desk σ → Prop) (faulted : SyncFault → Desk σ → Prop) :
    Except SyncFault α → Desk σ → Prop
  | .ok value, after => answered value after
  | .error fault, after => faulted fault after

/-- What every entry of a list keeps when it is taken in, the whole list keeps. -/
theorem foldlM_ends {γ : Type} {step : β → γ → Work σ β} (invariant : List γ → β → Desk σ → Prop)
    (faulted : SyncFault → Desk σ → Prop)
    (kept : ∀ entry rest state desk, invariant (entry :: rest) state desk →
      (step state entry).Ends desk (Either (invariant rest) faulted))
    (entries : List γ) (state : β) (desk : Desk σ) (holds : invariant entries state desk) :
    (entries.foldlM step state).Ends desk (Either (invariant []) faulted) := by
  induction entries generalizing state desk with
  | nil => exact ends_pure state holds
  | cons entry rest ih =>
    rw [List.foldlM_cons]
    apply (kept entry rest state desk holds).bind
    · intro fault after met
      exact met
    · intro state after met
      exact ih state after met

end Work

/-- Nothing changed but the store and the surroundings. -/
structure Desk.SameBeside (before after : Desk σ) : Prop where
  memory : after.memory = before.memory
  source : after.source = before.source

/-- Nothing changed but the surroundings. -/
structure Desk.Alike (before after : Desk σ) : Prop extends Desk.SameBeside before after where
  store : after.store = before.store

theorem Desk.SameBeside.refl (desk : Desk σ) : desk.SameBeside desk := ⟨rfl, rfl⟩

theorem Desk.SameBeside.trans {first second third : Desk σ} (one : first.SameBeside second)
    (two : second.SameBeside third) : first.SameBeside third :=
  ⟨two.memory.trans one.memory, two.source.trans one.source⟩

theorem Desk.Alike.refl (desk : Desk σ) : desk.Alike desk := ⟨.refl desk, rfl⟩

theorem Desk.Alike.trans {first second third : Desk σ} (one : first.Alike second)
    (two : second.Alike third) : first.Alike third :=
  ⟨one.toSameBeside.trans two.toSameBeside, two.store.trans one.store⟩

namespace Worker

open Work

@[simp] theorem exec_ask (question : σ → α × σ) (desk : Desk σ) :
    (ask question).exec desk =
      (.ok (question desk.around).1, { desk with around := (question desk.around).2 }) := rfl

@[simp] theorem exec_attempt (work : Work σ α) (desk : Desk σ) :
    (attempt work).exec desk = (.ok (work.exec desk).1, (work.exec desk).2) := rfl

def reading (worker : Worker σ) (around : σ) : Instant := (worker.surroundings.now around).1

theorem now_ends (worker : Worker σ) (desk : Desk σ) :
    worker.now.Ends desk fun result after =>
      result = .ok (worker.reading desk.around) ∧ desk.Alike after :=
  ⟨rfl, ⟨rfl, rfl⟩, rfl⟩

theorem isCancelled_ends (worker : Worker σ) (desk : Desk σ) :
    worker.isCancelled.Ends desk fun result after =>
      (∃ cancelled, result = .ok cancelled) ∧ desk.Alike after :=
  ⟨⟨_, rfl⟩, ⟨rfl, rfl⟩, rfl⟩

theorem wait_ends (worker : Worker σ) (millis : Nat) (desk : Desk σ) :
    (worker.wait millis).Ends desk fun result after => result = .ok () ∧ desk.Alike after :=
  ⟨rfl, ⟨rfl, rfl⟩, rfl⟩

theorem exec_meet (worker : Worker σ) (call : Call) (desk : Desk σ) :
    (worker.meet call).exec desk =
      (match (worker.surroundings.meet call desk.around).1 with
        | some fault => .error fault
        | none => .ok (),
        { desk with around := (worker.surroundings.meet call desk.around).2 }) := by
  unfold meet
  rw [exec_bind_of_ok (exec_ask _ desk)]
  rcases worker.surroundings.meet call desk.around with ⟨_ | _, _⟩ <;> rfl

/-- A call that meets a fault changes nothing. -/
theorem meet_ends (worker : Worker σ) (call : Call) (desk : Desk σ) :
    (worker.meet call).Ends desk fun _ after => desk.Alike after := by
  unfold Ends
  rw [exec_meet]
  exact ⟨⟨rfl, rfl⟩, rfl⟩

theorem exec_onStore (operation : Store → Except SyncFault (α × Store)) (desk : Desk σ) :
    (onStore operation).exec desk =
      match operation desk.store with
      | .ok (value, store) => (.ok value, { desk with store })
      | .error fault => (.error fault, desk) := by
  have unfolded : (onStore operation).exec desk =
      exec (match operation desk.store with
        | .ok (value, store) => do
          set { desk with store }
          return value
        | .error fault => throw fault) desk := rfl
  rw [unfolded]
  split <;> rfl

theorem onStore_ends (operation : Store → Except SyncFault (α × Store)) (desk : Desk σ) :
    (onStore operation).Ends desk fun result after =>
      match result with
      | .ok value => operation desk.store = .ok (value, after.store) ∧ desk.SameBeside after
      | .error fault => operation desk.store = .error fault ∧ desk.Alike after := by
  unfold Ends
  rw [exec_onStore]
  split
  · rename_i value store done
    exact ⟨done, rfl, rfl⟩
  · rename_i fault refused
    exact ⟨refused, .refl desk⟩

end Worker

end RecordSync.Run
