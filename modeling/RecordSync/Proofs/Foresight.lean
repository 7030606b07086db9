import RecordSync.Proofs.Calm
import RecordSync.Proofs.Orderly

/-! What a dry run plans against what a run does. Planned rows over a store that
stays as it is have the fingerprints of the rows that are really written, and
that is all on which the next outcome depends but for staleness. -/

namespace RecordSync

open RecordSync.Calendar RecordSync.Change RecordSync.Feed RecordSync.Record RecordSync.Store

namespace Change

def Outcome.withoutStale : Outcome → Outcome
  | .updated _ changed => .updated false changed
  | outcome => outcome

end Change

namespace Run

open Work

variable {σ : Type}

/-- The fingerprint of the row that plans over a store leave under a key. -/
def Planned.print? (planned : Planned) (frozen : Store) (entity : Entity) (externalId : String) :
    Option String :=
  match planned.row? (entity, externalId) with
  | some row => row.map (·.fingerprint)
  | none => ((frozen.rows.get entity).find? externalId).map (·.fingerprint)

/-- Plans over a store foresee the rows of an entity in another store. -/
def Planned.Foresees (planned : Planned) (frozen present : Store) (entity : Entity) : Prop :=
  ∀ externalId, planned.print? frozen entity externalId =
    ((present.rows.get entity).find? externalId).map (·.fingerprint)

section

variable {planned : Planned} {frozen present after : Store} {entity : Entity}
  {externalId other : String} {change : Change} {now : Instant} {outcome : Outcome}
  {current : Option Row}

theorem Planned.print?_cons_same (planned : Planned) (frozen : Store) (row : Option Row) :
    Planned.print? (((entity, externalId), row) :: planned) frozen entity externalId =
      row.map (·.fingerprint) := by
  simp [print?, row?]

theorem Planned.print?_cons_of_ne (planned : Planned) (frozen : Store) (row : Option Row)
    (different : other ≠ externalId) :
    Planned.print? (((entity, externalId), row) :: planned) frozen entity other =
      planned.print? frozen entity other := by
  simp [print?, row?, different.symm]

theorem Planned.foresees_nil (same : present.rows.get entity = frozen.rows.get entity) :
    Planned.Foresees [] frozen present entity := by
  intro externalId
  rw [same]
  rfl

/-- The outcome that is planned is the one that comes about. -/
theorem plan_outcome (effect : present.Effect now change outcome after.rows)
    (same : ∀ entity externalId, change.target? = some (entity, externalId) →
      current.map (·.fingerprint) =
        ((present.rows.get entity).find? externalId).map (·.fingerprint)) :
    (plan change current now).outcome.withoutStale = outcome.withoutStale := by
  generalize after.rows = rows at effect
  cases effect with
  | @created snapshot mapped found absent =>
    have nothing := same _ _ rfl
    rw [absent] at nothing
    cases current with
    | none => simp [plan, planSnapshot, found, Plan.outcome]
    | some row => cases nothing
  | @updated snapshot mapped found existing row there read =>
    have print := same _ _ rfl
    rw [there] at print
    cases current with
    | none => cases print
    | some current =>
      have equal : current.fingerprint = row.fingerprint := by
        rw [(StoredRow.read_spec read).2.2]
        simpa using print
      simp [plan, planSnapshot, found, Plan.outcome, Outcome.withoutStale, equal]
  | deleted there =>
    have print := same _ _ rfl
    rw [there] at print
    cases current with
    | none => cases print
    | some row => rfl
  | alreadyAbsent absent =>
    have nothing := same _ _ rfl
    rw [absent] at nothing
    cases current with
    | none => rfl
    | some row => cases nothing
  | rejected refused => simp [plan, planSnapshot, refused, Plan.outcome]
  | invalid => rfl

private theorem note_upserted {snapshot : Snapshot} {mapped : Mapped} (planned : Planned)
    (key : Entity × String) (found : snapshot.mapped = .ok mapped) (current : Option Row)
    (now : Instant) : ∃ row, planned.note key (plan (.upserted snapshot) current now) =
      (key, some row) :: planned ∧
        row.fingerprint = (newRow snapshot.origin mapped now).fingerprint := by
  cases current with
  | none =>
    exact ⟨newRow snapshot.origin mapped now, by simp only [plan, planSnapshot, found,
      Planned.note], rfl⟩
  | some row =>
    exact ⟨Row.overwritten row (newRow snapshot.origin mapped now), by simp only [plan,
      planSnapshot, found, Planned.note], rfl⟩

private theorem Planned.Foresees.cons (foresees : planned.Foresees frozen present entity)
    (keyed : present.Keyed) (effect : present.Effect now change outcome after.rows)
    (target : change.target? = some (entity, externalId))
    (row : current.map (·.fingerprint) =
      ((after.rows.get entity).find? externalId).map (·.fingerprint)) :
    Planned.Foresees (((entity, externalId), current) :: planned) frozen after entity := by
  intro other
  by_cases here : other = externalId
  · subst here
    rw [planned.print?_cons_same frozen, row]
  · rw [planned.print?_cons_of_ne frozen current here,
      effect.find?_of_not_decides keyed (Change.decides_of_target_ne target here)]
    exact foresees other

/-- What is planned for a record foresees what the record does. -/
theorem Planned.Foresees.noted (foresees : planned.Foresees frozen present entity)
    (keyed : present.Keyed) (within : change.Within entity)
    (effect : present.Effect now change outcome after.rows)
    (target : change.target? = some (entity, externalId))
    (same : current.map (·.fingerprint) = planned.print? frozen entity externalId) :
    (planned.note (entity, externalId) (plan change current now)).Foresees frozen after entity := by
  have print := foresees externalId
  rw [← same] at print
  have written {snapshot : Snapshot} {mapped : Mapped} (upserted : change = .upserted snapshot)
      (found : snapshot.mapped = .ok mapped) :
      (planned.note (entity, externalId) (plan change current now)).Foresees frozen after
        entity := by
    subst upserted
    cases target
    obtain ⟨stored, other, there, foundAgain, mirrors⟩ :=
      effect.mirrors_of_decides keyed within (Change.decides_self found)
    rw [found] at foundAgain
    cases foundAgain
    obtain ⟨row, noted, printed⟩ := note_upserted planned (snapshot.entity, snapshot.externalId)
      found current now
    rw [noted]
    apply foresees.cons keyed effect rfl
    rw [there, Option.map_some, Option.map_some, printed, mirrors.fingerprint]
    rfl
  have unchanged (still : after.rows = present.rows) : planned.Foresees frozen after entity := by
    intro another
    rw [still]
    exact foresees another
  have passed := effect
  generalize after_eq : after.rows = rows at effect
  cases effect with
  | created found _ => exact written rfl found
  | updated found _ _ => exact written rfl found
  | deleted there =>
    cases target
    cases current with
    | none =>
      rw [there] at print
      cases print
    | some row =>
      apply foresees.cons keyed passed rfl
      rw [after_eq, PerEntity.get_set_same, RowTable.find?_erase_same]
      rfl
  | alreadyAbsent absent =>
    cases target
    rw [absent] at print
    cases current with
    | none => exact unchanged after_eq
    | some row => cases print
  | rejected refused =>
    simp only [plan, planSnapshot, refused]
    exact unchanged after_eq
  | invalid => cases target

/-- What a worker that runs dry plans for a record foresees what the record does. -/
theorem Worker.planOn_foresees {worker : Worker σ} {calm : σ → Prop} {desk : Desk σ}
    (undisturbed : worker.surroundings.Calm now calm) (orderly : desk.store.Orderly)
    (foresees : planned.Foresees desk.store present entity) (keyed : present.Keyed)
    (within : change.Within entity) (effect : present.Effect now change outcome after.rows) :
    ∃ plan next, plan.outcome.withoutStale = outcome.withoutStale ∧
      Planned.Foresees next desk.store after entity ∧
      ∀ between : Desk σ, desk.Still calm between →
        (worker.planOn planned change now).Answers between fun answer final =>
          answer = (plan, next) ∧ between.Still calm final := by
  cases target : change.target? with
  | none =>
    refine ⟨plan change none now, planned, plan_outcome effect ?_, ?_, ?_⟩
    · intro _ _ impossible
      rw [target] at impossible
      cases impossible
    · generalize after_eq : after.rows = rows at effect
      cases effect with
      | invalid =>
        intro externalId
        rw [after_eq]
        exact foresees externalId
      | _ => cases target
    · intro between still
      simp only [Worker.planOn, target]
      exact answers_pure _ ⟨rfl, .refl between, still.2⟩
  | some key =>
    obtain ⟨about, externalId⟩ := key
    cases within.target target
    -- The row that is planned or read has the fingerprint that counts.
    obtain ⟨current, printed, found⟩ : ∃ current : Option Row,
        current.map (·.fingerprint) = planned.print? desk.store entity externalId ∧
          (planned.row? (entity, externalId) = some current ∨
            planned.row? (entity, externalId) = none ∧
              desk.store.read entity externalId = .ok current) := by
      unfold Planned.print?
      cases planned.row? (entity, externalId) with
      | some row => exact ⟨row, rfl, .inl rfl⟩
      | none =>
        obtain ⟨current, read, print⟩ := orderly.reads entity externalId
        exact ⟨current, print, .inr ⟨rfl, read⟩⟩
    refine ⟨plan change current now, planned.note (entity, externalId) (plan change current now),
      plan_outcome effect ?_, foresees.noted keyed within effect target printed, ?_⟩
    · intro other id same
      rw [target] at same
      cases same
      exact printed.trans (foresees externalId)
    · intro between still
      simp only [Worker.planOn, target]
      rcases found with there | ⟨unplanned, read⟩
      · simp only [there, pure_bind]
        exact answers_pure _ ⟨rfl, .refl between, still.2⟩
      · rw [← still.1.store] at read
        simp only [unplanned]
        apply (readRow_answers undisturbed still.2 read).bind
        intro answer final ended
        obtain ⟨rfl, still⟩ := ended
        exact answers_pure _ ⟨rfl, still⟩

end

end Run

end RecordSync
