import RecordSync.Proofs.Provenance
import RecordSync.Proofs.RowMap
import RecordSync.Proofs.Undisturbed

/-! What a stale update means. A row keeps the instant of its snapshot in whole
milliseconds, and that is what the next snapshot is compared with; a planned row
has the instant as the snapshot gives it. The two agree on whole milliseconds
outside leap seconds. -/

namespace RecordSync

open RecordSync.Calendar RecordSync.Change RecordSync.Feed RecordSync.Record RecordSync.Store

namespace Calendar.Instant

/-- The instant at the start of the millisecond that an instant lies in. -/
def wholeMillis (instant : Instant) : Instant :=
  ⟨instant.second, instant.nano / 1000000 * 1000000, by have := instant.nano_lt; omega⟩

def InLeapSecond (instant : Instant) : Prop := 1000000000 ≤ instant.nano

instance (instant : Instant) : Decidable instant.InLeapSecond :=
  inferInstanceAs (Decidable (1000000000 ≤ instant.nano))

/-- An instant of whole milliseconds outside leap seconds. -/
structure Round (instant : Instant) : Prop where
  plain : ¬ instant.InLeapSecond
  whole : instant.wholeMillis = instant

/-- Outside leap seconds a row keeps an instant to the millisecond. -/
theorem ofMillis_millis {instant : Instant} (plain : ¬ instant.InLeapSecond) :
    .ofMillis instant.millis = instant.wholeMillis := by
  unfold InLeapSecond at plain
  simp only [ofMillis, millis, wholeMillis, Instant.mk.injEq]
  omega

theorem ofMillis_round (millis : Int) : (Instant.ofMillis millis).Round := by
  have plain : ¬ (Instant.ofMillis millis).InLeapSecond := by
    simp only [InLeapSecond, ofMillis]
    omega
  exact ⟨plain, by rw [← ofMillis_millis plain, millis_ofMillis]⟩

theorem not_lt_wholeMillis (instant : Instant) : ¬ instant < instant.wholeMillis := by
  rw [lt_iff]
  simp only [wholeMillis]
  omega

end Calendar.Instant

/-- All of a row on which the outcome of the next change depends. -/
def Record.Row.gist (row : Row) : String × Instant := (row.fingerprint, row.modifiedOn)

def Change.Outcome.stale? : Outcome → Option Bool
  | .updated stale _ => some stale
  | _ => none

/-- What a change that is planned for a row with a given gist comes to. -/
theorem Store.Effect.outcome_planned {store : Store} {change : Change} {now : Instant}
    {outcome : Outcome} {rows : PerEntity RowTable} {current : Option Row}
    (effect : store.Effect now change outcome rows)
    (same : ∀ key ∈ change.target?, ∃ found, store.read key.1 key.2 = .ok found ∧
      current.map Row.gist = found.map Row.gist) (time : Instant) :
    (plan change current time).outcome = outcome := by
  cases effect with
  | created mapped absent =>
    obtain ⟨found, read, gist⟩ := same _ rfl
    rw [read_of_absent absent] at read
    cases read
    cases current with
    | none => simp [plan, planSnapshot, mapped, Plan.outcome]
    | some row => cases gist
  | updated mapped there readable =>
    obtain ⟨found, read, gist⟩ := same _ rfl
    rw [read_of_find? there readable] at read
    cases read
    cases current with
    | none => cases gist
    | some row =>
      simp only [Option.map_some, Option.some.injEq, Row.gist, Prod.mk.injEq] at gist
      simp [plan, planSnapshot, mapped, Plan.outcome, newRow, gist.1, gist.2]
  | deleted there =>
    obtain ⟨found, read, gist⟩ := same _ rfl
    cases found with
    | none =>
      rw [read_spec read] at there
      cases there
    | some row =>
      cases current with
      | none => cases gist
      | some planned => rfl
  | alreadyAbsent absent =>
    obtain ⟨found, read, gist⟩ := same _ rfl
    rw [read_of_absent absent] at read
    cases read
    cases current with
    | none => rfl
    | some row => cases gist
  | rejected refused => simp [plan, planSnapshot, refused, Plan.outcome]
  | invalid => rfl

/-- A row that mirrors a snapshot is read with the snapshot's fingerprint, and with
its instant as rows keep it. -/
theorem Store.StoredRow.Mirrors.gist {stored : StoredRow} {snapshot : Snapshot} {mapped : Mapped}
    {row : Row} (mirrors : stored.Mirrors snapshot mapped) (read : stored.read = .ok row)
    (now : Instant) : row.gist = ((newRow snapshot.origin mapped now).fingerprint,
      .ofMillis snapshot.origin.modifiedOn.millis) := by
  obtain ⟨_, _, _, millis, cell, modifiedOn⟩ := StoredRow.read_source read
  rw [mirrors.modifiedOn] at cell
  cases cell
  rw [Row.gist, (StoredRow.read_spec read).2.2, mirrors.fingerprint, modifiedOn]
  rfl

namespace Run

open Work Worker

variable {σ τ : Type}

namespace Planned

/-- The row with a key after some plans over a store. -/
def current (planned : Planned) (store : Store) (key : Entity × String) :
    Except SyncFault (Option Row) :=
  match planned.row? key with
  | some row => .ok row
  | none => store.read key.1 key.2

/-- Plans over a store shadow another store: under each key they have a row of the
same gist as it. -/
def Shadows (planned : Planned) (frozen present : Store) : Prop :=
  ∀ key, ∃ foreseen found, planned.current frozen key = .ok foreseen ∧
    present.read key.1 key.2 = .ok found ∧ foreseen.map Row.gist = found.map Row.gist

variable {planned : Planned} {frozen present after : Store} {key other : Entity × String}
  {change : Change} {now : Instant} {outcome : Outcome} {about : Entity}

theorem current_cons_same (row : Option Row) :
    current ((key, row) :: planned) frozen key = .ok row := by
  simp [current, row?]

theorem current_note_of_ne (different : other ≠ key) (plan : Plan) :
    (planned.note key plan).current frozen other = planned.current frozen other := by
  cases plan <;> simp [note, current, row?, different.symm]

theorem shadows_nil (orderly : frozen.Orderly) (same : present.rows = frozen.rows) :
    Shadows [] frozen present := by
  intro key
  obtain ⟨found, read, _⟩ := orderly.reads key.1 key.2
  exact ⟨found, found, read, (read_congr (by rw [same])).trans read, rfl⟩

theorem Shadows.congr (shadows : planned.Shadows frozen present)
    (same : after.rows = present.rows) : planned.Shadows frozen after := by
  intro key
  obtain ⟨foreseen, found, current, read, gist⟩ := shadows key
  exact ⟨foreseen, found, current, (read_congr (by rw [same])).trans read, gist⟩

/-- Only under the key of a change is there anything to shadow anew. -/
theorem Shadows.noted (shadows : planned.Shadows frozen present) (keyed : present.Keyed)
    (effect : present.Effect now change outcome after.rows) (target : change.target? = some key)
    {plan : Plan} {foreseen found : Option Row}
    (noted : (planned.note key plan).current frozen key = .ok foreseen)
    (read : after.read key.1 key.2 = .ok found)
    (gist : foreseen.map Row.gist = found.map Row.gist) :
    (planned.note key plan).Shadows frozen after := by
  intro other
  by_cases here : other = key
  · subst here
    exact ⟨foreseen, found, noted, read, gist⟩
  · have silent : change.decides other.1 other.2 = false := by
      apply Bool.eq_false_iff.mpr
      intro decides
      rw [Change.target?_of_decides decides, Option.some.injEq] at target
      exact here target
    rw [current_note_of_ne here, read_congr (effect.find?_of_not_decides keyed silent)]
    exact shadows other

private theorem note_upserted {snapshot : Snapshot} {mapped : Mapped} {stored : StoredRow}
    {row : Row} (found : snapshot.mapped = .ok mapped) (round : snapshot.origin.modifiedOn.Round)
    (mirrors : stored.Mirrors snapshot mapped) (read : stored.read = .ok row)
    (foreseen : Option Row) (time : Instant) :
    ∃ next, (planned.note key (plan (.upserted snapshot) foreseen time)).current frozen key =
      .ok (some next) ∧ next.gist = row.gist := by
  have kept : Instant.ofMillis snapshot.origin.modifiedOn.millis = snapshot.origin.modifiedOn :=
    (Instant.ofMillis_millis round.plain).trans round.whole
  rw [mirrors.gist read time, kept]
  cases foreseen with
  | none =>
    simp only [plan, planSnapshot, found, note, current_cons_same]
    exact ⟨_, rfl, rfl⟩
  | some existing =>
    simp only [plan, planSnapshot, found, note, current_cons_same]
    exact ⟨_, rfl, rfl⟩

/-- The row that is planned for a change is of the gist that the change leaves. -/
theorem Shadows.planned_for (shadows : planned.Shadows frozen present) (keyed : present.Keyed)
    (later : after.Orderly) (within : change.Within about)
    (round : ∀ snapshot, change = .upserted snapshot → snapshot.origin.modifiedOn.Round)
    (effect : present.Effect now change outcome after.rows) (target : change.target? = some key)
    {foreseen : Option Row} (current : planned.current frozen key = .ok foreseen) (time : Instant) :
    (planned.note key (plan change foreseen time)).Shadows frozen after := by
  cases change with
  | invalid name id fault => cases target
  | removed entity externalId =>
    cases target
    have gone : (after.rows.get entity).find? externalId = none :=
      effect.mirrors_of_decides keyed within (by simp [Change.decides])
    refine shadows.noted keyed effect rfl ?_ (read_of_absent gone) rfl
    cases foreseen with
    | none => exact current
    | some row => exact current_cons_same none
  | upserted snapshot =>
    cases target
    cases mapping : snapshot.mapped with
    | error fault =>
      simp only [plan, planSnapshot, mapping, note]
      apply shadows.congr
      generalize after.rows = rows at effect
      cases effect with
      | created mapped _ => cases mapping.symm.trans mapped
      | updated mapped _ _ => cases mapping.symm.trans mapped
      | rejected _ => rfl
    | ok mapped =>
      obtain ⟨stored, _, there, same, mirrors⟩ :=
        effect.mirrors_of_decides keyed within (Change.decides_self mapping)
      rw [mapping] at same
      cases same
      obtain ⟨row, _, _, readable, _⟩ :=
        ((later _).rows stored (RowTable.mem_of_find? there).1).reads
      obtain ⟨next, noted, gist⟩ := @note_upserted planned frozen
        (snapshot.entity, snapshot.externalId) _ _ _ _ mapping (round _ rfl) mirrors readable
        foreseen time
      exact shadows.noted keyed effect rfl noted (read_of_find? there readable)
        (congrArg some gist)

/-- Planning a change foresees its outcome and what it leaves. -/
theorem Shadows.step (shadows : planned.Shadows frozen present) (keyed : present.Keyed)
    (later : after.Orderly) (within : change.Within about)
    (round : ∀ snapshot, change = .upserted snapshot → snapshot.origin.modifiedOn.Round)
    (effect : present.Effect now change outcome after.rows) (time : Instant) :
    ∃ plan next, planned.over frozen change time = .ok (plan, next) ∧ plan.outcome = outcome ∧
      next.Shadows frozen after := by
  cases target : change.target? with
  | none =>
    refine ⟨plan change none time, planned, by rw [Planned.over, target],
      effect.outcome_planned (by simp [target]) time, shadows.congr ?_⟩
    generalize after.rows = rows at effect
    cases effect with
    | invalid => rfl
    | _ => cases target
  | some key =>
    obtain ⟨foreseen, found, current, read, gist⟩ := shadows key
    have outcome_eq : (plan change foreseen time).outcome = outcome := by
      apply effect.outcome_planned
      intro about same
      rw [target] at same
      cases same
      exact ⟨found, read, gist⟩
    have plans : planned.over frozen change time = .ok (plan change foreseen time,
        planned.note key (plan change foreseen time)) := by
      simp only [Planned.over, target]
      change (planned.current frozen key).map _ = _
      rw [current]
      rfl
    exact ⟨_, _, plans, outcome_eq,
      shadows.planned_for keyed later within round effect target current time⟩

end Planned

def Surroundings.Faults (surroundings : Surroundings σ) (fault : SyncFault) : Prop :=
  ∃ call around, (surroundings.meet call around).1 = some fault

namespace Worker

/-- What a dry run plans some records to come to, on top of earlier plans. -/
def planAll (worker : Worker σ) (planned : Planned) : List Entry → Work σ (List (Entry × Outcome))
  | [] => return []
  | entry :: rest => do
    let now ← worker.now
    let (plan, next) ← worker.planOn planned (decode entry.delivery) now
    return (entry, plan.outcome) :: (← worker.planAll next rest)

/-- What some records come to that are applied. -/
def applyAll (worker : Worker σ) : List Entry → Work σ (List (Entry × Outcome))
  | [] => return []
  | entry :: rest => do
    let now ← worker.now
    let outcome ← worker.apply (decode entry.delivery) now
    return (entry, outcome) :: (← worker.applyAll rest)

variable {worker : Worker σ} {desk : Desk σ}

/-- A call is made, or meets one of the faults of its surroundings. -/
theorem meet_either (worker : Worker σ) (call : Call) (desk : Desk σ) :
    (worker.meet call).Ends desk (Either (fun _ after => desk.Alike after)
      (fun fault _ => worker.surroundings.Faults fault)) := by
  unfold Ends
  rw [exec_meet]
  cases met : (worker.surroundings.meet call desk.around).1 with
  | none => exact ⟨⟨rfl, rfl⟩, rfl⟩
  | some fault => exact ⟨call, desk.around, met⟩

/-- The plan that a worker makes is the one over the store. -/
theorem planOn_over {planned next : Planned} {change : Change} {now : Instant} {plan : Plan}
    (plans : planned.over desk.store change now = .ok (plan, next)) :
    (worker.planOn planned change now).Ends desk (Either
      (fun answer after => answer = (plan, next) ∧ desk.Alike after)
      (fun fault _ => worker.surroundings.Faults fault)) := by
  unfold Planned.over at plans
  unfold planOn
  cases target : change.target? with
  | none =>
    simp only [target] at plans
    cases plans
    exact ends_pure _ ⟨rfl, .refl desk⟩
  | some key =>
    simp only [target] at plans
    obtain ⟨current, found, done⟩ := map_eq_ok_iff.mp plans
    cases done
    cases there : planned.row? key with
    | some row =>
      simp only [there] at found
      cases found
      simp only [there, pure_bind]
      exact ends_pure _ ⟨rfl, .refl desk⟩
    | none =>
      simp only [there] at found
      simp only [there, readRow, bind_assoc]
      apply (worker.meet_either _ desk).bind
      · exact fun _ _ met => met
      intro _ between alike
      have read : (onStore fun store => (store.read key.1 key.2).map (·, store)).exec between =
          (.ok current, between) := by
        rw [← alike.store] at found
        rw [exec_onStore, found]
        rfl
      unfold Ends
      rw [exec_bind_of_ok read]
      exact ⟨rfl, alike⟩

/-- Records that are applied leave a trail of what they come to. -/
theorem applyAll_applied (clock : ∀ around, (worker.reading around).Kept) (entries : List Entry) :
    (worker.applyAll entries).Ends desk (Either
      (fun trail after => trail.map (·.1) = entries ∧
        Applied worker.actor Instant.Kept desk.store trail after.store)
      (fun _ _ => True)) := by
  induction entries generalizing desk with
  | nil => exact ends_pure _ ⟨rfl, .nil (.refl _)⟩
  | cons entry rest ih =>
    unfold applyAll
    apply (worker.now_ends desk).bind
    · rintro _ _ ⟨impossible, _⟩
      cases impossible
    rintro now between ⟨reading, alike⟩
    have present : now.Kept := by
      cases reading
      exact clock _
    apply (worker.apply_atomic _ now between).bind
    · exact fun _ _ _ => trivial
    rintro outcome after ⟨applied, _⟩
    rw [alike.store] at applied
    apply ih.bind
    · exact fun _ _ _ => trivial
    rintro trail final ⟨same, others⟩
    exact ends_pure _ ⟨congrArg (entry :: ·) same, .cons present applied others⟩

/-- What some records come to, a dry run of them plans. -/
theorem planAll_foresees {actor : String} {present after : Store} {trail : List (Entry × Outcome)}
    {planned : Planned} (applied : Applied actor Instant.Kept present trail after)
    (round : ∀ entry ∈ trail.map (·.1), ∀ snapshot, decode entry.delivery = .upserted snapshot →
      snapshot.origin.modifiedOn.Round)
    (orderly : present.Orderly) (shadows : planned.Shadows desk.store present) :
    (worker.planAll planned (trail.map (·.1))).Ends desk (Either
      (fun foretold _ => foretold = trail) (fun fault _ => worker.surroundings.Faults fault)) := by
  -- The plans shadow the rows after each record, so the next one is planned for the same gist.
  induction applied generalizing desk planned with
  | nil _ =>
    unfold planAll
    exact ends_pure _ rfl
  | @cons present between after entry outcome trail now clock applied others ih =>
    obtain ⟨about, within, _⟩ := decode_within entry.delivery
    obtain ⟨first, rest⟩ := List.forall_mem_cons.mp round
    have effect := apply_effect orderly.keyed applied
    have later := effect.orderly orderly clock within
    rw [List.map_cons]
    unfold planAll
    apply (worker.now_ends desk).bind
    · rintro _ _ ⟨impossible, _⟩
      cases impossible
    rintro time still ⟨_, alike⟩
    rw [← alike.store] at shadows
    obtain ⟨plan, next, plans, outcome_eq, shadowsLater⟩ :=
      shadows.step orderly.keyed later within first effect time
    apply (planOn_over plans).bind
    · exact fun _ _ met => met
    rintro _ asked ⟨rfl, unchanged⟩
    rw [← unchanged.store] at shadowsLater
    apply (ih rest later shadowsLater).bind
    · exact fun _ _ met => met
    rintro foretold _ rfl
    rw [outcome_eq]
    exact ends_pure _ rfl

end Worker

/-- The stale flag of an update tells whether its snapshot is older than the one that
last wrote the row, as rows keep instants: outside leap seconds, at the start of their
millisecond, so that a snapshot that comes again is not stale. A dry run plans the
flags that the run of the same records reports, if all their instants are round; it
fails only with a fault that a call meets. -/
theorem stale_flags_tell_age {history : History} {store : Store} (past : Past history store) :
    (∀ (actor : String) (snapshot : Snapshot) (now : Instant) (stale changed : Bool)
        (after : Store),
      store.apply actor (.upserted snapshot) now = .ok (.updated stale changed, after) →
        ∃ last, history.lastWriter snapshot.entity snapshot.externalId = some last ∧
          (stale = true ↔ snapshot.origin.modifiedOn < kept last.origin.modifiedOn) ∧
          (¬ last.origin.modifiedOn.InLeapSecond →
            kept last.origin.modifiedOn = last.origin.modifiedOn.wholeMillis ∧
            (snapshot = last → stale = false))) ∧
    (∀ {σ τ : Type} (real : Worker σ) (dry : Worker τ) (desk final : Desk σ) (other : Desk τ)
        (entries : List Entry) (made : List (Entry × Outcome)),
      desk.store.rows = store.rows → other.store.rows = store.rows →
      (∀ around, (real.reading around).Kept) →
      (∀ entry ∈ entries, ∀ snapshot, decode entry.delivery = .upserted snapshot →
        snapshot.origin.modifiedOn.Round) →
      (real.applyAll entries).exec desk = (.ok made, final) →
        (dry.planAll [] entries).Ends other (Either (fun foretold _ => foretold = made)
          (fun fault _ => dry.surroundings.Faults fault))) := by
  have orderly := past.orderly
  constructor
  · intro actor snapshot now stale changed after applied
    have effect := apply_effect orderly.keyed applied
    generalize after.rows = rows at effect
    cases effect with
    | @updated _ _ found stored current there read =>
      obtain ⟨last, mapped, wrote, _, _, mirrors⟩ := past.mirrors there
      have compared : current.modifiedOn = kept last.origin.modifiedOn :=
        congrArg Prod.snd (mirrors.gist read now)
      rw [compared, decide_eq_true_iff, decide_eq_false_iff_not]
      refine ⟨last, wrote, Iff.rfl, fun plain => ?_⟩
      have whole : kept last.origin.modifiedOn = last.origin.modifiedOn.wholeMillis :=
        Instant.ofMillis_millis plain
      refine ⟨whole, ?_⟩
      rintro rfl
      rw [whole]
      exact Instant.not_lt_wholeMillis _
  · intro σ τ real dry desk final other entries made same sameThere clock round ran
    obtain ⟨rfl, applied⟩ := (real.applyAll_applied clock entries).of_exec ran
    have frozen : other.store.Orderly := orderly.congr sameThere
    have present : desk.store.Orderly := orderly.congr same
    exact dry.planAll_foresees applied round present
      (Planned.shadows_nil frozen (same.trans sameThere.symm))

private def version (modifiedOn : String) : Entry :=
  ⟨1, .ofText "contact" ("\x7b\"id\":\"a\",\"createdon\":\"2016-01-01T00:00:00Z\"," ++
    "\"modifiedon\":\"" ++ modifiedOn ++ "\",\"statecode\":0," ++
    "\"attributes\":\x7b\"firstname\":\"A\",\"lastname\":\"B\"\x7d\x7d")⟩

private def described (modifiedOn : Instant) : Snapshot :=
  ⟨⟨"a", .ofMillis 1451606400000, modifiedOn, 0⟩,
    .contact ⟨none, some "A", none, some "B", none, none, none, none, none, none, none⟩⟩

private def copyist : Worker Unit :=
  ⟨motionless (.ofMillis 0), "sync", .store, ⟨1, false, none, false, false, .immediate 5 1⟩⟩

private def blank : Desk Unit := ⟨.empty, .start, .memory ⟨[], []⟩, ()⟩

private def recorded (store : Store) (instant : Instant) : Except SyncFault (Outcome × Store) :=
  store.apply "sync" (.upserted (described instant)) (.ofMillis 0)

/-- The store with the first version of a record. -/
private def holding (instant : Instant) : Store :=
  ((recorded .empty instant).toOption.map (·.2)).getD .empty

private theorem holding_past {text : String} {instant : Instant}
    (said : decode (version text).delivery = .upserted (described instant))
    (created : (recorded .empty instant).toOption.map (·.1) = some .created) :
    Past [(.upserted (described instant), .created)] (holding instant) := by
  have made : recorded .empty instant = .ok (.created, holding instant) := by
    unfold holding
    cases made : recorded .empty instant with
    | error fault =>
      rw [made] at created
      cases created
    | ok result =>
      rw [made] at created
      obtain ⟨outcome, store⟩ := result
      cases created
      rfl
  have present : (Instant.ofMillis 0).Kept := Instant.kept_iff.mpr (by decide)
  rw [recorded, ← said] at made
  rw [← said]
  exact Past.empty.decoded present made

private theorem recorded_of_flag {store : Store} {instant : Instant} {stale : Bool}
    (flag : (recorded store instant).toOption.bind (·.1.stale?) = some stale) :
    ∃ changed after, recorded store instant = .ok (.updated stale changed, after) := by
  cases made : recorded store instant with
  | error fault =>
    rw [made] at flag
    cases flag
  | ok result =>
    rw [made] at flag
    obtain ⟨outcome, after⟩ := result
    cases outcome with
    | updated stale changed =>
      cases flag
      exact ⟨changed, after, rfl⟩
    | _ => cases flag

private theorem second_two :
    decode (version "2020-01-01T00:00:02Z").delivery =
      .upserted (described (.ofMillis 1577836802000)) := by
  decide +kernel

private theorem second_one :
    decode (version "2020-01-01T00:00:01Z").delivery =
      .upserted (described (.ofMillis 1577836801000)) := by
  decide +kernel

private def secondByTwo : List Entry :=
  [version "2020-01-01T00:00:02Z", version "2020-01-01T00:00:01Z"]

/-- A version older by a second is stale, and a dry run of both says so. -/
theorem stale_flags_tell_age_of_older : ∃ (history : History) (store after : Store)
    (last : Snapshot) (changed : Bool) (made : List (Entry × Outcome)) (final : Desk Unit),
    Past history store ∧
    store.apply "sync" (.upserted (described (.ofMillis 1577836801000))) (.ofMillis 0) =
      .ok (.updated true changed, after) ∧
    history.lastWriter .contact "a" = some last ∧
    Instant.ofMillis 1577836801000 < kept last.origin.modifiedOn ∧
    kept last.origin.modifiedOn = last.origin.modifiedOn.wholeMillis ∧
    (copyist.applyAll secondByTwo).exec blank = (.ok made, final) ∧
    made.map (·.2.stale?) = [none, some true] ∧
    ((copyist.planAll [] secondByTwo).exec blank).1 = .ok made := by
  have past := holding_past second_two (by decide +kernel)
  obtain ⟨changed, after, applied⟩ := @recorded_of_flag (holding (.ofMillis 1577836802000))
    (.ofMillis 1577836801000) true (by decide +kernel)
  obtain ⟨last, wrote, flag, outside⟩ := (stale_flags_tell_age past).1 _ _ _ _ _ _ applied
  have plain : ¬ last.origin.modifiedOn.InLeapSecond := by
    cases wrote
    decide
  have ran : ((copyist.applyAll secondByTwo).exec blank).1.toOption.map (·.map (·.2.stale?)) =
      some [none, some true] := by
    simp only [secondByTwo, applyAll, second_two, second_one]
    decide +kernel
  obtain ⟨made, answered, flags⟩ := Option.map_eq_some_iff.mp ran
  have round : ∀ entry ∈ secondByTwo, ∀ snapshot, decode entry.delivery = .upserted snapshot →
      snapshot.origin.modifiedOn.Round := by
    intro entry member snapshot said
    rcases List.mem_pair.mp member with rfl | rfl
    · rw [second_two] at said
      cases said
      exact Instant.ofMillis_round _
    · rw [second_one] at said
      cases said
      exact Instant.ofMillis_round _
  have present : (Instant.ofMillis 0).Kept := Instant.kept_iff.mpr (by decide)
  have clock : ∀ around, (copyist.reading around).Kept := fun _ => present
  -- The records are a name from here on, so that nothing evaluates them again.
  generalize secondByTwo = entries at ran answered round ⊢
  have foretold := (stale_flags_tell_age .empty).2 copyist copyist blank _ blank entries made
    rfl rfl clock round (exec_of_answer answered)
  refine ⟨_, _, after, last, changed, made, _, past, applied, wrote, flag.mp rfl,
    (outside plain).1, exec_of_answer answered, flags, ?_⟩
  rcases planned : (copyist.planAll [] entries).exec blank with ⟨fault | plans, preview⟩
  · obtain ⟨_, _, impossible⟩ := foretold.of_exec planned
    cases impossible
  · exact congrArg Except.ok (foretold.of_exec planned)

private def nineTenths : Instant := ⟨1577836800, 900000, by decide⟩
private def half : Instant := ⟨1577836800, 500000, by decide⟩
private def leaping : Instant := ⟨1483228799, 1500000000, by decide⟩

private theorem said_nineTenths :
    decode (version "2020-01-01T00:00:00.0009Z").delivery = .upserted (described nineTenths) := by
  decide +kernel

private theorem said_half :
    decode (version "2020-01-01T00:00:00.0005Z").delivery = .upserted (described half) := by
  decide +kernel

private theorem said_leaping :
    decode (version "2016-12-31T23:59:60.5Z").delivery = .upserted (described leaping) := by
  decide +kernel

private def withinOne : List Entry :=
  [version "2020-01-01T00:00:00.0009Z", version "2020-01-01T00:00:00.0005Z"]

/-- What rows cannot keep of an instant is lost on the stale flag: a version older by
less than a millisecond is not stale, though a dry run plans that it is, and one
of a leap second is stale when it comes again. -/
theorem stale_flags_lose_parts :
    (∃ (history : History) (store after : Store) (changed : Bool), Past history store ∧
      store.apply "sync" (.upserted (described half)) (.ofMillis 0) =
        .ok (.updated false changed, after) ∧
      history.lastWriter .contact "a" = some (described nineTenths) ∧ half < nineTenths) ∧
    (∃ (made foretold : List (Entry × Outcome)) (final preview : Desk Unit),
      (copyist.applyAll withinOne).exec blank = (.ok made, final) ∧
      made.map (·.2.stale?) = [none, some false] ∧
      (copyist.planAll [] withinOne).exec blank = (.ok foretold, preview) ∧
      foretold.map (·.2.stale?) = [none, some true]) ∧
    ∃ (history : History) (store after : Store) (changed : Bool), Past history store ∧
      history.lastWriter .contact "a" = some (described leaping) ∧
      store.apply "sync" (.upserted (described leaping)) (.ofMillis 0) =
        .ok (.updated true changed, after) := by
  refine ⟨?_, ?_, ?_⟩
  · have past := holding_past said_nineTenths (by decide +kernel)
    obtain ⟨changed, after, applied⟩ := @recorded_of_flag (holding nineTenths) half false
      (by decide +kernel)
    exact ⟨_, _, after, changed, past, applied, rfl, by decide⟩
  · have ran : ((copyist.applyAll withinOne).exec blank).1.toOption.map (·.map (·.2.stale?)) =
        some [none, some false] := by
      simp only [withinOne, applyAll, said_nineTenths, said_half]
      decide +kernel
    have planned : ((copyist.planAll [] withinOne).exec blank).1.toOption.map
        (·.map (·.2.stale?)) = some [none, some true] := by
      simp only [withinOne, planAll, said_nineTenths, said_half]
      decide +kernel
    obtain ⟨made, answered, flags⟩ := Option.map_eq_some_iff.mp ran
    obtain ⟨foretold, plans, foretoldFlags⟩ := Option.map_eq_some_iff.mp planned
    exact ⟨made, foretold, _, _, exec_of_answer answered, flags, exec_of_answer plans,
      foretoldFlags⟩
  · have past := holding_past said_leaping (by decide +kernel)
    obtain ⟨changed, after, applied⟩ := @recorded_of_flag (holding leaping) leaping true
      (by decide +kernel)
    exact ⟨_, _, after, changed, past, rfl, applied⟩

end Run

end RecordSync
