import RecordSync.Proofs.Feed
import RecordSync.Proofs.Mirror
import RecordSync.Proofs.Trail

/-! What a feed says last about a row, and that a row is as the last record says
that was applied to it. -/

namespace RecordSync

open RecordSync.Calendar RecordSync.Change RecordSync.Feed RecordSync.Record RecordSync.Store

namespace Feed

/-- The last of some records that decides on a row. -/
def lastWord (entity : Entity) (externalId : String) (entries : List Entry) : Option Change :=
  ((entries.map fun entry => decode entry.delivery).filter
    (·.decides entity externalId)).getLast?

variable {entity other : Entity} {externalId : String} {entries more : List Entry} {entry : Entry}

theorem lastWord_cons : lastWord entity externalId (entry :: entries) =
    (lastWord entity externalId entries).or
      (if (decode entry.delivery).decides entity externalId then some (decode entry.delivery)
        else none) := by
  unfold lastWord
  rw [List.map_cons, List.filter_cons]
  split
  · rw [List.getLast?_cons]
    cases (List.filter _ _).getLast? <;> rfl
  · rw [Option.or_none]

/-- Later records have the word. -/
theorem lastWord_append : lastWord entity externalId (entries ++ more) =
    (lastWord entity externalId more).or (lastWord entity externalId entries) := by
  simp [lastWord, List.filter_append, List.getLast?_append]

/-- What bears the name of an entity is about that entity. -/
theorem decode_within_of_named (named : entry.delivery.entityName = entity.name) :
    (decode entry.delivery).Within entity := by
  obtain ⟨about, within, only⟩ := decode_within entry.delivery
  have same : Entity.ofName entry.delivery.entityName = .ok entity := by
    rw [named]
    cases entity <;> rfl
  rwa [only entity same] at within

/-- What a feed delivers is about its own entity. -/
theorem decode_within_of_mem {source : Source} (member : entry ∈ source.entries entity) :
    (decode entry.delivery).Within entity :=
  decode_within_of_named (Source.entityName_of_mem member)

theorem lastWord_eq_none_iff : lastWord entity externalId entries = none ↔
    ∀ entry ∈ entries, (decode entry.delivery).decides entity externalId = false := by
  simp [lastWord]

/-- The last word is that of the one record, if any, that decides and lies behind
no other that does. -/
theorem lastWord_eq_of_newest {said : Option Entry}
    (sorted : entries.Pairwise (·.sequence < ·.sequence))
    (decides : ∀ entry ∈ said, entry ∈ entries ∧
      (decode entry.delivery).decides entity externalId = true)
    (newest : ∀ other ∈ entries, (decode other.delivery).decides entity externalId = true →
      ∃ entry ∈ said, other.sequence ≤ entry.sequence) :
    lastWord entity externalId entries = said.map fun entry => decode entry.delivery := by
  cases said with
  | none =>
    apply lastWord_eq_none_iff.mpr
    intro other member
    apply Bool.eq_false_iff.mpr
    intro said
    obtain ⟨_, impossible, _⟩ := newest other member said
    cases impossible
  | some entry =>
    obtain ⟨member, said⟩ := decides entry rfl
    obtain ⟨before, behind, rfl⟩ := List.append_of_mem member
    have apart := (List.pairwise_cons.mp (List.pairwise_append.mp sorted).2.1).1
    have silent : lastWord entity externalId behind = none := by
      apply lastWord_eq_none_iff.mpr
      intro other there
      apply Bool.eq_false_iff.mpr
      intro late
      obtain ⟨_, ⟨⟩, early⟩ := newest other (by simp [there]) late
      have further := apart other there
      omega
    rw [lastWord_append, lastWord_cons, silent, if_pos said]
    rfl

/-- The records of a feed have no say about rows of another entity. -/
theorem lastWord_of_ne {source : Source} (different : other ≠ entity)
    (inside : ∀ entry ∈ entries, entry ∈ source.entries entity) :
    lastWord other externalId entries = none := by
  apply lastWord_eq_none_iff.mpr
  intro entry member
  apply Bool.eq_false_iff.mpr
  intro decides
  exact different ((decode_within_of_mem (inside entry member)).eq_of_decides decides)

end Feed

namespace Store.Applied

variable {actor : String} {clock : Instant → Prop} {store after : Store} {entity : Entity}
  {externalId : String} {trail : List (Entry × Outcome)} {word : Option Change}

theorem keyed (keyed : store.Keyed) (applied : Applied actor clock store trail after) :
    after.Keyed := by
  induction applied with
  | nil same =>
    intro entity
    rw [← same.rows]
    exact keyed entity
  | cons _ applied _ ih => exact ih ((apply_effect keyed applied).keyed keyed)

/-- A row is as the last record says that decided on it, or else as it was. -/
theorem mirrors (keyed : store.Keyed) (applied : Applied actor clock store trail after)
    (mirrored : store.Mirrors entity externalId word) :
    after.Mirrors entity externalId
      ((lastWord entity externalId (trail.map (·.1))).or word) := by
  induction applied generalizing word with
  | nil same => exact mirrored.congr_find? (by rw [same.rows])
  | @cons store between after entry outcome trail now _ applied _ ih =>
    have effect := apply_effect keyed applied
    have later := effect.keyed keyed
    rw [List.map_cons, lastWord_cons, Option.or_assoc]
    apply ih later
    cases decides : (decode entry.delivery).decides entity externalId with
    | true =>
      obtain ⟨about, within, _⟩ := decode_within entry.delivery
      exact effect.mirrors_of_decides keyed within decides
    | false => exact mirrored.congr_find? (effect.find?_of_not_decides keyed decides)

end Store.Applied

end RecordSync
