import RecordSync.Proofs.Lifetime
import RecordSync.Proofs.Provenance
import RecordSync.Proofs.Rendering
import RecordSync.Proofs.RowMap
import RecordSync.Proofs.Utf8

/-! What a fingerprint stands for. The text that is digested tells all that a row
takes from its source, so unless two texts collide a fingerprint stays the same
exactly when nothing that comes from the source has changed. -/

namespace RecordSync

open RecordSync.Calendar RecordSync.Change RecordSync.Json RecordSync.Record RecordSync.Store
open RecordSync.Text

namespace Digest.Sha256

theorem hexDigit_injective : ∀ value < 16, ∀ other < 16, hexDigit value = hexDigit other →
    value = other := by
  decide

/-- The digits of a word, byte by byte. -/
theorem hexWord_eq (word : UInt32) : hexWord word =
    [16777216, 65536, 256, 1].flatMap fun unit =>
      let byte := UInt8.ofNat (word.toNat / unit)
      [hexDigit (byte.toNat / 16), hexDigit (byte.toNat % 16)] := rfl

theorem length_hexWord (word : UInt32) : (hexWord word).length = 8 := rfl

/-- Words are told apart by their digits. -/
theorem hexWord_injective {word other : UInt32} (same : hexWord word = hexWord other) :
    word = other := by
  simp [hexWord_eq] at same
  obtain ⟨one, two, three, four, five, six, seven, eight⟩ := same
  replace one := hexDigit_injective _ (by omega) _ (by omega) one
  replace two := hexDigit_injective _ (by omega) _ (by omega) two
  replace three := hexDigit_injective _ (by omega) _ (by omega) three
  replace four := hexDigit_injective _ (by omega) _ (by omega) four
  replace five := hexDigit_injective _ (by omega) _ (by omega) five
  replace six := hexDigit_injective _ (by omega) _ (by omega) six
  replace seven := hexDigit_injective _ (by omega) _ (by omega) seven
  replace eight := hexDigit_injective _ (by omega) _ (by omega) eight
  have := word.toNat_lt
  have := other.toNat_lt
  apply UInt32.toNat_inj.mp
  omega

/-- Digests are told apart by their digits. -/
theorem hex_injective {message other : List UInt8} (same : hex message = hex other) :
    digest message = digest other := by
  have chars := String.ofList_injective same
  simp only [List.flatMap_cons, List.flatMap_nil] at chars
  have split {word other : UInt32} {rest more : List Char}
      (same : hexWord word ++ rest = hexWord other ++ more) : word = other ∧ rest = more := by
    obtain ⟨first, others⟩ := List.append_inj same (by rw [length_hexWord, length_hexWord])
    exact ⟨hexWord_injective first, others⟩
  obtain ⟨a, chars⟩ := split chars
  obtain ⟨b, chars⟩ := split chars
  obtain ⟨c, chars⟩ := split chars
  obtain ⟨d, chars⟩ := split chars
  obtain ⟨e, chars⟩ := split chars
  obtain ⟨f, chars⟩ := split chars
  obtain ⟨g, chars⟩ := split chars
  obtain ⟨h, _⟩ := split chars
  rw [Words.mk.injEq]
  exact ⟨a, b, c, d, e, f, g, h⟩

end Digest.Sha256

theorem Text.Utf8.encode_injective {text other : String} (same : encode text = encode other) :
    text = other := by
  have read := decode_spec.mpr same
  rw [decode_spec.mpr rfl] at read
  exact (Except.ok.inj read).symm

namespace Record

theorem textOrNull_injective {value other : Option String}
    (same : textOrNull value = textOrNull other) : value = other := by
  cases value <;> cases other <;> simp_all [textOrNull]

theorem dateOrNull_injective {value other : Option Date}
    (same : dateOrNull value = dateOrNull other) : value = other :=
  Option.map_injective (fun _ _ => Date.text_injective) (textOrNull_injective same)

theorem RecordState.name_injective {state other : RecordState} (same : state.name = other.name) :
    state = other := by
  cases state <;> cases other <;> first | rfl | simp [name] at same

theorem InductionStatus.name_injective {status other : InductionStatus}
    (same : status.name = other.name) : status = other := by
  have read := readStatus_name 0 status
  rw [same, readStatus_name] at read
  exact (Except.ok.inj read).symm

theorem textOrNull_whole (value : Option String) : (textOrNull value).Whole := by
  cases value with
  | none => exact .null
  | some value => exact .text value

/-- Content is told apart by its JSON value. -/
theorem Content.json_injective {content other : Content} (same : content.json = other.json) :
    content = other := by
  cases content with
  | person details =>
    cases other with
    | person others =>
      simp only [json, Value.object.injEq, List.cons.injEq, Prod.mk.injEq, Value.text.injEq,
        true_and, and_true] at same
      obtain ⟨trn, first, middle, last, birth, email, insurance, merged⟩ := same
      rw [Content.person.injEq, Person.mk.injEq]
      exact ⟨textOrNull_injective trn, first, textOrNull_injective middle, last,
        dateOrNull_injective birth, textOrNull_injective email, textOrNull_injective insurance,
        textOrNull_injective merged⟩
    | induction others => simp [json] at same
  | induction details =>
    cases other with
    | person others => simp [json] at same
    | induction others =>
      simp only [json, Value.object.injEq, List.cons.injEq, Prod.mk.injEq, Value.text.injEq,
        true_and, and_true] at same
      obtain ⟨person, status, start, completion⟩ := same
      rw [Content.induction.injEq, Induction.mk.injEq]
      exact ⟨person, InductionStatus.name_injective status, dateOrNull_injective start,
        dateOrNull_injective completion⟩

theorem Content.json_whole (content : Content) : content.json.Whole := by
  cases content with
  | person details =>
    apply Value.Whole.object
    simp [textOrNull_whole, dateOrNull, Value.Whole.text]
  | induction details =>
    apply Value.Whole.object
    simp [textOrNull_whole, dateOrNull, Value.Whole.text]

/-- What comes from the source stands in the text that is digested, and nothing else. -/
theorem fingerprintText_eq_iff {content other : Content} {state word : RecordState}
    {createdOn modifiedOn created modified : Instant} :
    fingerprintText content state createdOn modifiedOn =
        fingerprintText other word created modified ↔
      content = other ∧ state = word ∧ createdOn.millis = created.millis ∧
        modifiedOn.millis = modified.millis := by
  constructor
  · intro same
    have whole (content : Content) (state : RecordState) (createdOn modifiedOn : Int) :
        (Value.object [("fields", content.json), ("source_state", .text state.name),
          ("source_created_on", .number (.integer createdOn)),
          ("source_modified_on", .number (.integer modifiedOn))]).Whole := by
      apply Value.Whole.object
      simp [content.json_whole, Value.Whole.text, Value.Whole.integer]
    have values := (whole _ _ _ _).render_injective (whole _ _ _ _) same
    simp only [Value.object.injEq, List.cons.injEq, Prod.mk.injEq, Value.text.injEq,
      Value.number.injEq, Number.integer.injEq, true_and, and_true] at values
    obtain ⟨contents, states, created, modified⟩ := values
    exact ⟨Content.json_injective contents, RecordState.name_injective states, created, modified⟩
  · rintro ⟨rfl, rfl, created, modified⟩
    simp only [fingerprintText, created, modified]

def Row.sourceText (row : Row) : String :=
  fingerprintText row.content row.state row.createdOn row.modifiedOn

/-- Two rows that have the same from their source, instants to the millisecond. -/
structure Row.SameSource (row other : Row) : Prop where
  content : row.content = other.content
  state : row.state = other.state
  createdOn : row.createdOn.millis = other.createdOn.millis
  modifiedOn : row.modifiedOn.millis = other.modifiedOn.millis

theorem Row.sourceText_eq_iff {row other : Row} :
    row.sourceText = other.sourceText ↔ row.SameSource other := by
  rw [sourceText, sourceText, fingerprintText_eq_iff]
  exact ⟨fun ⟨content, state, created, modified⟩ => ⟨content, state, created, modified⟩,
    fun same => ⟨same.content, same.state, same.createdOn, same.modifiedOn⟩⟩

/-- Two texts do not collide: they have one digest only if they are one text. -/
def CollisionFree (text other : String) : Prop :=
  Digest.Sha256.digest (Utf8.encode text) = Digest.Sha256.digest (Utf8.encode other) →
    Utf8.encode text = Utf8.encode other

theorem CollisionFree.digestText_eq_iff {text other : String} (free : CollisionFree text other) :
    digestText text = digestText other ↔ text = other := by
  constructor
  · intro same
    exact Utf8.encode_injective (free (Digest.Sha256.hex_injective same))
  · rintro rfl
    rfl

theorem collisionFree_of_digestText_ne {text other : String}
    (differ : digestText text ≠ digestText other) : CollisionFree text other := by
  intro collide
  refine absurd ?_ differ
  rw [digestText, digestText, Digest.Sha256.hex, collide]
  rfl

end Record

namespace Store

/-- A row that is read has the digest of what was read for its fingerprint. -/
theorem StoredRow.Mirrors.fingerprint_eq {stored : StoredRow} {snapshot : Snapshot}
    {mapped : Mapped} {row : Row} (mirrors : stored.Mirrors snapshot mapped)
    (read : stored.read = .ok row) : row.fingerprint = digestText row.sourceText := by
  rw [(StoredRow.read_spec read).2.2, mirrors.fingerprint_read read]
  rfl

/-- What an update did: it replaced a row by another, each with its own fingerprint,
and reports whether these differ. -/
theorem Past.updates {history : History} {store after : Store} {actor : String}
    {snapshot : Snapshot} {now : Instant} {stale changed : Bool} (past : Past history store)
    (kept : snapshot.Kept) (present : now.Kept)
    (applied : store.apply actor (.upserted snapshot) now = .ok (.updated stale changed, after)) :
    ∃ former latter, store.read snapshot.entity snapshot.externalId = .ok (some former) ∧
      after.read snapshot.entity snapshot.externalId = .ok (some latter) ∧
      (changed = false ↔ digestText former.sourceText = digestText latter.sourceText) := by
  have within : (Change.upserted snapshot).Within snapshot.entity := ⟨rfl, kept⟩
  have effect := apply_effect past.orderly.keyed applied
  have later := effect.orderly past.orderly present within
  have passed := effect
  generalize after.rows = rows at effect
  cases effect with
  | @updated _ mapped found stored former there read =>
    obtain ⟨_, _, _, _, _, mirrors⟩ := past.mirrors there
    obtain ⟨renewed, _, thereAfter, same, mirrorsAfter⟩ :=
      passed.mirrors_of_decides past.orderly.keyed within (Change.decides_self found)
    rw [found] at same
    cases same
    obtain ⟨latter, _, _, readAfter, _⟩ :=
      ((later _).rows renewed (RowTable.mem_of_find? thereAfter).1).reads
    refine ⟨former, latter, read_of_find? there read, read_of_find? thereAfter readAfter, ?_⟩
    have fresh : (newRow snapshot.origin mapped now).fingerprint =
        digestText latter.sourceText := by
      rw [← mirrorsAfter.fingerprint_eq readAfter, (StoredRow.read_spec readAfter).2.2,
        mirrorsAfter.fingerprint]
      rfl
    rw [fresh, mirrors.fingerprint_eq read]
    simp [differs]

/-- The text that is digested tells what comes from the source: fields, state, and
both instants to the millisecond. So an update is reported unchanged exactly if
the row has all of this as before, unless its two texts collide. -/
theorem unchanged_tells_source :
    (∀ (content other : Content) (state word : RecordState)
        (createdOn modifiedOn created modified : Instant),
      fingerprintText content state createdOn modifiedOn =
          fingerprintText other word created modified ↔
        content = other ∧ state = word ∧ createdOn.millis = created.millis ∧
          modifiedOn.millis = modified.millis) ∧
    (∀ (history : History) (store after : Store) (actor : String) (snapshot : Snapshot)
        (now : Instant) (stale changed : Bool), Past history store → snapshot.Kept → now.Kept →
      store.apply actor (.upserted snapshot) now = .ok (.updated stale changed, after) →
        ∃ former latter, store.read snapshot.entity snapshot.externalId = .ok (some former) ∧
          after.read snapshot.entity snapshot.externalId = .ok (some latter) ∧
          (CollisionFree former.sourceText latter.sourceText →
            (changed = false ↔ former.SameSource latter))) := by
  refine ⟨fun _ _ _ _ _ _ _ _ => fingerprintText_eq_iff, ?_⟩
  intro history store after actor snapshot now stale changed past kept present applied
  obtain ⟨former, latter, read, readAfter, unchanged⟩ := past.updates kept present applied
  refine ⟨former, latter, read, readAfter, fun free => ?_⟩
  rw [unchanged, free.digestText_eq_iff, Row.sourceText_eq_iff]

private def holder (person : String) : Snapshot :=
  ⟨⟨"i", .ofMillis 0, .ofMillis 0, 0⟩, .induction ⟨person, some 389040006, none, none⟩⟩

private theorem epoch_kept : (Instant.ofMillis 0).Kept := Instant.kept_iff.mpr (by decide)

private theorem holder_kept (person : String) : (holder person).Kept :=
  ⟨epoch_kept, epoch_kept, ⟨by simp, by simp⟩⟩

private def taken (store : Store) (person : String) : Except SyncFault (Outcome × Store) :=
  store.apply "sync" (.upserted (holder person)) (.ofMillis 0)

private def heldBy (person : String) : String :=
  fingerprintText (.induction ⟨person, .pass, none, none⟩) .active (.ofMillis 0) (.ofMillis 0)

private def handedOver : Except SyncFault (String × Option String × Option String) := do
  let made ← taken .empty "p"
  let again ← taken made.2 "q"
  let former ← made.2.read .induction "i"
  let latter ← again.2.read .induction "i"
  return (again.1.label, former.map Row.sourceText, latter.map Row.sourceText)

private theorem handedOver_eq :
    handedOver.toOption = some ("updated", some (heldBy "p"), some (heldBy "q")) := by
  decide +kernel

private theorem digests_differ : digestText (heldBy "p") ≠ digestText (heldBy "q") := by
  decide +kernel

/-- An induction gets another person, which is a change. -/
theorem unchanged_tells_source_of_other_person : ∃ (history : History) (store after : Store)
    (stale : Bool) (former latter : Row), Past history store ∧
      store.apply "sync" (.upserted (holder "q")) (.ofMillis 0) =
        .ok (.updated stale true, after) ∧
      store.read .induction "i" = .ok (some former) ∧
      after.read .induction "i" = .ok (some latter) ∧
      CollisionFree former.sourceText latter.sourceText ∧ ¬ former.SameSource latter := by
  have ran := handedOver_eq
  cases ended : handedOver with
  | error fault =>
    rw [ended] at ran
    cases ran
  | ok found =>
    rw [ended] at ran
    cases ran
    simp only [handedOver, bind_eq_ok_iff] at ended
    obtain ⟨⟨outcome, store⟩, first, ⟨again, after⟩, second, before, read, behind, readAfter,
      same⟩ := ended
    injection same with same
    simp only [Prod.mk.injEq] at same
    obtain ⟨label, seen, seenAfter⟩ := same
    obtain ⟨former, rfl, formerText⟩ := Option.map_eq_some_iff.mp seen
    obtain ⟨latter, rfl, latterText⟩ := Option.map_eq_some_iff.mp seenAfter
    have differ : digestText former.sourceText ≠ digestText latter.sourceText := by
      rw [formerText, latterText]
      exact digests_differ
    have other : ¬ former.SameSource latter := fun same =>
      differ (congrArg digestText (Row.sourceText_eq_iff.mpr same))
    have within : (Change.upserted (holder "p")).Within .induction := ⟨rfl, holder_kept "p"⟩
    have past := Past.empty.applied within epoch_kept first
    cases again with
    | updated stale changed =>
      obtain ⟨_, _, known, knownAfter, tells⟩ := unchanged_tells_source.2 _ _ _ _ _ _ _ _ past
        (holder_kept "q") epoch_kept second
      cases read.symm.trans known
      cases readAfter.symm.trans knownAfter
      have free := collisionFree_of_digestText_ne differ
      cases changed with
      | true => exact ⟨_, store, after, stale, former, latter, past, second, read, readAfter, free,
          other⟩
      | false => exact absurd ((tells free).mp rfl) other
    | _ => simp [Outcome.label] at label

end Store

end RecordSync
