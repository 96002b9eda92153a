import MarketIngest.L0Sink
import Mathlib.Algebra.Order.Group.Multiset
import Mathlib.Tactic.Abel

namespace MarketIngest.Storage

/-!
# Where the records of a sink are

A record that was appended waits in a buffer, or it belongs to an object that
was uploaded, or to one whose upload failed.  The lemmas below follow the
records through the flush of a partition, the append to a family and the flush
of a family.  Records leave the account only when a flush fails.
-/

variable {Key Record Payload : Type} [LinearOrder Key]

/-- The upload of the file is given up. -/
def FileOutcome.failsUpload : FileOutcome → Bool
  | .uploadFailed _ => true
  | _ => false

/-- The records that wait in the buffer of a partition. -/
def PartitionBuffers.waiting
    (buffered : PartitionBuffers Key Record)
    (partition : Key) : List Record :=
  (buffered.buffers.get? partition).getD []

/-- All records that wait in the buffers of a family. -/
def PartitionBuffers.records
    (family : ObjectFamily Key Record Payload)
    (buffered : PartitionBuffers Key Record) :
    Multiset (L0Record Payload) :=
  (buffered.buffers.entries.flatMap
    (fun entry => entry.2.map family.toRecord) :
      List (L0Record Payload))

/-- All records of uploaded objects and of failed uploads. -/
def UploadLedger.records
    (ledger : UploadLedger Payload) : Multiset (L0Record Payload) :=
  (ledger.uploadedRecords : Multiset (L0Record Payload)) +
    (ledger.failedRecords : Multiset (L0Record Payload))

/--
A step accounts for the records when those that it loses, if any, are missing
afterwards, and it loses records exactly if it is not safe.
-/
def Accounts
    (before after : Multiset (L0Record Payload))
    (safe : Prop) : Prop :=
  ∃ lost, after + lost = before ∧ (lost = 0 ↔ safe)

section Accounts

variable
  {before between after : Multiset (L0Record Payload)}
  {safe earlier later : Prop}

/-- A step that keeps every record is safe. -/
theorem Accounts.of_eq
    (kept : after = before)
    (always : safe) :
    Accounts before after safe :=
  ⟨0, by simp [kept], by simp [always]⟩

/-- Two steps lose nothing together exactly if neither does. -/
theorem Accounts.trans
    (first : Accounts before between earlier)
    (second : Accounts between after later) :
    Accounts before after (earlier ∧ later) := by
  obtain ⟨firstLost, firstBalance, firstSafe⟩ := first
  obtain ⟨secondLost, secondBalance, secondSafe⟩ := second
  refine ⟨firstLost + secondLost, ?_, ?_⟩
  · rw [← firstBalance, ← secondBalance]
    abel
  · rw [← firstSafe, ← secondSafe, ← Multiset.card_eq_zero,
      ← Multiset.card_eq_zero, ← Multiset.card_eq_zero,
      Multiset.card_add, Nat.add_eq_zero_iff]

/-- Records that a step does not touch stay in the account. -/
theorem Accounts.frame
    (untouched : Multiset (L0Record Payload))
    (step : Accounts before after safe) :
    Accounts (before + untouched) (after + untouched) safe := by
  obtain ⟨lost, balance, exactlySafe⟩ := step
  refine ⟨lost, ?_, exactlySafe⟩
  rw [← balance]
  abel

end Accounts

section Buffers

variable
  {family : ObjectFamily Key Record Payload}
  {buffered : PartitionBuffers Key Record}
  {partition other : Key}
  {record : Record}

@[simp] theorem PartitionBuffers.records_empty :
    (PartitionBuffers.empty : PartitionBuffers Key Record).records
      family = 0 :=
  rfl

@[simp] theorem UploadLedger.records_empty :
    (UploadLedger.empty : UploadLedger Payload).records = 0 :=
  rfl

/-- The buffered records, without those of one partition. -/
theorem PartitionBuffers.records_eq_waiting_add
    (family : ObjectFamily Key Record Payload)
    (buffered : PartitionBuffers Key Record)
    (partition : Key) :
    buffered.records family =
      ((buffered.waiting partition).map family.toRecord :
        Multiset (L0Record Payload)) +
        ((buffered.buffers.erase partition).entries.flatMap
          (fun entry => entry.2.map family.toRecord) :
            Multiset (L0Record Payload)) := by
  unfold PartitionBuffers.records PartitionBuffers.waiting
  cases found : buffered.buffers.get? partition with
  | none =>
      simp [OrderedMap.erase_entries_of_get?_none found]
  | some waiting =>
      rw [Multiset.coe_add, Multiset.coe_eq_coe]
      exact (OrderedMap.entries_perm_of_get? found).flatMap_right _

/-- A pushed record is buffered. -/
theorem PartitionBuffers.records_push
    (family : ObjectFamily Key Record Payload)
    (buffered : PartitionBuffers Key Record)
    (partition : Key)
    (record : Record) :
    (buffered.push partition record).records family =
      buffered.records family + {family.toRecord record} := by
  have inserted :=
    (buffered.buffers.entries_insert_perm partition
      (buffered.waiting partition ++ [record])).flatMap_right
        (fun entry => entry.2.map family.toRecord)
  rw [buffered.records_eq_waiting_add family partition]
  refine (Multiset.coe_eq_coe.mpr inserted).trans ?_
  simp only [List.flatMap_cons, List.map_append, List.map_cons,
    List.map_nil, ← Multiset.coe_add, Multiset.coe_singleton]
  abel

/-- A pushed record waits behind the earlier ones. -/
@[simp] theorem PartitionBuffers.waiting_push :
    (buffered.push partition record).waiting partition =
      buffered.waiting partition ++ [record] := by
  simp [PartitionBuffers.waiting, PartitionBuffers.push]

end Buffers

section Flush

variable
  {config : L0StorageConfig}
  {family : ObjectFamily Key Record Payload}
  {partition : Key}
  {outcome : FileOutcome}
  {buffered : PartitionBuffers Key Record}
  {ledger : UploadLedger Payload}

/-- A flush takes the buffer of its partition out, whatever happens next. -/
theorem flushPartition_buffers :
    (flushPartition config family partition outcome buffered
      ledger).1.buffers = buffered.buffers.erase partition := by
  unfold flushPartition
  cases found : buffered.buffers.get? partition with
  | none =>
      exact (OrderedMap.erase_of_get?_none found).symm
  | some waiting =>
      simp only
      split_ifs
      · rfl
      · cases outcome <;> rfl

/-- A flush fails exactly if there are records and no file is written. -/
theorem flushPartition_ok_iff :
    (flushPartition config family partition outcome buffered
        ledger).2.2 = .ok () ↔
      (outcome.loses = true → buffered.waiting partition = []) := by
  unfold flushPartition PartitionBuffers.waiting
  cases found : buffered.buffers.get? partition with
  | none =>
      simp
  | some waiting =>
      simp only [List.isEmpty_iff, Option.getD_some]
      split_ifs with nothing
      · simp [nothing]
      · cases outcome <;> simp [FileOutcome.loses, nothing]

/-- A flush uploads the waiting records. -/
theorem flushPartition_uploadedRecords :
    (flushPartition config family partition outcome buffered
        ledger).2.1.uploadedRecords =
      ledger.uploadedRecords ++
        if outcome = .uploaded then
          (buffered.waiting partition).map family.toRecord
        else [] := by
  unfold flushPartition PartitionBuffers.waiting
  cases found : buffered.buffers.get? partition with
  | none =>
      simp
  | some waiting =>
      by_cases nothing : waiting = []
      · simp [nothing]
      · cases outcome <;>
          simp [nothing, upload, UploadLedger.recordFailedUpload,
            UploadLedger.recordUploadedObject]

/-- A flush gives the waiting records up when the upload fails. -/
theorem flushPartition_failedRecords :
    (flushPartition config family partition outcome buffered
        ledger).2.1.failedRecords =
      ledger.failedRecords ++
        if outcome.failsUpload then
          (buffered.waiting partition).map family.toRecord
        else [] := by
  unfold flushPartition PartitionBuffers.waiting
  cases found : buffered.buffers.get? partition with
  | none =>
      simp
  | some waiting =>
      by_cases nothing : waiting = []
      · simp [nothing]
      · cases outcome <;>
          simp [nothing, upload, FileOutcome.failsUpload,
            UploadLedger.recordFailedUpload,
            UploadLedger.recordUploadedObject]

/-- Where the records are after the flush of a partition. -/
theorem flushPartition_balance :
    (flushPartition config family partition outcome buffered
          ledger).1.records family +
        (flushPartition config family partition outcome buffered
          ledger).2.1.records +
        (if outcome.loses then
          ((buffered.waiting partition).map family.toRecord :
            Multiset (L0Record Payload))
        else 0) =
      buffered.records family + ledger.records := by
  rw [buffered.records_eq_waiting_add family partition]
  unfold PartitionBuffers.records UploadLedger.records
  rw [flushPartition_buffers, flushPartition_uploadedRecords,
    flushPartition_failedRecords]
  cases outcome <;>
    simp [FileOutcome.loses, FileOutcome.failsUpload,
      ← Multiset.coe_add] <;>
    abel

/-- The flush of a partition loses records exactly if it fails. -/
theorem flushPartition_accounts
    (config : L0StorageConfig)
    (family : ObjectFamily Key Record Payload)
    (partition : Key)
    (outcome : FileOutcome)
    (buffered : PartitionBuffers Key Record)
    (ledger : UploadLedger Payload) :
    Accounts
      (buffered.records family + ledger.records)
      ((flushPartition config family partition outcome buffered
          ledger).1.records family +
        (flushPartition config family partition outcome buffered
          ledger).2.1.records)
      (outcome.loses = true → buffered.waiting partition = []) := by
  refine ⟨_, flushPartition_balance, ?_⟩
  cases outcome.loses <;> simp

/-- The flush of a partition does not touch the other buffers. -/
theorem flushPartition_waiting_other
    {other : Key}
    (different : other ≠ partition) :
    (flushPartition config family partition outcome buffered
      ledger).1.waiting other = buffered.waiting other := by
  unfold PartitionBuffers.waiting
  rw [flushPartition_buffers, OrderedMap.get?_erase_other _ different]

end Flush

section Append

variable
  {config : L0StorageConfig}
  {family : ObjectFamily Key Record Payload}
  {partition : Key}
  {record : Record}
  {outcome : FileOutcome}
  {buffered : PartitionBuffers Key Record}
  {ledger : UploadLedger Payload}

/-- The next record fills the buffer of its partition. -/
def Fills
    (config : L0StorageConfig)
    (buffered : PartitionBuffers Key Record)
    (partition : Key) : Prop :=
  config.flushRecords ≤ (buffered.waiting partition).length + 1

/-- An append that flushes no earlier record into a file that is not written. -/
def AppendSafe
    (config : L0StorageConfig)
    (buffered : PartitionBuffers Key Record)
    (partition : Key)
    (outcome : FileOutcome) : Prop :=
  Fills config buffered partition →
    outcome.loses = true →
    buffered.waiting partition = []

/-- The record of an append that returned without an error. -/
def acceptedRecord
    (record : L0Record Payload) :
    Except StorageError Unit → Multiset (L0Record Payload)
  | .ok () => {record}
  | .error _ => 0

/-- An append flushes its partition exactly if the record fills it. -/
theorem appendRecord_of_fills
    (fills : Fills config buffered partition) :
    appendRecord config family partition record outcome buffered ledger =
      flushPartition config family partition outcome
        (buffered.push partition record) ledger := by
  have full :
      ((buffered.push partition record).waiting partition).length ≥
        config.flushRecords := by
    rw [PartitionBuffers.waiting_push, List.length_append]
    exact fills
  unfold appendRecord
  exact if_pos full

/-- An append that does not fill its partition only buffers the record. -/
theorem appendRecord_of_not_fills
    (room : ¬ Fills config buffered partition) :
    appendRecord config family partition record outcome buffered ledger =
      (buffered.push partition record, ledger, .ok ()) := by
  have notFull :
      ¬ ((buffered.push partition record).waiting partition).length ≥
        config.flushRecords := by
    rw [PartitionBuffers.waiting_push, List.length_append]
    exact room
  unfold appendRecord
  exact if_neg notFull

/-- An append fails exactly if it flushes into a file that is not written. -/
theorem appendRecord_ok_iff :
    (appendRecord config family partition record outcome buffered
        ledger).2.2 = .ok () ↔
      (Fills config buffered partition → outcome.loses = false) := by
  by_cases fills : Fills config buffered partition
  · rw [appendRecord_of_fills fills, flushPartition_ok_iff]
    simp [fills]
  · rw [appendRecord_of_not_fills fills]
    simp [fills]

/-- An append that returns without an error is safe. -/
theorem appendSafe_of_ok
    (returned :
      (appendRecord config family partition record outcome buffered
        ledger).2.2 = .ok ()) :
    AppendSafe config buffered partition outcome := by
  intro fills loses
  rw [appendRecord_ok_iff.mp returned fills] at loses
  cases loses

/-- An append loses earlier records exactly if it is not safe. -/
theorem appendRecord_accounts
    (config : L0StorageConfig)
    (family : ObjectFamily Key Record Payload)
    (partition : Key)
    (record : Record)
    (outcome : FileOutcome)
    (buffered : PartitionBuffers Key Record)
    (ledger : UploadLedger Payload) :
    Accounts
      (buffered.records family + ledger.records +
        acceptedRecord (family.toRecord record)
          (appendRecord config family partition record outcome buffered
            ledger).2.2)
      ((appendRecord config family partition record outcome buffered
          ledger).1.records family +
        (appendRecord config family partition record outcome buffered
          ledger).2.1.records)
      (AppendSafe config buffered partition outcome) := by
  by_cases returned :
    (appendRecord config family partition record outcome buffered
      ledger).2.2 = .ok ()
  · -- The record is in the account now, and nothing left it.
    rw [returned]
    have written := appendRecord_ok_iff.mp returned
    refine .of_eq ?_ (fun fills loses => by simp [written fills] at loses)
    by_cases fills : Fills config buffered partition
    · have balance :=
        @flushPartition_balance _ _ _ _ config family partition outcome
          (buffered.push partition record) ledger
      rw [written fills, buffered.records_push] at balance
      rw [appendRecord_of_fills fills]
      simp only [Bool.false_eq_true, ↓reduceIte, add_zero] at balance
      rw [balance, acceptedRecord]
      abel
    · rw [appendRecord_of_not_fills fills, buffered.records_push,
        acceptedRecord]
      abel
  · -- The record is not accepted, and those that waited before it are lost.
    have failure := mt appendRecord_ok_iff.mpr returned
    simp only [not_forall, Bool.not_eq_false] at failure
    obtain ⟨fills, loses⟩ := failure
    have rejected :
        acceptedRecord (family.toRecord record)
          (appendRecord config family partition record outcome buffered
            ledger).2.2 = 0 := by
      cases result :
          (appendRecord config family partition record outcome buffered
            ledger).2.2 with
      | ok => exact absurd result returned
      | error => rfl
    rw [rejected, appendRecord_of_fills fills]
    refine ⟨((buffered.waiting partition).map family.toRecord :
      Multiset (L0Record Payload)), ?_, ?_⟩
    · have balance :=
        @flushPartition_balance _ _ _ _ config family partition outcome
          (buffered.push partition record) ledger
      rw [loses, buffered.records_push,
        PartitionBuffers.waiting_push] at balance
      simp only [↓reduceIte, List.map_append, List.map_cons,
        List.map_nil, ← Multiset.coe_add, Multiset.coe_singleton]
        at balance
      apply add_right_cancel (b := {family.toRecord record})
      calc
        _ = _ := by rw [add_assoc, balance]
        _ = _ := by abel
    · simp [AppendSafe, fills, loses]

end Append

section FlushFamily

variable
  {config : L0StorageConfig}
  {family : ObjectFamily Key Record Payload}
  {outcomes : Key → FileOutcome}
  {partitions : List Key}
  {buffered : PartitionBuffers Key Record}
  {ledger : UploadLedger Payload}

/-- No partition with records meets a file outcome of a kind. -/
def Avoids
    (kind : FileOutcome → Bool)
    (outcomes : Key → FileOutcome)
    (buffered : PartitionBuffers Key Record)
    (partitions : List Key) : Prop :=
  ∀ partition ∈ partitions,
    kind (outcomes partition) = true →
    buffered.waiting partition = []

/-- The flush of one partition does not matter for the others. -/
private theorem avoids_after_flushPartition
    {kind : FileOutcome → Bool}
    {partition : Key}
    (outside : partition ∉ partitions) :
    Avoids kind outcomes
        (flushPartition config family partition (outcomes partition)
          buffered ledger).1
        partitions ↔
      Avoids kind outcomes buffered partitions := by
  refine forall₂_congr (fun other member => ?_)
  have different : other ≠ partition := by
    rintro rfl
    exact outside member
  rw [flushPartition_waiting_other different]

/-- Avoiding a kind at a partition and at the rest of them. -/
private theorem avoids_cons
    {kind : FileOutcome → Bool}
    {partition : Key} :
    Avoids kind outcomes buffered (partition :: partitions) ↔
      (kind (outcomes partition) = true →
        buffered.waiting partition = []) ∧
      Avoids kind outcomes buffered partitions := by
  simp [Avoids]

/-- The flush of partitions succeeds exactly if every file is written. -/
theorem flushPartitions_ok_iff
    (distinct : partitions.Nodup) :
    (flushPartitions config family outcomes partitions buffered
        ledger).2.2 = .ok () ↔
      Avoids FileOutcome.loses outcomes buffered partitions := by
  induction partitions generalizing buffered ledger with
  | nil =>
      simp [flushPartitions, Avoids]
  | cons partition rest inductionHypothesis =>
      rw [List.nodup_cons] at distinct
      have headOk :=
        @flushPartition_ok_iff _ _ _ _ config family partition
          (outcomes partition) buffered ledger
      have restSafe :=
        @avoids_after_flushPartition _ _ _ _ config family outcomes rest
          buffered ledger FileOutcome.loses partition distinct.1
      rw [avoids_cons, ← headOk, ← restSafe]
      simp only [flushPartitions]
      split
      · rename_i flushed
        rw [inductionHypothesis distinct.2, flushed]
        simp
      · rename_i flushed
        simp [flushed]

/-- The flush of partitions loses records exactly if it fails. -/
theorem flushPartitions_accounts
    (config : L0StorageConfig)
    (family : ObjectFamily Key Record Payload)
    (outcomes : Key → FileOutcome)
    (distinct : partitions.Nodup)
    (buffered : PartitionBuffers Key Record)
    (ledger : UploadLedger Payload) :
    Accounts
      (buffered.records family + ledger.records)
      ((flushPartitions config family outcomes partitions buffered
          ledger).1.records family +
        (flushPartitions config family outcomes partitions buffered
          ledger).2.1.records)
      (Avoids FileOutcome.loses outcomes buffered partitions) := by
  induction partitions generalizing buffered ledger with
  | nil =>
      exact .of_eq rfl (by simp [Avoids])
  | cons partition rest inductionHypothesis =>
      rw [List.nodup_cons] at distinct
      have headAccounts :=
        flushPartition_accounts config family partition
          (outcomes partition) buffered ledger
      have headOk :=
        @flushPartition_ok_iff _ _ _ _ config family partition
          (outcomes partition) buffered ledger
      rw [avoids_cons]
      have restSafe :=
        @avoids_after_flushPartition _ _ _ _ config family outcomes rest
          buffered ledger FileOutcome.loses partition distinct.1
      simp only [flushPartitions]
      split
      · rename_i after flushedLedger flushed
        rw [flushed] at headAccounts restSafe
        rw [← restSafe]
        exact headAccounts.trans
          (inductionHypothesis distinct.2 after flushedLedger)
      · rename_i after flushedLedger failure flushed
        rw [flushed] at headAccounts headOk
        -- The flush stops here, and the records of this partition are lost.
        have unsafeHead :
            ¬ ((outcomes partition).loses = true →
              buffered.waiting partition = []) := by
          rw [← headOk]
          simp
        obtain ⟨lost, balance, exactlySafe⟩ := headAccounts
        refine ⟨lost, balance, ?_⟩
        rw [exactlySafe]
        simp only [iff_self_and]
        exact fun safeHead => absurd safeHead unsafeHead

/--
A flush of partitions gives up records of its own family only, and if it
succeeds, it gives up none exactly if every upload succeeds.
-/
theorem flushPartitions_failedRecords
    (config : L0StorageConfig)
    (family : ObjectFamily Key Record Payload)
    (outcomes : Key → FileOutcome)
    (distinct : partitions.Nodup)
    (buffered : PartitionBuffers Key Record)
    (ledger : UploadLedger Payload) :
    ∃ added : List Record,
      (flushPartitions config family outcomes partitions buffered
          ledger).2.1.failedRecords =
        ledger.failedRecords ++ added.map family.toRecord ∧
      ((flushPartitions config family outcomes partitions buffered
          ledger).2.2 = .ok () →
        (added = [] ↔
          Avoids FileOutcome.failsUpload outcomes buffered partitions)) := by
  induction partitions generalizing buffered ledger with
  | nil =>
      exact ⟨[], by simp [flushPartitions], by simp [Avoids]⟩
  | cons partition rest inductionHypothesis =>
      rw [List.nodup_cons] at distinct
      let waiting :=
        if (outcomes partition).failsUpload then
          buffered.waiting partition
        else []
      have headFailed :
          (flushPartition config family partition (outcomes partition)
              buffered ledger).2.1.failedRecords =
            ledger.failedRecords ++ waiting.map family.toRecord := by
        rw [flushPartition_failedRecords]
        simp only [waiting]
        split_ifs
        · rfl
        · rfl
      have headNone :
          waiting = [] ↔
            ((outcomes partition).failsUpload = true →
              buffered.waiting partition = []) := by
        simp only [waiting]
        split_ifs with fails
        · simp [fails]
        · simp [fails]
      have restSafe :=
        @avoids_after_flushPartition _ _ _ _ config family outcomes rest
          buffered ledger FileOutcome.failsUpload partition distinct.1
      rw [avoids_cons]
      simp only [flushPartitions]
      split
      · rename_i after flushedLedger flushed
        rw [flushed] at headFailed restSafe
        obtain ⟨added, restFailed, restNone⟩ :=
          inductionHypothesis distinct.2 after flushedLedger
        refine ⟨waiting ++ added, ?_, ?_⟩
        · rw [restFailed, headFailed, List.map_append, List.append_assoc]
        · intro returned
          rw [List.append_eq_nil_iff, headNone, restNone returned, restSafe]
      · rename_i after flushedLedger failure flushed
        rw [flushed] at headFailed
        exact ⟨waiting, headFailed, fun returned => by cases returned⟩

/-- A flush of all partitions that succeeds leaves nothing in the buffers. -/
theorem flushPartitions_entries_of_ok
    (returned :
      (flushPartitions config family outcomes partitions buffered
        ledger).2.2 = .ok ())
    {key : Key}
    {records : List Record}
    (buffers :
      (flushPartitions config family outcomes partitions buffered
        ledger).1.buffers.get? key = some records) :
    key ∉ partitions ∧ buffered.buffers.get? key = some records := by
  induction partitions generalizing buffered ledger with
  | nil =>
      exact ⟨List.not_mem_nil, buffers⟩
  | cons partition rest inductionHypothesis =>
      have erased :=
        @flushPartition_buffers _ _ _ _ config family partition
          (outcomes partition) buffered ledger
      simp only [flushPartitions] at returned buffers
      split at returned
      · rename_i after flushedLedger flushed
        rw [flushed] at erased
        rw [flushed] at buffers
        obtain ⟨outside, before⟩ := inductionHypothesis returned buffers
        rw [erased] at before
        have different : key ≠ partition := by
          rintro rfl
          simp at before
        rw [OrderedMap.get?_erase_other _ different] at before
        exact ⟨by simp [different, outside], before⟩
      · cases returned

/-- After the flush of all keys, a family has no buffered records. -/
theorem flushPartitions_records_of_ok
    (returned :
      (flushPartitions config family outcomes buffered.buffers.keys
        buffered ledger).2.2 = .ok ()) :
    (flushPartitions config family outcomes buffered.buffers.keys
      buffered ledger).1.records family = 0 := by
  unfold PartitionBuffers.records
  rw [Multiset.coe_eq_zero, List.flatMap_eq_nil_iff]
  intro entry member
  have found := OrderedMap.get?_eq_some_iff.mpr member
  obtain ⟨outside, before⟩ := flushPartitions_entries_of_ok returned found
  exact absurd (OrderedMap.mem_keys_iff.mpr ⟨_, before⟩) outside

end FlushFamily

end MarketIngest.Storage
