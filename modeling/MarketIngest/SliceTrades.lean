import MarketIngest.RowAccounting

namespace MarketIngest.Build

open Normalize

/-!
# The trades of all slices

Every slice is stored under its own key, and every event of the range that was
read has a slice.  The trades of all slices together are therefore those of the
events of the range, each of them once.
-/

variable
  {Number : Type}
  [NumberFormat Number]
  {codec : Codec Number}
  {args : NormalizeArgs}
  {scanRange inputRange : InputRange}
  {rows : List InputRow}
  {accumulator : BuildAccumulator Number}

/-- The keys of the finished slices are those of the stored ones. -/
private theorem finish_keys
    (holds : BuildHolds codec args scanRange inputRange rows accumulator) :
    accumulator.finish.slices.map SliceRow.key = accumulator.rows.keys :=
  finishSlices_keys accumulator accumulator.inputRange
    fun _ _ => holds.input.key_of_entry

/-- An event of the range has a slice. -/
private theorem eventSliceKey_mem_keys
    {interval : Int}
    (accepted :
      validateRange inputRange.startMs inputRange.endMs args.windowMs
        interval = .ok ())
    (endRepresentable : inputRange.endMs ≤ i64Max)
    (holds : BuildHolds codec args scanRange inputRange rows accumulator)
    {event : RawInputEvent}
    (member : event ∈ rangeEvents codec args scanRange inputRange rows) :
    eventSliceKey args event ∈ accumulator.rows.keys := by
  have sliceEvent : isSliceEvent inputRange event = true :=
    (List.mem_filter.mp member).2
  have within : inRange inputRange event = true :=
    (Bool.and_eq_true_iff.mp sliceEvent).2
  obtain ⟨seeded, -, -⟩ :=
    window_of_inRange accepted endRepresentable within
  have held :
      accumulator.rows.get?
          (sliceKey event.venue event.symbolCanonical
            (eventWindowStart args event)) =
        _ :=
    holds.input.rows event.venue event.symbolCanonical
      (eventWindowStart args event)
  cases identity :
      firstIdentity (rangeEvents codec args scanRange inputRange rows)
        event.venue event.symbolCanonical with
  | none =>
      exact absurd rfl (identityKey_ne_of_firstIdentity_none identity member)
  | some known =>
      rw [identity, sliceAfter, if_pos seeded, Option.map_some] at held
      exact OrderedMap.mem_keys_iff.mpr ⟨_, held⟩

/-- The slices have the trades of the range, each of them once. -/
theorem sliceTrades_perm
    {interval : Int}
    (accepted :
      validateRange inputRange.startMs inputRange.endMs args.windowMs
        interval = .ok ())
    (endRepresentable : inputRange.endMs ≤ i64Max)
    (holds :
      BuildHolds codec args scanRange inputRange rows accumulator) :
    (accumulator.finish.slices.flatMap (fun slice => slice.tradeEvents)).Perm
      ((rangeEvents codec args scanRange inputRange rows).filterMap
        (tradeOf codec)) := by
  let events := rangeEvents codec args scanRange inputRange rows
  have own :
      ∀ slice ∈ accumulator.finish.slices,
        slice.tradeEvents.Perm
          ((events.filter (fun event =>
            eventSliceKey args event = slice.key)).filterMap
            (tradeOf codec)) := by
    intro slice member
    have accounts := rowAccounts_of_mem_finish holds member
    have applied :
        disposedEvents codec args scanRange inputRange
            (.applied slice.key) [] rows =
          events.filter (fun event => eventSliceKey args event = slice.key) :=
      disposedEvents_applied [] rows slice.key
    rw [← applied]
    exact accounts.tradeEvents
  have byKey :
      accumulator.finish.slices.flatMap (fun slice =>
          (events.filter (fun event =>
            eventSliceKey args event = slice.key)).filterMap
            (tradeOf codec)) =
        (accumulator.rows.keys.flatMap (fun key =>
          events.filter (fun event =>
            eventSliceKey args event = key))).filterMap (tradeOf codec) := by
    rw [← finish_keys holds, List.flatMap_map, List.filterMap_flatMap]
  have divided :
      (accumulator.rows.keys.flatMap (fun key =>
        events.filter (fun event =>
          eventSliceKey args event = key))).Perm events := by
    refine (OrderedMap.flatMap_filter_perm (eventSliceKey args) events
      accumulator.rows.keys_nodup).trans (.of_eq ?_)
    rw [List.filter_eq_self]
    intro event member
    simpa using
      eventSliceKey_mem_keys accepted endRepresentable holds member
  refine (List.Perm.flatMap_left _ own).trans ?_
  rw [byKey]
  exact divided.filterMap (tradeOf codec)

end MarketIngest.Build
