import MarketIngest.AdjacentChunks
import MarketIngest.Tiling

namespace MarketIngest.Supervisor

open Normalize Tiling

/-!
# The grid of bootstrap chunks

The arguments of the supervisor are accepted only if the chunk length divides a
day.  The chunks of any moment then lie on one grid, the multiples of the chunk
length, and as time passes chunks are only added at the end and dropped at the
start.
-/

/-- The arguments of the supervisor that are checked together. -/
structure BootstrapArgs extends SupervisorArgs where
  realtimeVenues : List String
  liveNatsUrl : Option String
  liveNatsStream : String
  liveNatsSubjectPrefix : String
  bootstrapLookbackDays : PositiveI64
  bootstrapChunkHours : PositiveI64

/-- The defaults, with bucket names as the command line requires them. -/
def BootstrapArgs.withBuckets
    (l0S3Bucket l1S3Bucket : String) : BootstrapArgs where
  toSupervisorArgs := .withBuckets l0S3Bucket l1S3Bucket
  realtimeVenues := ["binance"]
  liveNatsUrl := none
  liveNatsStream := "MARKET_LIVE"
  liveNatsSubjectPrefix := "market_live_tick.created"
  bootstrapLookbackDays := ⟨210, by decide⟩
  bootstrapChunkHours := ⟨24, by decide⟩

/-- A venue is one of the two known ones. -/
def validateVenue (value name : String) : Bool × String :=
  (value ≠ "binance" && value ≠ "upbit",
    name ++ " must contain only binance or upbit")

/-- A bucket name is neither blank nor a placeholder. -/
def validateBucketArg (value name : String) : List (Bool × String) :=
  [(value.toList.all Text.isWhiteSpace, name ++ " is required"),
    (value.toList.contains '<' || value.toList.contains '>',
      name ++
        " must be a real bucket name, not a public-doc placeholder")]

/-- An address names the protocol. -/
def validateNatsUrl (name value : String) : Bool × String :=
  (!Text.startsWith value "nats://", name ++ " must start with nats://")

/-- A token is not blank and has no white space. -/
def validateNonEmptyToken (name value : String) : List (Bool × String) :=
  [(value.toList.all Text.isWhiteSpace, name ++ " must not be empty"),
    (value.toList.any Text.isWhiteSpace,
      name ++ " must not contain whitespace")]

/-- A prefix of subjects is a token that does not end in a dot. -/
def validateSubjectPrefix (name value : String) : List (Bool × String) :=
  validateNonEmptyToken name value ++
    [(Text.endsWith value ".", name ++ " must not end with '.'")]

/-- Check the arguments that depend on each other. -/
def validateCompletedArgs (parsed : BootstrapArgs) : Except String Unit :=
  firstRefusal
    ([(parsed.realtimeVenues.isEmpty,
        "--realtime-venues requires at least one venue")] ++
      parsed.realtimeVenues.map (fun venue =>
        validateVenue venue "--realtime-venues") ++
      validateBucketArg parsed.l0S3Bucket "--l0-s3-bucket" ++
      validateBucketArg parsed.l1S3Bucket "--l1-s3-bucket" ++
      (match parsed.liveNatsUrl with
        | some url =>
            [validateNatsUrl "--live-nats-url" url] ++
              validateNonEmptyToken "--live-nats-stream"
                parsed.liveNatsStream ++
              validateSubjectPrefix "--live-nats-subject-prefix"
                parsed.liveNatsSubjectPrefix
        | none => []) ++
      [(decide (0 < parsed.bootstrapLookbackDays.1 ∧
            24 < parsed.bootstrapChunkHours.1),
          "--bootstrap-chunk-hours must be <= 24 " ++
            "to keep recovery chunks bounded"),
        (decide (Int.tmod 24 parsed.bootstrapChunkHours.1 ≠ 0),
          "--bootstrap-chunk-hours must evenly divide 24 " ++
            "for stable UTC day partitions")])

namespace BootstrapArgs

variable (args : BootstrapArgs)

/-- The length of a chunk. -/
def chunkMs : Int :=
  saturatingMul args.bootstrapChunkHours 3600000

/-- The length of the history. -/
def lookbackMs : Int :=
  saturatingMul (saturatingMul args.bootstrapLookbackDays 24) 3600000

/-- Where the chunks end. -/
def endBound (nowMs : Int) : Int :=
  alignDownToChunk (saturatingSub nowMs 3600000) args.chunkMs

/-- Where the chunks start. -/
def startBound (nowMs : Int) : Int :=
  alignDownToChunk (saturatingSub (args.endBound nowMs) args.lookbackMs)
    args.chunkMs

/-- The chunks of the history up to an hour ago. -/
def chunks (nowMs : Int) : List BootstrapChunk :=
  bootstrapChunks args.bootstrapLookbackDays args.bootstrapChunkHours nowMs

end BootstrapArgs

/-- A cell of time as a chunk. -/
def chunkOfCell (cell : Int × Int) : BootstrapChunk where
  startMs := cell.1
  endMs := cell.2

/-- A chunk as a cell of time. -/
def BootstrapChunk.cell (chunk : BootstrapChunk) : Int × Int :=
  (chunk.startMs, chunk.endMs)

/-- A timestamp lies in the chunk, whose end is not part of it. -/
def BootstrapChunk.Covers (chunk : BootstrapChunk) (timestampMs : Int) : Prop :=
  Within chunk.cell timestampMs

section Accepted

variable {args : BootstrapArgs}

/-- In accepted arguments the chunk length divides a day. -/
theorem chunkHours_dvd_of_accepted
    (accepted : validateCompletedArgs args = .ok ()) :
    args.bootstrapChunkHours.1 ∣ 24 := by
  have passed :=
    firstRefusal_eq_ok_iff.mp accepted
      (decide (Int.tmod 24 args.bootstrapChunkHours.1 ≠ 0),
        "--bootstrap-chunk-hours must evenly divide 24 " ++
          "for stable UTC day partitions")
      (by simp)
  have even : Int.tmod 24 args.bootstrapChunkHours.1 = 0 := by
    simpa using passed
  exact Int.dvd_of_tmod_eq_zero even

/-- The chunk length of accepted arguments, without saturation. -/
theorem chunkMs_eq
    (accepted : validateCompletedArgs args = .ok ()) :
    args.chunkMs = args.bootstrapChunkHours.1 * 3600000 ∧
      0 < args.chunkMs ∧ args.chunkMs ∣ dayMs := by
  have positive := args.bootstrapChunkHours.2.1
  have divides := chunkHours_dvd_of_accepted accepted
  have small := Int.le_of_dvd (by decide) divides
  have exact' :
      args.chunkMs = args.bootstrapChunkHours.1 * 3600000 :=
    saturatingMul_of_mem
      (by simp only [i64Min]; omega) (by simp only [i64Max]; omega)
  refine ⟨exact', by omega, ?_⟩
  rw [exact']
  exact Int.mul_dvd_mul_right 3600000 divides

end Accepted

section Grid

variable {args : BootstrapArgs}

/-- The loop over chunks goes through the cells of a walk. -/
private theorem bootstrapChunksFrom_eq
    {chunkMs endBound : Int}
    (positive : 0 < chunkMs)
    (representable : endBound ≤ i64Max)
    (rounds : Nat)
    {cursor : Int}
    (startRepresentable : i64Min ≤ cursor) :
    bootstrapChunksFrom chunkMs endBound rounds cursor =
      (cutGrid chunkMs endBound rounds cursor).map chunkOfCell := by
  induction rounds generalizing cursor with
  | zero =>
      rfl
  | succ rounds inductionHypothesis =>
      have sameEnd :
          min (saturatingAdd cursor chunkMs) endBound =
            min (cursor + chunkMs) endBound := by
        unfold saturatingAdd clampI64
        omega
      rw [bootstrapChunksFrom_succ positive representable, cutGrid, sameEnd]
      split_ifs with before
      · rw [inductionHypothesis (by omega), List.map_cons, chunkOfCell]
      · rfl

/-- Rounding down to the grid rounds down by less than a step. -/
theorem alignDownToChunk_bounds
    {chunkMs : Int}
    (positive : 0 < chunkMs)
    (value : Int) :
    alignDownToChunk value chunkMs ≤ value ∧
      value < alignDownToChunk value chunkMs + chunkMs ∧
      chunkMs ∣ alignDownToChunk value chunkMs := by
  refine ⟨Int.ediv_mul_le value positive.ne', ?_, Int.dvd_mul_left _ _⟩
  have remainder := Int.emod_lt_of_pos value positive
  have whole := Int.emod_add_mul_ediv value chunkMs
  rw [alignDownToChunk, Int.mul_comm]
  omega

/-- Rounding down keeps the order. -/
theorem alignDownToChunk_mono
    {chunkMs first second : Int}
    (positive : 0 < chunkMs)
    (ordered : first ≤ second) :
    alignDownToChunk first chunkMs ≤ alignDownToChunk second chunkMs :=
  Int.mul_le_mul_of_nonneg_right
    (Int.ediv_le_ediv positive ordered) positive.le

/-- The bounds of the chunks, if the start is a representable time. -/
structure Bounded (args : BootstrapArgs) (nowMs : Int) : Prop where
  positive : 0 < args.chunkMs
  startAligned : args.chunkMs ∣ args.startBound nowMs
  endAligned : args.chunkMs ∣ args.endBound nowMs
  early : args.endBound nowMs ≤ nowMs - 3600000
  late : nowMs - 3600000 < args.endBound nowMs + args.chunkMs
  lookback :
    args.startBound nowMs ≤ args.endBound nowMs - args.lookbackMs ∧
      args.endBound nowMs - args.lookbackMs <
        args.startBound nowMs + args.chunkMs

/-- The lookback is not empty. -/
theorem lookbackMs_pos
    (args : BootstrapArgs) :
    0 < args.lookbackMs := by
  have days := args.bootstrapLookbackDays.2.1
  unfold BootstrapArgs.lookbackMs saturatingMul clampI64
  unfold i64Min i64Max
  omega

/-- The representable times are not a whole number of seconds long. -/
private theorem saturated_of_aligned
    {value chunkMs : Int}
    (seconds : (3600000 : Int) ∣ chunkMs)
    (positive : 0 < chunkMs)
    (representable : i64Min ≤ alignDownToChunk (clampI64 value) chunkMs) :
    i64Min < value := by
  by_contra below
  have clamped : clampI64 value = i64Min := by
    unfold clampI64
    unfold i64Min i64Max at *
    omega
  obtain ⟨lower, -, aligned⟩ := alignDownToChunk_bounds positive i64Min
  rw [clamped] at representable
  have same : alignDownToChunk i64Min chunkMs = i64Min := by
    omega
  rw [same] at aligned
  have impossible : (3600000 : Int) ∣ i64Min := seconds.trans aligned
  exact absurd impossible (by decide)

/-- The bounds of the chunks of accepted arguments. -/
theorem bounded_of_accepted
    (accepted : validateCompletedArgs args = .ok ())
    {nowMs : Int}
    (nowRepresentable : nowMs ≤ i64Max)
    (representable : i64Min ≤ args.startBound nowMs) :
    Bounded args nowMs := by
  obtain ⟨isChunk, positive, -⟩ := chunkMs_eq accepted
  have hours : (3600000 : Int) ∣ args.chunkMs := by
    rw [isChunk]
    exact Int.dvd_mul_left _ _
  have lookbackPositive := lookbackMs_pos args
  have startShape := alignDownToChunk_bounds positive
    (saturatingSub (args.endBound nowMs) args.lookbackMs)
  have endShape := alignDownToChunk_bounds positive
    (saturatingSub nowMs 3600000)
  change args.endBound nowMs ≤ _ ∧ _ < args.endBound nowMs + _ ∧
    _ ∣ args.endBound nowMs at endShape
  change args.startBound nowMs ≤ _ ∧ _ < args.startBound nowMs + _ ∧
    _ ∣ args.startBound nowMs at startShape
  -- Neither subtraction can have saturated below.
  have startExact :
      i64Min < args.endBound nowMs - args.lookbackMs :=
    saturated_of_aligned hours positive representable
  have endExact : i64Min < nowMs - 3600000 := by
    apply saturated_of_aligned hours positive
    change i64Min ≤ args.endBound nowMs
    omega
  have isEnd : saturatingSub nowMs 3600000 = nowMs - 3600000 :=
    saturatingSub_of_mem endExact.le (by omega)
  have isStart :
      saturatingSub (args.endBound nowMs) args.lookbackMs =
        args.endBound nowMs - args.lookbackMs := by
    refine saturatingSub_of_mem startExact.le ?_
    omega
  rw [isEnd] at endShape
  rw [isStart] at startShape
  exact
    { positive := positive
      startAligned := startShape.2.2
      endAligned := endShape.2.2
      early := endShape.1
      late := endShape.2.1
      lookback := ⟨startShape.1, startShape.2.1⟩ }

/-- The chunks are the cells of a walk from the start to the end. -/
private theorem chunks_eq
    {nowMs : Int}
    (bounded : Bounded args nowMs)
    (nowRepresentable : nowMs ≤ i64Max)
    (representable : i64Min ≤ args.startBound nowMs) :
    args.chunks nowMs =
      (cutGrid args.chunkMs (args.endBound nowMs)
        ((args.endBound nowMs - args.startBound nowMs) / args.chunkMs +
          1).toNat
        (args.startBound nowMs)).map chunkOfCell := by
  have endRepresentable : args.endBound nowMs ≤ i64Max := by
    have := bounded.early
    omega
  have loop :=
    bootstrapChunksFrom_eq bounded.positive endRepresentable
      ((args.endBound nowMs - args.startBound nowMs) / args.chunkMs +
        1).toNat representable
  rw [← loop, BootstrapArgs.chunks, bootstrapChunks]
  exact if_neg (not_le.mpr bounded.positive)

/-- The walk over chunks has enough rounds. -/
private theorem chunks_rounds
    {nowMs : Int}
    (bounded : Bounded args nowMs)
    (ordered : args.startBound nowMs ≤ args.endBound nowMs) :
    args.endBound nowMs - args.startBound nowMs ≤
      (((args.endBound nowMs - args.startBound nowMs) / args.chunkMs +
        1).toNat : Int) * args.chunkMs := by
  have nonneg :
      0 ≤ (args.endBound nowMs - args.startBound nowMs) / args.chunkMs :=
    Int.ediv_nonneg (by omega) bounded.positive.le
  rw [Int.toNat_of_nonneg (by omega)]
  exact (Int.lt_ediv_add_one_mul_self _ bounded.positive).le

/-- A lookback that fits is not saturated. -/
theorem lookbackMs_of_fits
    (fits : args.bootstrapLookbackDays.1 * dayMs ≤ i64Max) :
    args.lookbackMs = args.bootstrapLookbackDays.1 * dayMs := by
  have days := args.bootstrapLookbackDays.2.1
  unfold dayMs at *
  have hours :
      saturatingMul args.bootstrapLookbackDays.1 24 =
        args.bootstrapLookbackDays.1 * 24 :=
    saturatingMul_of_mem (by simp only [i64Min]; omega) (by omega)
  rw [BootstrapArgs.lookbackMs, hours, saturatingMul_of_mem]
  · omega
  · simp only [i64Min]
    omega
  · omega

/-- The chunks tile the range between their bounds. -/
theorem tiles_chunks
    {nowMs : Int}
    (bounded : Bounded args nowMs)
    (nowRepresentable : nowMs ≤ i64Max)
    (representable : i64Min ≤ args.startBound nowMs) :
    Tiles (args.startBound nowMs) (args.endBound nowMs)
      ((args.chunks nowMs).map BootstrapChunk.cell) := by
  have ordered : args.startBound nowMs ≤ args.endBound nowMs := by
    have := bounded.lookback.1
    have := lookbackMs_pos args
    omega
  rw [chunks_eq bounded nowRepresentable representable, List.map_map]
  have same : BootstrapChunk.cell ∘ chunkOfCell = id := rfl
  rw [same, List.map_id]
  exact tiles_cutGrid bounded.positive ordered
    (chunks_rounds bounded ordered)

/-- The chunks are the cells of the grid between their bounds. -/
theorem mem_chunks_iff
    {nowMs : Int}
    (bounded : Bounded args nowMs)
    (nowRepresentable : nowMs ≤ i64Max)
    (representable : i64Min ≤ args.startBound nowMs)
    {chunk : BootstrapChunk} :
    chunk ∈ args.chunks nowMs ↔
      args.startBound nowMs ≤ chunk.startMs ∧
        chunk.startMs < args.endBound nowMs ∧
        args.chunkMs ∣ chunk.startMs ∧
        chunk.endMs = chunk.startMs + args.chunkMs := by
  have ordered : args.startBound nowMs ≤ args.endBound nowMs := by
    have := bounded.lookback.1
    have := lookbackMs_pos args
    omega
  have whole :
      args.chunkMs ∣ args.endBound nowMs - args.startBound nowMs :=
    Int.dvd_sub bounded.endAligned bounded.startAligned
  have onGrid (start : Int) :
      args.chunkMs ∣ start - args.startBound nowMs ↔
        args.chunkMs ∣ start :=
    (Int.dvd_iff_dvd_of_dvd_sub (by simpa using bounded.startAligned)).symm
  have asCell :
      chunk ∈ args.chunks nowMs ↔
        chunk.cell ∈
          cutGrid args.chunkMs (args.endBound nowMs)
            ((args.endBound nowMs - args.startBound nowMs) / args.chunkMs +
              1).toNat
            (args.startBound nowMs) := by
    rw [chunks_eq bounded nowRepresentable representable, List.mem_map]
    constructor
    · rintro ⟨cell, member, rfl⟩
      exact member
    · intro member
      exact ⟨chunk.cell, member, rfl⟩
  rw [asCell]
  constructor
  · intro member
    have full := length_of_mem_cutGrid whole member
    obtain ⟨lower, inside, aligned, -⟩ :=
      (mem_cutGrid_iff bounded.positive ordered
        (chunks_rounds bounded ordered)).mp member
    exact ⟨lower, inside, (onGrid _).mp aligned, full⟩
  · rintro ⟨lower, inside, aligned, isEnd⟩
    refine (mem_cutGrid_iff bounded.positive ordered
      (chunks_rounds bounded ordered)).mpr
      ⟨lower, inside, (onGrid _).mpr aligned, ?_⟩
    have far := Int.le_of_dvd (by omega)
      (Int.dvd_sub bounded.endAligned aligned)
    change chunk.endMs = min (chunk.startMs + args.chunkMs) _
    rw [isEnd, min_eq_left (by omega)]

end Grid

section Subchunks

/-- The loop over subchunks goes through the cells of a walk. -/
private theorem normalizeSubchunksFrom_eq
    {intervalMs endMs : Int}
    (positive : 0 < intervalMs)
    (representable : endMs ≤ i64Max)
    (rounds : Nat)
    {cursor : Int}
    (startRepresentable : i64Min ≤ cursor) :
    normalizeSubchunksFrom intervalMs endMs rounds cursor =
      (cutGrid intervalMs endMs rounds cursor).map chunkOfCell := by
  induction rounds generalizing cursor with
  | zero =>
      rfl
  | succ rounds inductionHypothesis =>
      have sameEnd :
          min (saturatingAdd cursor intervalMs) endMs =
            min (cursor + intervalMs) endMs := by
        unfold saturatingAdd clampI64
        omega
      rw [normalizeSubchunksFrom, cutGrid]
      simp only [sameEnd]
      split_ifs with before stuck
      · omega
      · rw [inductionHypothesis (by omega), List.map_cons, chunkOfCell]
      · rfl

variable
  {args : SupervisorArgs}
  {chunk : BootstrapChunk}

/-- The subchunks are the cells of a walk through the chunk. -/
private theorem normalizeSubchunks_eq
    (nonempty : chunk.startMs < chunk.endMs)
    (startRepresentable : i64Min ≤ chunk.startMs)
    (endRepresentable : chunk.endMs ≤ i64Max) :
    normalizeSubchunks args chunk =
      (cutGrid args.normalizeScheduleIntervalMs chunk.endMs
        (chunk.endMs - chunk.startMs).toNat chunk.startMs).map
          chunkOfCell := by
  have positive := args.normalizeScheduleIntervalMs.2.1
  rw [← normalizeSubchunksFrom_eq positive endRepresentable _
    startRepresentable, normalizeSubchunks]
  exact if_neg (by omega)

/-- The walk over subchunks has enough rounds. -/
private theorem subchunks_rounds
    (nonempty : chunk.startMs < chunk.endMs) :
    chunk.endMs - chunk.startMs ≤
      ((chunk.endMs - chunk.startMs).toNat : Int) *
        args.normalizeScheduleIntervalMs.1 := by
  have positive := args.normalizeScheduleIntervalMs.2.1
  rw [Int.toNat_of_nonneg (by omega)]
  exact le_mul_of_one_le_right (by omega) (by omega)

/-- The subchunks tile their chunk. -/
theorem tiles_normalizeSubchunks
    (nonempty : chunk.startMs < chunk.endMs)
    (startRepresentable : i64Min ≤ chunk.startMs)
    (endRepresentable : chunk.endMs ≤ i64Max) :
    Tiles chunk.startMs chunk.endMs
      ((normalizeSubchunks args chunk).map BootstrapChunk.cell) := by
  rw [normalizeSubchunks_eq nonempty startRepresentable endRepresentable,
    List.map_map]
  have same : BootstrapChunk.cell ∘ chunkOfCell = id := rfl
  rw [same, List.map_id]
  exact tiles_cutGrid args.normalizeScheduleIntervalMs.2.1 nonempty.le
    (subchunks_rounds nonempty)

/-- The subchunks start in steps of the interval and are cut at the end. -/
theorem mem_normalizeSubchunks_iff
    (nonempty : chunk.startMs < chunk.endMs)
    (startRepresentable : i64Min ≤ chunk.startMs)
    (endRepresentable : chunk.endMs ≤ i64Max)
    {subchunk : BootstrapChunk} :
    subchunk ∈ normalizeSubchunks args chunk ↔
      chunk.startMs ≤ subchunk.startMs ∧
        subchunk.startMs < chunk.endMs ∧
        args.normalizeScheduleIntervalMs.1 ∣
          subchunk.startMs - chunk.startMs ∧
        subchunk.endMs =
          min (subchunk.startMs + args.normalizeScheduleIntervalMs.1)
            chunk.endMs := by
  have inGrid :
      subchunk.cell ∈
          cutGrid args.normalizeScheduleIntervalMs chunk.endMs
            (chunk.endMs - chunk.startMs).toNat chunk.startMs ↔ _ :=
    mem_cutGrid_iff args.normalizeScheduleIntervalMs.2.1 nonempty.le
      (subchunks_rounds nonempty)
  rw [normalizeSubchunks_eq nonempty startRepresentable endRepresentable,
    List.mem_map]
  constructor
  · rintro ⟨cell, member, rfl⟩
    exact inGrid.mp member
  · intro shape
    exact ⟨subchunk.cell, inGrid.mpr shape, rfl⟩

end Subchunks

section Stability

/-- The chunks of a moment tile the history on the grid of their length. -/
structure ChunksTile (args : BootstrapArgs) (nowMs : Int) : Prop where
  tiles :
    Tiles (args.startBound nowMs) (args.endBound nowMs)
      ((args.chunks nowMs).map BootstrapChunk.cell)
  length :
    ∀ chunk ∈ args.chunks nowMs,
      chunk.endMs = chunk.startMs + args.bootstrapChunkHours.1 * hourMs
  aligned :
    ∀ chunk ∈ args.chunks nowMs,
      args.bootstrapChunkHours.1 * hourMs ∣ chunk.startMs
  sameDay :
    ∀ chunk ∈ args.chunks nowMs,
      chunk.startMs / dayMs = (chunk.endMs - 1) / dayMs
  finished : args.endBound nowMs ≤ nowMs - hourMs
  lookback :
    args.bootstrapLookbackDays.1 * dayMs ≤ i64Max →
    ∀ timestampMs,
      args.endBound nowMs - args.bootstrapLookbackDays.1 * dayMs ≤
        timestampMs →
      timestampMs < args.endBound nowMs →
      ∃ chunk ∈ args.chunks nowMs, chunk.Covers timestampMs
  subchunks :
    ∀ chunk ∈ args.chunks nowMs,
      Tiles chunk.startMs chunk.endMs
        ((normalizeSubchunks args.toSupervisorArgs chunk).map
          BootstrapChunk.cell)

variable {args : BootstrapArgs}

/-- A cell of the grid lies in one day if its length divides a day. -/
private theorem sameDay_of_aligned
    {chunkMs start : Int}
    (positive : 0 < chunkMs)
    (divides : chunkMs ∣ dayMs)
    (aligned : chunkMs ∣ start) :
    start / dayMs = (start + chunkMs - 1) / dayMs := by
  obtain ⟨perDay, isDay⟩ := divides
  obtain ⟨position, rfl⟩ := aligned
  have perDayPositive : 0 < perDay := by
    by_contra notPositive
    have day : (0 : Int) < dayMs := by decide
    have := Int.mul_nonpos_of_nonneg_of_nonpos positive.le
      (not_lt.mp notPositive)
    omega
  have day (offset : Int) (lower : 0 ≤ offset) (upper : offset < chunkMs) :
      (chunkMs * position + offset) / dayMs = position / perDay := by
    rw [isDay, ← Int.ediv_ediv_of_nonneg positive.le,
      Int.add_comm, Int.add_mul_ediv_left _ _ positive.ne',
      Int.ediv_eq_zero_of_lt lower upper, Int.zero_add]
  have first := day 0 le_rfl positive
  have last := day (chunkMs - 1) (by omega) (by omega)
  rw [Int.add_zero] at first
  rw [first, Int.add_sub_assoc, last]

/-- The chunks of accepted arguments tile the history. -/
theorem chunksTile_of_accepted
    (accepted : validateCompletedArgs args = .ok ())
    {nowMs : Int}
    (nowRepresentable : nowMs ≤ i64Max)
    (representable : i64Min ≤ args.startBound nowMs) :
    ChunksTile args nowMs := by
  obtain ⟨isChunk, positive, divides⟩ := chunkMs_eq accepted
  have bounded :=
    bounded_of_accepted accepted nowRepresentable representable
  have tiles := tiles_chunks bounded nowRepresentable representable
  have isMember {chunk : BootstrapChunk} :
      chunk ∈ args.chunks nowMs ↔ _ :=
    mem_chunks_iff bounded nowRepresentable representable
  have isHour : hourMs = 3600000 := rfl
  refine
    { tiles := tiles
      length := ?_
      aligned := ?_
      sameDay := ?_
      finished := bounded.early
      lookback := ?_
      subchunks := ?_ }
  · intro chunk member
    rw [isHour, ← isChunk]
    exact (isMember.mp member).2.2.2
  · intro chunk member
    rw [isHour, ← isChunk]
    exact (isMember.mp member).2.2.1
  · intro chunk member
    obtain ⟨-, -, aligned, isEnd⟩ := isMember.mp member
    rw [isEnd]
    exact sameDay_of_aligned positive divides aligned
  · intro fits timestampMs lower upper
    rw [← lookbackMs_of_fits fits] at lower
    have started := bounded.lookback.1
    obtain ⟨cell, member, within⟩ :=
      tiles.exists_within (started.trans lower) upper
    obtain ⟨chunk, isChunk, rfl⟩ := List.mem_map.mp member
    exact ⟨chunk, isChunk, within⟩
  · intro chunk member
    have bounds := tiles.bounds (List.mem_map_of_mem member)
    have early := bounded.early
    change _ ≤ chunk.startMs ∧ chunk.startMs < chunk.endMs ∧
      chunk.endMs ≤ _ at bounds
    exact tiles_normalizeSubchunks bounds.2.1 (by omega) (by omega)

/-- The bounds of the chunks do not move back. -/
theorem bounds_mono
    (accepted : validateCompletedArgs args = .ok ())
    {nowMs laterMs : Int}
    (ordered : nowMs ≤ laterMs) :
    args.endBound nowMs ≤ args.endBound laterMs ∧
      args.startBound nowMs ≤ args.startBound laterMs := by
  obtain ⟨-, positive, -⟩ := chunkMs_eq accepted
  have ends : args.endBound nowMs ≤ args.endBound laterMs :=
    alignDownToChunk_mono positive (clampI64_mono (by omega))
  exact ⟨ends, alignDownToChunk_mono positive (clampI64_mono (by omega))⟩

/-- Cells of one length on one grid that share a point are the same. -/
private theorem eq_of_common_point
    {chunkMs : Int}
    {first second : BootstrapChunk}
    (firstAligned : chunkMs ∣ first.startMs)
    (secondAligned : chunkMs ∣ second.startMs)
    (firstLength : first.endMs = first.startMs + chunkMs)
    (secondLength : second.endMs = second.startMs + chunkMs)
    {timestampMs : Int}
    (inFirst : first.Covers timestampMs)
    (inSecond : second.Covers timestampMs) :
    first = second := by
  obtain ⟨firstLower, firstUpper⟩ := inFirst
  obtain ⟨secondLower, secondUpper⟩ := inSecond
  change first.startMs ≤ _ at firstLower
  change _ < first.endMs at firstUpper
  change second.startMs ≤ _ at secondLower
  change _ < second.endMs at secondUpper
  have apart := Int.dvd_sub firstAligned secondAligned
  have sameStart : first.startMs = second.startMs := by
    obtain ⟨steps, isSteps⟩ := apart
    have positive : 0 < chunkMs := by omega
    have none' : steps = 0 := by
      have below : chunkMs * steps < chunkMs * 1 := by omega
      have above : chunkMs * (-1) < chunkMs * steps := by omega
      have upper := Int.lt_of_mul_lt_mul_left below positive.le
      have lower := Int.lt_of_mul_lt_mul_left above positive.le
      omega
    rw [none', Int.mul_zero] at isSteps
    omega
  cases first
  cases second
  simp only at *
  subst sameStart firstLength secondLength
  rfl

/--
The chunks of every moment tile the history on one grid, and a later moment has
no other chunks of the time that both cover.
-/
theorem bootstrapChunks_stable
    (args : BootstrapArgs)
    (accepted : validateCompletedArgs args = .ok ())
    (nowMs : Int)
    (nowRepresentable : nowMs ≤ i64Max)
    (representable : i64Min ≤ args.startBound nowMs) :
    ChunksTile args nowMs ∧
      ∀ laterMs ≤ i64Max,
        nowMs ≤ laterMs →
        (∀ chunk ∈ args.chunks laterMs,
          chunk.endMs ≤ args.endBound nowMs → chunk ∈ args.chunks nowMs) ∧
        ∀ chunk ∈ args.chunks nowMs,
          ∀ other ∈ args.chunks laterMs,
            ∀ timestampMs,
              chunk.Covers timestampMs →
              other.Covers timestampMs →
              chunk = other := by
  refine ⟨chunksTile_of_accepted accepted nowRepresentable representable,
    ?_⟩
  intro laterMs laterRepresentable ordered
  obtain ⟨-, startsOrdered⟩ := bounds_mono accepted ordered
  have now := bounded_of_accepted accepted nowRepresentable representable
  have later := bounded_of_accepted accepted laterRepresentable
    (representable.trans startsOrdered)
  constructor
  · intro chunk member ended
    obtain ⟨lower, -, aligned, isEnd⟩ :=
      (mem_chunks_iff later laterRepresentable
        (representable.trans startsOrdered)).mp member
    have positive := now.positive
    exact (mem_chunks_iff now nowRepresentable representable).mpr
      ⟨startsOrdered.trans lower, by omega, aligned, isEnd⟩
  · intro chunk member other otherMember timestampMs covers otherCovers
    obtain ⟨-, -, aligned, isEnd⟩ :=
      (mem_chunks_iff now nowRepresentable representable).mp member
    obtain ⟨-, -, otherAligned, otherEnd⟩ :=
      (mem_chunks_iff later laterRepresentable
        (representable.trans startsOrdered)).mp otherMember
    exact eq_of_common_point aligned otherAligned isEnd otherEnd covers
      otherCovers

/-- The default arguments of a deployment. -/
def defaultBootstrapArgs : BootstrapArgs :=
  .withBuckets "market-l0" "market-l1"

/-- The chunks of the default arguments are stable: one day later the oldest of
them has left the history, the others are the same, and one is new. -/
theorem defaultChunks_stable :
    let nowMs := 1779471443000
    let laterMs := 1779557843000
    (validateCompletedArgs defaultBootstrapArgs = .ok () ∧
        ChunksTile defaultBootstrapArgs nowMs) ∧
      ((∀ chunk ∈ defaultBootstrapArgs.chunks laterMs,
          chunk.endMs ≤ defaultBootstrapArgs.endBound nowMs →
            chunk ∈ defaultBootstrapArgs.chunks nowMs) ∧
        ∀ chunk ∈ defaultBootstrapArgs.chunks nowMs,
          ∀ other ∈ defaultBootstrapArgs.chunks laterMs,
            ∀ timestampMs,
              chunk.Covers timestampMs →
              other.Covers timestampMs →
              chunk = other) ∧
      defaultBootstrapArgs.chunks laterMs =
        (defaultBootstrapArgs.chunks nowMs).tail ++
          [⟨1779408000000, 1779494400000⟩] := by
  intro nowMs laterMs
  have accepted : validateCompletedArgs defaultBootstrapArgs = .ok () := by
    decide
  obtain ⟨tile, stable⟩ :=
    bootstrapChunks_stable defaultBootstrapArgs accepted nowMs (by decide)
      (by decide)
  exact ⟨⟨accepted, tile⟩, stable laterMs (by decide) (by decide),
    by decide +kernel⟩

/-- Arguments with the longest lookback that is accepted. -/
def longestLookbackArgs : BootstrapArgs :=
  { defaultBootstrapArgs with
    bootstrapLookbackDays := ⟨i64Max, by decide⟩ }

/-- The product of the longest lookback saturates, so less is covered. -/
theorem longestLookback_not_covered :
    validateCompletedArgs longestLookbackArgs = .ok () ∧
      i64Min ≤ longestLookbackArgs.startBound 90000000 ∧
      ¬ ∀ timestampMs,
        longestLookbackArgs.endBound 90000000 -
            longestLookbackArgs.bootstrapLookbackDays.1 * dayMs ≤
          timestampMs →
        timestampMs < longestLookbackArgs.endBound 90000000 →
        ∃ chunk ∈ longestLookbackArgs.chunks 90000000,
          chunk.Covers timestampMs := by
  have accepted : validateCompletedArgs longestLookbackArgs = .ok () := by
    decide
  have representable :
      i64Min ≤ longestLookbackArgs.startBound 90000000 := by
    decide
  refine ⟨accepted, representable, ?_⟩
  intro covered
  have bounded : Bounded longestLookbackArgs 90000000 :=
    bounded_of_accepted accepted (by decide) representable
  obtain ⟨chunk, member, within⟩ :=
    covered (i64Min - 1) (by decide) (by decide)
  have started :=
    ((mem_chunks_iff bounded (by decide) representable).mp member).1
  have lower : chunk.startMs ≤ i64Min - 1 := within.1
  omega

end Stability

end MarketIngest.Supervisor
