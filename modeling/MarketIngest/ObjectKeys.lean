import MarketIngest.Calendar

namespace MarketIngest.Normalize

/-!
# Object keys of the L1 bucket

Index pointers are stored under one prefix per UTC hour.  The lemmas say that a
pointer key determines its window, and that the listing prefix of an hour
matches exactly the pointers of windows that start in that hour.
-/

/-- Calendar date and hour of day of a timestamp. -/
@[ext] structure TimePart where
  eventDate : String
  hour : Nat
  deriving Repr, DecidableEq

/-- One hour in milliseconds. -/
def hourMs : Int :=
  3600000

/-- One day in milliseconds. -/
def dayMs : Int :=
  86400000

/-- The timestamp has a calendar date in the supported years. -/
def representableTimestamp (timestampMs : Int) : Bool :=
  let year := (Calendar.civilFromDays (timestampMs / dayMs)).year
  decide (-262143 ≤ year ∧ year ≤ 262142)

/-- Date and hour of a timestamp; unsupported timestamps count as 1970. -/
def timePart (timestampMs : Int) : TimePart :=
  let timestamp :=
    if representableTimestamp timestampMs then timestampMs else 0
  { eventDate :=
      Calendar.renderDate (Calendar.civilFromDays (timestamp / dayMs))
    hour := (timestamp % dayMs / hourMs).toNat }

/-- The start of the UTC hour of a timestamp. -/
def floorHourMs (value : Int) : Int :=
  value / hourMs * hourMs

/-- Key of the index pointer of one window. -/
def indexPointerKey (windowMs windowStartMs : Int) : String :=
  let part := timePart windowStartMs
  "l1_index/window_ms=" ++ (toString windowMs ++
    ("/event_date=" ++ (part.eventDate ++
      ("/hour=" ++ (Text.zeroPadded 2 part.hour ++
        ("/window_start_ms=" ++ (toString windowStartMs ++ ".json")))))))

/-- Listing prefix of the index pointers of one hour. -/
def l1PointerHourPrefix (windowMs hourStartMs : Int) : String :=
  let part := timePart hourStartMs
  "l1_index/window_ms=" ++ (toString windowMs ++
    ("/event_date=" ++ (part.eventDate ++
      ("/hour=" ++ (Text.zeroPadded 2 part.hour ++ "/")))))

/-- Identifier of the run of one input range. -/
def l1RunId (startMs endMs startedAtMs : Int) : String :=
  "l1_" ++ (toString startMs ++ ("_" ++ (toString endMs ++
    ("_" ++ toString startedAtMs))))

/-- Key of the report of a run. -/
def reportObjectKey (runId : String) : String :=
  "normalization_report/run_id=" ++ (runId ++ "/report.json")

/-- Key of the manifest of a run. -/
def manifestObjectKey (runId : String) : String :=
  "runs/run_id=" ++ (runId ++ "/manifest.json")

section Keys

/-- A rendered date of a time part has no separator. -/
private theorem slash_not_mem_eventDate
    (timestampMs : Int) :
    '/' ∉ (timePart timestampMs).eventDate.toList :=
  Calendar.slash_not_mem_renderDate _

private theorem slash_not_mem_int
    (number : Int) :
    '/' ∉ (toString number).toList :=
  Text.not_mem_toString_int (by decide) (by decide) number

private theorem slash_not_mem_hour
    (number : Nat) :
    '/' ∉ (Text.zeroPadded 2 number).toList :=
  Text.not_mem_zeroPadded (by decide) 2 number

/-- The field names of a key, cut at their separators. -/
private theorem toList_fieldNames :
    "/event_date=".toList = '/' :: "event_date=".toList ∧
      "/hour=".toList = '/' :: "hour=".toList ∧
      "/".toList = '/' :: [] ∧
      "/window_start_ms=".toList = '/' :: "window_start_ms=".toList :=
  ⟨rfl, rfl, rfl, rfl⟩

/-- An hour prefix, cut at its separators. -/
private theorem toList_l1PointerHourPrefix
    (windowMs hourStartMs : Int) :
    (l1PointerHourPrefix windowMs hourStartMs).toList =
      "l1_index/window_ms=".toList ++
        ((toString windowMs).toList ++ '/' ::
          ("event_date=".toList ++
            ((timePart hourStartMs).eventDate.toList ++ '/' ::
              ("hour=".toList ++
                ((Text.zeroPadded 2 (timePart hourStartMs).hour).toList ++
                  '/' :: []))))) := by
  obtain ⟨dateField, hourField, slash, _⟩ := toList_fieldNames
  unfold l1PointerHourPrefix
  simp only [String.toList_append]
  rw [dateField, hourField, slash, List.cons_append, List.cons_append]

/-- A pointer key is its hour prefix followed by its file name. -/
theorem indexPointerKey_eq
    (windowMs windowStartMs : Int) :
    indexPointerKey windowMs windowStartMs =
      l1PointerHourPrefix windowMs windowStartMs ++
        ("window_start_ms=" ++ (toString windowStartMs ++ ".json")) := by
  apply String.toList_inj.mp
  obtain ⟨dateField, hourField, _, startField⟩ := toList_fieldNames
  rw [String.toList_append, toList_l1PointerHourPrefix]
  unfold indexPointerKey
  simp only [String.toList_append, List.append_assoc, List.cons_append,
    List.nil_append]
  rw [dateField, hourField, startField, List.cons_append,
    List.cons_append, List.cons_append]

/-- A pointer key matches the prefix of its own window size and hour only. -/
theorem indexPointerKey_startsWith_iff
    {windowMs windowStartMs prefixWindowMs hourStartMs : Int} :
    Text.startsWith (indexPointerKey windowMs windowStartMs)
        (l1PointerHourPrefix prefixWindowMs hourStartMs) =
      true ↔
      prefixWindowMs = windowMs ∧
        timePart hourStartMs = timePart windowStartMs := by
  rw [Text.startsWith_iff, indexPointerKey_eq, String.toList_append,
    toList_l1PointerHourPrefix, toList_l1PointerHourPrefix]
  simp only [List.append_assoc, List.cons_append,
    List.prefix_append_right_inj]
  rw [Text.segment_prefix_iff (slash_not_mem_int _) (slash_not_mem_int _),
    List.prefix_append_right_inj,
    Text.segment_prefix_iff (slash_not_mem_eventDate _)
      (slash_not_mem_eventDate _),
    List.prefix_append_right_inj,
    Text.segment_prefix_iff (slash_not_mem_hour _) (slash_not_mem_hour _),
    String.toList_inj, String.toList_inj, String.toList_inj]
  constructor
  · rintro ⟨sameWindow, sameDate, sameHour, _⟩
    exact ⟨Text.toString_int_injective sameWindow,
      TimePart.ext sameDate (Text.zeroPadded_injective 2 sameHour)⟩
  · rintro ⟨sameWindow, samePart⟩
    simp [sameWindow, samePart]

/-- A pointer key determines window size and window start. -/
theorem indexPointerKey_inj
    {windowMs windowStartMs otherWindowMs otherStartMs : Int} :
    indexPointerKey windowMs windowStartMs =
        indexPointerKey otherWindowMs otherStartMs ↔
      windowMs = otherWindowMs ∧ windowStartMs = otherStartMs := by
  constructor
  · intro same
    have ownPrefix :
        Text.startsWith (indexPointerKey otherWindowMs otherStartMs)
          (l1PointerHourPrefix windowMs windowStartMs) = true :=
      same ▸ indexPointerKey_startsWith_iff.mpr ⟨rfl, rfl⟩
    obtain ⟨sameWindow, samePart⟩ :=
      indexPointerKey_startsWith_iff.mp ownPrefix
    refine ⟨sameWindow, ?_⟩
    subst sameWindow
    rw [indexPointerKey_eq, indexPointerKey_eq,
      show l1PointerHourPrefix windowMs otherStartMs =
        l1PointerHourPrefix windowMs windowStartMs by
          unfold l1PointerHourPrefix
          rw [samePart]] at same
    have chars := congrArg String.toList same
    simp only [String.toList_append] at chars
    have fileName := List.append_cancel_left (List.append_cancel_left chars)
    exact Text.toString_int_injective
      (String.toList_inj.mp (List.append_cancel_right fileName))
  · rintro ⟨rfl, rfl⟩
    rfl

/-- Pointer keys end like every listed pointer object. -/
theorem indexPointerKey_endsWith
    (windowMs windowStartMs : Int) :
    Text.endsWith (indexPointerKey windowMs windowStartMs) ".json" =
      true := by
  have split :
      indexPointerKey windowMs windowStartMs =
        (l1PointerHourPrefix windowMs windowStartMs ++
          ("window_start_ms=" ++ toString windowStartMs)) ++ ".json" := by
    rw [indexPointerKey_eq]
    apply String.toList_inj.mp
    simp only [String.toList_append, List.append_assoc]
  rw [split]
  exact Text.endsWith_append _ _

/--
Within an hour, keys are ordered as their windows when the windows have equally
many digits.
-/
theorem indexPointerKey_lt_of_lt
    {first second : Nat}
    (windowMs : Int)
    (samePart : timePart first = timePart second)
    (sameLength :
      (Nat.toDigits 10 first).length = (Nat.toDigits 10 second).length)
    (below : first < second) :
    indexPointerKey windowMs first < indexPointerKey windowMs second := by
  have numeral (number : Nat) :
      (toString (number : Int)).toList = Nat.toDigits 10 number := by
    change (Nat.repr number).toList = _
    rw [Nat.repr_eq_ofList_toDigits, String.toList_ofList]
  have samePrefix :
      l1PointerHourPrefix windowMs first =
        l1PointerHourPrefix windowMs second := by
    unfold l1PointerHourPrefix
    rw [samePart]
  rw [String.lt_iff_toList_lt, indexPointerKey_eq, indexPointerKey_eq,
    samePrefix]
  simp only [String.toList_append, numeral]
  exact List.append_left_lt (List.append_left_lt
    (Text.append_lt_append_of_length sameLength
      (Text.toDigits_lt_of_lt sameLength below) _ _))

end Keys

section Hours

/-- Representable timestamps of the same date and hour share their hour. -/
theorem floorHourMs_eq_of_timePart_eq
    {first second : Int}
    (firstRepresentable : representableTimestamp first = true)
    (secondRepresentable : representableTimestamp second = true)
    (same : timePart first = timePart second) :
    floorHourMs first = floorHourMs second := by
  simp only [timePart, firstRepresentable, secondRepresentable,
    ↓reduceIte, TimePart.mk.injEq] at same
  have sameDay :=
    Calendar.renderDate_civilFromDays_injective same.1
  simp only [dayMs, hourMs, floorHourMs] at *
  omega

/-- The timestamps with a calendar date have no gaps. -/
theorem representableTimestamp_of_between
    {first timestampMs last : Int}
    (firstRepresentable : representableTimestamp first = true)
    (lastRepresentable : representableTimestamp last = true)
    (lower : first / dayMs ≤ timestampMs / dayMs)
    (upper : timestampMs ≤ last) :
    representableTimestamp timestampMs = true := by
  have upperDay : timestampMs / dayMs ≤ last / dayMs :=
    Int.ediv_le_ediv (by decide) upper
  have lowerYear := Calendar.civilFromDays_year_mono lower
  have upperYear := Calendar.civilFromDays_year_mono upperDay
  simp only [representableTimestamp, decide_eq_true_eq] at *
  omega

/-- Date and hour depend on the hour only. -/
theorem timePart_floorHourMs
    (timestampMs : Int) :
    timePart (floorHourMs timestampMs) = timePart timestampMs := by
  have sameDay :
      floorHourMs timestampMs / dayMs = timestampMs / dayMs := by
    simp only [floorHourMs, hourMs, dayMs]
    omega
  have sameHour :
      floorHourMs timestampMs % dayMs / hourMs =
        timestampMs % dayMs / hourMs := by
    simp only [floorHourMs, hourMs, dayMs]
    omega
  have sameRange :
      representableTimestamp (floorHourMs timestampMs) =
        representableTimestamp timestampMs := by
    simp [representableTimestamp, sameDay]
  unfold timePart
  rw [sameRange]
  split_ifs
  · simp [sameDay, sameHour]
  · rfl

end Hours

end MarketIngest.Normalize
