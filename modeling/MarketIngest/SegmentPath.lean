import MarketIngest.Text

namespace MarketIngest.Text

/-!
# Paths of segments

A path closes every segment with a separator.  Segments that contain no
separator are determined by the path, and one path starts with another one
exactly if its segments start with those of the other one.
-/

/-- Segments, each of them closed by a separator. -/
def path : List String → String
  | [] => ""
  | segment :: rest => segment ++ ("/" ++ path rest)

/-- No segment contains the separator. -/
def SlashFree (segments : List String) : Prop :=
  ∀ segment ∈ segments, '/' ∉ segment.toList

/-- The first segment of a path and what follows it. -/
theorem toList_path_cons
    (segment : String)
    (rest : List String)
    (file : String) :
    (path (segment :: rest) ++ file).toList =
      segment.toList ++ '/' :: (path rest ++ file).toList := by
  rw [path]
  simp only [String.toList_append, List.append_assoc]
  rfl

/-- A path is followed by what a longer path has after it. -/
theorem path_append
    (first second : List String) :
    path (first ++ second) = path first ++ path second := by
  induction first with
  | nil =>
      rw [List.nil_append, path, String.empty_append]
  | cons segment rest inductionHypothesis =>
      rw [List.cons_append, path, path, inductionHypothesis,
        String.append_assoc, String.append_assoc]

/-- A text below a path starts with the path. -/
theorem startsWith_path_append
    (segments : List String)
    (file : String) :
    startsWith (path segments ++ file) (path segments) = true := by
  rw [startsWith_iff, String.toList_append]
  exact List.prefix_append _ _

section

variable
  {first second : List String}
  {file : String}

/--
A path is a beginning exactly if its segments are, unless it could reach into
the file.
-/
theorem startsWith_path_iff
    (firstFree : SlashFree first)
    (secondFree : SlashFree second)
    (bounded : second.length ≤ first.length ∨ '/' ∉ file.toList) :
    startsWith (path first ++ file) (path second) = true ↔
      second <+: first := by
  induction second generalizing first with
  | nil =>
      rw [startsWith_iff]
      exact ⟨fun _ => List.nil_prefix, fun _ => List.nil_prefix⟩
  | cons leading others inductionHypothesis =>
      have leadingPath := toList_path_cons leading others ""
      rw [String.append_empty] at leadingPath
      cases first with
      | nil =>
          have fileFree := bounded.resolve_left (by simp)
          rw [startsWith_iff, path, String.empty_append, leadingPath]
          constructor
          · intro starts
            exact (fileFree (starts.subset (by simp))).elim
          · intro isPrefix
            exact absurd isPrefix (by simp)
      | cons segment rest =>
          obtain ⟨segmentFree, restFree⟩ := List.forall_mem_cons.mp firstFree
          obtain ⟨leadingFree, othersFree⟩ :=
            List.forall_mem_cons.mp secondFree
          have tail :=
            inductionHypothesis restFree othersFree
              (bounded.imp_left Nat.le_of_succ_le_succ)
          rw [startsWith_iff, toList_path_cons, leadingPath,
            segment_prefix_iff leadingFree segmentFree, String.toList_inj,
            String.append_empty, ← startsWith_iff, tail,
            List.cons_prefix_cons]

/-- The segments of a path are determined. -/
theorem path_inj
    (firstFree : SlashFree first)
    (secondFree : SlashFree second)
    (same : path first = path second) :
    first = second := by
  induction first generalizing second with
  | nil =>
      cases second with
      | nil => rfl
      | cons segment rest =>
          have characters := congrArg String.toList same
          rw [path, path] at characters
          simp at characters
  | cons segment rest inductionHypothesis =>
      cases second with
      | nil =>
          have characters := congrArg String.toList same
          rw [path, path] at characters
          simp at characters
      | cons other others =>
          have characters :
              (path (segment :: rest) ++ "").toList =
                (path (other :: others) ++ "").toList := by
            rw [same]
          rw [toList_path_cons, toList_path_cons] at characters
          obtain ⟨sameSegment, sameRest⟩ :=
            segment_inj (firstFree segment List.mem_cons_self)
              (secondFree other List.mem_cons_self) characters
          rw [String.append_empty, String.append_empty,
            String.toList_inj] at sameRest
          rw [String.toList_inj.mp sameSegment,
            inductionHypothesis
              (fun inner member => firstFree inner
                (List.mem_cons_of_mem _ member))
              (fun inner member => secondFree inner
                (List.mem_cons_of_mem _ member)) sameRest]

end

end MarketIngest.Text
