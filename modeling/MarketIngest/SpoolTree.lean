import MarketIngest.Canonical
import MarketIngest.ImmutableObjects
import MarketIngest.Saturating

namespace MarketIngest.Storage

/-!
# The files of the spool

A sink writes a parquet file below the spool root, uploads it, and puts an empty
marker beside it when the upload has succeeded.  Eviction and the cleanup of
orphans see these files only.  A file here has the flush that it was written for
as its contents; a marker has none.
-/

variable {Payload : Type}

/-- A directory below which sinks write, in its parent directory. -/
structure SpoolRoot where
  parent : String
  name : String
  nonempty : name ≠ ""
  plain : '/' ∉ name.toList

/-- The path of the spool root. -/
def SpoolRoot.path (root : SpoolRoot) : String :=
  root.parent ++ ("/" ++ root.name)

/-- What a sink flushes, with the file that it is written to. -/
structure SpooledObject (Payload : Type) where
  localPath : String
  flush : L0Flush Payload

/-- A file of the spool. -/
structure SpoolFile (Payload : Type) where
  mtimeMs : Int
  length : Nat
  footerValid : Bool
  contents : Option (SpooledObject Payload)

/-- The files by path. -/
abbrev SpoolTree (Payload : Type) := OrderedMap String (SpoolFile Payload)

/-- The marker beside a parquet file. -/
def sealedMarkerPath (parquetPath : String) : String :=
  parquetPath ++ ".sealed"

/-- The path has the extension of parquet files. -/
def hasParquetExtension (path : String) : Bool :=
  Text.endsWith path ".parquet" && !Text.endsWith path "/.parquet"

/-- The path below a directory. -/
def stripPrefix (path directory : String) : Option String :=
  if Text.startsWith path (directory ++ "/") then
    some (String.ofList (path.toList.drop (directory ++ "/").length))
  else
    none

/-- The parquet files below a root, in the order of the directories. -/
def parquetFilesUnder
    (root : SpoolRoot)
    (listed : List String)
    (tree : SpoolTree Payload) : List String :=
  listed.filter fun path =>
    (stripPrefix path root.path).isSome && hasParquetExtension path &&
      (tree.get? path).isSome

/-- What the file system makes of the flush of an object. -/
structure FlushFile where
  /-- A file is left behind even if it could not be written. -/
  created : Bool
  mtimeMs : Int
  length : Nat
  footerValid : Bool
  /-- When the marker is written, if it can be. -/
  sealedMs : Option Int
  deriving Repr, DecidableEq

/-- What a sink does to the files for one flush. -/
inductive SinkStep (Payload : Type) where
  | write (object : SpooledObject Payload) (file : FlushFile)
  | finish (object : SpooledObject Payload) (file : FlushFile)

/-- The upload of the object has succeeded. -/
def SpooledObject.isUploaded (object : SpooledObject Payload) : Bool :=
  object.flush.outcome = .uploaded

/-- The effect of a step on the files. -/
def SinkStep.perform
    (tree : SpoolTree Payload) :
    SinkStep Payload → SpoolTree Payload
  | .write object file =>
      tree.insert object.localPath
        { mtimeMs := file.mtimeMs
          length := file.length
          footerValid := file.footerValid
          contents := some object }
  | .finish object file =>
      if object.isUploaded then
        match file.sealedMs with
        | some sealedMs =>
            tree.insert (sealedMarkerPath object.localPath)
              { mtimeMs := sealedMs
                length := 0
                footerValid := false
                contents := none }
        | none => tree
      else
        tree

/-- The steps of a flush. -/
def flushSteps
    (config : L0StorageConfig)
    (flush : L0Flush Payload)
    (file : FlushFile) : List (SinkStep Payload) :=
  let object : SpooledObject Payload := ⟨localPath config flush.key, flush⟩
  match flush.outcome with
  | .directoryFailed => []
  | .parquetFailed => if file.created then [.write object file] else []
  | .uploadFailed _ => [.write object file, .finish object file]
  | .uploaded => [.write object file, .finish object file]

/-- A run of a sink, with what the file system makes of its flushes. -/
structure SinkRun (Payload : Type) where
  config : AcceptedConfig
  hash : String → Nat
  livePublisher : Bool
  calls : List (SinkCall Payload)
  files : Nat → FlushFile

/-- The flushes of a run. -/
def SinkRun.flushes (run : SinkRun Payload) : List (L0Flush Payload) :=
  (flushHistory run.config run.hash run.livePublisher run.calls).flushes

/-- The steps of a run. -/
def SinkRun.steps (run : SinkRun Payload) : List (SinkStep Payload) :=
  run.flushes.zipIdx.flatMap fun flush =>
    flushSteps run.config.1 flush.1 (run.files flush.2)

/-- The directory that orphans are moved to. -/
def quarantineRoot (root : SpoolRoot) : String :=
  root.parent ++ "/orphaned-unsealed"

section Paths

variable
  {root : SpoolRoot}
  {path : String}

/-- A path below a directory is the directory and what is below it. -/
theorem stripPrefix_eq_some_iff
    {directory relative : String} :
    stripPrefix path directory = some relative ↔
      path = directory ++ ("/" ++ relative) := by
  rw [stripPrefix]
  constructor
  · intro found
    split_ifs at found with leads
    obtain ⟨rest, whole⟩ := Text.startsWith_iff.mp leads
    obtain rfl := Option.some.inj found
    apply String.toList_inj.mp
    rw [← whole, ← String.length_toList, List.drop_left]
    simp
  · rintro rfl
    have leads :
        Text.startsWith (directory ++ ("/" ++ relative))
          (directory ++ "/") = true := by
      refine Text.startsWith_iff.mpr ⟨relative.toList, ?_⟩
      rw [← String.append_assoc, ← String.toList_append]
    rw [if_pos leads, ← String.append_assoc, String.toList_append,
      ← String.length_toList, List.drop_left, String.ofList_toList]

end Paths

end MarketIngest.Storage
