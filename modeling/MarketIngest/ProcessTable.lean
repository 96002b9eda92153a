import Mathlib.Data.List.Basic

namespace MarketIngest.ProcessTable

/-!
# A table of processes

Processes are numbered in the order in which they are started.  The role of a
process does not change, and a process that stopped does not run again.
-/

variable {Role : Type}

/-- The role of each process, and whether it runs. -/
abbrev Table (Role : Type) := List (Role × Bool)

namespace Table

/-- Start a process; its number is the length of the table before. -/
def spawn (table : Table Role) (role : Role) : Table Role :=
  table ++ [(role, true)]

/-- Stop a process. -/
def stop (table : Table Role) (id : Nat) : Table Role :=
  table.modify id fun process => (process.1, false)

/-- Stop some processes. -/
def stopAll (table : Table Role) (ids : List Nat) : Table Role :=
  ids.foldl stop table

/-- The process runs. -/
def isRunning (table : Table Role) (id : Nat) : Bool :=
  (table[id]?.map Prod.snd).getD false

/-- The process has the role and runs. -/
def Runs (table : Table Role) (id : Nat) (role : Role) : Prop :=
  table[id]? = some (role, true)

/-- The process has the role, whether it runs or not. -/
def HasRole (table : Table Role) (id : Nat) (role : Role) : Prop :=
  table[id]?.map Prod.fst = some role

variable
  {table : Table Role}
  {id other : Nat}
  {role otherRole : Role}

theorem Runs.hasRole
    (runs : table.Runs id role) :
    table.HasRole id role := by
  rw [HasRole, runs]
  rfl

theorem Runs.isRunning
    (runs : table.Runs id role) :
    table.isRunning id = true := by
  rw [Table.isRunning, runs]
  rfl

/-- A process has one role. -/
theorem HasRole.unique
    (first : table.HasRole id role)
    (second : table.HasRole id otherRole) :
    role = otherRole := by
  rw [HasRole] at first second
  exact Option.some.inj (first.symm.trans second)

theorem HasRole.lt_length
    (hasRole : table.HasRole id role) :
    id < table.length := by
  by_contra outside
  rw [HasRole, List.getElem?_eq_none (Nat.not_lt.mp outside)] at hasRole
  cases hasRole

/-- A started process keeps the table, and adds itself to its end. -/
theorem getElem?_spawn :
    (table.spawn role)[id]? =
      if id = table.length then some (role, true) else table[id]? := by
  rw [spawn, List.getElem?_append]
  split_ifs with inside isLast isLast
  · omega
  · rfl
  · simp [isLast]
  · rw [List.getElem?_eq_none (by simp; omega),
      List.getElem?_eq_none (by omega)]

theorem runs_spawn :
    (table.spawn role).Runs id otherRole ↔
      (id = table.length ∧ role = otherRole) ∨ table.Runs id otherRole := by
  rw [Runs, Runs, getElem?_spawn]
  split_ifs with isLast
  · subst isLast
    simp
  · simp [isLast]

theorem hasRole_spawn :
    (table.spawn role).HasRole id otherRole ↔
      (id = table.length ∧ role = otherRole) ∨
        table.HasRole id otherRole := by
  rw [HasRole, HasRole, getElem?_spawn]
  split_ifs with isLast
  · subst isLast
    simp
  · simp [isLast]

@[simp] theorem length_spawn :
    (table.spawn role).length = table.length + 1 := by
  simp [spawn]

theorem getElem?_stop :
    (table.stop other)[id]? =
      if id = other then table[id]?.map (fun process => (process.1, false))
      else table[id]? := by
  rw [stop, List.getElem?_modify]
  split_ifs with same reversed reversed
  · rfl
  · exact absurd same.symm reversed
  · exact absurd reversed.symm same
  · cases table[id]? <;> rfl

theorem runs_stop :
    (table.stop other).Runs id role ↔ id ≠ other ∧ table.Runs id role := by
  rw [Runs, Runs, getElem?_stop]
  split_ifs with same
  · cases table[id]? <;> simp [same]
  · simp [same]

@[simp] theorem hasRole_stop :
    (table.stop other).HasRole id role ↔ table.HasRole id role := by
  rw [HasRole, HasRole, getElem?_stop]
  split_ifs
  · rw [Option.map_map]
    rfl
  · rfl

@[simp] theorem length_stop :
    (table.stop other).length = table.length := by
  simp [stop]

theorem runs_stopAll
    {ids : List Nat} :
    (table.stopAll ids).Runs id role ↔
      id ∉ ids ∧ table.Runs id role := by
  induction ids generalizing table with
  | nil =>
      simp [stopAll]
  | cons first rest inductionHypothesis =>
      change ((table.stop first).stopAll rest).Runs id role ↔ _
      rw [inductionHypothesis, runs_stop, List.mem_cons, not_or]
      tauto

@[simp] theorem hasRole_stopAll
    {ids : List Nat} :
    (table.stopAll ids).HasRole id role ↔ table.HasRole id role := by
  induction ids generalizing table with
  | nil =>
      rfl
  | cons first rest inductionHypothesis =>
      change ((table.stop first).stopAll rest).HasRole id role ↔ _
      rw [inductionHypothesis, hasRole_stop]

@[simp] theorem length_stopAll
    {ids : List Nat} :
    (table.stopAll ids).length = table.length := by
  induction ids generalizing table with
  | nil =>
      rfl
  | cons first rest inductionHypothesis =>
      change ((table.stop first).stopAll rest).length = _
      rw [inductionHypothesis, length_stop]

end Table

end MarketIngest.ProcessTable
