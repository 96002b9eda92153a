import MarketIngest.Canonical

namespace MarketIngest

/-!
# Merging two sources by an identifier

Two sources list items under identifiers and under names.  A reader that gets
all items in some order keeps the first one of each identifier.  It keeps every
wanted name once, whatever the order is, exactly if items of different sources
have the same identifier just when they have the same name.
-/

section

variable
  {Item Id Name : Type}
  [DecidableEq Id]
  {idOf : Item → Id}
  {nameOf : Item → Name}
  {wanted : Item → Bool}
  {first second : List Item}

/-- Identifiers and names agree about items of which one is wanted. -/
def Agree
    (idOf : Item → Id)
    (nameOf : Item → Name)
    (wanted : Item → Bool)
    (first second : List Item) : Prop :=
  ∀ one ∈ first, ∀ other ∈ second,
    (wanted one = true ∨ wanted other = true) →
    (idOf one = idOf other ↔ nameOf one = nameOf other)

/-- Both sources list items once under each identifier and each name. -/
structure Sources
    (idOf : Item → Id)
    (nameOf : Item → Name)
    (wanted : Item → Bool)
    (first second : List Item)
    (names : List Name) : Prop where
  firstIds : (first.map idOf).Nodup
  secondIds : (second.map idOf).Nodup
  firstNames : (first.map nameOf).Nodup
  secondNames : (second.map nameOf).Nodup
  sameWanted :
    ∀ one ∈ first ++ second, ∀ other ∈ first ++ second,
      nameOf one = nameOf other → wanted one = wanted other
  distinct : names.Nodup
  covers :
    ∀ name,
      name ∈ names ↔
        ∃ item ∈ first ++ second, wanted item = true ∧ nameOf item = name

variable {names : List Name}

/-- Whatever the order is, the first items have the wanted names once. -/
def KeepsOnce
    (idOf : Item → Id)
    (nameOf : Item → Name)
    (wanted : Item → Bool)
    (first second : List Item)
    (names : List Name) : Prop :=
  ∀ order : List Item,
    (first ++ second).Perm order →
    (((firsts idOf order).filter wanted).map nameOf).Perm names

/-- What is read first is kept. -/
private theorem mem_firsts_head
    (item : Item)
    (rest : List Item) :
    item ∈ firsts idOf (item :: rest) :=
  @mem_firsts_of_new _ _ _ idOf [] rest item List.not_mem_nil

/-- What is read next is kept, if it has another identifier. -/
private theorem mem_firsts_next
    {item next : Item}
    (different : idOf item ≠ idOf next)
    (rest : List Item) :
    next ∈ firsts idOf (item :: next :: rest) :=
  @mem_firsts_of_new _ _ _ idOf [item] rest next
    (fun known => different (List.mem_singleton.mp known).symm)

/-- Two items of different sources may be read before all others. -/
private theorem exists_order
    {one other : Item}
    (inFirst : one ∈ first)
    (inSecond : other ∈ second) :
    ∃ rest,
      (first ++ second).Perm (one :: other :: rest) ∧
        (first ++ second).Perm (other :: one :: rest) := by
  obtain ⟨firstFront, firstBack, rfl⟩ := List.mem_iff_append.mp inFirst
  obtain ⟨secondFront, secondBack, rfl⟩ := List.mem_iff_append.mp inSecond
  have moved :
      (firstFront ++ one :: firstBack ++
          (secondFront ++ other :: secondBack)).Perm
        (one :: other ::
          (firstFront ++ firstBack ++ (secondFront ++ secondBack))) :=
    (List.perm_middle.append List.perm_middle).trans
      (List.perm_middle.cons one)
  exact ⟨_, moved, moved.trans (List.Perm.swap other one _)⟩

/-- Items with one name have one identifier, or both would be kept. -/
private theorem sameId_of_sameName
    (sources : Sources idOf nameOf wanted first second names)
    (keeps : KeepsOnce idOf nameOf wanted first second names)
    {one other : Item}
    (inFirst : one ∈ first)
    (inSecond : other ∈ second)
    (isWanted : wanted one = true)
    (sameName : nameOf one = nameOf other) :
    idOf one = idOf other := by
  by_contra different
  obtain ⟨rest, order, _⟩ := exists_order inFirst inSecond
  have otherWanted : wanted other = true := by
    rw [← isWanted]
    exact (sources.sameWanted one (List.mem_append_left _ inFirst) other
      (List.mem_append_right _ inSecond) sameName).symm
  have oneKept : one ∈ firsts idOf (one :: other :: rest) :=
    mem_firsts_head one _
  have otherKept : other ∈ firsts idOf (one :: other :: rest) :=
    mem_firsts_next different rest
  have distinct := (keeps _ order).nodup_iff.mpr sources.distinct
  have same : one = other :=
    List.inj_on_of_nodup_map distinct
      (List.mem_filter.mpr ⟨oneKept, isWanted⟩)
      (List.mem_filter.mpr ⟨otherKept, otherWanted⟩) sameName
  exact different (congrArg idOf same)

/-- A wanted item has a kept item of its name in every order. -/
private theorem exists_kept
    (sources : Sources idOf nameOf wanted first second names)
    (keeps : KeepsOnce idOf nameOf wanted first second names)
    {item : Item}
    (among : item ∈ first ++ second)
    (isWanted : wanted item = true)
    {order : List Item}
    (permuted : (first ++ second).Perm order) :
    ∃ kept ∈ firsts idOf order,
      (kept ∈ first ∨ kept ∈ second) ∧ nameOf kept = nameOf item := by
  have name : nameOf item ∈ names :=
    (sources.covers _).mpr ⟨item, among, isWanted, rfl⟩
  obtain ⟨kept, member, sameName⟩ :=
    List.mem_map.mp ((keeps order permuted).mem_iff.mpr name)
  have isKept := (List.mem_filter.mp member).1
  have inSources := permuted.mem_iff.mpr (mem_of_mem_firsts isKept)
  exact ⟨kept, isKept, List.mem_append.mp inSources, sameName⟩

/-- Items with one identifier have one name, or one would be dropped. -/
private theorem sameName_of_sameId
    (sources : Sources idOf nameOf wanted first second names)
    (keeps : KeepsOnce idOf nameOf wanted first second names)
    {one other : Item}
    (inFirst : one ∈ first)
    (inSecond : other ∈ second)
    (isWanted : wanted one = true ∨ wanted other = true)
    (sameId : idOf one = idOf other) :
    nameOf one = nameOf other := by
  obtain ⟨rest, order, swapped⟩ := exists_order inFirst inSecond
  rcases isWanted with isWanted | isWanted
  · -- The other item is read first, and the wanted one is dropped.
    obtain ⟨kept, isKept, source, sameName⟩ :=
      exists_kept sources keeps (List.mem_append_left _ inFirst) isWanted
        swapped
    have otherKept : other ∈ firsts idOf (other :: one :: rest) :=
      mem_firsts_head other _
    rcases source with fromFirst | fromSecond
    · have isOne : kept = one :=
        List.inj_on_of_nodup_map sources.firstNames fromFirst inFirst
          sameName
      have same : one = other :=
        List.inj_on_of_nodup_map (firsts_nodup _) (isOne ▸ isKept) otherKept
          sameId
      rw [same]
    · have keptId :=
        sameId_of_sameName sources keeps inFirst fromSecond isWanted
          sameName.symm
      have isOther : kept = other :=
        List.inj_on_of_nodup_map sources.secondIds fromSecond inSecond
          (keptId.symm.trans sameId)
      rw [← sameName, isOther]
  · obtain ⟨kept, isKept, source, sameName⟩ :=
      exists_kept sources keeps (List.mem_append_right _ inSecond) isWanted
        order
    have oneKept : one ∈ firsts idOf (one :: other :: rest) :=
      mem_firsts_head one _
    rcases source with fromFirst | fromSecond
    · have keptWanted : wanted kept = true := by
        rw [← isWanted]
        exact sources.sameWanted kept (List.mem_append_left _ fromFirst)
          other (List.mem_append_right _ inSecond) sameName
      have keptId :=
        sameId_of_sameName sources keeps fromFirst inSecond keptWanted
          sameName
      have isOne : kept = one :=
        List.inj_on_of_nodup_map sources.firstIds fromFirst inFirst
          (keptId.trans sameId.symm)
      rw [← sameName, isOne]
    · have isOther : kept = other :=
        List.inj_on_of_nodup_map sources.secondNames fromSecond inSecond
          sameName
      have same : one = other :=
        List.inj_on_of_nodup_map (firsts_nodup _) oneKept (isOther ▸ isKept)
          sameId
      rw [same]

omit [DecidableEq Id] in
/-- If identifiers and names agree, one identifier means one name. -/
private theorem sameName_of_agree
    (sources : Sources idOf nameOf wanted first second names)
    (agree : Agree idOf nameOf wanted first second)
    {one other : Item}
    (oneAmong : one ∈ first ++ second)
    (otherAmong : other ∈ first ++ second)
    (isWanted : wanted one = true) :
    idOf one = idOf other ↔ nameOf one = nameOf other := by
  rcases List.mem_append.mp oneAmong with oneFirst | oneSecond <;>
    rcases List.mem_append.mp otherAmong with otherFirst | otherSecond
  · constructor
    · intro sameId
      rw [List.inj_on_of_nodup_map sources.firstIds oneFirst otherFirst
        sameId]
    · intro sameName
      rw [List.inj_on_of_nodup_map sources.firstNames oneFirst otherFirst
        sameName]
  · exact agree one oneFirst other otherSecond (.inl isWanted)
  · have swapped := agree other otherFirst one oneSecond (.inr isWanted)
    exact eq_comm.trans (swapped.trans eq_comm)
  · constructor
    · intro sameId
      rw [List.inj_on_of_nodup_map sources.secondIds oneSecond otherSecond
        sameId]
    · intro sameName
      rw [List.inj_on_of_nodup_map sources.secondNames oneSecond otherSecond
        sameName]

/-- Wanted names are kept once exactly if identifiers and names agree. -/
theorem keepsOnce_iff
    (sources : Sources idOf nameOf wanted first second names) :
    KeepsOnce idOf nameOf wanted first second names ↔
      Agree idOf nameOf wanted first second := by
  constructor
  · intro keeps one inFirst other inSecond isWanted
    refine ⟨sameName_of_sameId sources keeps inFirst inSecond isWanted, ?_⟩
    intro sameName
    have oneWanted : wanted one = true := by
      have same :=
        sources.sameWanted one (List.mem_append_left _ inFirst) other
          (List.mem_append_right _ inSecond) sameName
      rcases isWanted with isWanted | isWanted
      · exact isWanted
      · exact same.trans isWanted
    exact sameId_of_sameName sources keeps inFirst inSecond oneWanted
      sameName
  · intro agree order permuted
    have amongOf {item : Item} (kept : item ∈ firsts idOf order) :
        item ∈ first ++ second :=
      permuted.mem_iff.mpr (mem_of_mem_firsts kept)
    have keptDistinct : (firsts idOf order).Nodup :=
      List.Nodup.of_map _ (firsts_nodup order)
    have namesDistinct :
        (((firsts idOf order).filter wanted).map nameOf).Nodup := by
      refine List.Nodup.map_on ?_ (keptDistinct.filter wanted)
      intro one oneMember other otherMember sameName
      obtain ⟨oneKept, oneWanted⟩ := List.mem_filter.mp oneMember
      obtain ⟨otherKept, _⟩ := List.mem_filter.mp otherMember
      exact List.inj_on_of_nodup_map (firsts_nodup _) oneKept otherKept
        ((sameName_of_agree sources agree (amongOf oneKept)
          (amongOf otherKept) oneWanted).mpr sameName)
    rw [List.perm_ext_iff_of_nodup namesDistinct sources.distinct]
    intro name
    rw [sources.covers, List.mem_map]
    constructor
    · rintro ⟨item, member, isName⟩
      obtain ⟨kept, isWanted⟩ := List.mem_filter.mp member
      exact ⟨item, amongOf kept, isWanted, isName⟩
    · rintro ⟨item, among, isWanted, rfl⟩
      have known : idOf item ∈ (firsts idOf order).map idOf :=
        mem_map_firsts_iff.mpr
          (List.mem_map_of_mem (permuted.mem_iff.mp among))
      obtain ⟨kept, isKept, sameId⟩ := List.mem_map.mp known
      have sameName :=
        (sameName_of_agree sources agree among (amongOf isKept)
          isWanted).mp sameId.symm
      have keptWanted : wanted kept = true := by
        rw [← isWanted]
        exact (sources.sameWanted item among kept (amongOf isKept)
          sameName).symm
      exact ⟨kept, List.mem_filter.mpr ⟨isKept, keptWanted⟩, sameName.symm⟩

end

end MarketIngest
