import MarketIngest.OrderedMap

namespace MarketIngest.ReferenceStore

/-!
# Stores whose objects refer to each other

An object of a store names the keys of other objects.  The store is closed if
whatever is named is present.  Objects that are added after the objects they
name keep the store closed, whatever they replace.
-/

variable
  {Key Object : Type}
  [LinearOrder Key]

/-- There is an object under the key. -/
def Present
    (store : OrderedMap Key Object)
    (key : Key) : Prop :=
  ∃ object, store.get? key = some object

/-- Whatever the objects of the store name is present. -/
def Closed
    (references : Object → List Key)
    (store : OrderedMap Key Object) : Prop :=
  ∀ key object,
    store.get? key = some object →
    ∀ target ∈ references object, Present store target

/-- An object that was added is present. -/
theorem present_insert_same
    (store : OrderedMap Key Object)
    (key : Key)
    (object : Object) :
    Present (store.insert key object) key :=
  ⟨object, OrderedMap.get?_insert_same _ _ _⟩

/-- What is present remains so when objects are added or replaced. -/
theorem Present.insert
    {store : OrderedMap Key Object}
    {target : Key}
    (present : Present store target)
    (key : Key)
    (object : Object) :
    Present (store.insert key object) target := by
  by_cases same : target = key
  · rw [same]
    exact present_insert_same store key object
  · obtain ⟨found, stored⟩ := present
    refine ⟨found, ?_⟩
    rw [store.get?_insert_other same]
    exact stored

variable {references : Object → List Key}

/-- The store without objects is closed. -/
theorem closed_empty :
    Closed references (OrderedMap.empty : OrderedMap Key Object) := by
  intro key object stored
  rw [OrderedMap.get?_empty] at stored
  cases stored

/-- An object that is added after what it names keeps the store closed. -/
theorem Closed.insert
    {store : OrderedMap Key Object}
    (closed : Closed references store)
    {key : Key}
    {object : Object}
    (named : ∀ target ∈ references object, Present store target) :
    Closed references (store.insert key object) := by
  intro other found stored target member
  rw [OrderedMap.get?_insert] at stored
  split_ifs at stored with same
  · cases stored
    exact (named target member).insert key object
  · exact (closed other found stored target member).insert key object

end MarketIngest.ReferenceStore
