import BatchOperator.Object.Metadata
import BatchOperator.Selector

/-!
# Caches

All objects of one kind as they were last seen, and the changes that they went through.
Applying, removing and replacing objects tells what has changed; a change carries the object as it
was and as it is, so that the changes together are a log of the contents.
-/

set_option autoImplicit false

namespace BatchOperator

/-- A change of one object in a cache. -/
inductive Change (K : Type) where
  | added (object : K)
  | modified (old new : K)
  | deleted (object : K)
  deriving DecidableEq

namespace Change

variable {K : Type}

/-- The object as it is, or as it was last known. -/
def object : Change K → K
  | .added object | .modified _ object | .deleted object => object

/-- Whether nothing is different after all. -/
def isIdle [DecidableEq K] : Change K → Bool
  | .modified old new => old == new
  | _ => false

end Change

/-- What a watch tells of the objects it watches. -/
inductive WatchEvent (K : Type) where
  /-- An object is there, new or changed. -/
  | applied (object : K)
  /-- An object is gone. -/
  | deleted (object : K)
  /-- The watch has begun anew; these are all objects. -/
  | restarted (objects : List K)

/-- The objects of one kind as they were last seen. -/
structure Cache (K : Type) where
  objects : OrderedMap ObjectKey K := .empty
  /-- Whether all objects were listed at least once. -/
  synced : Bool := false

namespace Cache

variable {K : Type} [Resource K]

instance : Inhabited (Cache K) := ⟨{}⟩

/-- The object of a key. -/
def get? (c : Cache K) (key : ObjectKey) : Option K := c.objects.get? key

/-- The number of objects. -/
def size (c : Cache K) : Nat := c.objects.size

/-- Whether there are no objects. -/
def isEmpty (c : Cache K) : Bool := c.objects.isEmpty

/-- The labels of an object. -/
def labelsOf (object : K) : StringMap := (Resource.metadata object).labelMap

/-- The objects of a namespace that a selector selects, in the order of their names. -/
def list (c : Cache K) (ns : String) (selector : Selector) : List K :=
  c.objects.entries.filterMap fun (key, object) =>
    if key.ns = ns ∧ selector.selects (labelsOf object) then some object else none

/-- The cache of which all objects have been listed. -/
def markSynced (c : Cache K) : Cache K := { c with synced := true }

/-- Whether an object is older than what the cache has. Only versions that are numbers tell. -/
def isStale (c : Cache K) (object : K) : Bool :=
  match Resource.key object with
  | .error _ => false
  | .ok key =>
    match c.get? key with
    | none => false
    | some cached =>
      -- An equal version is no reason to pass over an object.
      match (Resource.metadata cached).version?, (Resource.metadata object).version? with
      | some have', some incoming => incoming < have'
      | _, _ => false

/-- Puts an object into the cache. -/
def apply (c : Cache K) (object : K) : Except Error (Change K × Cache K) :=
  match Resource.key object with
  | .error e => .error e
  | .ok key =>
    let change := match c.get? key with
      | some old => .modified old object
      | none => .added object
    .ok (change, { c with objects := c.objects.insert key object })

/-- Takes an object out of the cache. The change carries the object as it is given, and is made
even if the cache did not have it. -/
def remove (c : Cache K) (object : K) : Except Error (Change K × Cache K) :=
  match Resource.key object with
  | .error e => .error e
  | .ok key => .ok (.deleted object, { c with objects := c.objects.erase key })

/-- The objects of a list by their keys; the last object of a key counts, and objects without a
name are left out. -/
def keyed (listed : List K) : OrderedMap ObjectKey K :=
  .ofList (listed.filterMap fun object => match Resource.key object with
    | .ok key => some (key, object)
    | .error _ => none)

/-- Puts a list of all objects in place of what the cache has. An object that is listed as it was
before is a change all the same. -/
def replace (c : Cache K) (listed : List K) : List (Change K) × Cache K :=
  let incoming := keyed listed
  -- What was not listed is gone; the change carries the object as it was last seen.
  let gone := c.objects.entries.filterMap fun (key, old) =>
    if incoming.contains key then none else some (Change.deleted old)
  let there := incoming.entries.map fun (key, new) => match c.get? key with
    | some old => Change.modified old new
    | none => Change.added new
  (gone ++ there, { c with objects := incoming })

/-- Takes in one change, if it could be made. -/
def taken (c : Cache K) : Except Error (Change K × Cache K) → List (Change K) × Cache K
  | .ok (change, c) => ([change], c)
  | .error _ => ([], c)

/-- Takes in what a watch tells. Objects that are older than what the cache has, and objects without
a name, are passed over; after a list of all objects the cache is synced. -/
def watch (c : Cache K) : WatchEvent K → List (Change K) × Cache K
  | .applied object => if c.isStale object then ([], c) else c.taken (c.apply object)
  | .deleted object => if c.isStale object then ([], c) else c.taken (c.remove object)
  | .restarted objects =>
    let (changes, c) := c.replace objects
    (changes, c.markSynced)

end Cache

end BatchOperator
