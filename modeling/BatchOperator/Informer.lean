import BatchOperator.Api.Watch
import BatchOperator.Backoff

/-!
# Informers

An informer keeps the cache of one kind of objects current. It lists everything, page by page, puts
that in place of what the cache has, and then watches for changes. A watch that ends is opened again
at the same place, and a watch that has lost its place begins anew with a list. After trouble an
informer rests, for longer each time. From time to time it lists everything once more, which repairs
what the watch did not tell.
-/

set_option autoImplicit false

namespace BatchOperator

/-- What an informer is doing. -/
inductive Attention (K : Type) where
  /-- It asks for a page of the list, after the objects that were listed so far. -/
  | listing (token : Option String) (listed : List K)
  /-- It is about to watch for what comes after a version. -/
  | listed (version : String)
  /-- It watches, and was told of everything up to a version. -/
  | watching (watch : Nat) (version : String)

/-- The rests that an informer takes after trouble. -/
structure Rests where
  lengths : Backoff Unit := { base := .ofMillis 800, limit := .ofSeconds 30 }
  /-- When the last trouble was. -/
  last : Option Instant := none
  /-- Until when it rests, if it does. -/
  ends : Option Instant := none

namespace Rests

/-- How long there has to be no trouble until rests are short again. -/
def quiet : Duration := .ofSeconds 120

/-- Begins a rest because there is trouble at `now`. -/
def begin (r : Rests) (now : Instant) : Rests :=
  let isLongAgo := r.last.any fun last => last + quiet.nanoseconds < now
  let (length, lengths) := (if isLongAgo then r.lengths.forget () else r.lengths).fail ()
  { lengths, last := some now, ends := some (now + length.nanoseconds) }

end Rests

/-- An informer for one kind of objects. -/
structure Informer (K : Type) where
  attention : Attention K := .listing none []
  rests : Rests := {}
  /-- When it lists everything once more. -/
  nextResync : Instant

namespace Informer

/-- What a step of an informer leads to. -/
structure Progress (K σ : Type) where
  informer : Informer K
  cache : Cache K
  changes : List (Change K) := []
  outside : σ

/-- What an informer is set to do. -/
structure Task (K : Type) where
  scope : Api.Scope
  read : Json → Option K
  /-- How often everything is listed once more. -/
  period : Duration

variable {K σ : Type} [Resource K]

/-- Rests because there is trouble, and then goes on as told. -/
def rest (i : Informer K) (now : Instant) (attention : Attention K) : Informer K :=
  { i with attention, rests := i.rests.begin now }

/-- Lists everything once more, if the cache has been filled before. A failure changes nothing. -/
def resync (i : Informer K) (server : Api.Server σ) (task : Task K) (now : Instant) (c : Cache K)
    (s : σ) : Progress K σ :=
  let i := { i with nextResync := now + task.period.nanoseconds }
  if !c.synced then { informer := i, cache := c, outside := s }
  else
    let (response, s) := server.send (.listAll task.scope) s
    let result : Except Error (Api.ObjectList K) := response.read (Api.ObjectList.ofJson? task.read)
    match result with
    | .error _ => { informer := i, cache := c, outside := s }
    | .ok list =>
      let (changes, c) := c.replace list.items
      { informer := i, cache := c, changes, outside := s }

/-- Asks for a page of the list. -/
def list (i : Informer K) (server : Api.Server σ) (task : Task K) (now : Instant) (c : Cache K)
    (token : Option String) (listed : List K) (s : σ) : Progress K σ :=
  let (response, s) := server.send (.listPage task.scope token) s
  let result : Except Error (Api.ObjectList K) := response.read (Api.ObjectList.ofJson? task.read)
  match result with
  | .error _ => { informer := i.rest now (.listing none []), cache := c, outside := s }
  | .ok page =>
    let listed := listed ++ page.items
    let isThere (text : String) : Bool := !text.isEmpty
    -- An empty token means the last page, and without a version there is no place to watch from.
    match page.metadata.next.filter isThere, page.metadata.resourceVersion.filter isThere with
    | some token, _ =>
      { informer := { i with attention := .listing (some token) listed }, cache := c, outside := s }
    | none, some version =>
      let (changes, c) := c.watch (.restarted listed)
      { informer := { i with attention := .listed version }, cache := c, changes, outside := s }
    | none, none => { informer := i.rest now (.listing none []), cache := c, outside := s }

/-- Opens a watch for what comes after a version. -/
def openWatch (i : Informer K) (server : Api.Server σ) (task : Task K) (now : Instant) (c : Cache K)
    (version : String) (s : σ) : Progress K σ :=
  let (result, s) := server.watch (.watch task.scope version) s
  let informer := match result with
    | .ok watch => { i with attention := .watching watch version }
    | .error _ => i.rest now (.listed version)
  { informer, cache := c, outside := s }

/-- Takes in what a line of the watch tells. -/
def hear (i : Informer K) (now : Instant) (c : Cache K) (watch : Nat) (version : String) (s : σ) :
    Api.Told K → Progress K σ
  | .news event version =>
    let (changes, c) := c.watch event
    let informer := { i with attention := .watching watch version }
    { informer, cache := c, changes, outside := s }
  | .bookmark version =>
    { informer := { i with attention := .watching watch version }, cache := c, outside := s }
  | .nothing => { informer := i, cache := c, outside := s }
  | .trouble => { informer := i.rest now (.watching watch version), cache := c, outside := s }
  | .lost => { informer := i.rest now (.listing none []), cache := c, outside := s }

/-- Goes on with what it is doing, if there is anything to do. -/
def proceed (i : Informer K) (server : Api.Server σ) (task : Task K) (now : Instant) (c : Cache K)
    (s : σ) : Option (Progress K σ) :=
  match i.attention with
  | .listing token listed => some (i.list server task now c token listed s)
  | .listed version => some (i.openWatch server task now c version s)
  | .watching watch version =>
    match server.receive watch s with
    | (.line text, s) => some (i.hear now c watch version s (.ofLine task.read text))
    | (.ended, s) =>
      some { informer := { i with attention := .listed version }, cache := c, outside := s }
    | (.nothing, _) => none

/-- A step at `now`, if there is anything to do. -/
def step (i : Informer K) (server : Api.Server σ) (task : Task K) (now : Instant) (c : Cache K)
    (s : σ) : Option (Progress K σ) :=
  -- The repeated list does not wait for the end of a rest.
  if i.nextResync ≤ now then some (i.resync server task now c s)
  else match i.rests.ends with
    | none => i.proceed server task now c s
    | some moment =>
      if now < moment then none
      else
        let informer := { i with rests := { i.rests with ends := none } }
        some { informer, cache := c, outside := s }

/-- The moments at which there will be something to do in any case. -/
def moments (i : Informer K) : List Instant := i.nextResync :: i.rests.ends.toList

end Informer

end BatchOperator
