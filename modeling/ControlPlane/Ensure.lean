/-!
# Ensuring a collection

`ensure` drives the live resources of one sort toward a list of desired ones. A resource is
identified by its zone and its name, and the name that a desired one gets comes from its position
among the desired ones of its zone. Live resources that are desired are kept and updated, all others
are deleted, and then what is missing is created. Nothing is remembered between calls.
-/

namespace ControlPlane

/-- How resources of one sort are read and changed, in a monad `m` that can fail with `ε`. The zone
of a desired resource is known before anything is read. -/
structure Reconciler (m : Type → Type) (ε D R : Type) where
  list : m (List R)
  create : (zone name : String) → D → m R
  update : R → D → m R
  delete : R → m Unit
  zoneOf : R → String
  nameOf : R → String
  desiredZone : D → Except ε String
  desiredName : Nat → String
  keeps : R → D → m Bool

namespace Reconciler

variable {m : Type → Type} {ε D R : Type}

/-- Adds a desired resource to the group of its zone, which comes last if it is new. -/
def insert (zone : String) (d : D) : List (String × List D) → List (String × List D)
  | [] => [(zone, [d])]
  | (z, ds) :: rest =>
    if z = zone then (z, ds ++ [d]) :: rest else (z, ds) :: insert zone d rest

/-- The desired resources by zone, zones in order of first appearance. -/
def groups (r : Reconciler m ε D R) (desired : List D) : Except ε (List (String × List D)) :=
  desired.foldlM (fun acc d => (r.desiredZone d).map (insert · d acc)) []

/-- The first desired resource, counted from an index, whose generated name is the given one. -/
def named? (r : Reconciler m ε D R) (name : String) : (index : Nat) → List D → Option D
  | _, [] => none
  | i, d :: rest => if r.desiredName i = name then some d else r.named? name (i + 1) rest

/-- The desired resource that a live one stands for, unless its zone and name are taken. -/
def match? (r : Reconciler m ε D R) (wanted : List (String × List D))
    (taken : List (String × String)) (resource : R) : Option D :=
  let zone := r.zoneOf resource
  let name := r.nameOf resource
  if (zone, name) ∈ taken then none
  else (wanted.lookup zone).bind (r.named? name 0)

variable [Monad m]

/-- Keeps and updates the live resources that are desired and deletes the others. At most one
resource per zone and name is kept: the first that can be. -/
def retain (r : Reconciler m ε D R) (wanted : List (String × List D)) :
    (taken : List (String × String)) → List R → m (List R)
  | _, [] => pure []
  | taken, resource :: rest => do
    let desired := r.match? wanted taken resource
    let kept ← match desired with
      | none => pure false
      | some d => r.keeps resource d
    match desired, kept with
    | some d, true =>
      let updated ← r.update resource d
      let more ← r.retain wanted ((r.zoneOf resource, r.nameOf resource) :: taken) rest
      return updated :: more
    | _, _ =>
      r.delete resource
      r.retain wanted taken rest

/-- The desired resources with their zones and generated names. -/
def targets (r : Reconciler m ε D R) (wanted : List (String × List D)) :
    List (String × String × D) :=
  wanted.flatMap fun (zone, ds) => ds.zipIdx.map fun (d, i) => (zone, r.desiredName i, d)

/-- Creates the targets whose zone and name no resource has. -/
def createMissing (r : Reconciler m ε D R) (taken : List (String × String)) :
    List (String × String × D) → m (List R)
  | [] => pure []
  | (zone, name, d) :: rest =>
    if (zone, name) ∈ taken then r.createMissing taken rest
    else do
      let created ← r.create zone name d
      let more ← r.createMissing taken rest
      return created :: more

/-- Drives the live resources toward the desired ones. The result holds the kept resources, then the
created ones. A failure leaves what was done so far. -/
def ensure [MonadExcept ε m] (r : Reconciler m ε D R) (desired : List D) : m (List R) := do
  let wanted ← match r.groups desired with
    | .ok wanted => pure wanted
    | .error e => throw e
  let live ← r.list
  let kept ← r.retain wanted [] live
  let created ← r.createMissing (kept.map fun k => (r.zoneOf k, r.nameOf k)) (r.targets wanted)
  return kept ++ created

end Reconciler

end ControlPlane
