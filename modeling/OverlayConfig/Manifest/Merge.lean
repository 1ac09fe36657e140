import OverlayConfig.Manifest.Object
/-!
Merging a live object into a desired one. What the cluster keeps of its own in an object is taken
from the live object, labels and annotations are united, and all else is the desired object's.
-/
set_option autoImplicit false

namespace OverlayConfig

def runtimeMetadata : List String :=
  ["creationTimestamp", "selfLink", "generation", "uid", "resourceVersion"]

def deploymentRevisionKey : String := "deployment.kubernetes.io/revision"

namespace Manifest

def keepLive (path : KeyPath) (live desired : Manifest) : Manifest :=
  match live.get? path with
  | some v => desired.set path v
  | none => desired

/-- Makes the value at a path the live object's, or removes it. -/
def matchLive (path : KeyPath) (live desired : Manifest) : Manifest :=
  match live.get? path with
  | some v => desired.set path v
  | none => (desired.remove path).2

def fields? (path : KeyPath) (object : Manifest) : Option (Fields Json) :=
  (object.get? path).bind Json.fields?

/-- Adds the entries of the live mapping at a path to the desired one, whose values stay. -/
def uniteLive (path : KeyPath) (live desired : Manifest) : Manifest :=
  match live.fields? path with
  | none | some [] => desired
  | some fields =>
    desired.set path (.object (Fields.union fields ((desired.fields? path).getD [])))

def ownedPath? (kind : String) : Option KeyPath :=
  if kind = "Deployment" then some ["metadata", "annotations", deploymentRevisionKey]
  else if kind = "Service" then some ["spec", "clusterIP"]
  else if kind = "ServiceAccount" then some ["secrets"]
  else none

def keepOwned (live desired : Manifest) : Manifest :=
  match ownedPath? desired.kind with
  | some path => keepLive path live desired
  | none => desired

def mergeMetadata (live desired : Manifest) : Manifest :=
  let desired := runtimeMetadata.foldl (fun d key => matchLive ["metadata", key] live d) desired
  uniteLive ["metadata", "annotations"] live (uniteLive ["metadata", "labels"] live desired)

/-- Merges the live object into the desired one, step by step. A failure does not undo steps. -/
def mergeInto (live : Manifest) : ExceptT ObjectError (StateM Manifest) Unit := do
  let desired ← get
  if live.id = desired.id then
    modify (keepOwned live)
    modify (mergeMetadata live)
  else throw (.unsupported desired.id ("cannot merge with " ++ live.id.text))

def merge (live desired : Manifest) : Except ObjectError Manifest :=
  match (mergeInto live).run desired with
  | (.ok (), merged) => .ok merged
  | (.error e, _) => .error e

theorem run_mergeInto (live desired : Manifest) : (mergeInto live).run desired =
    if live.id = desired.id then (.ok (), mergeMetadata live (keepOwned live desired))
    else (.error (.unsupported desired.id ("cannot merge with " ++ live.id.text)), desired) := by
  have hread : (mergeInto live).run desired = ExceptT.run (m := StateM Manifest)
      (if live.id = desired.id then do
        modify (keepOwned live)
        modify (mergeMetadata live)
      else throw (.unsupported desired.id ("cannot merge with " ++ live.id.text))) desired := rfl
  rw [hread]
  split <;> rfl

theorem merge_eq (live desired : Manifest) : merge live desired =
    if live.id = desired.id then .ok (mergeMetadata live (keepOwned live desired))
    else .error (.unsupported desired.id ("cannot merge with " ++ live.id.text)) := by
  rw [merge, run_mergeInto]
  by_cases h : live.id = desired.id
  · simp only [if_pos h]
  · simp only [if_neg h]

end Manifest

end OverlayConfig
