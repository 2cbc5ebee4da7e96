import LayerMarkup.Host.Basic

/-!
# Hosts by table

A host whose answers are listed: the main component of each occurrence, the defaults of each
component, and the ids on which it fails.
-/

namespace LayerMarkup

/-- The answers of a host.  An id that fails fails both questions. -/
structure HostTable where
  mains : Mapping (Option String) := .empty
  defaults : Mapping (Mapping Json) := .empty
  failing : Mapping Failure := .empty

namespace HostTable

def mainComponent (t : HostTable) (id : String) : Except Failure (Option ComponentRef) :=
  match t.failing.get? id with
  | some failure => .error failure
  | none => .ok ((t.mains.get? id).join.map fun component => { id := component, name := component })

def defaultsOf (t : HostTable) (id : String) : Except Failure (Mapping Json) :=
  match t.failing.get? id with
  | some failure => .error failure
  | none =>
    match t.defaults.get? id with
    | some defaults => .ok defaults
    | none => .error (.lookup id "Defaults unavailable")

def host (t : HostTable) : Host Unit := .ofAnswers t.mainComponent t.defaultsOf

end HostTable

end LayerMarkup
