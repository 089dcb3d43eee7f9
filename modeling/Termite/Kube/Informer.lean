import Mathlib.Data.Rat.Defs

namespace Termite.Kube

/-!
# What informers deliver

A `client-go` informer calls its handlers with the objects it watches: typed objects for the
built-in resources, and `*unstructured.Unstructured` — a decoded JSON document — for custom
resources read through the dynamic client.  A delete handler may receive a
`cache.DeletedFinalStateUnknown` tombstone instead of the object, when the watch missed the
deletion.

* `Value` — a JSON value as `k8s.io/apimachinery`'s decoder leaves it in
  `UnstructuredContent()`: integral numbers become `int64`, all other numbers `float64`
  (exact rationals here).
* `Unstructured` — its `Object` map, with `GetNamespace` / `GetName`.
* `Deleted`, `WatchEvent` — the notifications.
-/

/-- A decoded JSON value (`any` inside `map[string]any`); `int32` does not come out of the
    decoder but is a case `getInt32` reads. -/
inductive Value where
  | null
  | bool (b : Bool)
  | int64 (n : Int)
  | int32 (n : Int)
  | float64 (x : ℚ)
  | string (s : String)
  | array (vs : List Value)
  | object (fields : List (String × Value))

namespace Value

/-- `v.(map[string]any)`. -/
def asObject : Value → Option (List (String × Value))
  | object fs => some fs
  | _ => none

/-- `v.([]any)`. -/
def asArray : Value → Option (List Value)
  | array vs => some vs
  | _ => none

/-- `v.(string)`. -/
def asString : Value → Option String
  | string s => some s
  | _ => none

/-- `v.(bool)`. -/
def asBool : Value → Option Bool
  | bool b => some b
  | _ => none

/-- `v.(float64)`. -/
def asFloat64 : Value → Option ℚ
  | float64 x => some x
  | _ => none

end Value

/-- A JSON object, `map[string]any`. -/
abbrev Object := List (String × Value)

/-- `m[key].(map[string]any)`. -/
def Object.getObject (m : Object) (key : String) : Option Object := (m.lookup key).bind Value.asObject

/-- `m[key].([]any)`. -/
def Object.getArray (m : Object) (key : String) : Option (List Value) :=
  (m.lookup key).bind Value.asArray

/-- `m[key].(string)`. -/
def Object.getStr (m : Object) (key : String) : Option String := (m.lookup key).bind Value.asString

/-- `*unstructured.Unstructured`: its `Object` map. -/
structure Unstructured where
  object : Object

namespace Unstructured

/-- `u.GetNamespace()`: `metadata.namespace`, `""` when absent. -/
def getNamespace (u : Unstructured) : String :=
  ((u.object.getObject "metadata").bind fun m => m.getStr "namespace").getD ""

/-- `u.GetName()`: `metadata.name`, `""` when absent. -/
def getName (u : Unstructured) : String :=
  ((u.object.getObject "metadata").bind fun m => m.getStr "name").getD ""

/-- `u.UnstructuredContent()`. -/
def unstructuredContent (u : Unstructured) : Object := u.object

end Unstructured

/-- What a delete handler receives: the object, or a tombstone carrying the last version seen. -/
inductive Deleted (α : Type) where
  | object (obj : α)
  | tombstone (key : String) (obj : α)
  deriving DecidableEq

/-- One informer notification. -/
inductive WatchEvent (α : Type) where
  | add (obj : α)
  | update (oldObj newObj : α)
  | delete (obj : Deleted α)
  deriving DecidableEq

end Termite.Kube
