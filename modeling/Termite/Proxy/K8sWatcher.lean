import Termite.Go.Map
import Termite.Go.Strings
import Termite.Kube.Informer

namespace Termite.Proxy

open Termite.Go Termite.Kube

/-!
# The topology watcher (`K8sWatcher`)

`K8sWatcher` subscribes to two informers, EndpointSlices and Pods, and keeps the proxy's
endpoint registry in step with them.  A handler receives the object (or, for a delete, possibly a
`cache.DeletedFinalStateUnknown` tombstone) and registers or unregisters `http://addr:port`
addresses.  A handler's type assertion on a tombstone panics; a run is `none` from the first
panic on.  The label selector is a parameter, as `labels.Parse` of the configuration made it.

* `processEndpointSlice_sound` / `processPod_sound` — every address a handler registers is built
  from the object it was given: a ready address of a termite slice with the slice's port, or a
  selected, running and ready pod's IP with its port.
* `run_eq_none_iff` — a run panics exactly when one of its notifications is a tombstone.
* `run_stale_after_delete` — `onEndpointSliceDelete` unregisters port `11433` whatever port the
  slice had, so the address of a slice served on `8080` outlives the slice.
-/

/-- Kubernetes labels; a missing label reads as `""`. -/
abbrev Labels := List (String × String)

/-- `labels[k]`. -/
def labelValue (labels : Labels) (k : String) : String := (labels.lookup k).getD ""

/-- Modelled from the spec: `WorkloadTypeGeneral`, the tag an empty workload type stands for (its
    declaration is not among the sources). -/
def workloadTypeGeneral : String := "general"

/-- Modelled from the spec: the proxy's endpoint registry (`Proxy` and its `RegisterEndpoint` /
    `UnregisterEndpoint` are not among the sources), from address to pool and workload type. -/
abbrev Registry := List (String × (String × String))

/-- Modelled from the spec: `RegisterEndpoint(address, pool, workloadType)` creates or updates
    the record. -/
def registerEndpoint (reg : Registry) (address pool workloadType : String) : Registry :=
  mapSet address (pool, workloadType) reg

/-- Modelled from the spec: `UnregisterEndpoint(address)` removes it, if present. -/
def unregisterEndpoint (reg : Registry) (address : String) : Registry := mapDelete address reg

/-- `fmt.Sprintf("http://%s:%d", host, port)`. -/
def endpointAddress (host : String) (port : Int) : String :=
  "http://" ++ host ++ ":" ++ toString port

/-! ### Objects and events -/

/-- `discoveryv1.EndpointPort`: `Name` and `Port` are pointers. -/
structure EndpointPort where
  name : Option String
  port : Option Int
  deriving DecidableEq

/-- `discoveryv1.Endpoint`: its addresses and its `Conditions.Ready` pointer. -/
structure Endpoint where
  addresses : List String
  ready : Option Bool
  deriving DecidableEq

/-- `discoveryv1.EndpointSlice`; `key` is the informer's `namespace/name` key. -/
structure EndpointSlice where
  key : String
  labels : Labels
  ports : List EndpointPort
  endpoints : List Endpoint
  deriving DecidableEq

/-- `corev1.PodCondition`. -/
structure PodCondition where
  type : String
  status : String
  deriving DecidableEq

/-- `corev1.ContainerPort`. -/
structure ContainerPort where
  name : String
  containerPort : Int
  deriving DecidableEq

/-- `corev1.Container`. -/
structure Container where
  name : String
  ports : List ContainerPort
  deriving DecidableEq

/-- `corev1.Pod`: labels, `Status.Phase`, `Status.PodIP`, `Status.Conditions` and
    `Spec.Containers`; `key` is the informer's `namespace/name` key. -/
structure Pod where
  key : String
  labels : Labels
  phase : String
  podIP : String
  conditions : List PodCondition
  containers : List Container
  deriving DecidableEq

/-- A notification of either informer. -/
inductive K8sEvent where
  | endpointSlice (e : WatchEvent EndpointSlice)
  | pod (e : WatchEvent Pod)
  deriving DecidableEq

/-- A tombstone delete. -/
def K8sEvent.isTombstone : K8sEvent → Bool
  | .endpointSlice (.delete (.tombstone _ _)) | .pod (.delete (.tombstone _ _)) => true
  | _ => false

/-! ### EndpointSlices -/

namespace EndpointSlice

/-- `endpointSlice.Labels["kubernetes.io/service-name"]`. -/
def serviceName (s : EndpointSlice) : String := labelValue s.labels "kubernetes.io/service-name"

/-- The check at the top of `processEndpointSlice`. -/
def isTermite (s : EndpointSlice) : Bool :=
  hasPrefix s.serviceName "termite-" || labelValue s.labels "app.kubernetes.io/name" == "termite"

/-- `antfly.io/pool`, else the service name less `termite-`. -/
def pool (s : EndpointSlice) : String :=
  if labelValue s.labels "antfly.io/pool" = "" then trimPrefix s.serviceName "termite-"
  else labelValue s.labels "antfly.io/pool"

/-- `antfly.io/workload-type`, `general` when empty. -/
def workloadType (s : EndpointSlice) : String :=
  if labelValue s.labels "antfly.io/workload-type" = "" then workloadTypeGeneral
  else labelValue s.labels "antfly.io/workload-type"

/-- The first port named `http` or `api` decides; `11433` when there is none or it has no
    number. -/
def port (s : EndpointSlice) : Int :=
  match s.ports.find? (fun p => p.name == some "http" || p.name == some "api") with
  | some p => p.port.getD 11433
  | none => 11433

/-- The loop body of `processEndpointSlice` for one address. -/
def processAddress (s : EndpointSlice) (ready : Bool) (reg : Registry) (addr : String) : Registry :=
  if ready then registerEndpoint reg (endpointAddress addr s.port) s.pool s.workloadType
  else unregisterEndpoint reg (endpointAddress addr s.port)

/-- The addresses the slice declares ready. -/
def ReadyAddress (s : EndpointSlice) (a : String) : Prop :=
  s.isTermite = true ∧
    ∃ e ∈ s.endpoints, e.ready = some true ∧ ∃ addr ∈ e.addresses, a = endpointAddress addr s.port

end EndpointSlice

/-- The registered addresses are the keys of the registry. -/
abbrev Registered (reg : Registry) (a : String) : Prop := (reg.lookup a).isSome

theorem registered_registerEndpoint {reg : Registry} {address pool wt a : String}
    (h : Registered (registerEndpoint reg address pool wt) a) : Registered reg a ∨ a = address := by
  simp only [Registered, registerEndpoint, lookup_mapSet] at h
  split at h
  · exact Or.inr ‹_›
  · exact Or.inl h

theorem registered_unregisterEndpoint {reg : Registry} {address a : String}
    (h : Registered (unregisterEndpoint reg address) a) : Registered reg a := by
  simp only [Registered, unregisterEndpoint, lookup_mapDelete] at h
  split at h
  · simp at h
  · exact h

/-- `processEndpointSlice`: every address of a termite slice is registered when its endpoint is
    ready and unregistered otherwise. -/
def processEndpointSlice (reg : Registry) (s : EndpointSlice) : Registry :=
  if s.isTermite then
    s.endpoints.foldl (fun reg e => e.addresses.foldl (s.processAddress (e.ready == some true)) reg) reg
  else reg

/-- The loop of `onEndpointSliceDelete`: every address, at port `11433`. -/
def unregisterSliceAddresses (reg : Registry) (s : EndpointSlice) : Registry :=
  s.endpoints.foldl (fun reg e => e.addresses.foldl
    (fun reg addr => unregisterEndpoint reg ("http://" ++ addr ++ ":11433")) reg) reg

/-- `onEndpointSliceAdd` / `onEndpointSliceUpdate` / `onEndpointSliceDelete`; the assertion
    `obj.(*discoveryv1.EndpointSlice)` panics on a tombstone. -/
def onEndpointSliceEvent (reg : Registry) : WatchEvent EndpointSlice → Option Registry
  | .add s => some (processEndpointSlice reg s)
  | .update _ s => some (processEndpointSlice reg s)
  | .delete (.object s) => some (unregisterSliceAddresses reg s)
  | .delete (.tombstone _ _) => none

/-- Only a ready address of a termite slice, with the slice's port, gets registered. -/
theorem processEndpointSlice_sound {reg : Registry} {s : EndpointSlice} {a : String}
    (h : Registered (processEndpointSlice reg s) a) : Registered reg a ∨ s.ReadyAddress a := by
  unfold processEndpointSlice at h
  split at h
  · rename_i ht
    refine List.foldlRecOn (motive := fun r => Registered r a → Registered reg a ∨ s.ReadyAddress a)
      s.endpoints _ reg Or.inl (fun r hr e he => ?_) h
    refine List.foldlRecOn (motive := fun r => Registered r a → Registered reg a ∨ s.ReadyAddress a)
      e.addresses _ r hr fun r' hr' addr haddr hs => ?_
    unfold EndpointSlice.processAddress at hs
    split at hs
    · rename_i hready
      rcases registered_registerEndpoint hs with hs | rfl
      · exact hr' hs
      · exact Or.inr ⟨ht, e, he, by simpa using hready, addr, haddr, rfl⟩
    · exact hr' (registered_unregisterEndpoint hs)
  · exact Or.inl h

/-- A delete only unregisters. -/
theorem unregisterSliceAddresses_sound {reg : Registry} {s : EndpointSlice} {a : String}
    (h : Registered (unregisterSliceAddresses reg s) a) : Registered reg a := by
  refine List.foldlRecOn (motive := fun r => Registered r a → Registered reg a)
    s.endpoints _ reg id (fun r hr e _ => ?_) h
  exact List.foldlRecOn (motive := fun r => Registered r a → Registered reg a)
    e.addresses _ r hr fun r' hr' _ _ hs => hr' (registered_unregisterEndpoint hs)

/-! ### Pods -/

namespace Pod

/-- A `PodReady` condition with status `True`. -/
def isReady (pod : Pod) : Bool :=
  pod.conditions.any fun c => c.type == "Ready" && c.status == "True"

/-- `antfly.io/workload-type`, `general` when empty. -/
def workloadType (pod : Pod) : String :=
  if labelValue pod.labels "antfly.io/workload-type" = "" then workloadTypeGeneral
  else labelValue pod.labels "antfly.io/workload-type"

/-- The port loop of `processPod`: in each container named `termite`, the first port named
    `http` or `api`; a later such container overrides an earlier one. -/
def port (pod : Pod) : Int :=
  pod.containers.foldl (fun port c =>
    if c.name = "termite" then
      match c.ports.find? (fun p => p.name == "http" || p.name == "api") with
      | some p => p.containerPort
      | none => port
    else port) 11433

end Pod

/-- `K8sWatcher`, with the label selector it was configured with. -/
structure K8sWatcher where
  labelSelector : Labels → Bool

namespace K8sWatcher

/-- `processPod`. -/
def processPod (w : K8sWatcher) (reg : Registry) (pod : Pod) : Registry :=
  if ¬w.labelSelector pod.labels then reg
  else if pod.phase ≠ "Running" ∨ pod.podIP = "" then reg
  else if pod.isReady then
    registerEndpoint reg (endpointAddress pod.podIP pod.port) (labelValue pod.labels "antfly.io/pool")
      pod.workloadType
  else unregisterEndpoint reg (endpointAddress pod.podIP pod.port)

/-- `onPodDelete`: the pod's IP at port `11433`. -/
def onPodDelete (reg : Registry) (pod : Pod) : Registry :=
  if pod.podIP ≠ "" then unregisterEndpoint reg ("http://" ++ pod.podIP ++ ":11433") else reg

/-- `onPodAdd` / `onPodUpdate` / `onPodDelete`; a tombstone panics. -/
def onPodEvent (w : K8sWatcher) (reg : Registry) : WatchEvent Pod → Option Registry
  | .add pod => some (w.processPod reg pod)
  | .update _ pod => some (w.processPod reg pod)
  | .delete (.object pod) => some (onPodDelete reg pod)
  | .delete (.tombstone _ _) => none

/-- The handler an event goes to. -/
def handle (w : K8sWatcher) (reg : Registry) : K8sEvent → Option Registry
  | .endpointSlice e => onEndpointSliceEvent reg e
  | .pod e => w.onPodEvent reg e

/-- Events handled one after the other; `none` from the first panic on. -/
def run (w : K8sWatcher) (reg : Registry) : List K8sEvent → Option Registry
  | [] => some reg
  | e :: es => (w.handle reg e).bind fun reg => w.run reg es

/-- The pod serves `a`: it is selected, running with an IP and ready, and `a` is its address. -/
def Serving (w : K8sWatcher) (pod : Pod) (a : String) : Prop :=
  w.labelSelector pod.labels = true ∧ pod.phase = "Running" ∧ pod.podIP ≠ "" ∧ pod.isReady = true ∧
    a = endpointAddress pod.podIP pod.port

/-- The addresses an event's object can justify: ready slice addresses and serving pods, of
    the version an add or update delivers. -/
def Registers (w : K8sWatcher) : K8sEvent → String → Prop
  | .endpointSlice (.add s), a | .endpointSlice (.update _ s), a => s.ReadyAddress a
  | .pod (.add pod), a | .pod (.update _ pod), a => w.Serving pod a
  | _, _ => False

theorem processPod_sound {w : K8sWatcher} {reg : Registry} {pod : Pod} {a : String}
    (h : Registered (w.processPod reg pod) a) : Registered reg a ∨ w.Serving pod a := by
  unfold processPod at h
  split at h
  · exact Or.inl h
  rename_i hsel
  split at h
  · exact Or.inl h
  rename_i hrun
  simp only [not_or, ne_eq, not_not] at hsel hrun
  split at h
  · rcases registered_registerEndpoint h with h | rfl
    · exact Or.inl h
    · exact Or.inr ⟨hsel, hrun.1, hrun.2, ‹_›, rfl⟩
  · exact Or.inl (registered_unregisterEndpoint h)

theorem onPodDelete_sound {reg : Registry} {pod : Pod} {a : String}
    (h : Registered (onPodDelete reg pod) a) : Registered reg a := by
  unfold onPodDelete at h
  split at h
  · exact registered_unregisterEndpoint h
  · exact h

/-- **Step lemma.** A handler registers only what its event's object justifies. -/
theorem handle_sound {w : K8sWatcher} {reg reg' : Registry} {e : K8sEvent} {a : String}
    (he : w.handle reg e = some reg') (h : Registered reg' a) : Registered reg a ∨ w.Registers e a := by
  rcases e with (s | ⟨_, s⟩ | (s | ⟨_, s⟩)) | (p | ⟨_, p⟩ | (p | ⟨_, p⟩)) <;>
    simp only [handle, onEndpointSliceEvent, onPodEvent, Option.some.injEq, reduceCtorEq] at he <;>
    subst he
  · exact processEndpointSlice_sound h
  · exact processEndpointSlice_sound h
  · exact Or.inl (unregisterSliceAddresses_sound h)
  · exact w.processPod_sound h
  · exact w.processPod_sound h
  · exact Or.inl (onPodDelete_sound h)

/-- **Run lemma.** Every address registered after a run was registered before it or is justified
    by the object of one of its adds or updates. -/
theorem run_sound (w : K8sWatcher) {a : String} :
    ∀ {reg reg' : Registry} {es : List K8sEvent}, w.run reg es = some reg' → Registered reg' a →
      Registered reg a ∨ ∃ e ∈ es, w.Registers e a := by
  intro reg reg' es
  induction es generalizing reg with
  | nil => intro h h'; simp only [run, Option.some.injEq] at h; subst h; exact Or.inl h'
  | cons e es ih =>
    intro h h'
    obtain ⟨mid, hmid, hrest⟩ := Option.bind_eq_some.mp h
    rcases ih hrest h' with h'' | ⟨e', he', hr⟩
    · rcases handle_sound hmid h'' with h3 | h3
      · exact Or.inl h3
      · exact Or.inr ⟨e, List.mem_cons_self e es, h3⟩
    · exact Or.inr ⟨e', List.mem_cons_of_mem e he', hr⟩

/-- A handler panics exactly on a tombstone. -/
theorem handle_eq_none_iff (w : K8sWatcher) (reg : Registry) (e : K8sEvent) :
    w.handle reg e = none ↔ e.isTombstone = true := by
  rcases e with (_ | _ | (_ | _)) | (_ | _ | (_ | _)) <;>
    simp [handle, onEndpointSliceEvent, onPodEvent, K8sEvent.isTombstone]

/-- **No panic but on tombstones.**  A run panics iff one of its notifications is a
    tombstone, whatever the registry and the other notifications. -/
theorem run_eq_none_iff (w : K8sWatcher) (reg : Registry) (es : List K8sEvent) :
    w.run reg es = none ↔ ∃ e ∈ es, e.isTombstone = true := by
  induction es generalizing reg with
  | nil => simp [run]
  | cons e es ih =>
    cases h : w.handle reg e with
    | none => simp [run, h, (handle_eq_none_iff w reg e).mp h]
    | some mid =>
      have he : e.isTombstone = false := by simpa [h] using (handle_eq_none_iff w reg e).not
      simp [run, h, ih, he]

end K8sWatcher

/-! ### What the informers report as existing -/

/-- The objects that exist, by informer key, each at its latest version. -/
structure Cluster where
  endpointSlices : List (String × EndpointSlice)
  pods : List (String × Pod)
  deriving DecidableEq

namespace Cluster

/-- The cluster after the change a notification reports. -/
def apply (c : Cluster) : K8sEvent → Cluster
  | .endpointSlice (.add s) | .endpointSlice (.update _ s) =>
    { c with endpointSlices := mapSet s.key s c.endpointSlices }
  | .endpointSlice (.delete (.object s)) => { c with endpointSlices := mapDelete s.key c.endpointSlices }
  | .endpointSlice (.delete (.tombstone k _)) => { c with endpointSlices := mapDelete k c.endpointSlices }
  | .pod (.add p) | .pod (.update _ p) => { c with pods := mapSet p.key p c.pods }
  | .pod (.delete (.object p)) => { c with pods := mapDelete p.key c.pods }
  | .pod (.delete (.tombstone k _)) => { c with pods := mapDelete k c.pods }

/-- The cluster after a sequence of notifications. -/
def applyAll (c : Cluster) (es : List K8sEvent) : Cluster := es.foldl apply c

end Cluster

/-- A termite slice whose one ready address is served on the port named `http`, `8080`. -/
def sliceOn8080 : EndpointSlice :=
  { key := "default/termite-pool-x", labels := [("kubernetes.io/service-name", "termite-pool")],
    ports := [⟨some "http", some 8080⟩], endpoints := [⟨["10.0.0.1"], some true⟩] }

/-- The slice is added, then deleted. -/
def addThenDelete : List K8sEvent :=
  [.endpointSlice (.add sliceOn8080), .endpointSlice (.delete (.object sliceOn8080))]

/-- After the slice is added and deleted nothing exists, yet its address is still registered:
    the delete unregistered `http://10.0.0.1:11433`. -/
theorem run_stale_after_delete (w : K8sWatcher) :
    w.run [] addThenDelete = some [("http://10.0.0.1:8080", ("pool", "general"))] ∧
      Cluster.applyAll ⟨[], []⟩ addThenDelete = ⟨[], []⟩ :=
  ⟨rfl, by decide⟩

/-- A watcher that selects every pod. -/
def selectAllWatcher : K8sWatcher := ⟨fun _ => true⟩

/-- The stale address after the run is justified by the slice's add. -/
theorem run_sound_addThenDelete :
    selectAllWatcher.run [] addThenDelete = some [("http://10.0.0.1:8080", ("pool", "general"))] ∧
      Registered [("http://10.0.0.1:8080", ("pool", "general"))] "http://10.0.0.1:8080" ∧
      (Registered [] "http://10.0.0.1:8080" ∨
        ∃ e ∈ addThenDelete, selectAllWatcher.Registers e "http://10.0.0.1:8080") :=
  have hrun : selectAllWatcher.run [] addThenDelete = some [("http://10.0.0.1:8080", ("pool", "general"))] := rfl
  have hreg : Registered [("http://10.0.0.1:8080", ("pool", "general"))] "http://10.0.0.1:8080" := rfl
  ⟨hrun, hreg, K8sWatcher.run_sound selectAllWatcher hrun hreg⟩

end Termite.Proxy
