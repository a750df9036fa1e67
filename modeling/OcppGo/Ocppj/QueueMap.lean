import Mathlib.Data.List.AList
import OcppGo.Ocppj.Queue

namespace OcppGo
namespace Ocppj

/-!
# Queues by client

`FIFOQueueMap` hands out references to its queues.  A queue that was removed from the
map, or detached with all others, lives on for the goroutines that still hold a
reference to it, so the queues are kept apart from the map.
-/

/-- A bundle in a queue, with the client it was pushed for. -/
structure ClientEntry (P : Type) extends Entry P where
  client : String
  deriving DecidableEq

/-- The identity of a queue object.  The client and the generation it was made for are part
of the identity; the code never looks at either. -/
structure QueueRef where
  client : String
  gen : Nat
  num : Nat
  deriving DecidableEq

/-- `FIFOQueueMap` together with all queues it has made. -/
structure FIFOQueueMap (α : Type) where
  data : AList (fun _ : String => QueueRef)
  queueCapacity : Nat
  queues : QueueRef -> FIFOClientQueue α
  made : Nat

namespace FIFOQueueMap

variable {α : Type}

def new (queueCapacity : Nat) : FIFOQueueMap α := ⟨∅, queueCapacity, fun _ => .new queueCapacity, 0⟩

def get (map : FIFOQueueMap α) (clientID : String) : Option QueueRef := map.data.lookup clientID

/-- `GetOrCreate` in the given generation. -/
def getOrCreate (map : FIFOQueueMap α) (gen : Nat) (clientID : String) : FIFOQueueMap α :=
  match map.get clientID with
  | some _ => map
  | none =>
    let queue : QueueRef := ⟨clientID, gen, map.made⟩
    { map with
      data := map.data.insert clientID queue
      queues := Function.update map.queues queue (.new map.queueCapacity)
      made := map.made + 1 }

def remove (map : FIFOQueueMap α) (clientID : String) : FIFOQueueMap α :=
  { map with data := map.data.erase clientID }

/-- The detached queues by client, and the emptied map. -/
def drainAll (map : FIFOQueueMap α) : List (Sigma fun _ : String => QueueRef) × FIFOQueueMap α :=
  (map.data.entries, { map with data := ∅ })

/-- A change of one queue. -/
def set (map : FIFOQueueMap α) (queue : QueueRef) (content : FIFOClientQueue α) : FIFOQueueMap α :=
  { map with queues := Function.update map.queues queue content }

end FIFOQueueMap

end Ocppj
end OcppGo
