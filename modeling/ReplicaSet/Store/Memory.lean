import ReplicaSet.Store.Request

/-!
A replicated store in memory. It replicates nothing; it keeps the configuration of one set and
answers requests under the conditions under which a real store would.
-/
namespace ReplicaSet

/-- A process of the store. -/
structure Node where
  available : Bool
  endpoint : String
deriving DecidableEq, Repr

structure Store where
  /-- The name of the set, once it was founded. -/
  setName : Option String := none
  /-- The number and the key of each configured member, in increasing order of numbers. -/
  configuration : List (Nat × String) := []
  /-- The key of the node that is primary. -/
  primaryKey : Option String := none
  /-- The nodes that were ever started, each under its key. -/
  nodes : List (String × Node) := []
deriving DecidableEq, Repr

namespace Store

def node? (store : Store) (key : String) : Option Node :=
  (store.nodes.find? fun entry => entry.1 = key).map Prod.snd

/-- Whether the node runs. A node that was never started does not. -/
def isAvailable (store : Store) (key : String) : Bool :=
  (store.node? key).any Node.available

def isConfigured (store : Store) (key : String) : Bool :=
  store.configuration.any fun entry => entry.2 = key

/-- The key that is configured under the number. -/
def holder? (store : Store) (id : Nat) : Option String :=
  (store.configuration.find? fun entry => entry.1 = id).map Prod.snd

/-! ### Nodes -/

/-- Puts a node under its key, in place of one that was there. -/
def putNode (key : String) (node : Node) : List (String × Node) → List (String × Node)
  | [] => [(key, node)]
  | entry :: rest => if entry.1 = key then (key, node) :: rest else entry :: putNode key node rest

/-- Starts a node. It runs, and is part of no set until it founds one or is added. -/
def startNode (store : Store) (key endpoint : String) : Store :=
  { store with nodes := putNode key ⟨true, endpoint⟩ store.nodes }

/-- Starts or stops a node that was started before. A primary that stops leaves the set without
one until another is elected. -/
def setAvailable (store : Store) (key : String) (available : Bool) : Store :=
  { store with
    nodes := store.nodes.map fun entry =>
      if entry.1 = key then (key, { entry.2 with available := available }) else entry
    primaryKey := if !available ∧ store.primaryKey = some key then none else store.primaryKey }

/-- What a node says of itself. A node that does not run, or is not configured, knows neither its
role nor the primary. -/
def face (store : Store) (key : String) : Face :=
  let isMember := store.isAvailable key && store.isConfigured key
  { available := store.isAvailable key
    role := if !isMember then .unknown
      else if store.primaryKey = some key then .primary else .secondary
    endpoint := (store.node? key).map Node.endpoint
    primaryEndpoint :=
      if isMember then (store.primaryKey.bind store.node?).map Node.endpoint else none }

/-! ### Requests -/

/-- Puts a member under its number, in place of one that was there. -/
def putMember (id : Nat) (key : String) :
    List (Nat × String) → List (Nat × String)
  | [] => [(id, key)]
  | entry :: rest =>
    if id < entry.1 then (id, key) :: entry :: rest
    else if id = entry.1 then (id, key) :: rest
    else entry :: putMember id key rest

/-- Why the node cannot change the configuration, if it cannot: it does not run, or runs and is
not primary. -/
def objectionTo? (store : Store) (via : String) : Option StoreError :=
  if !store.isAvailable via then some (.connectionRefused via)
  else if store.primaryKey ≠ some via then some (.rejected (.notPrimary via))
  else none

/-- Why a request through the node of key `via` fails, if it does. A set is founded once. What is
added has to run, and neither it nor its number may be configured; what is removed must not run. -/
def objection? (store : Store) (via : String) : Request → Option StoreError
  | .found _ _ =>
    if !store.isAvailable via then some (.connectionRefused via)
    else store.setName.map fun existing => .rejected (.alreadyFounded existing)
  | .add key id =>
    (store.objectionTo? via).or <|
      if !store.isAvailable key then some (.rejected (.unreachable key))
      else if store.isConfigured key then some (.rejected (.alreadyMember key))
      else (store.holder? id).map fun holder => .rejected (.idTaken id holder)
  | .remove key =>
    (store.objectionTo? via).or <|
      if store.isAvailable key then some (.rejected (.stillRunning key)) else none

/-- What a request does that nothing speaks against. Founding makes the addressed node the
primary. Removing a member that is not configured changes nothing. -/
def carryOut (store : Store) (via : String) : Request → Store
  | .found setName id =>
    { store with
      setName := some setName
      configuration := putMember id via store.configuration
      primaryKey := some via }
  | .add key id => { store with configuration := putMember id key store.configuration }
  | .remove key =>
    { store with configuration := store.configuration.filter fun entry => entry.2 ≠ key }

/-- Serves a request that is made through the node of key `via`. -/
def serve (store : Store) (via : String) (request : Request) : StoreAnswer × Store :=
  match store.objection? via request with
  | some cause => (.error cause, store)
  | none => (.ok (), store.carryOut via request)

/-- Why the node of this key cannot win an election, if it cannot: it does not run, or is not
configured. -/
def electionObjection? (store : Store) (key : String) : Option StoreError :=
  if !store.isAvailable key then some (.connectionRefused key)
  else if !store.isConfigured key then some (.rejected (.notMember key))
  else none

/-- Holds an election that the node of this key wins, if it can. -/
def elect (store : Store) (key : String) : StoreAnswer × Store :=
  match store.electionObjection? key with
  | some cause => (.error cause, store)
  | none => (.ok (), { store with primaryKey := some key })

end Store

end ReplicaSet
