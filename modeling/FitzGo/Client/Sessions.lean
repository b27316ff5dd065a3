import Mathlib.Logic.Function.Basic
import FitzGo.Library.StepMachine

/-!
# Registrations over the sessions of a client

`Connect` attaches a new connection when none is current; the reconnect loop
attaches one and then restores the registrations. The broker drops the
registrations of a session when its connection ends.

A registration carries the connection that has acknowledged it last;
`established` is the last connection that was alive when its establishment
reported success.
-/

namespace FitzGo.Client.Sessions

open StepMachine

inductive Domain
  | kv
  | notice
  | queue
  | rpc
  | stream
  | lease
  | schedule
  deriving DecidableEq

/-- The order of `replaceDomainConnections` and `restoreDomainSubscriptions`. -/
def allDomains : List Domain :=
  [.kv, .notice, .queue, .rpc, .stream, .lease, .schedule]

/-- The table of the domain is a `subscriptions.Registry`. -/
def Domain.usesRegistry : Domain → Bool
  | .kv | .notice | .queue | .stream | .schedule => true
  | .rpc | .lease => false

structure Registration where
  key : String
  acked : Nat
  deriving DecidableEq

inductive Call
  | idle
  | begun (domain : Domain) (key : String)
  | sent (domain : Domain) (key : String) (conn : Nat)
  | acked (domain : Domain) (key : String) (conn : Nat)
  | finished
  deriving DecidableEq

/-- `Connect` between the store of its connection and its return. -/
inductive Connecting
  | idle
  | replacing (conn : Nat) (left : List Domain)
  deriving DecidableEq

/-- The reconnect loop after the store of its connection: it replaces the
connections of the domains, then it restores them one by one. `wiring` has the
keys of the snapshot that are left, and the registrations done. -/
inductive Loop
  | idle
  | replacing (conn : Nat) (left : List Domain)
  | restoring (conn : Nat) (left : List Domain)
  | wiring (conn : Nat) (domain : Domain) (left : List Domain)
      (todo : List String) (done : List Registration)
  | sent (conn : Nat) (domain : Domain) (left : List Domain) (key : String) (via : Nat)
      (todo : List String) (done : List Registration)
  deriving DecidableEq

structure State where
  used : Nat → Bool
  alive : Nat → Bool
  current : Option Nat
  domainConn : Domain → Option Nat
  table : Domain → List Registration
  pending : Domain → List String
  calls : Nat → Call
  connect : Connecting
  loop : Loop
  established : Option Nat

def initial : State where
  used _ := false
  alive _ := false
  current := none
  domainConn _ := none
  table _ := []
  pending _ := []
  calls _ := .idle
  connect := .idle
  loop := .idle
  established := none

inductive Event
  | lose (conn : Nat)
  | monitorClear (conn : Nat)
  | connectStore (conn : Nat)
  | connectReplace (conn : Nat) (domain : Domain) (left : List Domain)
  | connectReport (conn : Nat)
  | loopStore (conn : Nat)
  | loopReplace (conn : Nat) (domain : Domain) (left : List Domain)
  | loopReplaced (conn : Nat)
  | restoreBegin (conn : Nat) (domain : Domain) (left : List Domain)
  | restoreSend (conn : Nat) (domain : Domain) (left : List Domain) (key : String) (via : Nat)
      (todo : List String) (done : List Registration)
  | restoreAck (conn : Nat) (domain : Domain) (left : List Domain) (key : String) (via : Nat)
      (todo : List String) (done : List Registration)
  | restoreCommit (conn : Nat) (domain : Domain) (left : List Domain) (done : List Registration)
  | restoreFail (conn : Nat)
  | loopReport (conn : Nat)
  | subscribe (call : Nat) (domain : Domain) (key : String)
  | send (call : Nat) (domain : Domain) (key : String) (conn : Nat)
  | ack (call : Nat) (domain : Domain) (key : String) (conn : Nat)
  | insert (call : Nat) (domain : Domain) (key : String) (conn : Nat)
  | failSubscribe (call : Nat) (domain : Domain) (key : String)
  | unsubscribe (domain : Domain) (registration : Registration)

def Call.target? : Call → Option (Domain × String)
  | .begun domain key | .sent domain key _ | .acked domain key _ => some (domain, key)
  | .idle | .finished => none

def Loop.conn? : Loop → Option Nat
  | .idle => none
  | .replacing conn _ | .restoring conn _ | .wiring conn _ _ _ _
  | .sent conn _ _ _ _ _ _ => some conn

def Loop.restoringDomain? : Loop → Option Domain
  | .wiring _ domain _ _ _ | .sent _ domain _ _ _ _ _ => some domain
  | .idle | .replacing _ _ | .restoring _ _ => none

namespace State

def registryRestoring (state : State) (domain : Domain) : Bool :=
  domain.usesRegistry ∧ state.loop.restoringDomain? = some domain

/-- `Subscribe` adds a handler to the existing entry, and `RegisterWorker`
refuses a route it has; the lease client subscribes again. -/
def reuses (state : State) (domain : Domain) (key : String) : Bool :=
  domain ≠ .lease ∧ key ∈ (state.table domain).map Registration.key

def setTable (state : State) (domain : Domain) (table : List Registration) : State :=
  { state with table := Function.update state.table domain table }

end State

/-- A new registration enters its table; the RPC table has one per route. -/
def insertInto (domain : Domain) (table : List Registration)
    (registration : Registration) : List Registration :=
  if domain = .rpc then table.filter (fun old => old.key ≠ registration.key) ++ [registration]
  else table ++ [registration]

/-- The end of a successful `RestoreSubscriptions`: a registry updates its
entries, the lease client replaces its map by the restored snapshot, the RPC
client copies the snapshot over its map. -/
def commitInto (domain : Domain) (table done : List Registration) : List Registration :=
  match domain with
  | .lease => done
  | .rpc => table.filter (fun old => old.key ∉ done.map Registration.key) ++ done
  | .kv | .notice | .queue | .stream | .schedule =>
    table.map fun old => (done.find? fun new => new.key = old.key).getD old

def Enabled (state : State) : Event → Prop
  | .lose conn => state.alive conn = true
  | .monitorClear conn => state.current = some conn ∧ state.alive conn = false
  | .connectStore conn => state.connect = .idle ∧ state.current = none ∧ state.used conn = false
  | .connectReplace conn domain left => state.connect = .replacing conn (domain :: left)
  | .connectReport conn => state.connect = .replacing conn []
  | .loopStore conn => state.loop = .idle ∧ state.used conn = false
  | .loopReplace conn domain left => state.loop = .replacing conn (domain :: left)
  | .loopReplaced conn => state.loop = .replacing conn []
  | .restoreBegin conn domain left =>
    state.loop = .restoring conn (domain :: left) ∧
      (domain.usesRegistry = true → state.pending domain = [])
  | .restoreSend conn domain left key via todo done =>
    state.loop = .wiring conn domain left (key :: todo) done ∧ state.domainConn domain = some via
  | .restoreAck conn domain left key via todo done =>
    state.loop = .sent conn domain left key via todo done ∧ state.alive via = true
  | .restoreCommit conn domain left done => state.loop = .wiring conn domain left [] done
  | .restoreFail conn => state.loop.conn? = some conn ∧ state.loop.restoringDomain?.isSome = true
  | .loopReport conn => state.loop = .restoring conn []
  | .subscribe call domain key =>
    state.calls call = .idle ∧
      state.registryRestoring domain = false ∧
      key ∉ state.pending domain
  | .send call domain key conn =>
    state.calls call = .begun domain key ∧ state.domainConn domain = some conn
  | .ack call domain key conn => state.calls call = .sent domain key conn ∧ state.alive conn = true
  | .insert call domain key conn => state.calls call = .acked domain key conn
  | .failSubscribe call domain key => (state.calls call).target? = some (domain, key)
  | .unsubscribe domain _ => state.registryRestoring domain = false

instance (state : State) (event : Event) : Decidable (Enabled state event) := by
  cases event <;> dsimp only [Enabled] <;> infer_instance

/-- `c.conn.Store`, with a connection that was just dialled; a domain client
that does not exist yet is created with it. -/
def store (state : State) (conn : Nat) : State :=
  { state with
    used := Function.update state.used conn true
    alive := Function.update state.alive conn true
    current := some conn
    domainConn := fun domain => some ((state.domainConn domain).getD conn)
    established := none }

def report (state : State) (conn : Nat) : State :=
  { state with
    established :=
      if state.alive conn then some conn else state.established }

def next (state : State) : Event → State
  | .lose conn => { state with alive := Function.update state.alive conn false }
  | .monitorClear _ => { state with current := none }
  | .connectStore conn => { store state conn with connect := .replacing conn allDomains }
  | .connectReplace conn domain left =>
    { state with
      domainConn := Function.update state.domainConn domain (some conn)
      connect := .replacing conn left }
  | .connectReport conn => { report state conn with connect := .idle }
  | .loopStore conn => { store state conn with loop := .replacing conn allDomains }
  | .loopReplace conn domain left =>
    { state with
      domainConn := Function.update state.domainConn domain (some conn)
      loop := .replacing conn left }
  | .loopReplaced conn => { state with loop := .restoring conn allDomains }
  | .restoreBegin conn domain left =>
    { state with
      loop := .wiring conn domain left ((state.table domain).map Registration.key) [] }
  | .restoreSend conn domain left key via todo done =>
    { state with loop := .sent conn domain left key via todo done }
  | .restoreAck conn domain left key via todo done =>
    { state with loop := .wiring conn domain left todo (done ++ [⟨key, via⟩]) }
  | .restoreCommit conn domain left done =>
    { state.setTable domain (commitInto domain (state.table domain) done)
      with loop := .restoring conn left }
  | .restoreFail conn =>
    { state with
      alive := Function.update state.alive conn false
      loop := .idle }
  | .loopReport conn => { report state conn with loop := .idle }
  | .subscribe call domain key =>
    { state with
      pending :=
        if domain.usesRegistry ∧ ¬ state.reuses domain key then
          Function.update state.pending domain (key :: state.pending domain)
        else state.pending
      calls := Function.update state.calls call (if state.reuses domain key then .finished
            else .begun domain key) }
  | .send call domain key conn =>
    { state with
      calls := Function.update state.calls call (.sent domain key conn) }
  | .ack call domain key conn =>
    { state with
      calls := Function.update state.calls call (.acked domain key conn) }
  | .insert call domain key conn =>
    { state.setTable domain (insertInto domain (state.table domain) ⟨key, conn⟩) with
      pending := Function.update state.pending domain ((state.pending domain).filter (· ≠ key))
      calls := Function.update state.calls call .finished }
  | .failSubscribe call domain key =>
    { state with
      pending := Function.update state.pending domain ((state.pending domain).filter (· ≠ key))
      calls := Function.update state.calls call .finished }
  | .unsubscribe domain registration =>
    state.setTable domain ((state.table domain).erase registration)

def step : State → Event → Option State :=
  guarded Enabled next

end FitzGo.Client.Sessions
