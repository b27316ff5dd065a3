import FitzGo.Client.Sessions

/-!
# Which registrations a session carries

A reported session is complete when every registration in the tables was
acknowledged on its connection. The invariant says, for each domain, whether it
is still to be restored, being restored, or carried.
-/

namespace FitzGo.Client.Sessions

open StepMachine

@[simp] theorem mem_allDomains (domain : Domain) : domain ∈ allDomains := by
  cases domain <;> decide

theorem allDomains_nodup : allDomains.Nodup := by
  decide

def AckedBy (table : List Registration) (conn : Nat) : Prop :=
  ∀ registration ∈ table, registration.acked = conn

def Connecting.conn? : Connecting → Option Nat
  | .idle => none
  | .replacing conn _ => some conn

def Loop.left : Loop → List Domain
  | .idle => []
  | .replacing _ _ => allDomains
  | .restoring _ left | .wiring _ _ left _ _
  | .sent _ _ left _ _ _ _ => left

def Undisturbed (state : State) (conn : Nat) : Prop :=
  state.current = some conn ∨ state.current = none

def WillRestore (state : State) (domain : Domain) : Prop :=
  domain ∈ state.loop.left ∧ (state.current = state.loop.conn? ∨ state.current = none)

/-- A registration acknowledged on `conn` may enter the table. -/
def Fits (state : State) (domain : Domain) (conn : Nat) : Prop :=
  Undisturbed state conn ∨ WillRestore state domain

def Carrying (state : State) : Event → Prop
  | .connectStore _ => ∀ domain ∈ allDomains, state.table domain = []
  | .connectReplace conn _ _ => Undisturbed state conn
  | .connectReport conn => state.alive conn = true → state.current = some conn
  | .restoreCommit conn _ _ _ => Undisturbed state conn
  | .insert _ domain _ conn => Fits state domain conn
  | .lose _ | .monitorClear _ | .loopStore _ | .loopReplace _ _ _
  | .loopReplaced _ | .restoreBegin _ _ _ | .restoreSend _ _ _ _ _ _ _
  | .restoreAck _ _ _ _ _ _ _ | .restoreFail _ | .loopReport _
  | .subscribe _ _ _ | .send _ _ _ _ | .ack _ _ _ _
  | .failSubscribe _ _ _ | .unsubscribe _ _ => True

instance (state : State) (conn : Nat) : Decidable (Undisturbed state conn) := by
  unfold Undisturbed
  infer_instance

instance (state : State) (domain : Domain) (conn : Nat) : Decidable (Fits state domain conn) := by
  unfold Fits WillRestore
  infer_instance

instance (state : State) (event : Event) : Decidable (Carrying state event) := by
  rcases event with ⟨⟩ <;> dsimp only [Carrying] <;> infer_instance

/-- The loop is restoring one domain on `conn`: the domains before it are
carried, and what its own table has is covered by the snapshot's keys. -/
structure Restoring (domainConn : Domain → Option Nat) (table : Domain → List Registration)
    (conn : Nat) (domain : Domain) (left : List Domain)
    (keys : List String) (done : List Registration) : Prop where
  connected : ∀ other, domainConn other = some conn
  carried : ∀ other, other ∉ left → other ≠ domain → AckedBy (table other) conn
  distinct : (domain :: left).Nodup
  acked : AckedBy done conn
  covered : ∀ registration ∈ table domain, registration.key ∈ keys ∨ registration.acked = conn

def Progress (domainConn : Domain → Option Nat)
    (table : Domain → List Registration) (conn : Nat) : Loop → Prop
  | .idle => True
  | .replacing _ left => ∀ domain, domain ∉ left → domainConn domain = some conn
  | .restoring _ left =>
    (∀ domain, domainConn domain = some conn) ∧
      (∀ domain, domain ∉ left → AckedBy (table domain) conn) ∧
      left.Nodup
  | .wiring _ domain left todo done =>
    Restoring domainConn table conn domain left (done.map Registration.key ++ todo) done
  | .sent _ domain left key via todo done =>
    via = conn ∧
      Restoring domainConn table conn domain left (done.map Registration.key ++ key :: todo) done

structure Carries (state : State) : Prop where
  connectUsed : ∀ conn, state.connect.conn? = some conn → state.used conn = true
  loopUsed : ∀ conn, state.loop.conn? = some conn → state.used conn = true
  apart : ∀ conn, state.connect.conn? = some conn → state.loop.conn? ≠ some conn
  establishedApart : ∀ conn, state.established = some conn → state.loop.conn? ≠ some conn
  established : ∀ conn, state.established = some conn → state.alive conn = true →
    state.current = some conn ∧ ∀ domain, AckedBy (state.table domain) conn
  connecting : ∀ conn, state.connect.conn? = some conn → state.current = some conn →
    ∀ domain, AckedBy (state.table domain) conn
  loop : ∀ conn, state.loop.conn? = some conn → state.alive conn = true →
    state.current = some conn ∧ Progress state.domainConn state.table conn state.loop

theorem initial_carries : Carries initial := by
  constructor
  all_goals
    intro conn same
    simp only [initial, Connecting.conn?, Loop.conn?, reduceCtorEq] at same

section Tables

theorem commitInto_ackedBy {domain : Domain} {table done : List Registration} {conn : Nat}
    (acked : AckedBy done conn)
    (covered : ∀ registration ∈ table, registration.key ∈ done.map Registration.key ∨
      registration.acked = conn) : AckedBy (commitInto domain table done) conn := by
  have updated : ∀ old ∈ table, ((done.find? fun new => new.key = old.key).getD old).acked =
          conn := by
    intro old member
    cases found : done.find? fun new => new.key = old.key with
    | none =>
      have absent : old.key ∉ done.map Registration.key := by
        intro present
        obtain ⟨new, isDone, sameKey⟩ := List.mem_map.mp present
        have differs := List.find?_eq_none.mp found new isDone
        exact differs (decide_eq_true sameKey)
      exact (covered old member).resolve_left absent
    | some new => exact acked new (List.mem_of_find?_eq_some found)
  intro registration member
  cases domain with
  | lease => exact acked registration member
  | rpc =>
    rcases List.mem_append.mp member with kept | isDone
    · obtain ⟨old, absent⟩ := List.mem_filter.mp kept
      exact (covered registration old).resolve_left (of_decide_eq_true absent)
    · exact acked registration isDone
  | kv | notice | queue | stream | schedule =>
    obtain ⟨old, isOld, same⟩ := List.mem_map.mp member
    rw [← same]
    exact updated old isOld

theorem mem_insertInto {domain : Domain} {table : List Registration}
    {inserted registration : Registration}
    (member : registration ∈ insertInto domain table inserted) :
    registration ∈ table ∨ registration = inserted := by
  unfold insertInto at member
  split at member
  · rcases List.mem_append.mp member with old | new
    · exact Or.inl (List.mem_filter.mp old).1
    · exact Or.inr (List.mem_singleton.mp new)
  · rcases List.mem_append.mp member with old | new
    · exact Or.inl old
    · exact Or.inr (List.mem_singleton.mp new)

end Tables

section Changes

variable {domainConn : Domain → Option Nat} {old table : Domain → List Registration} {conn : Nat}

theorem AckedBy.of_fits {domain : Domain} (acked : AckedBy (old domain) conn)
    (fits : ∀ registration ∈ table domain, registration ∈ old domain ∨ registration.acked = conn) :
    AckedBy (table domain) conn := by
  intro registration member
  rcases fits registration member with isOld | new
  · exact acked registration isOld
  · exact new

theorem Restoring.changeTables {domain : Domain} {left : List Domain} {keys : List String}
    {done : List Registration} (restoring : Restoring domainConn old conn domain left keys done)
    (fits : ∀ other, other ∉ left → ∀ registration ∈ table other,
      registration ∈ old other ∨ registration.acked = conn) :
    Restoring domainConn table conn domain left keys done := by
  have notLeft : domain ∉ left := (List.nodup_cons.mp restoring.distinct).1
  refine { restoring with
      carried := ?_
      covered := ?_ }
  · intro other outside different
    exact (restoring.carried other outside different).of_fits (fits other outside)
  · intro registration member
    rcases fits domain notLeft registration member with isOld | new
    · exact restoring.covered registration isOld
    · exact Or.inr new

theorem progress_changeTables {loop : Loop}
    (fits : ∀ other, other ∉ loop.left → ∀ registration ∈ table other,
      registration ∈ old other ∨ registration.acked = conn)
    (progress : Progress domainConn old conn loop) : Progress domainConn table conn loop := by
  cases loop with
  | idle => trivial
  | replacing => exact progress
  | restoring =>
    obtain ⟨connected, carried, distinct⟩ := progress
    exact ⟨connected, fun domain outside => (carried domain outside).of_fits (fits domain outside),
      distinct⟩
  | wiring => exact progress.changeTables fits
  | sent =>
    obtain ⟨viaLoop, restoring⟩ := progress
    exact ⟨viaLoop, restoring.changeTables fits⟩

end Changes

end FitzGo.Client.Sessions
