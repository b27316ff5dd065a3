import FitzGo.Client.SessionTables

/-!
# What one step does to the sessions

One lemma for each kind of step, from `Carries` before it to `Carries` after
it.
-/

namespace FitzGo.Client.Sessions

open StepMachine

section Steps

variable {state : State} {before loop : Loop} {domainConn : Domain → Option Nat}
variable {table : Domain → List Registration} (inv : Carries state)
include inv

theorem Carries.calls (pending : Domain → List String) (calls : Nat → Call) :
    Carries { state with pending := pending, calls := calls } :=
  { connectUsed := inv.connectUsed
    loopUsed := inv.loopUsed
    apart := inv.apart
    establishedApart := inv.establishedApart
    established := inv.established
    connecting := inv.connecting
    loop := inv.loop }

theorem Carries.lose (conn : Nat) : Carries
      { state with alive := Function.update state.alive conn false } := by
  have wasAlive : ∀ other, Function.update state.alive conn false other = true →
        state.alive other = true := by
    intro other isAlive
    by_cases same : other = conn
    · rw [same, Function.update_self] at isAlive
      contradiction
    · rwa [Function.update_of_ne same] at isAlive
  exact { inv with
      established := fun other isEstablished isAlive =>
        inv.established other isEstablished (wasAlive other isAlive)
      loop := fun other isLoop isAlive => inv.loop other isLoop (wasAlive other isAlive) }

theorem Carries.loopIdle : Carries { state with loop := .idle } :=
  { inv with
    loopUsed := nofun
    apart := nofun
    establishedApart := nofun
    loop := nofun }

section Loop

variable (atLoop : state.loop = before) (sameConn : loop.conn? = before.conn?)
include atLoop sameConn

theorem Carries.loopAdvances
    (established : ∀ conn, state.established = some conn → state.alive conn = true →
      ∀ domain, AckedBy (table domain) conn)
    (connecting : ∀ conn, state.connect.conn? = some conn → state.current = some conn →
      ∀ domain, AckedBy (table domain) conn)
    (progress : ∀ conn, before.conn? = some conn → state.current = some conn →
      Progress state.domainConn state.table conn before → Progress domainConn table conn loop) :
    Carries { state with domainConn, table, loop } := by
  subst atLoop
  exact
    { connectUsed := inv.connectUsed
      loopUsed := fun conn isLoop => inv.loopUsed conn (sameConn ▸ isLoop)
      apart := fun conn isConnect isLoop => inv.apart conn isConnect (sameConn ▸ isLoop)
      establishedApart := fun conn isEstablished isLoop =>
        inv.establishedApart conn isEstablished (sameConn ▸ isLoop)
      established := fun conn isEstablished isAlive =>
        ⟨(inv.established conn isEstablished isAlive).1, established conn isEstablished isAlive⟩
      connecting := connecting
      loop := by
        intro conn isLoop isAlive
        have wasLoop : state.loop.conn? = some conn := sameConn ▸ isLoop
        obtain ⟨current, made⟩ := inv.loop conn wasLoop isAlive
        exact ⟨current, progress conn wasLoop current made⟩ }

theorem Carries.loopMoves (progress : ∀ conn, before.conn? = some conn →
      Progress state.domainConn state.table conn before →
      Progress domainConn state.table conn loop) :
    Carries { state with domainConn, loop } :=
  inv.loopAdvances atLoop sameConn
    (fun conn isEstablished isAlive => (inv.established conn isEstablished isAlive).2)
    inv.connecting fun conn isLoop _ => progress conn isLoop

end Loop

variable {conn : Nat}

theorem Carries.monitorClear (current : state.current = some conn)
    (dead : state.alive conn = false) :
    Carries { state with current := none } := by
  have notCurrent : ∀ other, state.alive other = true → state.current ≠ some other := by
    intro other isAlive isCurrent
    rw [current, Option.some.injEq] at isCurrent
    rw [← isCurrent, dead] at isAlive
    contradiction
  exact { inv with
      established := fun other isEstablished isAlive =>
        absurd (inv.established other isEstablished isAlive).1 (notCurrent other isAlive)
      connecting := fun _ _ isCurrent => nomatch isCurrent
      loop := fun other isLoop isAlive =>
        absurd (inv.loop other isLoop isAlive).1 (notCurrent other isAlive) }

theorem Carries.connectStore (free : state.current = none) (fresh : state.used conn = false)
    (empty : ∀ domain, state.table domain = []) :
    Carries { store state conn with connect := .replacing conn allDomains } := by
  have notLoop : state.loop.conn? ≠ some conn := by
    intro isLoop
    have isUsed := inv.loopUsed conn isLoop
    rw [fresh] at isUsed
    contradiction
  refine
    { connectUsed := ?_
      loopUsed := ?_
      apart := ?_
      establishedApart := nofun
      established := nofun
      connecting := ?_
      loop := ?_ }
  · intro other isConnect
    have same : conn = other := Option.some.inj isConnect
    simp only [store, same, Function.update_self]
  · intro other isLoop
    have different : other ≠ conn := fun same => notLoop (same ▸ isLoop)
    simp only [store, Function.update_of_ne different]
    exact inv.loopUsed other isLoop
  · intro other isConnect
    have same : conn = other := Option.some.inj isConnect
    exact same ▸ notLoop
  · intro other _ _ domain registration member
    have present : registration ∈ state.table domain := member
    rw [empty domain] at present
    exact absurd present List.not_mem_nil
  · intro other isLoop isAlive
    have different : other ≠ conn := fun same => notLoop (same ▸ isLoop)
    simp only [store, Function.update_of_ne different] at isAlive
    have current := (inv.loop other isLoop isAlive).1
    rw [free] at current
    contradiction

theorem Carries.loopStore (fresh : state.used conn = false) : Carries
      { store state conn with loop := .replacing conn allDomains } := by
  have notConnect : state.connect.conn? ≠ some conn := by
    intro isConnect
    have isUsed := inv.connectUsed conn isConnect
    rw [fresh] at isUsed
    contradiction
  refine
    { connectUsed := ?_
      loopUsed := ?_
      apart := ?_
      establishedApart := nofun
      established := nofun
      connecting := ?_
      loop := ?_ }
  · intro other isConnect
    have different : other ≠ conn := fun same => notConnect (same ▸ isConnect)
    simp only [store, Function.update_of_ne different]
    exact inv.connectUsed other isConnect
  · intro other isLoop
    have same : conn = other := Option.some.inj isLoop
    simp only [store, same, Function.update_self]
  · intro other isConnect isLoop
    have same : conn = other := Option.some.inj isLoop
    exact notConnect (same ▸ isConnect)
  · intro other isConnect isCurrent
    have same : conn = other := Option.some.inj isCurrent
    exact absurd (same ▸ isConnect) notConnect
  · intro other isLoop _
    have same : conn = other := Option.some.inj isLoop
    refine ⟨congrArg some same, ?_⟩
    intro domain notLeft
    exact absurd (mem_allDomains domain) notLeft

variable {domain : Domain} {left : List Domain}

/-- `Connect` sets the connection of a domain while its own is the last one
stored, so no loop is at work on a live connection. -/
theorem Carries.connectReplace (atConnect : state.connect = .replacing conn (domain :: left))
    (undisturbed : Undisturbed state conn) :
    Carries { state with
        domainConn := Function.update state.domainConn domain (some conn)
        connect := .replacing conn left } := by
  have isConnect : state.connect.conn? = some conn := by
    rw [atConnect]
    rfl
  refine { inv with
      connectUsed := ?_
      apart := ?_
      connecting := ?_
      loop := ?_ }
  · intro other same
    exact inv.connectUsed other (isConnect.trans same)
  · intro other same
    exact inv.apart other (isConnect.trans same)
  · intro other same
    exact inv.connecting other (isConnect.trans same)
  · intro other isLoop isAlive
    have current := (inv.loop other isLoop isAlive).1
    rcases undisturbed with own | cleared
    · rw [own, Option.some.injEq] at current
      exact absurd (current ▸ isLoop) (inv.apart conn isConnect)
    · rw [cleared] at current
      contradiction

theorem Carries.loopReplace (atLoop : state.loop = .replacing conn (domain :: left)) : Carries
      { state with
        domainConn := Function.update state.domainConn domain (some conn)
        loop := .replacing conn left } := by
  refine inv.loopMoves atLoop rfl fun other same progress => ?_
  have sameConn : conn = other := Option.some.inj same
  intro candidate notLeft
  change Function.update state.domainConn domain (some conn) candidate = some other
  by_cases replaced : candidate = domain
  · rw [replaced, Function.update_self, sameConn]
  · rw [Function.update_of_ne replaced]
    exact progress candidate (List.not_mem_cons_of_ne_of_not_mem replaced notLeft)

theorem Carries.connectReport (atConnect : state.connect.conn? = some conn)
    (isCurrent : state.alive conn = true → state.current = some conn) :
    Carries { report state conn with connect := .idle } := by
  refine { inv with
      connectUsed := nofun
      apart := nofun
      establishedApart := ?_
      established := ?_
      connecting := nofun }
  · intro other isEstablished
    simp only [report] at isEstablished
    split at isEstablished
    · have same : conn = other := Option.some.inj isEstablished
      exact same ▸ inv.apart conn atConnect
    · exact inv.establishedApart other isEstablished
  · intro other isEstablished isAlive
    simp only [report] at isEstablished
    split at isEstablished
    · rename_i connAlive
      have same : conn = other := Option.some.inj isEstablished
      have current := isCurrent connAlive
      exact same ▸ ⟨current, inv.connecting conn atConnect current⟩
    · exact inv.established other isEstablished isAlive

theorem Carries.loopReport (atLoop : state.loop = .restoring conn []) :
    Carries { report state conn with loop := .idle } := by
  refine { inv with
      loopUsed := nofun
      apart := nofun
      establishedApart := nofun
      established := ?_
      loop := nofun }
  intro other isEstablished isAlive
  simp only [report] at isEstablished
  split at isEstablished
  · rename_i connAlive
    have same : conn = other := Option.some.inj isEstablished
    obtain ⟨current, progress⟩ := inv.loop conn (by rw [atLoop]; rfl) connAlive
    rw [atLoop] at progress
    obtain ⟨_, carried, _⟩ := progress
    exact same ▸ ⟨current, fun domain => carried domain List.not_mem_nil⟩
  · exact inv.established other isEstablished isAlive

theorem Carries.loopReplaced (atLoop : state.loop = .replacing conn []) :
    Carries { state with loop := .restoring conn allDomains } := by
  refine inv.loopMoves atLoop rfl fun other _ progress => ?_
  refine ⟨fun domain => progress domain List.not_mem_nil, ?_, allDomains_nodup⟩
  intro domain notLeft
  exact absurd (mem_allDomains domain) notLeft

theorem Carries.restoreBegin (atLoop : state.loop = .restoring conn (domain :: left)) : Carries
      { state with
        loop := .wiring conn domain left ((state.table domain).map Registration.key) [] } := by
  refine inv.loopMoves atLoop rfl fun other _ progress => ?_
  obtain ⟨connected, carried, distinct⟩ := progress
  exact
    { connected := connected
      carried := fun candidate notLeft different =>
        carried candidate (List.not_mem_cons_of_ne_of_not_mem different notLeft)
      distinct := distinct
      acked := fun _ member => absurd member List.not_mem_nil
      covered := fun registration member => Or.inl (List.mem_map_of_mem member) }

variable {done : List Registration}

/-- The request goes out on the connection of the domain client, which is the
loop's own once every domain has been switched over. -/
theorem Carries.restoreSend {key : String} {via : Nat} {todo : List String}
    (atLoop : state.loop = .wiring conn domain left (key :: todo) done)
    (sentVia : state.domainConn domain = some via) :
    Carries { state with loop := .sent conn domain left key via todo done } := by
  refine inv.loopMoves atLoop rfl fun other _ progress => ?_
  have viaLoop : via = other := by
    have connected := progress.connected domain
    rw [sentVia, Option.some.injEq] at connected
    exact connected
  exact ⟨viaLoop, progress⟩

theorem Carries.restoreAck {key : String} {via : Nat} {todo : List String}
    (atLoop : state.loop = .sent conn domain left key via todo done) :
    Carries { state with
        loop := .wiring conn domain left todo (done ++ [⟨key, via⟩]) } := by
  refine inv.loopMoves atLoop rfl fun other _ progress => ?_
  obtain ⟨viaLoop, restoring⟩ := progress
  have sameKeys : (done ++ [Registration.mk key via]).map Registration.key ++ todo =
        done.map Registration.key ++ key :: todo := by
    simp only [List.map_append, List.map_cons, List.map_nil,
      List.append_assoc, List.cons_append, List.nil_append]
  refine { restoring with
      acked := ?_
      covered := ?_ }
  · intro registration member
    rcases List.mem_append.mp member with earlier | new
    · exact restoring.acked registration earlier
    · rw [List.mem_singleton.mp new]
      exact viaLoop
  · rw [sameKeys]
    exact restoring.covered

/-- The commit of a restore: every other session is over by then, and the
domain joins those the loop's session carries. -/
theorem Carries.restoreCommit (atLoop : state.loop = .wiring conn domain left [] done)
    (undisturbed : Undisturbed state conn) :
    Carries { state.setTable domain (commitInto domain (state.table domain) done) with
        loop := .restoring conn left } := by
  have onlyCurrent : ∀ other, state.current = some other → state.loop.conn? = some other := by
    intro other isCurrent
    rcases undisturbed with own | cleared
    · rw [← isCurrent, own, atLoop]
      rfl
    · rw [cleared] at isCurrent
      contradiction
  refine inv.loopAdvances atLoop rfl ?_ ?_ ?_
  · intro other isEstablished isAlive
    have current := (inv.established other isEstablished isAlive).1
    exact absurd (onlyCurrent other current) (inv.establishedApart other isEstablished)
  · intro other isConnect isCurrent
    exact absurd (onlyCurrent other isCurrent) (inv.apart other isConnect)
  · intro other _ _ restoring
    refine ⟨restoring.connected, ?_, (List.nodup_cons.mp restoring.distinct).2⟩
    intro candidate notLeft
    change AckedBy (Function.update state.table domain
        (commitInto domain (state.table domain) done) candidate) other
    by_cases committed : candidate = domain
    · rw [committed, Function.update_self]
      apply commitInto_ackedBy restoring.acked
      intro registration member
      have covered := restoring.covered registration member
      rwa [List.append_nil] at covered
    · rw [Function.update_of_ne committed]
      exact restoring.carried candidate notLeft committed

theorem Carries.changeTables (fits : ∀ domain, ∀ registration ∈ table domain,
        registration ∈ state.table domain ∨ Fits state domain registration.acked) :
    Carries { state with table := table } := by
  have fitsCurrent : ∀ conn, state.current = some conn →
        ∀ domain, ∀ registration ∈ table domain,
          registration ∈ state.table domain ∨ registration.acked = conn ∨
            (domain ∈ state.loop.left ∧ state.loop.conn? = some conn) := by
    intro conn isCurrent domain registration member
    rcases fits domain registration member with old | undisturbed | later
    · exact Or.inl old
    · unfold Undisturbed at undisturbed
      simp only [isCurrent, Option.some.injEq, reduceCtorEq, or_false] at undisturbed
      exact Or.inr (Or.inl undisturbed.symm)
    · obtain ⟨isLeft, sameConn⟩ := later
      simp only [isCurrent, reduceCtorEq, or_false] at sameConn
      exact Or.inr (Or.inr ⟨isLeft, sameConn.symm⟩)
  have stillAcked : ∀ conn, state.current = some conn → state.loop.conn? ≠ some conn →
        (∀ domain, AckedBy (state.table domain) conn) →
        ∀ domain, AckedBy (table domain) conn := by
    intro conn isCurrent notLoop acked domain registration member
    rcases fitsCurrent conn isCurrent domain registration member with
      old | new | later
    · exact acked domain registration old
    · exact new
    · exact absurd later.2 notLoop
  have carriedOutside : ∀ conn, state.current = some conn →
        ∀ domain, domain ∉ state.loop.left →
          ∀ registration ∈ table domain, registration ∈ state.table domain ∨
              registration.acked = conn := by
    intro conn isCurrent domain notLeft registration member
    rcases fitsCurrent conn isCurrent domain registration member with
      old | new | later
    · exact Or.inl old
    · exact Or.inr new
    · exact absurd later.1 notLeft
  refine inv.loopAdvances rfl rfl ?_ ?_ ?_
  · intro conn isEstablished isAlive
    obtain ⟨current, acked⟩ := inv.established conn isEstablished isAlive
    exact stillAcked conn current (inv.establishedApart conn isEstablished) acked
  · intro conn isConnect isCurrent
    exact stillAcked conn isCurrent (inv.apart conn isConnect)
      (inv.connecting conn isConnect isCurrent)
  · intro conn _ isCurrent progress
    exact progress_changeTables (carriedOutside conn isCurrent) progress

end Steps

end FitzGo.Client.Sessions
