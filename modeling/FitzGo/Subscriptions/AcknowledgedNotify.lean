import FitzGo.Subscriptions.NotifyDelivery

/-!
# No notification is lost after its subscription was acknowledged

The NOTIFY handler of the domain is registered on every connection on which a
SUBSCRIBE was sent, and a NOTIFY is offered to all handlers of its registration.
-/

namespace FitzGo.Subscriptions

open Connection (Domain Notification decodeNotify acceptsPayload acceptsPayload_of_decodeNotify)
open StepMachine

def Call.conns : Call → List Nat
  | .sent _ conn => [conn]
  | .acked ack => [ack.conn]
  | .idle | .begun _ | .finished _ => []

def Restorer.conns : Restorer → List Nat
  | .wiring _ restored => restored.map Ack.conn
  | .sent _ conn _ restored => conn :: restored.map Ack.conn
  | .acked ack _ restored => ack.conn :: restored.map Ack.conn
  | .idle | .rollingBack _ | .finishing => []

def Served (state : State) (conn : Nat) : Prop :=
  state.handlerOn conn = true ∨ state.attachment conn = .replacing

/-- The connections that matter: the current one, and those of the
subscriptions in flight and of the acknowledged ones. -/
inductive Used (state : State) : Nat → Prop
  | current : Used state state.conn
  | call {call conn : Nat} : conn ∈ (state.calls call).conns → Used state conn
  | restorer {conn : Nat} : conn ∈ state.restorer.conns → Used state conn
  | ack {ack : Ack} : ack ∈ state.acks → Used state ack.conn

structure Quiet (state : State) : Prop where
  entries : state.registry.byPattern = []
  calls : ∀ call, state.calls call = .idle
  restorer : state.restorer = .idle
  acks : state.acks = []

structure Installed (state : State) : Prop where
  reading : ∀ conn, state.init = .reading conn → conn = state.conn
  quiet : state.init ≠ .registered → Quiet state
  served : state.init = .registered → ∀ conn, Used state conn → Served state conn

private theorem initial_installed : Installed initial where
  reading _ impossible := nomatch impossible
  quiet _ :=
    { entries := rfl
      calls := fun _ => rfl
      restorer := rfl
      acks := rfl }
  served impossible := nomatch impossible

section Handler

variable {state final : State} {call : Nat}

section

variable (inv : Installed state)
include inv

theorem Installed.registered_of_call
    (notIdle : state.calls call ≠ .idle) : state.init = .registered := by
  by_contra fresh
  exact notIdle ((inv.quiet fresh).calls call)

theorem Installed.registered_of_restorer (notIdle : state.restorer ≠ .idle) :
    state.init = .registered := by
  by_contra fresh
  exact notIdle (inv.quiet fresh).restorer

theorem Installed.registered_of_entries (some : state.registry.byPattern ≠ []) :
    state.init = .registered := by
  by_contra fresh
  exact some (inv.quiet fresh).entries

theorem Installed.usesLess (init : final.init = state.init)
    (handlerOn : final.handlerOn = state.handlerOn)
    (attachment : final.attachment = state.attachment) (conn : final.conn = state.conn)
    (quiet : state.init ≠ .registered → Quiet state → Quiet final)
    (calls : ∀ call other, other ∈ (final.calls call).conns → Used state other)
    (restorer : ∀ other ∈ final.restorer.conns, Used state other)
    (acks : ∀ ack ∈ final.acks, Used state ack.conn) : Installed final where
  reading other nowReading := by
    rw [conn]
    rw [init] at nowReading
    exact inv.reading other nowReading
  quiet fresh := by
    rw [init] at fresh
    exact quiet fresh (inv.quiet fresh)
  served nowRegistered other used := by
    rw [init] at nowRegistered
    have usedBefore : Used state other := by
      cases used with
      | current =>
        rw [conn]
        exact .current
      | call member => exact calls _ _ member
      | restorer member => exact restorer _ member
      | ack member => exact acks _ member
    unfold Served
    rw [handlerOn, attachment]
    exact inv.served nowRegistered other usedBefore

end

private theorem conns_update {phase : Call} (own : ∀ other ∈ phase.conns, Used state other) :
    ∀ moved other, other ∈ (Function.update state.calls call phase moved).conns →
      Used state other := by
  intro moved other member
  rw [Function.update_apply] at member
  split at member
  · exact own other member
  · exact .call member

theorem acks_used (published : ∀ ack ∈ final.published, Used state ack.conn)
    (unpublished : ∀ ack ∈ final.unpublished, Used state ack.conn) :
    ∀ ack ∈ final.acks, Used state ack.conn := by
  intro ack member
  rcases List.mem_append.mp member with old | new
  · exact published ack old
  · exact unpublished ack new

variable {ack : Ack}

theorem Used.published (member : ack ∈ state.published) : Used state ack.conn :=
  .ack (List.mem_append_left _ member)

theorem Used.unpublished (member : ack ∈ state.unpublished) : Used state ack.conn :=
  .ack (List.mem_append_right _ member)

theorem Used.filtered {keep : Ack → Bool}
    (member : ack ∈ state.unpublished.filter keep) : Used state ack.conn :=
  .unpublished (List.mem_filter.mp member).1

variable {registry : Registry Nat}

section

variable (inv : Installed state)
include inv

variable {published unpublished : List Ack}

theorem Installed.callMoves {phase : Call}
    (registered : state.init = .registered) (own : ∀ other ∈ phase.conns, Used state other)
    (publishedUsed : ∀ ack ∈ published, Used state ack.conn)
    (unpublishedUsed : ∀ ack ∈ unpublished, Used state ack.conn) :
    Installed { state with
        registry
        calls := Function.update state.calls call phase
        unpublished
        published } := by
  refine inv.usesLess rfl rfl rfl rfl ?_ ?_ ?_ ?_
  · intro fresh
    exact absurd registered fresh
  · exact conns_update own
  · intro other member
    exact .restorer member
  · exact acks_used publishedUsed unpublishedUsed

theorem Installed.restorerMoves {restorer : Restorer}
    (registered : state.init = .registered) (own : ∀ other ∈ restorer.conns, Used state other)
    (publishedUsed : ∀ ack ∈ published, Used state ack.conn)
    (unpublishedUsed : ∀ ack ∈ unpublished, Used state ack.conn) :
    Installed { state with registry, restorer, unpublished, published } := by
  refine inv.usesLess rfl rfl rfl rfl ?_ ?_ ?_ ?_
  · intro fresh
    exact absurd registered fresh
  · intro call other member
    exact .call member
  · exact own
  · exact acks_used publishedUsed unpublishedUsed

theorem Installed.tablesChange
    (entries : state.registry.byPattern = [] → registry.byPattern = [])
    (fewer : ∀ ack ∈ published, ack ∈ state.published) :
    Installed { state with registry, published } := by
  refine inv.usesLess rfl rfl rfl rfl ?_ ?_ ?_ ?_
  · intro _ quiet
    have ⟨nonePublished, noneUnpublished⟩ := List.append_eq_nil_iff.mp quiet.acks
    refine { quiet with
        entries := entries quiet.entries
        acks := ?_ }
    refine List.append_eq_nil_iff.mpr ⟨?_, noneUnpublished⟩
    refine List.eq_nil_iff_forall_not_mem.mpr ?_
    intro ack member
    have before := fewer ack member
    rw [nonePublished] at before
    exact nomatch before
  · intro call other member
    exact .call member
  · intro other member
    exact .restorer member
  · apply acks_used
    · intro ack member
      exact .published (fewer ack member)
    · intro ack member
      exact .unpublished member

variable {domain : Domain} {conn : Nat}

private theorem registerHandler_installed (reading : state.init = .reading conn) :
    Installed (next domain state (.registerHandler conn)) := by
  have quiet : Quiet state := by
    apply inv.quiet
    rw [reading]
    exact nofun
  have same : conn = state.conn := inv.reading conn reading
  refine { reading := nofun, quiet := fun fresh => absurd rfl fresh, served := ?_ }
  intro _ other used
  cases used with
  | current =>
    left
    simp [next, same]
  | @call moved other member =>
    have member : other ∈ (state.calls moved).conns := member
    rw [quiet.calls] at member
    cases member
  | restorer member =>
    have member : other ∈ state.restorer.conns := member
    rw [quiet.restorer] at member
    cases member
  | @ack one member =>
    have member : one ∈ state.acks := member
    rw [quiet.acks] at member
    cases member

private theorem replaceConn_installed (notReading : state.init.isReading = false) :
    Installed (next domain state (.replaceConn conn)) := by
  have servedKept : ∀ other, Served state other →
        Served (next domain state (.replaceConn conn)) other := by
    intro other served
    rcases served with handler | replacing
    · exact .inl handler
    · right
      simp only [next, Function.update_apply]
      split
      · rfl
      · exact replacing
  refine { reading := ?_, quiet := ?_, served := ?_ }
  · intro other reading
    rw [show state.init = _ from reading] at notReading
    cases notReading
  · intro fresh
    exact { inv.quiet fresh with }
  · intro registered other used
    have served := inv.served registered
    cases used with
    | current =>
      right
      simp [next]
    | call member => exact servedKept _ (served _ (.call member))
    | restorer member => exact servedKept _ (served _ (.restorer member))
    | ack member => exact servedKept _ (served _ (.ack member))

private theorem reregisterHandler_installed :
    Installed (next domain state (.reregisterHandler conn)) := by
  refine { reading := inv.reading, quiet := ?_, served := ?_ }
  · intro fresh
    exact { inv.quiet fresh with }
  · intro registered other used
    have isRegistered : state.init = .registered := registered
    have usedBefore : Used state other := by
      cases used with
      | current => exact .current
      | call member => exact .call member
      | restorer member => exact .restorer member
      | ack member => exact .ack member
    by_cases same : other = conn
    · left
      simp [next, isRegistered, same]
    · rcases inv.served isRegistered other usedBefore with
        handler | replacing
      · left
        simpa [next, isRegistered, same] using handler
      · right
        simpa [next, same] using replacing

private theorem ackSubscribe_installed (enabled : Enabled domain state (.ackSubscribe call ack)) :
    Installed (next domain state (.ackSubscribe call ack)) := by
  have sent : state.calls call = .sent ack.pattern ack.conn := enabled.1
  have used : Used state ack.conn := .call (by rw [sent]; exact List.mem_singleton.mpr rfl)
  apply inv.callMoves
  · exact inv.registered_of_call (by rw [sent]; exact nofun)
  · intro other member
    rw [List.mem_singleton.mp member]
    exact used
  · exact fun _ => .published
  · intro one member
    rcases List.mem_cons.mp member with new | old
    · rw [new]
      exact used
    · exact .unpublished old

private theorem publish_installed (enabled : Enabled domain state (.publish call ack)) :
    Installed (next domain state (.publish call ack)) := by
  have acked : state.calls call = .acked ack := enabled
  have registered : state.init = .registered := inv.registered_of_call (by rw [acked]; exact nofun)
  have used : Used state ack.conn := .call (by rw [acked]; exact List.mem_singleton.mpr rfl)
  rw [next, publish]
  split
  · exact inv.callMoves registered (by rintro _ ⟨⟩) (fun _ => .published) (fun _ => .filtered)
  · refine inv.callMoves registered (by rintro _ ⟨⟩) ?_ (fun _ => .filtered)
    intro one member
    rcases List.mem_cons.mp member with new | old
    · rw [new]
      exact used
    · exact .published old

variable {pattern : Pattern}

private theorem unsubscribe_installed {handlerID : Nat} :
    Installed (next domain state (.unsubscribe pattern handlerID)) := by
  apply inv.tablesChange
  · intro noEntries
    have same : state.registry.unsubscribe pattern handlerID = (state.registry, false) := by
      simp [Registry.unsubscribe, Registry.remainingHandlers, Registry.lookup, noEntries]
    rw [same]
    exact noEntries
  · intro ack member
    split at member
    · exact (List.mem_filter.mp member).1
    · exact member

variable {restored : List Ack} {left : List Pattern}

private theorem sendRestore_installed
    (enabled : Enabled domain state (.sendRestore pattern left restored)) :
    Installed (next domain state (.sendRestore pattern left restored)) := by
  have wiring : state.restorer = .wiring (pattern :: left) restored := enabled.1
  apply inv.restorerMoves
  · exact inv.registered_of_restorer (by rw [wiring]; exact nofun)
  · intro other member
    rcases List.mem_cons.mp member with new | old
    · rw [new]
      exact .current
    · exact .restorer (by rw [wiring]; exact old)
  · exact fun _ => .published
  · exact fun _ => .unpublished

theorem ackRestore_installed (enabled : Enabled domain state (.ackRestore ack left restored)) :
    Installed (next domain state (.ackRestore ack left restored)) := by
  have sent : state.restorer = .sent ack.pattern ack.conn left restored := enabled.1
  apply inv.restorerMoves
  · exact inv.registered_of_restorer (by rw [sent]; exact nofun)
  · intro other member
    exact .restorer (by rw [sent]; exact member)
  · exact fun _ => .published
  · intro one member
    rcases List.mem_cons.mp member with new | old
    · rw [new]
      exact .restorer (by rw [sent]; exact List.mem_cons_self)
    · exact .unpublished old

theorem acceptRestore_installed
    (enabled : Enabled domain state (.acceptRestore ack left restored)) :
    Installed (next domain state (.acceptRestore ack left restored)) := by
  have acked : state.restorer = .acked ack left restored := enabled
  apply inv.restorerMoves
  · exact inv.registered_of_restorer (by rw [acked]; exact nofun)
  · intro other member
    split at member
    · exact nomatch member
    · refine .restorer ?_
      rw [acked]
      have inBoth : other ∈ (restored ++ [ack]).map Ack.conn := member
      simp only [List.map_append, List.mem_append, List.map_cons,
        List.map_nil, List.mem_singleton] at inBoth
      exact List.mem_cons.mpr inBoth.symm
  · exact fun _ => .published
  · exact fun _ => .unpublished

theorem commitRestore_installed (enabled : Enabled domain state (.commitRestore restored)) :
    Installed (next domain state (.commitRestore restored)) := by
  have wiring : state.restorer = .wiring [] restored := enabled
  refine inv.restorerMoves ?_ nofun ?_ (fun _ => .filtered)
  · exact inv.registered_of_restorer (by rw [wiring]; exact nofun)
  · intro ack member
    rcases List.mem_append.mp member with new | old
    · refine .restorer ?_
      rw [wiring]
      exact List.mem_map_of_mem new
    · exact .published old

end

theorem step_installed {event : Event}
    (inv : Installed state) (orderly : Orderly domain state event)
    (stepped : step domain state event = some final) : Installed final := by
  obtain ⟨enabled, nextEq⟩ := guarded_eq_some_iff.mp stepped
  subst nextEq
  cases event with
  | readConn =>
    have fresh : state.init = .fresh := enabled
    have quiet : Quiet state := by
      apply inv.quiet
      rw [fresh]
      exact nofun
    exact
      { reading := fun conn reading => (Init.reading.inj reading).symm
        quiet := fun _ => { quiet with }
        served := nofun }
  | registerHandler conn => exact registerHandler_installed inv enabled
  | replaceConn conn => exact replaceConn_installed inv orderly
  | reregisterHandler conn => exact reregisterHandler_installed inv
  | subscribe call pattern =>
    apply inv.callMoves enabled.2.1
    · intro other member
      split at member
      · exact nomatch member
      · exact nomatch member
    · exact fun _ => .published
    · exact fun _ => .unpublished
  | sendSubscribe call pattern =>
    have begun : state.calls call = .begun pattern := enabled.1
    apply inv.callMoves
    · exact inv.registered_of_call (by rw [begun]; exact nofun)
    · intro other member
      rw [List.mem_singleton.mp member]
      exact .current
    · exact fun _ => .published
    · exact fun _ => .unpublished
  | ackSubscribe call ack => exact ackSubscribe_installed inv enabled
  | publish call ack => exact publish_installed inv enabled
  | failSubscribe call pattern =>
    have inFlight : (state.calls call).pattern? = some pattern := enabled
    refine inv.callMoves ?_ nofun (fun _ => .published) (fun _ => .filtered)
    apply inv.registered_of_call
    intro idle
    rw [idle] at inFlight
    exact nomatch inFlight
  | unsubscribe pattern handlerID => exact unsubscribe_installed inv
  | clear => exact inv.tablesChange (fun _ => rfl) nofun
  | restore =>
    dsimp only [next]
    split
    · exact inv
    · rename_i hasEntries
      exact inv.restorerMoves (inv.registered_of_entries hasEntries) nofun
          (fun _ => .published) (fun _ => .unpublished)
  | sendRestore pattern left restored => exact sendRestore_installed inv enabled
  | ackRestore ack left restored => exact ackRestore_installed inv enabled
  | acceptRestore ack left restored => exact acceptRestore_installed inv enabled
  | failRestore restored =>
    refine inv.restorerMoves ?_ nofun (fun _ => .published) (fun _ => .filtered)
    apply inv.registered_of_restorer
    intro idle
    have running := enabled.1
    rw [idle] at running
    exact nomatch running
  | rollBack ack restored =>
    have rolling : state.restorer = .rollingBack (ack :: restored) := enabled
    refine inv.restorerMoves ?_ nofun (fun _ => .published) (fun _ => .filtered)
    exact inv.registered_of_restorer (by rw [rolling]; exact nofun)
  | rolledBack | finishRestore =>
    have running : state.restorer = _ := enabled
    refine inv.restorerMoves ?_ nofun (fun _ => .published) (fun _ => .unpublished)
    exact inv.registered_of_restorer (by rw [running]; exact nofun)
  | commitRestore restored => exact commitRestore_installed inv enabled
  | _ =>
    refine inv.usesLess rfl rfl rfl rfl ?_ (fun _ _ member => .call member)
        (fun _ member => .restorer member) (fun _ member => .ack member)
    exact fun _ quiet => { quiet with }

end Handler

/-- The step from `state` to `after` has offered the notification to every
handler of the registration of `pattern`. -/
def OfferedToAll (state after : State) (conn : Nat) (notification : Notification)
    (pattern : Pattern) : Prop :=
  ∃ entry, state.registry.lookup pattern = some entry ∧ entry.handlers ≠ [] ∧
      state.registry.registrations notification.subID = entry.handlers ∧
      after.offers = state.offers ++ entry.handlers.map fun one => ⟨one.handler, conn, notification⟩

variable {notification : Notification}

theorem not_offeredToAll {state after : State} {conn : Nat}
    {pattern : Pattern} (nothing : after.offers = state.offers) :
    ¬ OfferedToAll state after conn notification pattern := by
  intro ⟨entry, _, nonempty, _, offers⟩
  rw [nothing] at offers
  have noHandlers := List.append_right_eq_self.mp offers.symm
  exact nonempty (List.map_eq_nil_iff.mp noHandlers)

/-- In every run whose steps meet the condition, a NOTIFY for an acknowledged
subscription is offered to all handlers of its registration. -/
theorem acknowledged_notifications_are_offered (domain : Domain) (events : List Event)
    (state after : State) (conn : Nat) (payload : Bytes) (notification : Notification)
    (pattern : Pattern) (ran : run (step domain) initial events = some state)
    (orderly : Along (step domain) (Orderly domain) initial events)
    (now : Orderly domain state (.notify conn payload))
    (stepped : step domain state (.notify conn payload) = some after)
    (decoded : decodeNotify domain payload = some notification)
    (acked : ⟨conn, notification.subID, pattern⟩ ∈ state.acks) :
    OfferedToAll state after conn notification pattern := by
  have delivers : Delivers state :=
    invariant_along Delivers step_delivers initial_delivers orderly ran
  have installed : Installed state :=
    invariant_along Installed step_installed initial_installed orderly ran
  obtain ⟨enabled, nextEq⟩ := guarded_eq_some_iff.mp stepped
  subst nextEq
  have alive : state.ended conn = false := enabled
  obtain ⟨settled, noneUnpublished⟩ := now
  rw [decoded] at noneUnpublished
  have published : ⟨conn, notification.subID, pattern⟩ ∈ state.published := by
    rcases List.mem_append.mp acked with old | new
    · exact old
    · exact absurd ⟨rfl, rfl⟩ (noneUnpublished _ new)
  have registered : state.init = .registered := by
    by_contra fresh
    have noAcks := (installed.quiet fresh).acks
    rw [noAcks] at acked
    exact nomatch acked
  have handler : state.handlerOn conn = true := by
    rcases installed.served registered conn (.ack acked) with
      handler | replacing
    · exact handler
    · exact absurd replacing settled
  obtain ⟨entry, found, nonempty, registrations⟩ :=
    Registry.registrations_of_subIDOf delivers.consistent (delivers.published _ published alive)
  refine ⟨entry, found, nonempty, registrations, ?_⟩
  have accepted := acceptsPayload_of_decodeNotify decoded
  simp only [next, notifyOffers, decoded, handler, accepted, and_self, if_true, registrations]

section Samples

def sampleNotify (subID : UInt8) : Bytes :=
  [0, 0, 0, 0, 0, 0, 0, subID, 0, 0, 0, 0, 0, 0, 0, 0]

/-- Two handlers share a pattern, the connection is lost, and the pattern is
restored on the next one under a new id. -/
def restoredRun : List Event :=
  [.readConn, .registerHandler 0, .subscribe 0 "a", .sendSubscribe 0 "a",
    .ackSubscribe 0 ⟨0, 7, "a"⟩, .publish 0 ⟨0, 7, "a"⟩,
    .subscribe 1 "a", .notify 0 (sampleNotify 7), .endConn 0,
    .replaceConn 1, .reregisterHandler 1, .restore,
    .sendRestore "a" [] [], .ackRestore ⟨1, 9, "a"⟩ [] [],
    .acceptRestore ⟨1, 9, "a"⟩ [] [], .commitRestore [⟨1, 9, "a"⟩],
    .finishRestore]

theorem restoredRun_offers_to_both : ∃ state after,
      run (step .notice) initial restoredRun = some state ∧
        step .notice state (.notify 1 (sampleNotify 9)) = some after ∧
        OfferedToAll state after 1 ⟨9, [], []⟩ "a" :=
  ⟨_, _, rfl, rfl, acknowledged_notifications_are_offered .notice restoredRun _ _ 1
      (sampleNotify 9) ⟨9, [], []⟩ "a" rfl (by decide +kernel)
      (by decide +kernel) rfl (by decide) (by decide +kernel)⟩

/-- The NOTIFY comes after the response and before the caller has entered the
id. -/
def earlyNotifyRun : List Event :=
  [.readConn, .registerHandler 0, .subscribe 0 "a", .sendSubscribe 0 "a",
    .ackSubscribe 0 ⟨0, 7, "a"⟩]

/-- The NOTIFY for a restored pattern comes while `Restore` is still asking for
the next one. -/
def midRestoreRun : List Event :=
  [.readConn, .registerHandler 0, .subscribe 0 "a", .sendSubscribe 0 "a",
    .ackSubscribe 0 ⟨0, 7, "a"⟩, .publish 0 ⟨0, 7, "a"⟩,
    .subscribe 1 "b", .sendSubscribe 1 "b",
    .ackSubscribe 1 ⟨0, 8, "b"⟩, .publish 1 ⟨0, 8, "b"⟩, .endConn 0,
    .replaceConn 1, .reregisterHandler 1, .restore,
    .sendRestore "a" ["b"] [], .ackRestore ⟨1, 9, "a"⟩ ["b"] [],
    .acceptRestore ⟨1, 9, "a"⟩ ["b"] [],
    .sendRestore "b" [] [⟨1, 9, "a"⟩]]

/-- The run ends with a NOTIFY for an acknowledged subscription that is offered
to nobody. -/
def Loses (events : List Event) (conn : Nat) (payload : Bytes)
    (notification : Notification) (pattern : Pattern) : Prop :=
  ∃ state after, run (step .notice) initial events = some state ∧
      step .notice state (.notify conn payload) = some after ∧
      decodeNotify .notice payload = some notification ∧
      ⟨conn, notification.subID, pattern⟩ ∈ state.acks ∧
      ¬ OfferedToAll state after conn notification pattern

theorem loses_of_evaluation {events : List Event} {conn : Nat} {payload : Bytes}
    {pattern : Pattern}
    (decoded : decodeNotify .notice payload = some notification)
    (observed : ((run (step .notice) initial events).bind fun state =>
        (step .notice state (.notify conn payload)).map fun after =>
          (decide (⟨conn, notification.subID, pattern⟩ ∈ state.acks),
            decide (after.offers = state.offers))) =
        some (true, true)) : Loses events conn payload notification pattern := by
  obtain ⟨state, ran, rest⟩ := Option.bind_eq_some_iff.mp observed
  obtain ⟨after, stepped, values⟩ := Option.map_eq_some_iff.mp rest
  obtain ⟨acked, nothing⟩ := Prod.mk.inj values
  exact ⟨state, after, ran, stepped, decoded, of_decide_eq_true acked,
      not_offeredToAll (of_decide_eq_true nothing)⟩

theorem notification_is_lost_before_its_id_is_entered :
    Loses earlyNotifyRun 0 (sampleNotify 7) ⟨7, [], []⟩ "a" ∧
      Loses midRestoreRun 1 (sampleNotify 9) ⟨9, [], []⟩ "a" :=
  ⟨loses_of_evaluation (by decide) (by decide +kernel),
    loses_of_evaluation (by decide) (by decide +kernel)⟩

end Samples

end FitzGo.Subscriptions
