import FitzGo.Types.RouteSelectors

/-!
# Stream selectors and what the validators accept

`ClassifyStreamSelector` accepts the form `stream://realm/**` before it comes to
`scanRoute`, and so without a look at its length.
-/

namespace FitzGo.Types

/-! ## The forms of a stream selector -/

def scopeOf (realm area resource : Bytes) : StreamSelectorScope :=
  if realm = singleWildcard then .global
  else if area = singleWildcard then .realm
  else if resource = singleWildcard then .area
  else .resource

inductive Classified : List Bytes → StreamSelectorScope → Prop
  | all : Classified [doubleWildcard] .global
  | realm {realm : Bytes} : Literal realm → Classified [realm, doubleWildcard] .realm
  | segments {realm area resource : Bytes} :
      (∀ segment ∈ [realm, area, resource], segment = singleWildcard ∨ Literal segment) →
      Classified [realm, area, resource] (scopeOf realm area resource)

section Classifying

variable {route path : Bytes} {scope : StreamSelectorScope}

theorem splitRouteSegments_stream :
    splitRouteSegments (streamScheme ++ separator ++ path) = splitSegments path := by
  rw [splitRouteSegments, cutScheme_append (by decide)]

private theorem literal_of_split {segment : Bytes} (held : segment ∈ splitSegments path)
    (present : segment ≠ []) (plain : star ∉ segment) : Literal segment :=
  ⟨present, plain, slash_notMem_of_splitFrom List.not_mem_nil segment held⟩

theorem classified_of_classify (classified : classifyStreamSelector route = .ok scope) :
    ∃ path, route = streamScheme ++ separator ++ path ∧ Classified (splitSegments path) scope ∧
      ((splitSegments path).length ≠ 2 → route.length ≤ maxRouteLen) := by
  unfold classifyStreamSelector at classified
  dsimp only at classified
  split at classified
  next all =>
    cases classified
    subst all
    exact ⟨doubleWildcard, rfl, .all, fun _ => by decide⟩
  next =>
    split at classified
    next form =>
      cases classified
      obtain ⟨named, two, second, present, plain⟩ := form
      have whole : route = streamScheme ++ separator ++ route.drop 9 := by
        rw [← named, List.take_append_drop]
      rw [whole, splitRouteSegments_stream] at two second present plain
      refine ⟨_, whole, ?_, fun other => absurd two other⟩
      obtain ⟨realm, last, split⟩ := List.length_eq_two.mp two
      have literal : realm ≠ [] → star ∉ realm → Literal realm :=
        literal_of_split (split ▸ List.mem_cons_self)
      rw [split] at second present plain ⊢
      simp only [List.getElem?_cons_succ, List.getElem?_cons_zero, Option.some.injEq, ne_eq,
        List.getD_cons_zero] at second present plain
      subst second
      exact .realm (literal present plain)
    next =>
      split at classified
      next => cases classified
      next shape scanned =>
        obtain ⟨short, -, path, rfl, valid, rfl⟩ := scanRoute_eq_ok_iff.mp scanned
        rw [splitRouteSegments_stream, segmentCount_shapeOf] at classified
        refine ⟨path, rfl, ?_, fun _ => short⟩
        split at classified
        next => cases classified
        next three =>
          obtain ⟨realm, area, resource, split⟩ := List.length_eq_three.mp (not_not.mp three)
          have literal := @literal_of_split path
          rw [split] at classified valid literal ⊢
          split at classified
          next => cases classified
          next whole =>
            have scope : scope = scopeOf realm area resource := by
              simp only [List.getElem?_cons_succ, List.getElem?_cons_zero,
                Option.some.injEq] at classified
              unfold scopeOf
              split_ifs at classified ⊢ <;> cases classified <;> rfl
            rw [scope]
            refine .segments fun segment held => ?_
            by_cases single : segment = singleWildcard
            · exact .inl single
            · refine .inr (literal held (valid segment held).1 fun starred => whole ?_)
              exact List.any_eq_true.mpr ⟨segment, held, decide_eq_true ⟨starred, single⟩⟩

end Classifying

/-! ## What is accepted -/

inductive Accepted (route : Bytes) : (scheme : Bytes) → Prop
  | concrete {scheme : Bytes} : validateConcreteRoute route scheme = .ok () → Accepted route scheme
  | fixed {scheme : Bytes} {count : Int} :
      validateFixedRoute route scheme count = .ok () → Accepted route scheme
  | selector {scheme : Bytes} {count : Int} {allow : Bool} :
      validateSelectorRoute route scheme count allow = .ok () → Accepted route scheme
  | notice : validateNoticeSelector route = .ok () → Accepted route noticeScheme
  | schedule : validateScheduleRoute route = .ok () → Accepted route scheduleScheme
  | schedules : validateScheduleSelector route = .ok () → Accepted route scheduleScheme
  | registration {scheme : Bytes} {count : Int} :
      validateRegistrationPattern route scheme count = .ok () → Accepted route scheme
  | stream : validateStreamSelector route = .ok () → Accepted route streamScheme

theorem Classified.valid {segments : List Bytes} {scope : StreamSelectorScope}
    (classified : Classified segments scope) : ∀ segment ∈ segments, ValidSegment segment := by
  have literal {segment : Bytes} (isLiteral : Literal segment) : ValidSegment segment :=
    ⟨isLiteral.1, fun starred => absurd starred isLiteral.2.1⟩
  have single : ValidSegment singleWildcard := by decide
  have double : ValidSegment doubleWildcard := by decide
  cases classified with
  | all => simpa using double
  | realm isLiteral => simpa using ⟨literal isLiteral, double⟩
  | segments whole =>
    intro segment held
    exact (whole segment held).elim (fun same => same ▸ single) literal

/-- Every validator but that of the stream selectors goes through `scanRoute`. -/
private theorem scanned_of_accepted {route scheme : Bytes} (accepted : Accepted route scheme) :
    (∃ shape, scanRoute route scheme = .ok shape) ∨ validateStreamSelector route = .ok () ∧
      scheme = streamScheme := by
  cases accepted with
  | stream ok => exact .inr ⟨ok, rfl⟩
  | _ ok =>
    left
    revert ok
    simp only [validateConcreteRoute, validateFixedRoute, validateSelectorRoute,
      validateNoticeSelector, validateScheduleRoute, validateScheduleSelector,
      validateRegistrationPattern]
    split
    · intro ok
      cases ok
    · exact fun _ => ⟨_, by assumption⟩

/-- What a validator accepts is encodable and well formed, just if the scheme has
no `*` and a stream selector of two segments is not too long. -/
theorem accepted_routes_are_encodable {route scheme : Bytes} (accepted : Accepted route scheme) :
    (route.length ≤ maxRouteLen ∧ ∃ path, route = scheme ++ separator ++ path ∧
      star ∉ scheme ++ separator ∧ (∀ segment ∈ splitSegments path, segment ≠ [] ∧
      (star ∈ segment → segment = singleWildcard ∨ segment = doubleWildcard))) ↔
      star ∉ scheme ∧ (validateStreamSelector route = .ok () →
        (splitRouteSegments route).length = 2 → route.length ≤ maxRouteLen) := by
  constructor
  · rintro ⟨short, path, -, front, -⟩
    exact ⟨fun held => front (List.mem_append_left _ held), fun _ _ => short⟩
  rintro ⟨plain, short⟩
  have front : star ∉ scheme ++ separator := by
    rw [List.mem_append]
    exact fun held => held.elim plain (by decide)
  rcases scanned_of_accepted accepted with ⟨shape, scanned⟩ | ⟨ok, rfl⟩
  · obtain ⟨fits, -, path, whole, valid, -⟩ := scanRoute_eq_ok_iff.mp scanned
    exact ⟨fits, path, whole, front, valid⟩
  · cases classified : classifyStreamSelector route with
    | error error => simp [validateStreamSelector, classified, Except.map] at ok
    | ok scope =>
      obtain ⟨path, rfl, forms, fits⟩ := classified_of_classify classified
      refine ⟨?_, path, rfl, front, forms.valid⟩
      by_cases two : (splitSegments path).length = 2
      · exact short ok (splitRouteSegments_stream ▸ two)
      · exact fits two

/-- `stream://b/**`. -/
theorem accepted_routes_are_encodable_example :
    Accepted (routeOf streamScheme [[98], doubleWildcard]) streamScheme ∧
      ∃ path, routeOf streamScheme [[98], doubleWildcard] = streamScheme ++ separator ++ path ∧
        star ∉ streamScheme ++ separator ∧ (∀ segment ∈ splitSegments path, segment ≠ [] ∧
        (star ∈ segment → segment = singleWildcard ∨ segment = doubleWildcard)) := by
  have accepted : Accepted (routeOf streamScheme [[98], doubleWildcard]) streamScheme :=
    .stream (by decide)
  have short : (routeOf streamScheme [[98], doubleWildcard]).length ≤ maxRouteLen := by decide
  exact ⟨accepted,
    ((accepted_routes_are_encodable accepted).mpr ⟨by decide, fun _ _ => short⟩).2⟩

theorem classify_realm {realm : Bytes} (literal : Literal realm) :
    classifyStreamSelector (routeOf streamScheme [realm, doubleWildcard]) = .ok .realm := by
  have whole : ∀ segment ∈ [realm, doubleWildcard], slash ∉ segment := by
    simpa using ⟨literal.2.2, by decide⟩
  have split : splitRouteSegments (routeOf streamScheme [realm, doubleWildcard]) =
      [realm, doubleWildcard] := by
    rw [routeOf, splitRouteSegments_stream, splitSegments_joinSegments whole (by simp)]
  unfold classifyStreamSelector
  rw [split, if_neg, if_pos]
  · exact ⟨rfl, rfl, rfl, by simpa using literal.1, literal.2.1⟩
  · intro all
    have one := congrArg splitRouteSegments all
    rw [split, splitRouteSegments_stream] at one
    exact nomatch (congrArg List.length one : 2 = 1)

/-- `stream://a…a/**` with a realm of 65,535 bytes. -/
theorem long_realm_is_accepted :
    ∃ route, validateStreamSelector route = .ok () ∧ maxRouteLen < route.length := by
  have literal : Literal (List.replicate maxRouteLen 97) := by
    refine ⟨fun empty => ?_, ?_, ?_⟩
    · have length := congrArg List.length empty
      rw [List.length_replicate] at length
      cases length
    all_goals exact fun held => absurd (List.eq_of_mem_replicate held) (by decide)
  refine ⟨_, congrArg (Except.map fun _ => ()) (classify_realm literal), ?_⟩
  simp only [routeOf, joinSegments, List.intercalate, List.intersperse, List.flatten_cons,
    List.length_append, List.length_replicate]
  have named : 0 < (streamScheme ++ separator).length := by decide
  rw [List.length_append] at named
  omega

/-! ## The routes of a scope -/

structure StreamRoute where
  realm : Bytes
  area : Bytes
  resource : Bytes
  literal : ∀ segment ∈ [realm, area, resource], Literal segment

def StreamRoute.route (parts : StreamRoute) : Bytes :=
  routeOf streamScheme [parts.realm, parts.area, parts.resource]

def StreamRoute.Matches (parts : StreamRoute) (selector : Bytes) : Prop :=
  routeMatchesPattern parts.route selector = true

/-- What two routes have in common if a selector of the scope matches both. -/
def Agree (one other : StreamRoute) : StreamSelectorScope → Prop
  | .resource => one.route = other.route
  | .area => one.realm = other.realm ∧ one.area = other.area
  | .realm => one.realm = other.realm
  | .global => True

def Differ (one other : StreamRoute) : StreamSelectorScope → Prop
  | .resource => True
  | .area => one.resource ≠ other.resource
  | .realm => one.area ≠ other.area
  | .global => one.realm ≠ other.realm

/-- The segment of a selector that is `*` or stands for itself. -/
def Fits (wanted segment : Bytes) : Prop :=
  wanted = singleWildcard ∨ wanted = segment

section Scopes

variable {segments : List Bytes} {scope : StreamSelectorScope} {wanted : Bytes}

private theorem ne_doubleWildcard (whole : wanted = singleWildcard ∨ Literal wanted) :
    wanted ≠ doubleWildcard := by
  rintro rfl
  rcases whole with single | literal
  · exact absurd single (by decide)
  · exact literal.2.1 (by decide)

theorem Classified.three (classified : Classified segments scope) :
    ∃ realm area resource : Bytes, scope = scopeOf realm area resource ∧
      (∀ segment ∈ [realm, area, resource], segment = singleWildcard ∨ Literal segment) ∧
      ∀ first second third, Divides segments [first, second, third] ↔
      Fits realm first ∧ Fits area second ∧ Fits resource third := by
  cases classified with
  | all =>
    refine ⟨singleWildcard, singleWildcard, singleWildcard, rfl, by simp, fun _ _ _ => ?_⟩
    simp only [divides_double_iff, divides_nil_iff, Fits, true_or, and_self, iff_true]
    exact ⟨3, rfl⟩
  | @realm realm literal =>
    have named : realm ≠ singleWildcard := by
      rintro rfl
      exact literal.2.1 (by decide)
    refine ⟨realm, singleWildcard, singleWildcard, by simp [scopeOf, named], ?_, ?_⟩
    · simpa using Or.inr literal
    · intro first second third
      rw [divides_cons_of_ne (ne_doubleWildcard (.inr literal))]
      simp only [divides_double_iff, divides_nil_iff, Fits, true_or, and_true]
      constructor
      · rintro ⟨_, _, same, fits, -⟩
        cases same
        exact fits
      · intro fits
        exact ⟨_, _, rfl, fits, 2, rfl⟩
  | segments whole =>
    refine ⟨_, _, _, rfl, whole, fun first second third => ?_⟩
    obtain ⟨one, two, three, -⟩ : _ ∧ _ ∧ _ ∧ _ := by
      simpa only [List.forall_mem_cons] using whole
    rw [divides_cons_of_ne (ne_doubleWildcard one)]
    simp only [divides_cons_of_ne (ne_doubleWildcard two),
      divides_cons_of_ne (ne_doubleWildcard three), divides_nil_iff, Fits]
    simp

/-- The segment of a route for the selector, with a letter where it is free. -/
def pick (letter wanted : Bytes) : Bytes :=
  if wanted = singleWildcard then letter else wanted

private theorem fits_pick (letter : Bytes) : Fits wanted (pick letter wanted) := by
  unfold pick
  split
  next single => exact .inl single
  next => exact .inr rfl

private theorem literal_pick {letter : Bytes} (isLetter : Literal letter)
    (whole : wanted = singleWildcard ∨ Literal wanted) : Literal (pick letter wanted) := by
  unfold pick
  split
  next => exact isLetter
  next other => exact whole.resolve_left other

/-- Some route matches an accepted selector; two that do agree in what its scope
names; and no tighter scope would do. -/
theorem stream_scopes_are_tight {selector : Bytes}
    (classified : classifyStreamSelector selector = .ok scope) :
    (∃ parts : StreamRoute, parts.Matches selector) ∧
      (∀ one other : StreamRoute, one.Matches selector → other.Matches selector →
        Agree one other scope) ∧
      ∃ one other : StreamRoute, one.Matches selector ∧ other.Matches selector ∧
        Differ one other scope := by
  obtain ⟨path, rfl, forms, -⟩ := classified_of_classify classified
  obtain ⟨realm, area, resource, rfl, whole, divides⟩ := forms.three
  have matches_iff (parts : StreamRoute) : parts.Matches (streamScheme ++ separator ++ path) ↔
        Fits realm parts.realm ∧ Fits area parts.area ∧ Fits resource parts.resource := by
    rw [← divides]
    exact matches_routeOf_iff (by decide) (by simp) parts.literal
  -- a route with the same letter in every free place
  have sample (letter : UInt8) (isLetter : Literal [letter]) :
      ∃ parts : StreamRoute, parts.Matches (streamScheme ++ separator ++ path) ∧
        parts.realm = pick [letter] realm ∧ parts.area = pick [letter] area ∧
        parts.resource = pick [letter] resource := by
    refine ⟨⟨pick [letter] realm, pick [letter] area, pick [letter] resource, ?_⟩,
      ?_, rfl, rfl, rfl⟩
    · simp only [List.forall_mem_cons] at whole ⊢
      exact ⟨literal_pick isLetter whole.1, literal_pick isLetter whole.2.1,
        literal_pick isLetter whole.2.2.1, nofun⟩
    · exact (matches_iff _).mpr ⟨fits_pick _, fits_pick _, fits_pick _⟩
  obtain ⟨one, matched, first⟩ := sample 120 (by unfold Literal; decide)
  obtain ⟨other, matchedToo, second⟩ := sample 121 (by unfold Literal; decide)
  refine ⟨⟨one, matched⟩, fun left right fits fitsToo => ?_, one, other, matched, matchedToo, ?_⟩
  · rw [matches_iff] at fits fitsToo
    have same {wanted first second : Bytes} (literal : wanted ≠ singleWildcard)
        (fits : Fits wanted first) (fitsToo : Fits wanted second) : first = second :=
      (fits.resolve_left literal).symm.trans (fitsToo.resolve_left literal)
    unfold scopeOf
    split_ifs with global free wild
    · trivial
    · exact same global fits.1 fitsToo.1
    · exact ⟨same global fits.1 fitsToo.1, same free fits.2.1 fitsToo.2.1⟩
    · simp only [Agree, StreamRoute.route, same global fits.1 fitsToo.1,
        same free fits.2.1 fitsToo.2.1, same wild fits.2.2 fitsToo.2.2]
  · unfold scopeOf
    split_ifs with global free wild <;> simp_all [Differ, pick]

end Scopes

/-- `stream://b/**`. -/
theorem stream_scopes_are_tight_example :
    ∃ parts : StreamRoute, parts.Matches (routeOf streamScheme [[98], doubleWildcard]) :=
  (stream_scopes_are_tight (classify_realm (by unfold Literal; decide))).1

end FitzGo.Types
