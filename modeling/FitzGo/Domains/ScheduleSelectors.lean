import FitzGo.Types.StreamSelectors

/-!
# The selectors of schedule lists

The schedule client filters the entries of a page with a matcher of its own, in
which `realm/area/*` stands for the whole area.
-/

namespace FitzGo.Domains.ScheduleSelectors

open FitzGo.Types

def scheduleSegments (route : Bytes) : Option (List Bytes) :=
  if scheduleScheme ++ separator <+: route then
    let segments := splitSegments (route.drop 11)
    if [] ∈ segments then none else some segments
  else none

def scheduleSelectorMatches (selector route : Bytes) : Bool :=
  match scheduleSegments selector with
  | none => false
  | some selectorSegments =>
    match scheduleSegments route with
    | some [realm, area, resource, operation] =>
      match selectorSegments with
      | [first, second] => second = doubleWildcard ∧ first = realm
      | [first, second, third] => third = singleWildcard ∧ first = realm ∧ second = area
      | [first, second, third, fourth] =>
        if fourth = singleWildcard then first = realm ∧ second = area ∧ third = resource
        else first = realm ∧ second = area ∧ third = resource ∧ fourth = operation
      | _ => false
    | _ => false

/-- The selector with `realm/area/*` read as `realm/area/**`. -/
def sharedPattern (selector : Bytes) : Bytes :=
  match splitRouteSegments selector with
  | [realm, area, _] => scheduleScheme ++ separator ++ joinSegments [realm, area, doubleWildcard]
  | _ => selector

private theorem scheduleSegments_append {path : Bytes}
    (valid : ∀ segment ∈ splitSegments path, ValidSegment segment) :
    scheduleSegments (scheduleScheme ++ separator ++ path) = some (splitSegments path) := by
  rw [scheduleSegments, if_pos (List.prefix_append _ _), List.drop_left' (by decide)]
  exact if_neg fun held => (valid [] held).1 rfl

section Dividing

variable {wanted segment : Bytes} {pattern rest : List Bytes}

theorem divides_cons_cons (single : wanted = singleWildcard ∨ star ∉ wanted) :
    Divides (wanted :: pattern) (segment :: rest) ↔
      (wanted = singleWildcard ∨ wanted = segment) ∧ Divides pattern rest := by
  have other : wanted ≠ doubleWildcard := by
    rintro rfl
    revert single
    decide
  rw [divides_cons_of_ne other]
  simp

private theorem divides_literal (literal : star ∉ wanted) :
    Divides (wanted :: pattern) (segment :: rest) ↔ wanted = segment ∧ Divides pattern rest := by
  have other : wanted ≠ singleWildcard := by
    rintro rfl
    exact literal (by decide)
  simp [divides_cons_cons (.inr literal), other]

private theorem divides_all (route : List Bytes) : Divides [doubleWildcard] route :=
  divides_double_iff.mpr ⟨route.length, by simp [divides_nil_iff]⟩

end Dividing

theorem segments_of_validate {route : Bytes} (accepted : validateScheduleRoute route = .ok ()) :
    ∃ path realm area resource operation, route = scheduleScheme ++ separator ++ path ∧
      splitSegments path = [realm, area, resource, operation] ∧
      ∀ segment ∈ splitSegments path, ValidSegment segment ∧ star ∉ segment := by
  unfold validateScheduleRoute validateFixedRoute at accepted
  split at accepted
  next => cases accepted
  next shape scanned =>
    obtain ⟨-, -, path, rfl, valid, rfl⟩ := scanRoute_eq_ok_iff.mp scanned
    rw [segmentCount_shapeOf] at accepted
    split_ifs at accepted with four concrete
    have length : (splitSegments path).length = 4 := by omega
    obtain ⟨realm, area, resource, operation, split⟩ := List.length_eq_four.mp length
    refine ⟨path, realm, area, resource, operation, rfl, split, fun segment held => ?_⟩
    refine ⟨valid segment held, fun starred => concrete ?_⟩
    have wild := (valid segment held).2 starred
    rw [split] at held ⊢
    simp only [shapeOf, List.foldl, ScannedRoute.count, ScannedRoute.empty]
    grind

/-- The two matchers agree. -/
theorem schedule_filter_agrees {selector route : Bytes}
    (accepted : validateScheduleSelector selector = .ok ())
    (routed : validateScheduleRoute route = .ok ()) :
    scheduleSelectorMatches selector route =
      routeMatchesPattern route (sharedPattern selector) := by
  obtain ⟨routePath, realm, area, resource, operation, rfl, split, concrete⟩ :=
    segments_of_validate routed
  unfold validateScheduleSelector at accepted
  split at accepted
  next => cases accepted
  next shape scanned =>
    obtain ⟨-, -, path, rfl, valid, rfl⟩ := scanRoute_eq_ok_iff.mp scanned
    have plain : (58 : UInt8) ∉ scheduleScheme := by decide
    have matches_iff (pattern : Bytes) := routeMatchesPattern_iff (cutScheme_append plain routePath)
      (cutScheme_append plain pattern) fun segment held => (concrete segment held).2
    simp only [split, true_and] at matches_iff
    rw [Bool.eq_iff_iff, scheduleSelectorMatches, scheduleSegments_append valid,
      scheduleSegments_append fun segment held => (concrete segment held).1, split, sharedPattern,
      splitRouteSegments, cutScheme_append plain]
    have whole := @slash_notMem_of_splitFrom [] path List.not_mem_nil
    change ∀ segment ∈ splitSegments path, _ at whole
    simp only [segmentCount_shapeOf] at accepted
    dsimp only
    generalize segmentsEq : splitSegments path = segments at *
    split_ifs at accepted with notRealm two three four
    · obtain ⟨first, second, rfl⟩ := List.length_eq_two.mp two.1
      simp only [shapeOf, List.foldl, ScannedRoute.count, ScannedRoute.empty] at two notRealm
      obtain ⟨rfl, literal⟩ : second = doubleWildcard ∧ star ∉ first := by
        grind [ValidSegment]
      rw [matches_iff, segmentsEq, divides_literal literal]
      simp [divides_all]
    · obtain ⟨first, second, third, rfl⟩ := List.length_eq_three.mp three.1
      simp only [shapeOf, List.foldl, ScannedRoute.count, ScannedRoute.empty] at three notRealm
      obtain ⟨rfl, one, two⟩ : third = singleWildcard ∧ star ∉ first ∧ star ∉ second := by
        grind [ValidSegment]
      have parts : ∀ segment ∈ [first, second, doubleWildcard], slash ∉ segment := by
        have : slash ∉ doubleWildcard := by decide
        grind
      rw [matches_iff, splitSegments_joinSegments parts (by simp), divides_literal one,
        divides_literal two]
      simp [divides_all]
    · obtain ⟨first, second, third, fourth, rfl⟩ := List.length_eq_four.mp four.1
      simp only [shapeOf, List.foldl, ScannedRoute.count, ScannedRoute.empty] at four notRealm
      obtain ⟨one, two, three, last⟩ : star ∉ first ∧ star ∉ second ∧ star ∉ third ∧
          (fourth = singleWildcard ∨ star ∉ fourth) := by
        grind [ValidSegment]
      rw [matches_iff, segmentsEq, divides_literal one, divides_literal two,
        divides_literal three, divides_cons_cons last, divides_nil_iff]
      by_cases single : fourth = singleWildcard <;> simp [single]

/-- `schedule://a/b/*` and `schedule://a/b/c/d`. -/
theorem schedule_filter_agrees_example : ∃ selector route,
    validateScheduleSelector selector = .ok () ∧ scheduleSelectorMatches selector route = true ∧
      scheduleSelectorMatches selector route = routeMatchesPattern route (sharedPattern selector) :=
  ⟨scheduleScheme ++ separator ++ [97, 47, 98, 47, 42],
    scheduleScheme ++ separator ++ [97, 47, 98, 47, 99, 47, 100], by decide, by decide,
    schedule_filter_agrees (by decide) (by decide)⟩

end FitzGo.Domains.ScheduleSelectors
