import FitzGo.Types.RouteMatching

/-!
# Which routes a selector is for
-/

namespace FitzGo.Types

def Literal (segment : Bytes) : Prop :=
  segment ≠ [] ∧ star ∉ segment ∧ slash ∉ segment

def routeOf (scheme : Bytes) (segments : List Bytes) : Bytes :=
  scheme ++ separator ++ joinSegments segments

section Matching

variable {scheme path : Bytes} {segments : List Bytes}

private theorem cutScheme_routeOf (plain : (58 : UInt8) ∉ scheme) :
    cutScheme (routeOf scheme segments) = some (scheme, joinSegments segments) :=
  cutScheme_append plain _

theorem matches_routeOf_iff (plain : (58 : UInt8) ∉ scheme) (present : segments ≠ [])
    (literal : ∀ segment ∈ segments, Literal segment) :
    routeMatchesPattern (routeOf scheme segments) (scheme ++ separator ++ path) = true ↔
      Divides (splitSegments path) segments := by
  have split := splitSegments_joinSegments (fun segment held => (literal segment held).2.2) present
  rw [routeMatchesPattern_iff (cutScheme_routeOf plain) (cutScheme_append plain path), split]
  · simp
  · rw [split]
    exact fun segment held => (literal segment held).2.1

end Matching

/-! ## Registration patterns -/

/-- A route for the pattern, in which the first `**` covers `extra` segments. -/
def fill : (pattern : List Bytes) → (extra : Nat) → List Bytes
  | [], _ => []
  | wanted :: pattern, extra =>
    if wanted = doubleWildcard then List.replicate extra [120] ++ fill pattern 0
    else if wanted = singleWildcard then [120] :: fill pattern extra
    else wanted :: fill pattern extra

section Filling

variable {pattern : List Bytes} {extra : Nat}

private theorem divides_fill : Divides pattern (fill pattern extra) := by
  induction pattern generalizing extra with
  | nil => simp [fill, divides_nil_iff]
  | cons wanted pattern ih =>
    rw [fill, divides_cons_iff]
    split
    next double => exact ⟨_, _, rfl, .inl double, ih⟩
    next =>
      split
      next single => exact ⟨[[120]], _, rfl, .inr (.inl ⟨single, rfl⟩), ih⟩
      next other => exact ⟨[wanted], _, rfl, .inr (.inr ⟨other, rfl⟩), ih⟩

private theorem length_fill : (fill pattern extra).length + pattern.count doubleWildcard =
      pattern.length + if doubleWildcard ∈ pattern then extra else 0 := by
  induction pattern generalizing extra with
  | nil => rfl
  | cons wanted pattern ih =>
    rw [fill, List.count_cons]
    by_cases double : wanted = doubleWildcard
    · have rest := @ih 0
      simp only [double, if_true, List.length_append, List.length_replicate, List.length_cons,
        List.mem_cons_self, beq_self_eq_true] at rest ⊢
      split at rest <;> omega
    · have rest := @ih extra
      have one : (if wanted = singleWildcard then [120] :: fill pattern extra
          else wanted :: fill pattern extra).length = (fill pattern extra).length + 1 := by
        split <;> rfl
      have same : doubleWildcard ∈ wanted :: pattern ↔ doubleWildcard ∈ pattern := by
        simp [Ne.symm double]
      rw [if_neg double, one, if_neg (by simpa using double)]
      simp only [same, List.length_cons]
      omega

private theorem literal_fill (valid : ∀ segment ∈ pattern, ValidSegment segment ∧ slash ∉ segment) :
    ∀ segment ∈ fill pattern extra, Literal segment := by
  have letter : Literal [120] := by unfold Literal; decide
  induction pattern generalizing extra with
  | nil => simp [fill]
  | cons wanted pattern ih =>
    obtain ⟨⟨⟨present, whole⟩, plain⟩, rest⟩ := List.forall_mem_cons.mp valid
    have later (extra : Nat) := @ih extra rest
    rw [fill]
    split
    next =>
      rw [List.forall_mem_append]
      exact ⟨fun segment held => List.eq_of_mem_replicate held ▸ letter, later 0⟩
    next notDouble =>
      split
      next => exact List.forall_mem_cons.mpr ⟨letter, later extra⟩
      next notSingle =>
        have unstarred : star ∉ wanted := fun starred => (whole starred).elim notSingle notDouble
        exact List.forall_mem_cons.mpr ⟨⟨present, unstarred, plain⟩, later extra⟩

private theorem length_of_divides {route : List Bytes} (divides : Divides pattern route) :
    pattern.length ≤ route.length + pattern.count doubleWildcard ∧
      (doubleWildcard ∉ pattern → route.length = pattern.length) := by
  induction pattern generalizing route with
  | nil => simp [divides_nil_iff.mp divides]
  | cons wanted pattern ih =>
    by_cases double : wanted = doubleWildcard
    · subst double
      obtain ⟨skipped, later⟩ := divides_double_iff.mp divides
      have rest := (ih later).1
      simp only [List.length_drop] at rest
      simp
      omega
    · obtain ⟨segment, rest, rfl, -, later⟩ := (divides_cons_of_ne double).mp divides
      have both := ih later
      simp [double, Ne.symm double]
      grind

private theorem exists_divided {count : Nat}
    (valid : ∀ segment ∈ pattern, ValidSegment segment ∧ slash ∉ segment)
    (enough : pattern.length ≤ count + pattern.count doubleWildcard)
    (exact : doubleWildcard ∉ pattern → count = pattern.length) :
    ∃ route : List Bytes, route.length = count ∧ (∀ segment ∈ route, Literal segment) ∧
      Divides pattern route := by
  refine ⟨fill pattern (count + pattern.count doubleWildcard - pattern.length), ?_,
    literal_fill valid, divides_fill⟩
  have filled := @length_fill pattern (count + pattern.count doubleWildcard - pattern.length)
  split at filled
  next => omega
  next none =>
    have counted := List.count_eq_zero.mpr none
    have same := exact none
    omega

end Filling

section Registration

variable {scheme route : Bytes} {requiredSegments : Int}

theorem registration_counts {segments : List Bytes}
    (scanned : scanRoute route scheme = .ok (shapeOf segments)) (positive : 0 < requiredSegments) :
    validateRegistrationPattern route scheme requiredSegments = .ok () ↔
      segments.length ≤ requiredSegments + segments.count doubleWildcard ∧
      (doubleWildcard ∉ segments → requiredSegments = segments.length) := by
  rw [← List.count_eq_zero]
  unfold validateRegistrationPattern
  simp only [scanned, segmentCount_shapeOf, doubleWildcardCount_shapeOf]
  rw [if_neg (by omega), if_neg (by omega)]
  split
  next none =>
    split
    next other =>
      simp only [reduceCtorEq, false_iff]
      omega
    next same =>
      simp only [true_iff]
      omega
  next some =>
    split
    next more =>
      simp only [reduceCtorEq, false_iff]
      omega
    next fewer =>
      simp only [true_iff]
      omega

/-- A registration pattern is accepted exactly if it is well formed and some
route with the required number of segments matches it. -/
theorem registration_patterns_are_satisfiable (named : scheme ≠ []) (plain : (58 : UInt8) ∉ scheme)
    (positive : 0 < requiredSegments) (short : route.length ≤ maxRouteLen) :
    validateRegistrationPattern route scheme requiredSegments = .ok () ↔
      (∃ path, route = scheme ++ separator ++ path ∧
      ∀ segment ∈ splitSegments path, ValidSegment segment) ∧
      ∃ segments : List Bytes, segments.length = requiredSegments ∧
      (∀ segment ∈ segments, Literal segment) ∧
      routeMatchesPattern (routeOf scheme segments) route = true := by
  have present {segments : List Bytes} (length : segments.length = requiredSegments) :
      segments ≠ [] := by
    rintro rfl
    exact absurd length (by simp; omega)
  constructor
  · intro accepted
    cases scanned : scanRoute route scheme with
    | error error => simp [validateRegistrationPattern, scanned] at accepted
    | ok shape =>
      obtain ⟨-, -, path, rfl, valid, rfl⟩ := scanRoute_eq_ok_iff.mp scanned
      obtain ⟨enough, exact⟩ := (registration_counts scanned positive).mp accepted
      obtain ⟨segments, length, literal, divides⟩ := @exists_divided _ requiredSegments.toNat
          (fun segment held =>
            ⟨valid segment held, slash_notMem_of_splitFrom List.not_mem_nil segment held⟩)
          (by omega) (fun none => by have same := exact none; omega)
      have required : segments.length = requiredSegments := by omega
      refine ⟨⟨path, rfl, valid⟩, segments, required, literal, ?_⟩
      exact (matches_routeOf_iff plain (present required) literal).mpr divides
  · rintro ⟨⟨path, rfl, valid⟩, segments, length, literal, matched⟩
    have divides := (matches_routeOf_iff plain (present length) literal).mp matched
    have scanned := scanRoute_eq_ok_iff.mpr ⟨short, named, path, rfl, valid, rfl⟩
    obtain ⟨enough, exact⟩ := length_of_divides divides
    refine (registration_counts scanned positive).mpr ⟨by omega, fun none => ?_⟩
    have same := exact none
    omega

end Registration

/-- `a://b/**` and routes of three segments. -/
theorem registration_patterns_are_satisfiable_example :
    validateRegistrationPattern [97, 58, 47, 47, 98, 47, 42, 42] [97] 3 = .ok () ∧
      ∃ segments : List Bytes, segments.length = (3 : Int) ∧
      routeMatchesPattern (routeOf [97] segments) [97, 58, 47, 47, 98, 47, 42, 42] = true := by
  have accepted : validateRegistrationPattern [97, 58, 47, 47, 98, 47, 42, 42] [97] 3 = .ok () := by
    decide
  obtain ⟨-, segments, length, -, matched⟩ :=
    (registration_patterns_are_satisfiable (by decide) (by decide) (by decide) (by decide)).mp
      accepted
  exact ⟨accepted, segments, length, matched⟩

end FitzGo.Types
