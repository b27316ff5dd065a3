import Mathlib.Data.List.Induction
import FitzGo.Types.Routes

/-!
# What the scanner accepts

`scanRoute` accepts a scheme, `://` and a path whose segments are not empty and
have a star only as the whole segment `*` or `**`; the shape it returns counts
these segments.
-/

namespace FitzGo.Types

/-! ## Cutting and splitting -/

def joinSegments (segments : List Bytes) : Bytes :=
  [slash].intercalate segments

private theorem splitFrom_eq (segment path : Bytes) :
    splitFrom segment path = (path.splitOn slash).modifyHead (segment ++ ·) := by
  induction path generalizing segment with
  | nil => simp [splitFrom]
  | cons byte rest ih =>
    rw [splitFrom, ih, ih]
    by_cases isSlash : byte = slash
    · subst isSlash
      cases split : rest.splitOn slash <;>
        simp_all [List.splitOn, List.splitOnP_cons_eq_if_modifyHead]
    · cases split : rest.splitOn slash <;>
        simp_all [List.splitOn, List.splitOnP_cons_eq_if_modifyHead, List.modifyHead]

theorem splitSegments_eq (path : Bytes) : splitSegments path = path.splitOn slash := by
  rw [splitSegments, splitFrom_eq]
  cases path.splitOn slash <;> simp

theorem splitSegments_joinSegments {segments : List Bytes}
    (whole : ∀ segment ∈ segments, slash ∉ segment) (present : segments ≠ []) :
    splitSegments (joinSegments segments) = segments := by
  rw [splitSegments_eq]
  exact List.splitOn_intercalate slash whole present

theorem splitFrom_ne_nil (segment path : Bytes) : splitFrom segment path ≠ [] := by
  fun_induction splitFrom segment path <;> simp_all

variable {segment : Bytes}

theorem slash_notMem_of_splitFrom {path : Bytes} (whole : slash ∉ segment) :
    ∀ part ∈ splitFrom segment path, slash ∉ part := by
  fun_induction splitFrom segment path <;> grind

variable {scheme : Bytes}

/-- Without a colon in the scheme the first `://` is the one after it. -/
theorem cutScheme_append (plain : (58 : UInt8) ∉ scheme) (path : Bytes) :
    cutScheme (scheme ++ separator ++ path) = some (scheme, path) := by
  induction scheme with
  | nil => simp [cutScheme, separator]
  | cons byte rest ih =>
    obtain ⟨different, plainRest⟩ := not_or.mp (List.mem_cons.not.mp plain)
    have later : (byte :: (rest ++ separator ++ path)).take 3 ≠ separator := by
      intro same
      have first := congrArg List.head? same
      simp [separator] at first
      exact different first.symm
    rw [List.cons_append, List.cons_append, cutScheme, if_neg later, ih plainRest]
    rfl

/-! ## The scanner -/

/-- A segment that is not empty and has a star only as a whole wildcard. -/
def ValidSegment (segment : Bytes) : Prop :=
  segment ≠ [] ∧ (star ∈ segment → segment = singleWildcard ∨ segment = doubleWildcard)

instance (segment : Bytes) : Decidable (ValidSegment segment) := by
  unfold ValidSegment
  infer_instance

variable {shape : ScannedRoute}

private theorem endSegment_eq_ok_iff {final : ScannedRoute} :
    shape.endSegment segment = .ok final ↔ ValidSegment segment ∧ final = shape.count segment := by
  unfold ScannedRoute.endSegment ValidSegment
  split
  next empty => simp [empty]
  next present =>
    split
    next wrong => grind
    next right =>
      simp only [Except.ok.injEq]
      grind

private theorem scanSegments_eq_ok_iff {final : ScannedRoute} {path : Bytes} :
    scanSegments shape segment path = .ok final ↔
      (∀ part ∈ splitFrom segment path, ValidSegment part) ∧
      final = (splitFrom segment path).foldl ScannedRoute.count shape := by
  fun_induction splitFrom segment path generalizing shape with
  | case1 segment =>
    rw [scanSegments, endSegment_eq_ok_iff]
    simp
  | case2 segment rest ih =>
    rw [scanSegments, if_pos rfl]
    simp only [List.mem_cons, forall_eq_or_imp, List.foldl_cons]
    cases ended : shape.endSegment segment with
    | error error =>
      have invalid : ¬ ValidSegment segment := by
        intro valid
        rw [endSegment_eq_ok_iff.mpr ⟨valid, rfl⟩] at ended
        cases ended
      simp [invalid]
    | ok next =>
      obtain ⟨valid, rfl⟩ := endSegment_eq_ok_iff.mp ended
      simp only [ih]
      grind
  | case3 segment byte rest different ih => rw [scanSegments, if_neg different, ih]

def shapeOf (segments : List Bytes) : ScannedRoute :=
  segments.foldl ScannedRoute.count .empty

theorem scanRoute_eq_ok_iff {route : Bytes} :
    scanRoute route scheme = .ok shape ↔ route.length ≤ maxRouteLen ∧ scheme ≠ [] ∧
      ∃ path, route = scheme ++ separator ++ path ∧
      (∀ segment ∈ splitSegments path, ValidSegment segment) ∧
      shape = shapeOf (splitSegments path) := by
  unfold scanRoute
  split
  next long => simp [Nat.not_le.mpr long]
  next short =>
    split
    next empty => simp [empty]
    next present =>
      split
      next wrong =>
        simp only [reduceCtorEq, false_iff]
        rintro ⟨-, -, path, rfl, -, -⟩
        simp [separator] at wrong
        omega
      next right =>
        simp only [not_or, Nat.not_lt, not_not] at right
        obtain ⟨enough, isScheme, isSeparator⟩ := right
        have parts : route = scheme ++ separator ++ route.drop (scheme.length + 3) := by
          conv_lhs => rw [← List.take_append_drop scheme.length route, isScheme,
            ← List.take_append_drop 3 (route.drop scheme.length), isSeparator, List.drop_drop]
          simp
        have only : ∀ path, route = scheme ++ separator ++ path →
            path = route.drop (scheme.length + 3) := by
          rintro path rfl
          simp [separator]
        split
        next past =>
          simp only [reduceCtorEq, false_iff]
          rintro ⟨-, -, path, same, valid, -⟩
          have empty : path = [] := by
            rw [only path same, List.drop_eq_nil_iff]
            omega
          subst empty
          exact (valid [] (by simp [splitSegments, splitFrom])).1 rfl
        next =>
          rw [scanSegments_eq_ok_iff]
          constructor
          · rintro ⟨valid, rfl⟩
            exact ⟨Nat.not_lt.mp short, present, _, parts, valid, rfl⟩
          · rintro ⟨-, -, path, same, valid, rfl⟩
            rw [← only path same]
            exact ⟨valid, rfl⟩

/-! ## The shape -/

def IsWildcard (segment : Bytes) : Prop :=
  segment = singleWildcard ∨ segment = doubleWildcard

instance (segment : Bytes) : Decidable (IsWildcard segment) :=
  inferInstanceAs (Decidable (_ ∨ _))

def splitShape (segments : List Bytes) : ScannedRoute where
  segmentCount := segments.length
  wildcardIndex := segments.findIdx? (IsWildcard ·)
  hasDoubleWildcard := 0 < segments.count doubleWildcard
  doubleWildcardCount := segments.count doubleWildcard
  wildcardsAreSuffix := segments.Pairwise fun earlier later => IsWildcard earlier → IsWildcard later

private theorem count_splitShape (segments : List Bytes) (segment : Bytes) :
    (splitShape segments).count segment = splitShape (segments ++ [segment]) := by
  unfold ScannedRoute.count
  split
  next literal =>
    have plain : ¬ IsWildcard segment := not_or.mpr literal
    have none : (segments.all fun earlier => !decide (IsWildcard earlier)) =
        decide (∀ earlier ∈ segments, ¬ IsWildcard earlier) := by
      rw [Bool.eq_iff_iff]
      simp
    simp [splitShape, List.findIdx?_append, List.count_append, List.pairwise_append, plain,
      literal, none, Bool.and_comm]
  next wild =>
    have isWildcard : IsWildcard segment := by
      simpa only [IsWildcard, not_and_or, not_not] using wild
    simp only [splitShape, List.findIdx?_append, List.count_append, List.pairwise_append,
      List.count_singleton]
    by_cases double : segment = doubleWildcard
    · subst double
      simp [isWildcard]
    · simp [isWildcard, double]

theorem shapeOf_eq (segments : List Bytes) : shapeOf segments = splitShape segments := by
  induction segments using List.reverseRecOn with
  | nil => rfl
  | append_singleton segments segment ih =>
    rw [shapeOf, List.foldl_append, ← count_splitShape, ← ih]
    rfl

@[simp]
theorem segmentCount_shapeOf (segments : List Bytes) :
    (shapeOf segments).segmentCount = segments.length := by
  rw [shapeOf_eq]
  rfl

@[simp]
theorem doubleWildcardCount_shapeOf (segments : List Bytes) :
    (shapeOf segments).doubleWildcardCount = segments.count doubleWildcard := by
  rw [shapeOf_eq]
  rfl

/-- The scanner accepts, and describes, what `splitRouteSegments` returns. -/
theorem scanRoute_agrees_with_split {route : Bytes}
    (present : scheme ≠ []) (plain : (58 : UInt8) ∉ scheme ∧ slash ∉ scheme)
    (short : route.length ≤ 65535) :
    scanRoute route scheme = .ok shape ↔ scheme ++ separator <+: route ∧
      (∀ segment ∈ splitRouteSegments route, ValidSegment segment) ∧
      shape = splitShape (splitRouteSegments route) := by
  rw [scanRoute_eq_ok_iff]
  constructor
  · rintro ⟨-, -, path, rfl, valid, rfl⟩
    rw [splitRouteSegments, cutScheme_append plain.1, ← shapeOf_eq]
    exact ⟨List.prefix_append _ _, valid, rfl⟩
  · rintro ⟨⟨path, rfl⟩, valid, rfl⟩
    rw [splitRouteSegments, cutScheme_append plain.1] at valid ⊢
    exact ⟨short, present, path, rfl, valid, (shapeOf_eq _).symm⟩

/-- The route is `stream://a/*/**`. -/
theorem scanRoute_agrees_with_split_example :
    scanRoute (streamScheme ++ separator ++ [97, 47, 42, 47, 42, 42]) streamScheme =
      .ok ⟨3, some 1, true, 1, true⟩ :=
  (scanRoute_agrees_with_split (by decide) (by decide) (by decide)).mpr
    ⟨by decide, by decide, by decide⟩

end FitzGo.Types
