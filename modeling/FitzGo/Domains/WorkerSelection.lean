import FitzGo.Types.RouteSelectors
import Mathlib.Data.List.AList
import Mathlib.Data.Prod.Lex
import Mathlib.Order.RelIso.Basic

/-!
# Which worker serves a request

A route that is no worker's own goes to the most specific of the patterns that
match it. The order of specificity ends with the bytes of the pattern.
-/

namespace FitzGo.Domains.WorkerSelection

open FitzGo.Types

def rpcScheme : Bytes := [114, 112, 99]

structure WorkerPatternSpecificity where
  literals : Nat
  singleStar : Nat
  doubleStar : Nat
  depth : Nat

def scoreWorkerPattern (pattern : Bytes) : WorkerPatternSpecificity :=
  let segments := splitSegments ((cutScheme pattern).elim [] Prod.snd)
  segments.foldl
    (fun score segment =>
      if segment = singleWildcard then { score with singleStar := score.singleStar + 1 }
      else if segment = doubleWildcard then { score with doubleStar := score.doubleStar + 1 }
      else { score with literals := score.literals + 1 })
    { literals := 0, singleStar := 0, doubleStar := 0, depth := segments.length }

/-- The comparison of `matchingWorkerPatterns`. -/
def workerPatternLess (one other : Bytes) : Bool :=
  let left := scoreWorkerPattern one
  let right := scoreWorkerPattern other
  if left.literals ≠ right.literals then left.literals > right.literals
  else if left.singleStar ≠ right.singleStar then left.singleStar > right.singleStar
  else if left.doubleStar ≠ right.doubleStar then left.doubleStar < right.doubleStar
  else if left.depth ≠ right.depth then left.depth > right.depth
  else one < other

/-- The range over the map yields the patterns in some `order`. The comparison
tells any two apart, so that every sort has the same result. -/
def matchingWorkerPatterns (route : Bytes) (order : List Bytes) : List Bytes :=
  (order.filter (routeMatchesPattern route)).mergeSort fun one other => !workerPatternLess other one

variable {Handler : Type}

/-- The handler that `handleWorkerRequest` takes. -/
def selectWorker (workers : AList fun _ : Bytes => Handler) (route : Bytes)
    (order : List Bytes) : Option Handler :=
  match workers.lookup route with
  | some handler => some handler
  | none => (matchingWorkerPatterns route order).head?.bind workers.lookup

/-- The pattern matches the route and comes before all others that do. -/
structure Best (patterns : List Bytes) (route pattern : Bytes) : Prop where
  listed : pattern ∈ patterns
  matched : routeMatchesPattern route pattern = true
  first : ∀ other ∈ patterns, routeMatchesPattern route other = true → other ≠ pattern →
    workerPatternLess pattern other = true

/-! ## The comparison -/

def ranking (pattern : Bytes) : ℕ × ℕ × ℕ × ℕ × Bytes :=
  let score := scoreWorkerPattern pattern
  (score.literals, score.singleStar, score.doubleStar, score.depth, pattern)

abbrev Before : ℕ × ℕ × ℕ × ℕ × Bytes → ℕ × ℕ × ℕ × ℕ × Bytes → Prop :=
  Prod.Lex (· > ·) (Prod.Lex (· > ·) (Prod.Lex (· < ·) (Prod.Lex (· > ·) (· < ·))))

private theorem workerPatternLess_iff (one other : Bytes) :
    workerPatternLess one other = true ↔ Before (ranking one) (ranking other) := by
  simp only [workerPatternLess, ranking, Prod.lex_def]
  split_ifs <;> grind

theorem strictTotal :
    IsStrictTotalOrder Bytes fun one other => workerPatternLess one other = true := by
  have distinct : Function.Injective ranking := fun one other same => congrArg (·.2.2.2.2) same
  have ordered : IsStrictTotalOrder _ Before := {  }
  have pulled := distinct.isStrictTotalOrder_onFun (r := Before)
  simpa [Function.onFun, workerPatternLess_iff] using pulled

variable {one other route pattern : Bytes} {patterns order : List Bytes}

theorem less_or_less (different : one ≠ other) :
    workerPatternLess one other = true ∨ workerPatternLess other one = true := by
  by_contra neither
  obtain ⟨notBefore, notAfter⟩ := not_or.mp neither
  exact different (strictTotal.trichotomous one other notBefore notAfter)

theorem not_less_of_less (before : workerPatternLess one other = true) :
    workerPatternLess other one = false := by
  by_contra after
  exact strictTotal.irrefl one (strictTotal.trans one other one before (by simpa using after))

/-! ## The choice -/

private theorem sorted_matchingWorkerPatterns (route : Bytes) (order : List Bytes) :
    (matchingWorkerPatterns route order).Pairwise fun one other =>
      workerPatternLess other one = false := by
  let le (one other : Bytes) : Bool := !workerPatternLess other one
  have trans (one two three) (early : le one two = true) (late : le two three = true) :
      le one three = true := by
    have shift := strictTotal.trans three one two
    have ordered := @less_or_less one two
    grind
  have total (one other) : (le one other || le other one) = true := by
    have strict := @not_less_of_less one other
    grind
  have sorted := List.pairwise_mergeSort trans total (order.filter (routeMatchesPattern route))
  simpa [le, matchingWorkerPatterns] using sorted

theorem mem_matchingWorkerPatterns : pattern ∈ matchingWorkerPatterns route order ↔
    pattern ∈ order ∧ routeMatchesPattern route pattern = true :=
  (List.mergeSort_perm _ _).mem_iff.trans List.mem_filter

theorem Best.unique (best : Best patterns route pattern) (better : Best patterns route other) :
    other = pattern := by
  by_contra different
  have one := best.first other better.listed better.matched different
  have two := better.first pattern best.listed best.matched (Ne.symm different)
  rw [not_less_of_less one] at two
  cases two

section

variable (all : order.Perm patterns)
include all

theorem best_of_head (head : (matchingWorkerPatterns route order).head? = some pattern) :
    Best patterns route pattern := by
  have sorted := sorted_matchingWorkerPatterns route order
  obtain ⟨rest, shape⟩ := List.head?_eq_some_iff.mp head
  obtain ⟨listed, matched⟩ := mem_matchingWorkerPatterns.mp (List.mem_of_mem_head? head)
  refine ⟨all.mem_iff.mp listed, matched, fun other held suits different => ?_⟩
  have member := mem_matchingWorkerPatterns.mpr ⟨all.mem_iff.mpr held, suits⟩
  rw [shape] at member sorted
  have later := (List.mem_cons.mp member).resolve_left different
  have behind := List.rel_of_pairwise_cons sorted later
  exact (less_or_less different).resolve_left (by simp [behind])

private theorem exists_best (held : pattern ∈ patterns)
    (matched : routeMatchesPattern route pattern = true) :
    ∃ best, (matchingWorkerPatterns route order).head? = some best ∧ Best patterns route best := by
  have member := mem_matchingWorkerPatterns.mpr ⟨all.mem_iff.mpr held, matched⟩
  cases head : (matchingWorkerPatterns route order).head? with
  | none => simp [List.head?_eq_none_iff.mp head] at member
  | some best => exact ⟨best, rfl, best_of_head all head⟩

end

variable {segments : List Bytes}

private theorem matches_self (present : segments ≠ [])
    (literal : ∀ segment ∈ segments, Literal segment) :
    routeMatchesPattern (routeOf rpcScheme segments) (routeOf rpcScheme segments) = true := by
  refine (matches_routeOf_iff (by decide) present literal).mpr ?_
  rw [splitSegments_joinSegments (fun segment held => (literal segment held).2.2) present]
  refine ⟨segments.map fun segment => [segment], by simp [← List.flatMap_def], ?_⟩
  rw [List.forall₂_map_right_iff, List.forall₂_same]
  unfold Covers
  grind

/-- Of the patterns that match a concrete route one is best, and whatever the
order of the map, it serves the route unless the route has a worker of its own. -/
theorem selectWorker_deterministic (workers : AList fun _ : Bytes => Handler)
    (present : segments ≠ []) (literal : ∀ segment ∈ segments, Literal segment) :
    let route := routeOf rpcScheme segments
    (IsStrictTotalOrder Bytes fun one other => workerPatternLess one other = true) ∧
      ((∃ pattern ∈ workers.keys, routeMatchesPattern route pattern = true) →
        ∃! pattern, Best workers.keys route pattern) ∧
      ∀ order : List Bytes, order.Perm workers.keys →
        (route ∈ workers → selectWorker workers route order = workers.lookup route) ∧
        (route ∉ workers → ∀ pattern, Best workers.keys route pattern →
          selectWorker workers route order = workers.lookup pattern) ∧
        (selectWorker workers route order = none ↔
          ∀ pattern ∈ workers.keys, routeMatchesPattern route pattern = false) := by
  intro route
  refine ⟨strictTotal, ?_, fun order all => ?_⟩
  · rintro ⟨pattern, held, matched⟩
    obtain ⟨best, -, isBest⟩ := exists_best (List.Perm.refl _) held matched
    exact ⟨best, isBest, fun _ => isBest.unique⟩
  have registered (own : route ∈ workers) :
      selectWorker workers route order = workers.lookup route := by
    obtain ⟨handler, found⟩ := Option.isSome_iff_exists.mp (AList.lookup_isSome.mpr own)
    simp [selectWorker, found]
  have matching (other : route ∉ workers) (pattern : Bytes)
      (isBest : Best workers.keys route pattern) :
      selectWorker workers route order = workers.lookup pattern := by
    obtain ⟨best, head, better⟩ := exists_best all isBest.listed isBest.matched
    simp [selectWorker, AList.lookup_eq_none.mpr other, head, isBest.unique better]
  refine ⟨registered, matching, ?_, fun unmatched => ?_⟩
  · intro missing pattern held
    by_contra matched
    rw [Bool.not_eq_false] at matched
    by_cases own : route ∈ workers
    · rw [registered own, AList.lookup_eq_none] at missing
      exact missing own
    · obtain ⟨best, -, isBest⟩ := exists_best all held matched
      rw [matching own best isBest, AList.lookup_eq_none] at missing
      exact missing isBest.listed
  · have other : route ∉ workers := by
      intro own
      have unmatchedSelf := unmatched route own
      rw [matches_self present literal] at unmatchedSelf
      cases unmatchedSelf
    cases head : (matchingWorkerPatterns route order).head? with
    | none => simp [selectWorker, AList.lookup_eq_none.mpr other, head]
    | some best =>
      obtain ⟨listed, matched, -⟩ := best_of_head all head
      rw [unmatched best listed] at matched
      cases matched

/-- `rpc://*` has worker 7, beside `rpc://**` and `rpc://b`. -/
def starWorkers : AList fun _ : Bytes => Nat :=
  ((AList.singleton (routeOf rpcScheme [doubleWildcard]) 6).insert
    (routeOf rpcScheme [singleWildcard]) 7).insert (routeOf rpcScheme [[98]]) 8

theorem star_worker_serves_a_route :
    selectWorker starWorkers (routeOf rpcScheme [[97]]) starWorkers.keys.reverse = some 7 := by
  have literal : ∀ segment ∈ [[97]], Literal segment := by
    simp only [List.forall_mem_singleton, Literal]
    decide
  have best :
      Best starWorkers.keys (routeOf rpcScheme [[97]]) (routeOf rpcScheme [singleWildcard]) :=
    ⟨by decide, by decide, by decide⟩
  obtain ⟨-, -, chooses⟩ := selectWorker_deterministic starWorkers (by decide) literal
  exact (chooses _ (List.reverse_perm _)).2.1 (by decide) _ best

/-! ## More general patterns -/

def rpcPattern (path : Bytes) : Bytes :=
  rpcScheme ++ separator ++ path

/-- One round of `scoreWorkerPattern`. -/
def addSegment (score : WorkerPatternSpecificity) (segment : Bytes) : WorkerPatternSpecificity :=
  if segment = singleWildcard then { score with singleStar := score.singleStar + 1 }
  else if segment = doubleWildcard then { score with doubleStar := score.doubleStar + 1 }
  else { score with literals := score.literals + 1 }

private theorem scoreWorkerPattern_eq (path : Bytes) :
    scoreWorkerPattern (rpcPattern path) =
      (splitSegments path).foldl addSegment ⟨0, 0, 0, (splitSegments path).length⟩ := by
  rw [scoreWorkerPattern, rpcPattern, cutScheme_append (by decide)]
  rfl

/-- The segment `wider` stands for everything that `wanted` stands for. -/
def Generalises (wanted wider : Bytes) : Prop :=
  wider = wanted ∨ wider = singleWildcard ∧ wanted ≠ doubleWildcard ∨ wider = doubleWildcard

def Lower (score other : WorkerPatternSpecificity) : Prop :=
  score.literals < other.literals ∨
    score.literals = other.literals ∧ score.singleStar < other.singleStar

section

variable {wanted wider : List Bytes} (general : List.Forall₂ Generalises wanted wider)
include general

private theorem divides_general {route : List Bytes} (divides : Divides wanted route) :
    Divides wider route := by
  induction general generalizing route with
  | nil => exact divides
  | cons here _ ih =>
    obtain ⟨part, rest, rfl, covered, later⟩ := divides_cons_iff.mp divides
    refine divides_cons_iff.mpr ⟨part, rest, rfl, ?_, ih later⟩
    unfold Generalises at here
    unfold Covers at covered ⊢
    grind

/-- A score falls behind with the first segment that is more general, and stays
behind. -/
theorem lower_of_general {low high : WorkerPatternSpecificity}
    (behind : Lower low high ∨ low = high ∧ wanted ≠ wider) :
    Lower (wider.foldl addSegment low) (wanted.foldl addSegment high) := by
  induction general generalizing low high with
  | nil => exact behind.resolve_right fun both => both.2 rfl
  | cons here _ ih =>
    have wildcards : singleWildcard ≠ doubleWildcard := by decide
    refine ih ?_
    unfold Generalises at here
    unfold Lower addSegment at *
    grind

end

theorem less_of_general {path wider : Bytes} (different : path ≠ wider)
    (general : List.Forall₂ Generalises (splitSegments path) (splitSegments wider)) :
    workerPatternLess (rpcPattern path) (rpcPattern wider) = true := by
  have apart : splitSegments path ≠ splitSegments wider := by
    intro same
    rw [splitSegments_eq, splitSegments_eq] at same
    have joined := congrArg joinSegments same
    unfold joinSegments at joined
    rw [List.intercalate_splitOn, List.intercalate_splitOn] at joined
    exact different joined
  have lower : Lower (scoreWorkerPattern (rpcPattern wider))
      (scoreWorkerPattern (rpcPattern path)) := by
    rw [scoreWorkerPattern_eq, scoreWorkerPattern_eq, general.length_eq]
    exact lower_of_general general (.inr ⟨rfl, apart⟩)
  unfold Lower at lower
  unfold workerPatternLess
  grind

/-- A pattern in which wildcards have taken the place of segments matches
whatever the pattern matches, and never serves a route that the pattern could
serve. -/
theorem general_patterns_come_later (present : segments ≠ [])
    (literal : ∀ segment ∈ segments, Literal segment) {path wider : Bytes}
    (different : path ≠ wider)
    (general : List.Forall₂ Generalises (splitSegments path) (splitSegments wider))
    (matched : routeMatchesPattern (routeOf rpcScheme segments) (rpcPattern path) = true) :
    routeMatchesPattern (routeOf rpcScheme segments) (rpcPattern wider) = true ∧
      ∀ order, rpcPattern path ∈ order →
        (matchingWorkerPatterns (routeOf rpcScheme segments) order).head? ≠
          some (rpcPattern wider) := by
  have matching (path : Bytes) :
      routeMatchesPattern (routeOf rpcScheme segments) (rpcPattern path) = true ↔
        Divides (splitSegments path) segments :=
    matches_routeOf_iff (by decide) present literal
  refine ⟨(matching wider).mpr (divides_general general ((matching path).mp matched)), ?_⟩
  intro order held head
  have best := best_of_head (List.Perm.refl order) head
  have behind := best.first _ held matched fun same => different (List.append_cancel_left same)
  rw [not_less_of_less (less_of_general different general)] at behind
  cases behind

theorem star_worker_yields : (matchingWorkerPatterns (routeOf rpcScheme [[97]])
      [rpcPattern singleWildcard, rpcPattern [97]]).head? ≠ some (rpcPattern singleWildcard) := by
  have literal : ∀ segment ∈ [[97]], Literal segment := by
    simp only [List.forall_mem_singleton, Literal]
    decide
  have general : List.Forall₂ Generalises (splitSegments [97]) (splitSegments singleWildcard) :=
    .cons (.inr (.inl ⟨rfl, by decide⟩)) .nil
  exact (general_patterns_come_later (by decide) literal (by decide) general (by decide)).2 _
    (by decide)

end FitzGo.Domains.WorkerSelection
