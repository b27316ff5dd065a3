import Mathlib.Data.List.Forall2
import FitzGo.Types.RouteShapes

/-!
# Wildcard matching

`RouteMatchesPattern` goes over the route once and comes back only to the last
`**`. That is enough: whatever an earlier `**` could still cover, the last one
can cover too.
-/

namespace FitzGo.Types

/-! ## The matcher -/

/-- The loop of `RouteMatchesPattern`, from `routeIndex` and `patternIndex` on.
`last` is the route from `lastDoubleMatch` on with the pattern after
`lastDoubleWildcard`. `none` is a loop that takes more than `fuel` rounds. -/
def matchSegments : (fuel : Nat) → (route pattern : List Bytes) →
    (last : Option (List Bytes × List Bytes)) → Option Bool
  | 0, _, _, _ => none
  | _ + 1, [], pattern, _ => some (pattern.all (· = doubleWildcard))
  | fuel + 1, segment :: route, pattern, last =>
    -- back to the last `**`, which covers one more segment
    let backtrack : Option Bool :=
      match last with
      | some (_ :: rest, after) => matchSegments fuel rest after (some (rest, after))
      | _ => some false
    match pattern with
    | [] => backtrack
    | wanted :: pattern =>
      if wanted = singleWildcard ∨ wanted = segment then matchSegments fuel route pattern last
      else if wanted = doubleWildcard then
        matchSegments fuel (segment :: route) pattern (some (segment :: route, pattern))
      else backtrack

def matchRounds (route pattern : List Bytes) : Nat :=
  (route.length + 2) * (pattern.length + 1)

def routeMatchesPattern (route pattern : Bytes) : Bool :=
  match cutScheme route, cutScheme pattern with
  | some (routeScheme, _), some (patternScheme, _) =>
    if routeScheme ≠ patternScheme then false
    else
      let routeSegments := splitRouteSegments route
      let patternSegments := splitRouteSegments pattern
      if routeSegments = [] ∨ patternSegments = [] then false
      else
        (matchSegments (matchRounds routeSegments patternSegments) routeSegments
          patternSegments none).getD false
  | _, _ => false

/-! ## What matching means -/

def Covers (wanted : Bytes) (part : List Bytes) : Prop :=
  wanted = doubleWildcard ∨ wanted = singleWildcard ∧ part.length = 1 ∨
    wanted ≠ singleWildcard ∧ part = [wanted]

/-- The route is divided into parts, one for each segment of the pattern. -/
def Divides (pattern route : List Bytes) : Prop :=
  ∃ parts : List (List Bytes), parts.flatten = route ∧ List.Forall₂ Covers pattern parts

theorem divides_nil_iff {route : List Bytes} : Divides [] route ↔ route = [] := by
  simp [Divides, List.forall₂_nil_left_iff, eq_comm]

theorem divides_cons_iff {wanted : Bytes} {pattern route : List Bytes} :
    Divides (wanted :: pattern) route ↔
      ∃ part rest, route = part ++ rest ∧ Covers wanted part ∧ Divides pattern rest := by
  constructor
  · rintro ⟨_, rfl, covered⟩
    obtain ⟨part, parts, covers, rest, rfl⟩ := List.forall₂_cons_left_iff.mp covered
    exact ⟨part, parts.flatten, rfl, covers, parts, rfl, rest⟩
  · rintro ⟨part, _, rfl, covers, parts, rfl, rest⟩
    exact ⟨part :: parts, rfl, .cons covers rest⟩

theorem divides_double_iff {pattern route : List Bytes} :
    Divides (doubleWildcard :: pattern) route ↔
      ∃ skipped, Divides pattern (route.drop skipped) := by
  rw [divides_cons_iff]
  constructor
  · rintro ⟨part, rest, rfl, -, divides⟩
    exact ⟨part.length, by simpa using divides⟩
  · rintro ⟨skipped, divides⟩
    exact ⟨_, _, (List.take_append_drop skipped route).symm, .inl rfl, divides⟩

theorem divides_cons_of_ne {wanted : Bytes} (single : wanted ≠ doubleWildcard)
    {pattern route : List Bytes} :
    Divides (wanted :: pattern) route ↔ ∃ segment rest, route = segment :: rest ∧
      (wanted = singleWildcard ∨ wanted = segment) ∧ Divides pattern rest := by
  rw [divides_cons_iff]
  constructor
  · rintro ⟨part, rest, rfl, covers, divides⟩
    rcases covers with double | ⟨isSingle, one⟩ | ⟨-, rfl⟩
    · exact absurd double single
    · obtain ⟨segment, rfl⟩ := List.length_eq_one_iff.mp one
      exact ⟨segment, rest, rfl, .inl isSingle, divides⟩
    · exact ⟨wanted, rest, rfl, .inr rfl, divides⟩
  · rintro ⟨segment, rest, rfl, same, divides⟩
    refine ⟨[segment], rest, rfl, ?_, divides⟩
    unfold Covers
    grind

theorem divides_append_of_notMem {front pattern route : List Bytes} (plain : doubleWildcard ∉ front)
    (divides : Divides (front ++ pattern) route) : Divides pattern (route.drop front.length) := by
  induction front generalizing route with
  | nil => exact divides
  | cons wanted front ih =>
    obtain ⟨other, plainRest⟩ := not_or.mp (List.mem_cons.not.mp plain)
    obtain ⟨segment, rest, rfl, -, later⟩ := (divides_cons_of_ne (Ne.symm other)).mp divides
    exact ih plainRest later

/-! ## The loop -/

/-- What is still to be covered, by the rest of the pattern or with the last
`**` over one segment more or several. -/
def Open (route pattern : List Bytes) : Option (List Bytes × List Bytes) → Prop
  | none => Divides pattern route
  | some (start, after) => Divides pattern route ∨ ∃ more, Divides after (start.drop (more + 1))

/-- Between the last `**` and here every segment of the pattern has covered one
segment of the route. -/
def Aligned (route pattern : List Bytes) : Option (List Bytes × List Bytes) → Prop
  | none => True
  | some (start, after) => ∃ covered front, start = covered ++ route ∧ after = front ++ pattern ∧
      covered.length = front.length ∧ doubleWildcard ∉ front

/-- How many rounds are left; `width` bounds the pattern. -/
def roundsLeft (width : Nat) (route pattern : List Bytes) : Option (List Bytes × List Bytes) → Nat
  | none => (route.length + 1) * (width + 1) + pattern.length
  | some (start, _) => start.length * (width + 1) + pattern.length

private theorem divides_nil_right_iff {pattern : List Bytes} :
    Divides pattern [] ↔ pattern.all (· = doubleWildcard) = true := by
  induction pattern with
  | nil => simp [divides_nil_iff]
  | cons wanted pattern ih =>
    by_cases double : wanted = doubleWildcard
    · subst double
      simp [divides_double_iff, ih]
    · simp [divides_cons_of_ne double, double]

/-- What an earlier `**` could still cover is covered after the later one. -/
theorem divides_of_last {start after route pattern : List Bytes} {more : Nat}
    (aligned : Aligned route pattern (some (start, after)))
    (divides : Divides after (start.drop (more + 1))) :
    Divides pattern (route.drop (more + 1)) := by
  obtain ⟨covered, front, rfl, rfl, same, plain⟩ := aligned
  have rest := divides_append_of_notMem plain divides
  rwa [List.drop_drop, ← same, Nat.add_comm, ← List.drop_drop, List.drop_left] at rest

/-- The state of the loop with `fuel` rounds to go. -/
structure InLoop (width fuel : Nat) (route pattern : List Bytes)
    (last : Option (List Bytes × List Bytes)) : Prop where
  concrete : ∀ segment ∈ route, star ∉ segment
  started : ∀ start after, last = some (start, after) →
    (∀ segment ∈ start, star ∉ segment) ∧ after.length ≤ width
  aligned : Aligned route pattern last
  bounded : pattern.length ≤ width
  enough : roundsLeft width route pattern last < fuel

section Rounds

variable {width fuel : Nat} {segment wanted : Bytes} {route pattern : List Bytes}
  {last : Option (List Bytes × List Bytes)}

theorem InLoop.advance
    (inLoop : InLoop width (fuel + 1) (segment :: route) (wanted :: pattern) last)
    (single : wanted ≠ doubleWildcard) : InLoop width fuel route pattern last := by
  obtain ⟨concrete, started, aligned, bounded, enough⟩ := inLoop
  refine ⟨fun part held => concrete part (List.mem_cons_of_mem _ held), started, ?_,
    Nat.le_of_succ_le bounded, ?_⟩
  · cases last with
    | none => trivial
    | some last =>
      obtain ⟨covered, front, start, after, same, plain⟩ := aligned
      refine ⟨covered ++ [segment], front ++ [wanted], ?_, ?_, ?_, ?_⟩ <;> grind
  · cases last <;> simp only [roundsLeft, List.length_cons, Nat.add_mul] at enough ⊢ <;> omega

theorem InLoop.enterDouble
    (inLoop : InLoop width (fuel + 1) (segment :: route) (doubleWildcard :: pattern) last) :
    InLoop width fuel (segment :: route) pattern (some (segment :: route, pattern)) := by
  obtain ⟨concrete, started, aligned, bounded, enough⟩ := inLoop
  have shorter : pattern.length ≤ width := Nat.le_of_succ_le bounded
  refine ⟨concrete, by grind, ⟨[], [], by simp⟩, shorter, ?_⟩
  cases last with
  | none =>
    simp only [roundsLeft, List.length_cons, Nat.add_mul] at enough ⊢
    omega
  | some last =>
    obtain ⟨covered, front, start, after, -, -⟩ := aligned
    rw [roundsLeft, start] at enough
    simp only [roundsLeft, List.length_append, List.length_cons, Nat.add_mul] at enough ⊢
    omega

theorem InLoop.backtrack {first : Bytes} {rest after : List Bytes}
    (inLoop : InLoop width (fuel + 1) (segment :: route) pattern (some (first :: rest, after))) :
    InLoop width fuel rest after (some (rest, after)) := by
  obtain ⟨concrete, started, aligned, bounded, enough⟩ := inLoop
  obtain ⟨startConcrete, afterBounded⟩ := started _ _ rfl
  refine ⟨by grind, by grind, ⟨[], [], by simp⟩, afterBounded, ?_⟩
  simp only [roundsLeft, List.length_cons, Nat.add_mul] at enough ⊢
  omega

private theorem open_advance (single : wanted ≠ doubleWildcard)
    (same : wanted = singleWildcard ∨ wanted = segment) :
    Open (segment :: route) (wanted :: pattern) last ↔ Open route pattern last := by
  have here : Divides (wanted :: pattern) (segment :: route) ↔ Divides pattern route := by
    rw [divides_cons_of_ne single]
    grind
  cases last <;> simp only [Open, here]

/-- The exchange: whatever an earlier `**` could cover beyond its present part,
this one can. -/
theorem open_enterDouble (aligned : Aligned (segment :: route) (doubleWildcard :: pattern) last) :
    Open (segment :: route) (doubleWildcard :: pattern) last ↔
      Open (segment :: route) pattern (some (segment :: route, pattern)) := by
  have here : Divides (doubleWildcard :: pattern) (segment :: route) ↔
      Open (segment :: route) pattern (some (segment :: route, pattern)) := by
    rw [divides_double_iff, Open]
    constructor
    · rintro ⟨_ | skipped, divides⟩
      · exact .inl divides
      · exact .inr ⟨skipped, divides⟩
    · rintro (divides | ⟨more, divides⟩)
      · exact ⟨0, divides⟩
      · exact ⟨more + 1, divides⟩
  rw [← here]
  cases last with
  | none => rfl
  | some last =>
    refine ⟨?_, .inl⟩
    rintro (divides | ⟨more, divides⟩)
    · exact divides
    · obtain ⟨skipped, later⟩ := divides_double_iff.mp (divides_of_last aligned divides)
      rw [List.drop_drop] at later
      exact divides_double_iff.mpr ⟨_, later⟩

private theorem open_backtrack {continued : List Bytes → List Bytes → Option Bool}
    (stuck : ¬ Divides pattern (segment :: route))
    (aligned : Aligned (segment :: route) pattern last)
    (later : ∀ first rest after, last = some (first :: rest, after) →
      ∃ result, continued rest after = some result ∧
        (result = true ↔ Open rest after (some (rest, after)))) :
    ∃ result, (match last with
        | some (_ :: rest, after) => continued rest after
        | _ => some false) = some result ∧
      (result = true ↔ Open (segment :: route) pattern last) := by
  match last with
  | none => exact ⟨false, rfl, by simpa [Open] using stuck⟩
  | some ([], after) =>
    obtain ⟨covered, front, start, -⟩ := aligned
    simp at start
  | some (first :: rest, after) =>
    obtain ⟨result, ran, meaning⟩ := later first rest after rfl
    refine ⟨result, ran, meaning.trans ?_⟩
    simp only [Open, stuck, false_or, List.drop_succ_cons]
    constructor
    · rintro (divides | ⟨more, divides⟩)
      · exact ⟨0, divides⟩
      · exact ⟨more + 1, divides⟩
    · rintro ⟨_ | more, divides⟩
      · exact .inl divides
      · exact .inr ⟨more, divides⟩

private theorem double_ne_of_match (concrete : ∀ part ∈ segment :: route, star ∉ part)
    (same : wanted = singleWildcard ∨ wanted = segment) : wanted ≠ doubleWildcard := by
  rintro rfl
  rcases same with same | rfl
  · simp [doubleWildcard, singleWildcard] at same
  · exact concrete _ List.mem_cons_self (by decide)

end Rounds

private theorem matchSegments_eq {width fuel : Nat} {route pattern : List Bytes}
    {last : Option (List Bytes × List Bytes)} (inLoop : InLoop width fuel route pattern last) :
    ∃ result, matchSegments fuel route pattern last = some result ∧
      (result = true ↔ Open route pattern last) := by
  fun_induction matchSegments fuel route pattern last with
  | case1 => exact absurd inLoop.enough (Nat.not_lt_zero _)
  | case2 last fuel pattern =>
    refine ⟨_, rfl, divides_nil_right_iff.symm.trans ?_⟩
    cases last with
    | none => rfl
    | some last =>
      refine ⟨Or.inl, ?_⟩
      rintro (divides | ⟨more, divides⟩)
      · exact divides
      · simpa using divides_of_last inLoop.aligned divides
  | case3 fuel segment route last _ later =>
    have stuck : ¬ Divides [] (segment :: route) := by simp [divides_nil_iff]
    refine open_backtrack stuck inLoop.aligned ?_
    rintro first rest after rfl
    exact later rest after inLoop.backtrack
  | case4 fuel segment route last wanted pattern same _ later =>
    have single := double_ne_of_match inLoop.concrete same
    obtain ⟨result, ran, meaning⟩ := later (inLoop.advance single)
    exact ⟨result, ran, meaning.trans (open_advance single same).symm⟩
  | case5 fuel segment route last pattern _ _ later =>
    obtain ⟨result, ran, meaning⟩ := later inLoop.enterDouble
    exact ⟨result, ran, meaning.trans (open_enterDouble inLoop.aligned).symm⟩
  | case6 fuel segment route last _ wanted pattern other single later =>
    have stuck : ¬ Divides (wanted :: pattern) (segment :: route) := by
      rw [divides_cons_of_ne single]
      grind
    refine open_backtrack stuck inLoop.aligned ?_
    rintro first rest after rfl
    exact later rest after inLoop.backtrack

theorem matchSegments_of_concrete {route : List Bytes} (pattern : List Bytes)
    (concrete : ∀ segment ∈ route, star ∉ segment) :
    ∃ result, (∀ fuel, matchRounds route pattern ≤ fuel →
      matchSegments fuel route pattern none = some result) ∧
      (result = true ↔ Divides pattern route) := by
  have inLoop (fuel) (rounds : matchRounds route pattern ≤ fuel) :
      InLoop pattern.length fuel route pattern none := by
    refine ⟨concrete, by simp, trivial, Nat.le_refl _, Nat.lt_of_lt_of_le ?_ rounds⟩
    simp only [roundsLeft, matchRounds, Nat.add_mul]
    omega
  obtain ⟨result, -, meaning⟩ := matchSegments_eq (inLoop _ (Nat.le_refl _))
  refine ⟨result, fun fuel rounds => ?_, meaning⟩
  obtain ⟨other, ran, same⟩ := matchSegments_eq (inLoop fuel rounds)
  rw [ran, Bool.eq_iff_iff.mpr (same.trans meaning.symm)]

section Matching

variable {route routeScheme routePath pattern patternScheme patternPath : Bytes}

theorem routeMatchesPattern_iff (routeCut : cutScheme route = some (routeScheme, routePath))
    (patternCut : cutScheme pattern = some (patternScheme, patternPath))
    (concrete : ∀ segment ∈ splitSegments routePath, star ∉ segment) :
    routeMatchesPattern route pattern = true ↔ routeScheme = patternScheme ∧
      Divides (splitSegments patternPath) (splitSegments routePath) := by
  obtain ⟨result, ran, meaning⟩ := matchSegments_of_concrete (splitSegments patternPath) concrete
  have some : splitSegments routePath ≠ [] ∧ splitSegments patternPath ≠ [] :=
    ⟨splitFrom_ne_nil _ _, splitFrom_ne_nil _ _⟩
  by_cases same : routeScheme = patternScheme <;>
    simp [routeMatchesPattern, splitRouteSegments, routeCut, patternCut, same, some,
      ran _ (Nat.le_refl _), meaning]

/-- The loop ends, and the matcher says whether the pattern divides the route. -/
theorem routeMatchesPattern_correct (routeCut : cutScheme route = some (routeScheme, routePath))
    (patternCut : cutScheme pattern = some (patternScheme, patternPath))
    (concrete : ∀ segment ∈ splitSegments routePath, star ∉ segment) :
    (∀ fuel, matchRounds (splitSegments routePath) (splitSegments patternPath) ≤ fuel →
      (matchSegments fuel (splitSegments routePath) (splitSegments patternPath) none).isSome) ∧
      (routeMatchesPattern route pattern = true ↔ routeScheme = patternScheme ∧
      Divides (splitSegments patternPath) (splitSegments routePath)) := by
  obtain ⟨result, ran, -⟩ := matchSegments_of_concrete (splitSegments patternPath) concrete
  refine ⟨fun fuel rounds => ?_, routeMatchesPattern_iff routeCut patternCut concrete⟩
  rw [ran fuel rounds]
  rfl

end Matching

/-- `a://b/c/c` against `a://**/c`: the second `c` is reached over a way back. -/
theorem routeMatchesPattern_correct_example :
    routeMatchesPattern [97, 58, 47, 47, 98, 47, 99, 47, 99] [97, 58, 47, 47, 42, 42, 47, 99] =
      true ∧ Divides [[42, 42], [99]] [[98], [99], [99]] := by
  have matched : routeMatchesPattern [97, 58, 47, 47, 98, 47, 99, 47, 99]
      [97, 58, 47, 47, 42, 42, 47, 99] = true := by decide
  have said := (routeMatchesPattern_correct rfl rfl (by decide)).2.mp matched
  exact ⟨matched, said.2⟩

end FitzGo.Types
