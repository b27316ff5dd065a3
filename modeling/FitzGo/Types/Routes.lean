import FitzGo.Library.BufferedReader

/-!
# Routes

A route is a scheme, `://` and segments between slashes. `scanRoute` goes over
it once, and the validators judge the shape it has found. `splitRouteSegments`
and `strings.Cut` look for the first `://`.
-/

namespace FitzGo.Types

def slash : UInt8 := 47

def star : UInt8 := 42

/-- The bytes of `://`. -/
def separator : Bytes := [58, 47, 47]

def singleWildcard : Bytes := [star]

def doubleWildcard : Bytes := [star, star]

/-- `strings.Cut(route, "://")`; `none` without a separator. -/
def cutScheme : Bytes → Option (Bytes × Bytes)
  | [] => none
  | byte :: rest =>
    if (byte :: rest).take 3 = separator then some ([], rest.drop 2)
    else (cutScheme rest).map fun cut => (byte :: cut.1, cut.2)

/-- The loop of `splitSegments`; `segment` is what lies between `start` and
`index`. -/
def splitFrom (segment : Bytes) : Bytes → List Bytes
  | [] => [segment]
  | byte :: rest =>
    if byte = slash then segment :: splitFrom [] rest
    else splitFrom (segment ++ [byte]) rest

def splitSegments (path : Bytes) : List Bytes :=
  splitFrom [] path

def splitRouteSegments (route : Bytes) : List Bytes :=
  match cutScheme route with
  | none => []
  | some (_, path) => splitSegments path

/-! ## The scanner -/

inductive RouteError
  | exceedsLimit
  | emptyScheme
  | expectedScheme (scheme : Bytes)
  | missingPath
  | emptySegment
  | partialWildcard
  | wildcardInConcrete
  | wildcardInFixed
  | fixedSegments (expected : Int) (got : Nat)
  | selectorSegments (expected : Int) (got : Nat)
  | selectorCountNotPositive
  | realmWildcard
  | onlySingleWildcards
  | wildcardsNotSuffix
  | wildcardPlacement
  | scheduleWildcardPlacement
  | negativeSegments
  | cannotMatch (required : Int)
  | streamShape
  | streamWholeSegment
  deriving DecidableEq

/-- `wildcardIndex` is `none` for -1. -/
structure ScannedRoute where
  segmentCount : Nat
  wildcardIndex : Option Nat
  hasDoubleWildcard : Bool
  doubleWildcardCount : Nat
  wildcardsAreSuffix : Bool
  deriving DecidableEq

def ScannedRoute.empty : ScannedRoute where
  segmentCount := 0
  wildcardIndex := none
  hasDoubleWildcard := false
  doubleWildcardCount := 0
  wildcardsAreSuffix := true

def ScannedRoute.count (shape : ScannedRoute) (segment : Bytes) : ScannedRoute :=
  if segment ≠ singleWildcard ∧ segment ≠ doubleWildcard then
    { shape with
      segmentCount := shape.segmentCount + 1
      wildcardsAreSuffix := shape.wildcardIndex.isNone && shape.wildcardsAreSuffix }
  else
    { shape with
      segmentCount := shape.segmentCount + 1
      wildcardIndex := some (shape.wildcardIndex.getD shape.segmentCount)
      hasDoubleWildcard := shape.hasDoubleWildcard || segment = doubleWildcard
      doubleWildcardCount := shape.doubleWildcardCount + if segment = doubleWildcard then 1 else 0 }

/-- What `scanRoute` does at the end of a segment. -/
def ScannedRoute.endSegment (shape : ScannedRoute) (segment : Bytes) :
    Except RouteError ScannedRoute :=
  if segment = [] then .error .emptySegment
  else if (segment ≠ singleWildcard ∧ segment ≠ doubleWildcard) ∧ star ∈ segment then
    .error .partialWildcard
  else .ok (shape.count segment)

/-- The loop of `scanRoute`; `segment` is what lies between `segmentStart` and
`index`. -/
def scanSegments (shape : ScannedRoute) (segment : Bytes) : Bytes → Except RouteError ScannedRoute
  | [] => shape.endSegment segment
  | byte :: rest =>
    if byte = slash then
      match shape.endSegment segment with
      | .error error => .error error
      | .ok shape => scanSegments shape [] rest
    else scanSegments shape (segment ++ [byte]) rest

def maxRouteLen : Nat := 65535

def scanRoute (route expectedScheme : Bytes) : Except RouteError ScannedRoute :=
  if route.length > maxRouteLen then .error .exceedsLimit
  else if expectedScheme = [] then .error .emptyScheme
  else if route.length < expectedScheme.length + 3 ∨
      route.take expectedScheme.length ≠ expectedScheme ∨
      (route.drop expectedScheme.length).take 3 ≠ separator then
    .error (.expectedScheme expectedScheme)
  else if route.length = expectedScheme.length + 3 then .error .missingPath
  else scanSegments .empty [] (route.drop (expectedScheme.length + 3))

/-! ## The validators -/

/-- `ValidateRoute` has the same body. -/
def validateConcreteRoute (route expectedScheme : Bytes) : Except RouteError Unit :=
  match scanRoute route expectedScheme with
  | .error error => .error error
  | .ok shape =>
    if shape.wildcardIndex.isSome then .error .wildcardInConcrete else .ok ()

def validateFixedRoute (route expectedScheme : Bytes) (segmentCount : Int) :
    Except RouteError Unit :=
  match scanRoute route expectedScheme with
  | .error error => .error error
  | .ok shape =>
    if shape.segmentCount ≠ segmentCount then
      .error (.fixedSegments segmentCount shape.segmentCount)
    else if shape.wildcardIndex.isSome then .error .wildcardInFixed
    else .ok ()

def validateSelectorRoute (route expectedScheme : Bytes) (segmentCount : Int)
    (allowRealmWildcard : Bool) : Except RouteError Unit :=
  match scanRoute route expectedScheme with
  | .error error => .error error
  | .ok shape =>
    if shape.segmentCount ≠ segmentCount then
      .error (.selectorSegments segmentCount shape.segmentCount)
    else if segmentCount = 0 then .error .selectorCountNotPositive
    else
      match shape.wildcardIndex with
      | some 0 => .error .realmWildcard
      | none => .ok ()
      | some index =>
        if shape.hasDoubleWildcard then .error .onlySingleWildcards
        else if ¬ shape.wildcardsAreSuffix then .error .wildcardsNotSuffix
        else if index = segmentCount - 1 then .ok ()
        else if allowRealmWildcard ∧ index = 1 then .ok ()
        else .error .wildcardPlacement

def noticeScheme : Bytes := [110, 111, 116, 105, 99, 101]

def scheduleScheme : Bytes := [115, 99, 104, 101, 100, 117, 108, 101]

def streamScheme : Bytes := [115, 116, 114, 101, 97, 109]

def validateNoticeSelector (route : Bytes) : Except RouteError Unit :=
  match scanRoute route noticeScheme with
  | .error error => .error error
  | .ok shape =>
    if shape.segmentCount = 2 ∧ shape.wildcardIndex = some 1 ∧ shape.hasDoubleWildcard then .ok ()
    else validateSelectorRoute route noticeScheme 3 true

def validateScheduleRoute (route : Bytes) : Except RouteError Unit :=
  validateFixedRoute route scheduleScheme 4

def validateScheduleSelector (selector : Bytes) : Except RouteError Unit :=
  match scanRoute selector scheduleScheme with
  | .error error => .error error
  | .ok shape =>
    if shape.wildcardIndex = some 0 then .error .realmWildcard
    else if shape.segmentCount = 2 ∧ shape.wildcardIndex = some 1 ∧ shape.hasDoubleWildcard then
      .ok ()
    else if shape.segmentCount = 3 ∧ shape.wildcardIndex = some 2 ∧ ¬ shape.hasDoubleWildcard then
      .ok ()
    else if shape.segmentCount = 4 ∧ (shape.wildcardIndex = none ∨
        shape.wildcardIndex = some 3 ∧ ¬ shape.hasDoubleWildcard) then
      .ok ()
    else .error .scheduleWildcardPlacement

def validateRegistrationPattern (route expectedScheme : Bytes) (requiredSegments : Int) :
    Except RouteError Unit :=
  match scanRoute route expectedScheme with
  | .error error => .error error
  | .ok shape =>
    if requiredSegments < 0 then .error .negativeSegments
    else if requiredSegments = 0 then .ok ()
    else if shape.doubleWildcardCount = 0 then
      if shape.segmentCount ≠ requiredSegments then .error (.cannotMatch requiredSegments)
      else .ok ()
    else if (shape.segmentCount : Int) - shape.doubleWildcardCount > requiredSegments then
      .error (.cannotMatch requiredSegments)
    else .ok ()

inductive StreamSelectorScope
  | resource
  | area
  | realm
  | global

/-- The two-segment form is accepted without a look at its length. -/
def classifyStreamSelector (route : Bytes) : Except RouteError StreamSelectorScope :=
  if route = streamScheme ++ separator ++ doubleWildcard then .ok .global
  else
    let segments := splitRouteSegments route
    if route.take 9 = streamScheme ++ separator ∧ segments.length = 2 ∧
        segments[1]? = some doubleWildcard ∧ segments[0]? ≠ some [] ∧
        star ∉ segments.getD 0 [] then
      .ok .realm
    else
      match scanRoute route streamScheme with
      | .error _ => .error .streamShape
      | .ok shape =>
        if shape.segmentCount ≠ 3 then .error .streamShape
        else if segments.length ≠ 3 then .error .streamShape
        else if segments.any fun segment => star ∈ segment ∧ segment ≠ singleWildcard then
          .error .streamWholeSegment
        else if segments[0]? = some singleWildcard then .ok .global
        else if segments[1]? = some singleWildcard then .ok .realm
        else if segments[2]? = some singleWildcard then .ok .area
        else .ok .resource

def validateStreamSelector (route : Bytes) : Except RouteError Unit :=
  (classifyStreamSelector route).map fun _ => ()

end FitzGo.Types
