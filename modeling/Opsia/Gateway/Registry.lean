import Mathlib.Logic.Function.Basic
import Opsia.Json.Compare

/-!
# The registry of room routes

`FencedGatewayRoomRegistry` holds one route a room.  Three calls set a route: a registration where there is none, a
reconciliation at the endpoint that is there, and a compare-and-swap.  Over any sequence of calls the epoch of a room
never decreases, and its endpoint changes only through a swap, which takes a strictly larger epoch (`routes_fenced`).

The URL parser of the language is a parameter.
-/

namespace Opsia

open Json

/-! ### Routes -/

/-- `URL`: a parser, the parts of a parsed URL that routes look at, and its text. -/
structure UrlParser where
  Url : Type
  parse : String → Option Url
  protocol : Url → String
  pathname : Url → String
  setPathname : Url → String → Url
  toString : Url → String

/-- `text.replace(/\/$/, "")` -/
def stripSlash (text : String) : String :=
  if text.toList.getLast? = some '/' then String.ofList text.toList.dropLast else text

/-- `/^room-\d+$/` -/
def isRoomId (roomId : String) : Bool :=
  match roomId.toList with
  | 'r' :: 'o' :: 'o' :: 'm' :: '-' :: digits => !digits.isEmpty && digits.all Char.isDigit
  | _ => false

/-- A route as a caller gives it. -/
structure RouteArgument where
  roomId : String
  endpoint : String
  epoch : JsNumber
  revision : Option String := none

/-- A route of the registry. -/
structure GatewayRoomRoute where
  roomId : String
  endpoint : String
  epoch : Nat
  revision : Option String
deriving DecidableEq

variable (urls : UrlParser)

/-- The endpoint of a normalized route. -/
def normalizeEndpoint (endpoint : String) : Except String String :=
  match urls.parse endpoint with
  | none => .error "Invalid URL"
  | some url =>
    if urls.protocol url ≠ "http:" ∧ urls.protocol url ≠ "https:" then .error "invalid_gateway_room_endpoint"
    else .ok (stripSlash (urls.toString (urls.setPathname url (stripSlash (urls.pathname url)))))

def normalizeRoute (route : RouteArgument) : Except String GatewayRoomRoute :=
  if isRoomId route.roomId = false then .error "invalid_gateway_room_id"
  else
    match normalizeEndpoint urls route.endpoint with
    | .error message => .error message
    | .ok endpoint =>
      match route.epoch.safeNat? with
      | some ⟨epoch, _⟩ =>
        if epoch < 1 then .error "invalid_room_epoch"
        else .ok { roomId := route.roomId, endpoint, epoch, revision := route.revision }
      | none => .error "invalid_room_epoch"

/-- A map from rooms to their routes; the route of a room names that room. -/
structure FencedGatewayRoomRegistry where
  routes : String → Option GatewayRoomRoute
  keyed : ∀ roomId route, routes roomId = some route → route.roomId = roomId

namespace FencedGatewayRoomRegistry

def empty : FencedGatewayRoomRegistry where
  routes _ := none
  keyed _ _ h := by cases h

def get (registry : FencedGatewayRoomRegistry) (roomId : String) : Option GatewayRoomRoute := registry.routes roomId

/-- `routes.set` -/
def set (registry : FencedGatewayRoomRegistry) (route : GatewayRoomRoute) : FencedGatewayRoomRegistry where
  routes := Function.update registry.routes route.roomId (some route)
  keyed roomId other h := by
    by_cases heq : roomId = route.roomId
    · subst heq
      rw [Function.update_self] at h
      cases h
      rfl
    · rw [Function.update_of_ne heq] at h
      exact registry.keyed roomId other h

@[simp] theorem get_set_self (registry : FencedGatewayRoomRegistry) (route : GatewayRoomRoute) :
    (registry.set route).get route.roomId = some route := Function.update_self ..

theorem get_set_of_ne {registry : FencedGatewayRoomRegistry} {route : GatewayRoomRoute} {roomId : String}
    (h : roomId ≠ route.roomId) : (registry.set route).get roomId = registry.get roomId := Function.update_of_ne h ..

/-- The constructor. -/
def create (initialRoutes : List RouteArgument) : Except String FencedGatewayRoomRegistry :=
  initialRoutes.foldlM (fun registry route => do
    let normalized ← normalizeRoute urls route
    if (registry.get normalized.roomId).isSome then .error "duplicate_gateway_room"
    else .ok (registry.set normalized)) empty

/-- What a call returns, and the registry after it. -/
abbrev Outcome := Except String GatewayRoomRoute × FencedGatewayRoomRegistry

def register (registry : FencedGatewayRoomRegistry) (route : RouteArgument) : Outcome :=
  match normalizeRoute urls route with
  | .error message => (.error message, registry)
  | .ok normalized =>
    match registry.get normalized.roomId with
    | some current =>
      if current.endpoint ≠ normalized.endpoint ∨ current.epoch ≠ normalized.epoch then
        (.error "gateway_room_registration_conflict", registry)
      else (.ok current, registry)
    | none => (.ok normalized, registry.set normalized)

def reconcileStableRoute (registry : FencedGatewayRoomRegistry) (route : RouteArgument) : Outcome :=
  match normalizeRoute urls route with
  | .error message => (.error message, registry)
  | .ok normalized =>
    match registry.get normalized.roomId with
    | none => (.error "gateway_room_not_found", registry)
    | some current =>
      if current.endpoint ≠ normalized.endpoint then
        (.error "gateway_room_reconciliation_endpoint_conflict", registry)
      else if normalized.epoch < current.epoch then
        (.error "gateway_room_reconciliation_epoch_regression", registry)
      else (.ok normalized, registry.set normalized)

def compareAndSwap (registry : FencedGatewayRoomRegistry) (roomId : String) (expectedEpoch : JsNumber)
    (endpoint : String) (epoch : JsNumber) (revision : Option String) : Outcome :=
  match registry.get roomId with
  | none => (.error "gateway_room_not_found", registry)
  | some current =>
    if (JsNumber.ofNat current.epoch).strictEq expectedEpoch = false then (.error "gateway_epoch_conflict", registry)
    else if epoch.lessEq expectedEpoch then (.error "gateway_epoch_not_monotonic", registry)
    else
      match normalizeRoute urls { roomId, endpoint, epoch, revision } with
      | .error message => (.error message, registry)
      | .ok next => (.ok next, registry.set next)

/-! ### What a call does -/

variable {urls}

private theorem normalizeRoute_ok {route : RouteArgument} {next : GatewayRoomRoute}
    (h : normalizeRoute urls route = .ok next) :
    next.roomId = route.roomId ∧ ∃ m : SafeNat, route.epoch.safeNat? = some m ∧ next.epoch = m.val ∧ 1 ≤ next.epoch := by
  unfold normalizeRoute at h
  split at h
  · cases h
  split at h
  · cases h
  split at h
  · rename_i epoch hle hsafe
    split at h
    · cases h
    · cases h
      exact ⟨rfl, ⟨epoch, hle⟩, hsafe, rfl, by dsimp only; omega⟩
  · cases h

variable (urls) in
/-- A registration fails, finds the route there is, or adds one where there was none. -/
theorem register_cases (registry : FencedGatewayRoomRegistry) (route : RouteArgument) :
    (∃ message, register urls registry route = (.error message, registry)) ∨
      (∃ current, registry.get current.roomId = some current ∧ register urls registry route = (.ok current, registry)) ∨
      ∃ next, registry.get next.roomId = none ∧ register urls registry route = (.ok next, registry.set next) := by
  unfold register
  split
  · exact Or.inl ⟨_, rfl⟩
  · rename_i normalized _
    split
    · rename_i current hcur
      split
      · exact Or.inl ⟨_, rfl⟩
      · have hroom := registry.keyed _ current hcur
        exact Or.inr (Or.inl ⟨current, by rw [hroom]; exact hcur, rfl⟩)
    · rename_i hnone
      exact Or.inr (Or.inr ⟨normalized, hnone, rfl⟩)

variable (urls) in
/-- A reconciliation fails or keeps the endpoint and does not lower the epoch. -/
theorem reconcileStableRoute_cases (registry : FencedGatewayRoomRegistry) (route : RouteArgument) :
    (∃ message, reconcileStableRoute urls registry route = (.error message, registry)) ∨
      ∃ current next, registry.get next.roomId = some current ∧ current.endpoint = next.endpoint ∧
        current.epoch ≤ next.epoch ∧ reconcileStableRoute urls registry route = (.ok next, registry.set next) := by
  unfold reconcileStableRoute
  split
  · exact Or.inl ⟨_, rfl⟩
  · rename_i normalized _
    split
    · exact Or.inl ⟨_, rfl⟩
    · rename_i current hcur
      split
      · exact Or.inl ⟨_, rfl⟩
      · split
        · exact Or.inl ⟨_, rfl⟩
        · rename_i hend hepoch
          exact Or.inr ⟨current, normalized, hcur, by_contra hend, by omega, rfl⟩

variable (urls) in
/-- A swap fails, or finds the expected epoch and sets a route with a larger one. -/
theorem compareAndSwap_cases (registry : FencedGatewayRoomRegistry) (roomId : String) (expectedEpoch : JsNumber)
    (endpoint : String) (epoch : JsNumber) (revision : Option String) :
    (∃ message, compareAndSwap urls registry roomId expectedEpoch endpoint epoch revision = (.error message, registry)) ∨
      ∃ current next, registry.get roomId = some current ∧ next.roomId = roomId ∧
        (JsNumber.ofNat current.epoch).strictEq expectedEpoch = true ∧ current.epoch < next.epoch ∧
        compareAndSwap urls registry roomId expectedEpoch endpoint epoch revision = (.ok next, registry.set next) := by
  unfold compareAndSwap
  split
  · exact Or.inl ⟨_, rfl⟩
  · rename_i current hcur
    split
    · exact Or.inl ⟨_, rfl⟩
    · rename_i heq
      split
      · exact Or.inl ⟨_, rfl⟩
      · rename_i hle
        split
        · exact Or.inl ⟨_, rfl⟩
        · rename_i next hnext
          obtain ⟨hroom, m, hm, hval, -⟩ := normalizeRoute_ok hnext
          have hexp : (JsNumber.ofNat current.epoch).strictEq expectedEpoch = true := by simpa using heq
          have hlt := JsNumber.lt_of_not_lessEq hexp (by simpa using hle) hm
          exact Or.inr ⟨current, next, hcur, hroom, hexp, by omega, rfl⟩

/-! ### Runs of calls -/

end FencedGatewayRoomRegistry

/-- A call that may set a route. -/
inductive RegistryCall
  | register (route : RouteArgument)
  | reconcileStableRoute (route : RouteArgument)
  | compareAndSwap (roomId : String) (expectedEpoch : JsNumber) (endpoint : String) (epoch : JsNumber)
      (revision : Option String)

namespace FencedGatewayRoomRegistry

def call (registry : FencedGatewayRoomRegistry) : RegistryCall → Outcome
  | .register route => registry.register urls route
  | .reconcileStableRoute route => registry.reconcileStableRoute urls route
  | .compareAndSwap roomId expectedEpoch endpoint epoch revision =>
    registry.compareAndSwap urls roomId expectedEpoch endpoint epoch revision

/-- The registry after a list of calls. -/
def after (registry : FencedGatewayRoomRegistry) (calls : List RegistryCall) : FencedGatewayRoomRegistry :=
  calls.foldl (fun registry c => (registry.call urls c).2) registry

variable {urls}

/-- Every route of the first registry is in the second one, at an epoch that is not smaller. -/
def Precedes (first second : FencedGatewayRoomRegistry) : Prop :=
  ∀ roomId old, first.get roomId = some old → ∃ new, second.get roomId = some new ∧ old.epoch ≤ new.epoch

theorem Precedes.refl (registry : FencedGatewayRoomRegistry) : Precedes registry registry :=
  fun _ old h => ⟨old, h, le_refl _⟩

theorem Precedes.trans {first second third : FencedGatewayRoomRegistry} (h : Precedes first second)
    (h' : Precedes second third) : Precedes first third := by
  intro roomId old hold
  obtain ⟨mid, hmid, hle⟩ := h roomId old hold
  obtain ⟨new, hnew, hle'⟩ := h' roomId mid hmid
  exact ⟨new, hnew, le_trans hle hle'⟩

private theorem precedes_set {registry : FencedGatewayRoomRegistry} {next : GatewayRoomRoute}
    (h : ∀ current, registry.get next.roomId = some current → current.epoch ≤ next.epoch) :
    Precedes registry (registry.set next) := by
  intro roomId old hold
  by_cases heq : roomId = next.roomId
  · subst heq
    exact ⟨next, get_set_self registry next, h old hold⟩
  · exact ⟨old, by rw [get_set_of_ne heq]; exact hold, le_refl _⟩

variable (urls) in
/-- What one call does: it fails and changes nothing, or changes nothing, or sets one route. -/
private theorem call_cases (registry : FencedGatewayRoomRegistry) (c : RegistryCall) :
    (registry.call urls c).2 = registry ∨
      ∃ next, registry.call urls c = (.ok next, registry.set next) ∧
        ∀ current, registry.get next.roomId = some current → current.epoch ≤ next.epoch ∧
          (next.endpoint ≠ current.endpoint →
            (∃ expectedEpoch endpoint epoch revision,
              c = .compareAndSwap next.roomId expectedEpoch endpoint epoch revision) ∧ current.epoch < next.epoch) := by
  cases c with
  | register route =>
    rcases register_cases urls registry route with ⟨_, h⟩ | ⟨_, _, h⟩ | ⟨next, hnone, h⟩
    · exact Or.inl (by rw [call, h])
    · exact Or.inl (by rw [call, h])
    · exact Or.inr ⟨next, h, fun current hcur => by rw [hnone] at hcur; cases hcur⟩
  | reconcileStableRoute route =>
    rcases reconcileStableRoute_cases urls registry route with ⟨_, h⟩ | ⟨current, next, hcur, hend, hle, h⟩
    · exact Or.inl (by rw [call, h])
    · refine Or.inr ⟨next, h, fun current' hcur' => ?_⟩
      rw [hcur] at hcur'
      cases hcur'
      exact ⟨hle, fun hne => absurd hend.symm hne⟩
  | compareAndSwap roomId expectedEpoch endpoint epoch revision =>
    rcases compareAndSwap_cases urls registry roomId expectedEpoch endpoint epoch revision with
      ⟨_, h⟩ | ⟨current, next, hcur, rfl, _, hlt, h⟩
    · exact Or.inl (by rw [call, h])
    · refine Or.inr ⟨next, h, fun current' hcur' => ?_⟩
      rw [hcur] at hcur'
      cases hcur'
      exact ⟨by omega, fun _ => ⟨⟨expectedEpoch, endpoint, epoch, revision, rfl⟩, hlt⟩⟩

private theorem call_error {registry : FencedGatewayRoomRegistry} {c : RegistryCall} {message : String}
    (h : (registry.call urls c).1 = .error message) : (registry.call urls c).2 = registry := by
  rcases call_cases urls registry c with hsame | ⟨next, hok, _⟩
  · exact hsame
  · rw [hok] at h
    cases h

variable (urls) in
private theorem precedes_call (registry : FencedGatewayRoomRegistry) (c : RegistryCall) :
    Precedes registry (registry.call urls c).2 := by
  rcases call_cases urls registry c with hsame | ⟨next, hok, hcur⟩
  · rw [hsame]
    exact Precedes.refl registry
  · rw [hok]
    exact precedes_set fun current h => (hcur current h).1

variable (urls) in
/-- Over any list of calls the epochs never decrease. -/
theorem precedes_after (registry : FencedGatewayRoomRegistry) (calls : List RegistryCall) :
    Precedes registry (registry.after urls calls) := by
  induction calls generalizing registry with
  | nil => exact Precedes.refl registry
  | cons c calls ih => exact (precedes_call urls registry c).trans (ih _)

private theorem endpoint_call {registry : FencedGatewayRoomRegistry} {c : RegistryCall} {roomId : String}
    {old new : GatewayRoomRoute} (hold : registry.get roomId = some old)
    (hnew : (registry.call urls c).2.get roomId = some new) (hne : new.endpoint ≠ old.endpoint) :
    (∃ expectedEpoch endpoint epoch revision, c = .compareAndSwap roomId expectedEpoch endpoint epoch revision) ∧
      old.epoch < new.epoch := by
  rcases call_cases urls registry c with hsame | ⟨next, hok, hcur⟩
  · rw [hsame, hold] at hnew
    cases hnew
    exact absurd rfl hne
  · rw [hok] at hnew
    by_cases heq : roomId = next.roomId
    · subst heq
      rw [get_set_self] at hnew
      cases hnew
      exact (hcur old hold).2 hne
    · rw [get_set_of_ne heq, hold] at hnew
      cases hnew
      exact absurd rfl hne

private theorem swap_of_other_epoch (urls : UrlParser) {registry : FencedGatewayRoomRegistry} {roomId : String}
    (expectedEpoch : JsNumber)
    (h : ∀ current, registry.get roomId = some current → (JsNumber.ofNat current.epoch).strictEq expectedEpoch = false)
    (endpoint : String) (epoch : JsNumber) (revision : Option String) :
    ∃ message, compareAndSwap urls registry roomId expectedEpoch endpoint epoch revision = (.error message, registry) := by
  rcases compareAndSwap_cases urls registry roomId expectedEpoch endpoint epoch revision with
    herror | ⟨current, _, hcur, _, heq, _⟩
  · exact herror
  · rw [h current hcur] at heq
    cases heq

/-- After a swap no swap that expects the same epoch succeeds, whatever is called in between. -/
private theorem second_swap_fails {registry : FencedGatewayRoomRegistry} {roomId : String}
    {expectedEpoch expectedEpoch' : JsNumber} {endpoint : String} {epoch : JsNumber} {revision : Option String}
    {next : GatewayRoomRoute}
    (hok : (compareAndSwap urls registry roomId expectedEpoch endpoint epoch revision).1 = .ok next)
    (hsame : expectedEpoch.strictEq expectedEpoch' = true) (later : List RegistryCall)
    (endpoint' : String) (epoch' : JsNumber) (revision' : Option String) :
    ∃ message, (compareAndSwap urls
      ((compareAndSwap urls registry roomId expectedEpoch endpoint epoch revision).2.after urls later)
      roomId expectedEpoch' endpoint' epoch' revision').1 = .error message := by
  rcases compareAndSwap_cases urls registry roomId expectedEpoch endpoint epoch revision with
    ⟨_, h⟩ | ⟨current, next', hcur, rfl, hexp, hlt, h⟩
  · rw [h] at hok
    cases hok
  · rw [h]
    obtain ⟨new, hnew, hle⟩ := precedes_after urls (registry.set next') later next'.roomId next'
      (get_set_self registry next')
    obtain ⟨message, herror⟩ := swap_of_other_epoch urls expectedEpoch' (fun route hroute => by
      rw [hnew] at hroute
      cases hroute
      by_contra hne
      have heq : (JsNumber.ofNat new.epoch).strictEq expectedEpoch' = true := by simpa using hne
      have : current.epoch = new.epoch := JsNumber.strictEq_ofNat_inj (JsNumber.strictEq_trans hexp hsame) heq
      omega) endpoint' epoch' revision'
    exact ⟨message, by rw [herror]⟩

/-- The fence of the registry, at every call of every sequence of calls: a room keeps a route, and its epoch does not
decrease; its endpoint changes only by a swap to a strictly larger epoch; a call that fails changes nothing; a swap
that expects an epoch other than the current one fails; and of two swaps that expect the same epoch one fails. -/
theorem routes_fenced (registry : FencedGatewayRoomRegistry) (calls : List RegistryCall) (c : RegistryCall) :
    Precedes registry (registry.after urls calls) ∧
    (∀ roomId old, (registry.after urls calls).get roomId = some old →
      ∃ new, ((registry.after urls calls).call urls c).2.get roomId = some new ∧ old.epoch ≤ new.epoch ∧
        (new.endpoint ≠ old.endpoint →
          (∃ expectedEpoch endpoint epoch revision,
            c = .compareAndSwap roomId expectedEpoch endpoint epoch revision) ∧ old.epoch < new.epoch)) ∧
    (∀ message, ((registry.after urls calls).call urls c).1 = .error message →
      ((registry.after urls calls).call urls c).2 = registry.after urls calls) ∧
    (∀ roomId expectedEpoch endpoint epoch revision,
      c = .compareAndSwap roomId expectedEpoch endpoint epoch revision →
      ((∀ current, (registry.after urls calls).get roomId = some current →
          (JsNumber.ofNat current.epoch).strictEq expectedEpoch = false) →
        ∃ message, ((registry.after urls calls).call urls c).1 = .error message) ∧
      ∀ next, ((registry.after urls calls).call urls c).1 = .ok next →
        ∀ later expectedEpoch', expectedEpoch.strictEq expectedEpoch' = true →
          ∀ endpoint' epoch' revision', ∃ message,
            ((((registry.after urls calls).call urls c).2.after urls later).call urls
              (.compareAndSwap roomId expectedEpoch' endpoint' epoch' revision')).1 = .error message) := by
  refine ⟨precedes_after urls registry calls, ?_, fun message => call_error, ?_⟩
  · intro roomId old hold
    obtain ⟨new, hnew, hle⟩ := precedes_call urls (registry.after urls calls) c roomId old hold
    exact ⟨new, hnew, hle, endpoint_call hold hnew⟩
  · rintro roomId expectedEpoch endpoint epoch revision rfl
    constructor
    · intro hother
      obtain ⟨message, herror⟩ := swap_of_other_epoch urls expectedEpoch hother endpoint epoch revision
      exact ⟨message, congrArg Prod.fst herror⟩
    · intro next hok later expectedEpoch' hsame endpoint' epoch' revision'
      exact second_swap_fails hok hsame later endpoint' epoch' revision'

end FencedGatewayRoomRegistry

end Opsia
