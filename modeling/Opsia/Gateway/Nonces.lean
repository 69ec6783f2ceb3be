import Opsia.Gateway.Signature
import Opsia.Machine

/-!
# Nonces of gateway connections

A room lets a gateway connection in when its signature verifies and its nonce is not in the table of consumed nonces.  A
nonce stays in the table for 60 s from the time it was consumed at, and is dropped at that very instant; the signature
verifies from 30 s before its issue time to 30 s after, both instants included.  The clock is read once for the
verification and once more for the table.  A connection is therefore let in twice just when it is verified again after
its nonce has been dropped (`admitted_once_iff`): at the two ends of its window at the latest.
-/

namespace Opsia

open Json

/-- The table of consumed nonces, each with the time it expires at. -/
abbrev ConsumedNonces := List (String × Int)

/-- Consumes a nonce, if it is not in the table once what has expired is dropped. -/
def consumeGatewayNonce (nonces : ConsumedNonces) (nonce : String) (now : Int) : Bool × ConsumedNonces :=
  let kept := nonces.filter fun entry => !decide (entry.2 ≤ now)
  if kept.any fun entry => decide (entry.1 = nonce) then (false, kept) else (true, kept ++ [(nonce, now + 60000)])

/-- What the upgrade handler reads off a request: a query parameter that is missing is `none`. -/
structure UpgradeRequest where
  gameId : Option String
  gatewayRequested : Bool
  gatewaySessionId : Option String
  roomEpoch : JsNumber
  gatewayIssuedAt : JsNumber
  gatewayNonce : Option String
  gatewaySignature : Option String

/-- The settings of a room server. -/
structure RoomServer where
  roomId : String
  requireSessionGateway : Bool
  sessionGatewaySharedSecret : String

inductive UpgradeOutcome
  | missingGameId
  | sessionGatewayRequired
  | invalidGatewaySignature
  | admitted
deriving DecidableEq

def UpgradeRequest.identity (request : UpgradeRequest) (server : RoomServer) (gameId : String) :
    GatewayConnectionIdentity where
  roomId := server.roomId
  gameId := gameId
  sessionId := request.gatewaySessionId.getD ""
  roomEpoch := request.roomEpoch
  issuedAt := request.gatewayIssuedAt
  nonce := request.gatewayNonce.getD ""

section

variable (hmac : String → String → HexDigest) (server : RoomServer)

/-- The request is one of a gateway, and its signature verifies. -/
def UpgradeRequest.verified (request : UpgradeRequest) (now : Int) : Bool :=
  match request.gameId with
  | none => false
  | some gameId =>
    decide (gameId ≠ "") && request.gatewayRequested &&
      verifyGatewayConnection hmac server.sessionGatewaySharedSecret (request.identity server gameId)
        (request.gatewaySignature.getD "") now

/-- The checks of an upgrade up to that of the gateway's signature. -/
def checkUpgrade (nonces : ConsumedNonces) (request : UpgradeRequest) (verifiedAt consumedAt : Int) :
    UpgradeOutcome × ConsumedNonces :=
  match request.gameId with
  | none => (.missingGameId, nonces)
  | some gameId =>
    if gameId = "" then (.missingGameId, nonces)
    else if server.requireSessionGateway && !request.gatewayRequested then (.sessionGatewayRequired, nonces)
    else if request.gatewayRequested then
      let identity := request.identity server gameId
      if verifyGatewayConnection hmac server.sessionGatewaySharedSecret identity (request.gatewaySignature.getD "")
          verifiedAt = false then
        (.invalidGatewaySignature, nonces)
      else
        let consumed := consumeGatewayNonce nonces identity.nonce consumedAt
        if consumed.1 then (.admitted, consumed.2) else (.invalidGatewaySignature, consumed.2)
    else (.admitted, nonces)

end

/-! ### Runs of upgrade attempts -/

/-- An upgrade attempt with the times the clock shows when it is verified and when its nonce is consumed. -/
structure UpgradeAttempt where
  request : UpgradeRequest
  verifiedAt : Int
  consumedAt : Int

/-- A signed gateway connection. -/
structure SignedConnection where
  nonce : String
  issuedAt : JsNumber
  signature : String

def UpgradeRequest.connection (request : UpgradeRequest) : SignedConnection where
  nonce := request.gatewayNonce.getD ""
  issuedAt := request.gatewayIssuedAt
  signature := request.gatewaySignature.getD ""

def SignedConnection.Same (a b : SignedConnection) : Prop :=
  a.nonce = b.nonce ∧ a.issuedAt.strictEq b.issuedAt = true ∧ a.signature = b.signature

/-- The table of nonces of a room server, its clock, and the gateway connections it has let in so far, each with the
time its nonce was consumed at. -/
structure GatewayUpgrades where
  consumedGatewayNonces : ConsumedNonces
  clock : Int
  admissions : List (SignedConnection × Int)

namespace GatewayUpgrades

variable (hmac : String → String → HexDigest) (server : RoomServer)

/-- A room server that starts when the clock shows `now`. -/
def start (now : Int) : GatewayUpgrades where
  consumedGatewayNonces := []
  clock := now
  admissions := []

/-- One upgrade attempt.  The clock does not go back. -/
def step (upgrades : GatewayUpgrades) (attempt : UpgradeAttempt) : Option GatewayUpgrades :=
  if upgrades.clock ≤ attempt.verifiedAt ∧ attempt.verifiedAt ≤ attempt.consumedAt then
    let checked := checkUpgrade hmac server upgrades.consumedGatewayNonces attempt.request attempt.verifiedAt
      attempt.consumedAt
    some {
      consumedGatewayNonces := checked.2
      clock := attempt.consumedAt
      admissions :=
        if checked.1 = .admitted ∧ attempt.request.gatewayRequested = true then
          upgrades.admissions ++ [(attempt.request.connection, attempt.consumedAt)]
        else upgrades.admissions }
  else none

/-- No connection has been let in twice. -/
def AdmittedOnce (upgrades : GatewayUpgrades) : Prop :=
  upgrades.admissions.Pairwise fun earlier later => ¬earlier.1.Same later.1

/-- If the attempt is verified and its connection has been let in before, then its nonce was consumed less than 60 s
before. -/
def NonceRetained (upgrades : GatewayUpgrades) (attempt : UpgradeAttempt) : Prop :=
  attempt.request.verified hmac server attempt.verifiedAt = true →
    (∃ admission ∈ upgrades.admissions, admission.1.Same attempt.request.connection) →
      ∃ admission ∈ upgrades.admissions, admission.1.nonce = attempt.request.connection.nonce ∧
        attempt.consumedAt < admission.2 + 60000

end GatewayUpgrades

/-! ### What an attempt does -/

theorem consumeGatewayNonce_fst {nonces : ConsumedNonces} {nonce : String} {now : Int} :
    (consumeGatewayNonce nonces nonce now).1 = true ↔ ∀ entry ∈ nonces, entry.1 = nonce → entry.2 ≤ now := by
  unfold consumeGatewayNonce
  dsimp only
  split
  · rename_i hany
    obtain ⟨entry, hentry, hnonce⟩ := List.any_eq_true.1 hany
    obtain ⟨hmem, hlive⟩ := List.mem_filter.1 hentry
    constructor
    · intro h
      cases h
    · intro h
      have hexpired := h entry hmem (of_decide_eq_true hnonce)
      simp only [Bool.not_eq_true', decide_eq_false_iff_not] at hlive
      exact absurd hexpired hlive
  · rename_i hany
    refine iff_of_true rfl fun entry hmem hnonce => ?_
    by_contra hlive
    refine hany (List.any_eq_true.2 ⟨entry, List.mem_filter.2 ⟨hmem, ?_⟩, decide_eq_true hnonce⟩)
    simp only [hlive, decide_false, Bool.not_false]

theorem mem_consumeGatewayNonce {nonces : ConsumedNonces} {nonce : String} {now : Int} {entry : String × Int} :
    entry ∈ (consumeGatewayNonce nonces nonce now).2 ↔
      entry ∈ nonces ∧ now < entry.2 ∨
        (consumeGatewayNonce nonces nonce now).1 = true ∧ entry = (nonce, now + 60000) := by
  have hkept : (entry ∈ nonces.filter fun entry => !decide (entry.2 ≤ now)) ↔ entry ∈ nonces ∧ now < entry.2 := by
    rw [List.mem_filter, Bool.not_eq_true', decide_eq_false_iff_not, not_le]
  unfold consumeGatewayNonce
  dsimp only
  split
  · rw [hkept]
    constructor
    · exact Or.inl
    · rintro (h | ⟨h, -⟩)
      · exact h
      · cases h
  · rw [List.mem_append, hkept, List.mem_singleton]
    constructor
    · exact Or.imp_right fun h => ⟨rfl, h⟩
    · exact Or.imp_right And.right

variable {hmac : String → String → HexDigest} {server : RoomServer}

/-- A request that does not verify changes nothing and is not let in as a gateway connection. -/
theorem checkUpgrade_refused {nonces : ConsumedNonces} {request : UpgradeRequest} {verifiedAt : Int}
    (h : request.verified hmac server verifiedAt = false) (consumedAt : Int) :
    (checkUpgrade hmac server nonces request verifiedAt consumedAt).2 = nonces ∧
      ¬((checkUpgrade hmac server nonces request verifiedAt consumedAt).1 = .admitted ∧
        request.gatewayRequested = true) := by
  unfold UpgradeRequest.verified at h
  unfold checkUpgrade
  cases hgame : request.gameId with
  | none => exact ⟨rfl, fun hadmitted => nomatch hadmitted.1⟩
  | some gameId =>
    rw [hgame] at h
    dsimp only at h ⊢
    by_cases hempty : gameId = ""
    · rw [if_pos hempty]
      exact ⟨rfl, fun hadmitted => nomatch hadmitted.1⟩
    rw [if_neg hempty]
    cases hrequested : request.gatewayRequested with
    | false =>
      split
      · exact ⟨rfl, fun hadmitted => nomatch hadmitted.1⟩
      · exact ⟨rfl, fun hadmitted => nomatch hadmitted.2⟩
    | true =>
      rw [hrequested] at h
      have hverify : verifyGatewayConnection hmac server.sessionGatewaySharedSecret (request.identity server gameId)
          (request.gatewaySignature.getD "") verifiedAt = false := by simpa [hempty] using h
      rw [Bool.not_true, Bool.and_false, if_neg Bool.false_ne_true, if_pos rfl, if_pos hverify]
      exact ⟨rfl, fun hadmitted => nomatch hadmitted.1⟩

/-- A request that verifies consumes its nonce, and is let in if that goes through. -/
theorem checkUpgrade_verified {nonces : ConsumedNonces} {request : UpgradeRequest} {verifiedAt : Int}
    (h : request.verified hmac server verifiedAt = true) (consumedAt : Int) :
    (checkUpgrade hmac server nonces request verifiedAt consumedAt).2 =
        (consumeGatewayNonce nonces request.connection.nonce consumedAt).2 ∧
      ((checkUpgrade hmac server nonces request verifiedAt consumedAt).1 = .admitted ∧
          request.gatewayRequested = true ↔
        (consumeGatewayNonce nonces request.connection.nonce consumedAt).1 = true) := by
  unfold UpgradeRequest.verified at h
  unfold checkUpgrade
  cases hgame : request.gameId with
  | none =>
    rw [hgame] at h
    cases h
  | some gameId =>
    rw [hgame] at h
    simp only [Bool.and_eq_true, decide_eq_true_eq] at h
    obtain ⟨⟨hne, hrequested⟩, hverify⟩ := h
    dsimp only
    rw [if_neg hne, hrequested, Bool.not_true, Bool.and_false, if_neg Bool.false_ne_true, if_pos rfl, hverify,
      if_neg (by decide)]
    have hnonce : (request.identity server gameId).nonce = request.connection.nonce := rfl
    rw [hnonce]
    cases hconsumed : (consumeGatewayNonce nonces request.connection.nonce consumedAt).1 with
    | false => exact ⟨rfl, iff_of_false (fun hadmitted => nomatch hadmitted.1) Bool.false_ne_true⟩
    | true => exact ⟨rfl, iff_of_true ⟨rfl, rfl⟩ rfl⟩

namespace GatewayUpgrades

/-- What one attempt does to the table and to the connections let in. -/
theorem step_cases {upgrades upgrades' : GatewayUpgrades} {attempt : UpgradeAttempt}
    (hs : step hmac server upgrades attempt = some upgrades') :
    upgrades.clock ≤ attempt.consumedAt ∧ upgrades'.clock = attempt.consumedAt ∧
      (attempt.request.verified hmac server attempt.verifiedAt = false ∧
          upgrades'.consumedGatewayNonces = upgrades.consumedGatewayNonces ∧
          upgrades'.admissions = upgrades.admissions ∨
        attempt.request.verified hmac server attempt.verifiedAt = true ∧
          upgrades'.consumedGatewayNonces = (consumeGatewayNonce upgrades.consumedGatewayNonces
            attempt.request.connection.nonce attempt.consumedAt).2 ∧
          upgrades'.admissions = if (consumeGatewayNonce upgrades.consumedGatewayNonces
              attempt.request.connection.nonce attempt.consumedAt).1 = true then
            upgrades.admissions ++ [(attempt.request.connection, attempt.consumedAt)]
          else upgrades.admissions) := by
  unfold step at hs
  split at hs
  · rename_i htimes
    cases hs
    refine ⟨htimes.1.trans htimes.2, rfl, ?_⟩
    cases hverified : attempt.request.verified hmac server attempt.verifiedAt with
    | false =>
      obtain ⟨hnonces, hrefused⟩ := checkUpgrade_refused hverified attempt.consumedAt
      exact Or.inl ⟨rfl, hnonces, if_neg hrefused⟩
    | true =>
      obtain ⟨hnonces, hadmitted⟩ := checkUpgrade_verified hverified attempt.consumedAt
      exact Or.inr ⟨rfl, hnonces, if_congr hadmitted rfl rfl⟩
  · cases hs

/-! ### Connections are let in once -/

/-- The table holds the nonces that were consumed less than 60 s before, and no connection has been let in twice. -/
structure Retaining (upgrades : GatewayUpgrades) : Prop where
  consumed : ∀ entry ∈ upgrades.consumedGatewayNonces, ∃ admission ∈ upgrades.admissions,
    admission.1.nonce = entry.1 ∧ entry.2 = admission.2 + 60000
  retained : ∀ admission ∈ upgrades.admissions, upgrades.clock < admission.2 + 60000 →
    (admission.1.nonce, admission.2 + 60000) ∈ upgrades.consumedGatewayNonces
  once : upgrades.AdmittedOnce

theorem start_retaining (now : Int) : Retaining (start now) where
  consumed := fun _ h => nomatch h
  retained := fun _ h => nomatch h
  once := List.Pairwise.nil

variable {upgrades upgrades' : GatewayUpgrades} {attempt : UpgradeAttempt}

theorem Retaining.step (h : Retaining upgrades) (hretained : upgrades.NonceRetained hmac server attempt)
    (hs : upgrades.step hmac server attempt = some upgrades') : Retaining upgrades' := by
  obtain ⟨hclock, hclock', hcases⟩ := step_cases hs
  rcases hcases with ⟨-, hnonces, hadmissions⟩ | ⟨hverified, hnonces, hadmissions⟩
  · refine ⟨?_, ?_, ?_⟩
    · rw [hnonces, hadmissions]
      exact h.consumed
    · rw [hnonces, hadmissions, hclock']
      intro admission hmem hlive
      exact h.retained admission hmem (by omega)
    · unfold AdmittedOnce
      rw [hadmissions]
      exact h.once
  · -- what is still live stays in the table
    have hkept : ∀ admission ∈ upgrades.admissions, attempt.consumedAt < admission.2 + 60000 →
        (admission.1.nonce, admission.2 + 60000) ∈ upgrades'.consumedGatewayNonces := by
      intro admission hmem hlive
      rw [hnonces, mem_consumeGatewayNonce]
      exact Or.inl ⟨h.retained admission hmem (by omega), hlive⟩
    by_cases hconsumed : (consumeGatewayNonce upgrades.consumedGatewayNonces attempt.request.connection.nonce
        attempt.consumedAt).1 = true
    · rw [if_pos hconsumed] at hadmissions
      refine ⟨?_, ?_, ?_⟩
      · rw [hnonces, hadmissions]
        intro entry hentry
        rcases mem_consumeGatewayNonce.1 hentry with ⟨hmem, -⟩ | ⟨-, hentry⟩
        · obtain ⟨admission, hadmission, hsame⟩ := h.consumed entry hmem
          exact ⟨admission, List.mem_append_left _ hadmission, hsame⟩
        · refine ⟨_, List.mem_append_right _ (List.mem_singleton_self _), ?_⟩
          rw [hentry]
          exact ⟨rfl, rfl⟩
      · rw [hadmissions, hclock']
        intro admission hmem hlive
        rcases List.mem_append.1 hmem with hmem | hmem
        · exact hkept admission hmem hlive
        · rw [hnonces, mem_consumeGatewayNonce, List.mem_singleton.1 hmem]
          exact Or.inr ⟨hconsumed, rfl⟩
      · unfold AdmittedOnce
        rw [hadmissions, List.pairwise_append]
        refine ⟨h.once, List.pairwise_singleton _ _, fun earlier hearlier later hlater hsame => ?_⟩
        -- the nonce of a connection that was let in before is still in the table
        rw [List.mem_singleton.1 hlater] at hsame
        obtain ⟨admission, hadmission, hnonce, hlive⟩ := hretained hverified ⟨earlier, hearlier, hsame⟩
        have hentry := h.retained admission hadmission (by omega)
        have hexpired := consumeGatewayNonce_fst.1 hconsumed _ hentry hnonce
        dsimp only at hexpired
        omega
    · rw [if_neg hconsumed] at hadmissions
      refine ⟨?_, ?_, ?_⟩
      · rw [hnonces, hadmissions]
        intro entry hentry
        rcases mem_consumeGatewayNonce.1 hentry with ⟨hmem, -⟩ | ⟨htrue, -⟩
        · exact h.consumed entry hmem
        · exact absurd htrue hconsumed
      · rw [hadmissions, hclock']
        exact hkept
      · unfold AdmittedOnce
        rw [hadmissions]
        exact h.once

/-- An attempt whose nonce is no longer retained lets its connection in again. -/
theorem Retaining.admittedTwice (h : Retaining upgrades) (hretained : ¬upgrades.NonceRetained hmac server attempt)
    (hs : upgrades.step hmac server attempt = some upgrades') : ¬upgrades'.AdmittedOnce := by
  unfold NonceRetained at hretained
  push Not at hretained
  obtain ⟨hverified, ⟨earlier, hearlier, hsame⟩, hexpired⟩ := hretained
  obtain ⟨-, -, ⟨hrefused, -⟩ | ⟨-, -, hadmissions⟩⟩ := step_cases hs
  · rw [hverified] at hrefused
    cases hrefused
  · have hconsumed : (consumeGatewayNonce upgrades.consumedGatewayNonces attempt.request.connection.nonce
        attempt.consumedAt).1 = true := by
      refine consumeGatewayNonce_fst.2 fun entry hentry hnonce => ?_
      obtain ⟨admission, hadmission, hname, htime⟩ := h.consumed entry hentry
      have := hexpired admission hadmission (hname.trans hnonce)
      omega
    rw [if_pos hconsumed] at hadmissions
    unfold AdmittedOnce
    rw [hadmissions, List.pairwise_append]
    rintro ⟨-, -, hdistinct⟩
    exact hdistinct earlier hearlier _ (List.mem_singleton_self _) hsame

variable (hmac server) in
/-- In a run of upgrade attempts no connection is let in twice just when every attempt of a connection that was let in
before and that is verified again finds its nonce consumed less than 60 s before. -/
theorem admitted_once_iff (now : Int) (attempts : List UpgradeAttempt) :
    Machine.Throughout (step hmac server) AdmittedOnce (start now) attempts ↔
      Machine.EachStep (step hmac server) (NonceRetained hmac server) (start now) attempts :=
  Machine.throughout_iff_eachStep (fun _ => Retaining.once) (fun _ _ _ h hretained hs => h.step hretained hs)
    (fun _ _ _ h hretained hs => h.admittedTwice hretained hs) (start_retaining now) attempts

private def roomTwo : RoomServer where
  roomId := "room-2"
  requireSessionGateway := true
  sessionGatewaySharedSecret := "test-session-gateway-secret-at-least-32-bytes"

private def gameSeven : GatewayConnectionIdentity where
  roomId := "room-2"
  gameId := "game-7"
  sessionId := "stable-session-0007"
  roomEpoch := .ofNat 7
  issuedAt := .ofNat 1800000000000
  nonce := "0123456789abcdef0123456789abcdef"

/-- The signed connection of `gameSeven`, presented at a time. -/
private def presented (hmac : String → String → HexDigest) (now : Int) : UpgradeAttempt where
  request :=
    { gameId := some gameSeven.gameId
      gatewayRequested := true
      gatewaySessionId := some gameSeven.sessionId
      roomEpoch := gameSeven.roomEpoch
      gatewayIssuedAt := gameSeven.issuedAt
      gatewayNonce := some gameSeven.nonce
      gatewaySignature := some (hmac roomTwo.sessionGatewaySharedSecret gameSeven.gatewaySignaturePayload).text }
  verifiedAt := now
  consumedAt := now

private theorem presented_verified {now : Int} (h : isGatewayConnectionIdentityValid gameSeven now = true) :
    (presented hmac now).request.verified hmac roomTwo now = true := by
  have hverify : verifyGatewayConnection hmac roomTwo.sessionGatewaySharedSecret
      ((presented hmac now).request.identity roomTwo gameSeven.gameId)
      ((presented hmac now).request.gatewaySignature.getD "") now = true :=
    verifyGatewayConnection_sign h (by decide +kernel)
  unfold UpgradeRequest.verified
  have hgame : (presented hmac now).request.gameId = some gameSeven.gameId := rfl
  have hrequested : (presented hmac now).request.gatewayRequested = true := rfl
  rw [hgame]
  dsimp only
  rw [hrequested, hverify]
  decide

variable (hmac) in
/-- When every entry has expired the connection is let in. -/
private theorem step_admits (upgrades : GatewayUpgrades) (now : Int) (hclock : upgrades.clock ≤ now)
    (hvalid : isGatewayConnectionIdentityValid gameSeven now = true)
    (hexpired : ∀ entry ∈ upgrades.consumedGatewayNonces, entry.2 ≤ now) :
    ∃ upgrades', step hmac roomTwo upgrades (presented hmac now) = some upgrades' ∧ upgrades'.clock = now ∧
      (∀ entry ∈ upgrades'.consumedGatewayNonces, entry.2 ≤ now + 60000) ∧
      upgrades'.admissions = upgrades.admissions ++ [((presented hmac now).request.connection, now)] := by
  have hsome : ∃ upgrades', step hmac roomTwo upgrades (presented hmac now) = some upgrades' := by
    unfold step
    rw [if_pos ⟨hclock, le_refl _⟩]
    exact ⟨_, rfl⟩
  obtain ⟨upgrades', hs⟩ := hsome
  obtain ⟨-, hclock', ⟨hrefused, -⟩ | ⟨-, hnonces, hadmissions⟩⟩ := step_cases hs
  · cases hrefused.symm.trans (presented_verified hvalid)
  · have hconsumed := consumeGatewayNonce_fst.2 fun entry hentry
      (_ : entry.1 = (presented hmac now).request.connection.nonce) => hexpired entry hentry
    refine ⟨upgrades', hs, hclock', ?_, hadmissions.trans (if_pos hconsumed)⟩
    intro entry hentry
    rw [hnonces] at hentry
    rcases mem_consumeGatewayNonce.1 hentry with ⟨hmem, -⟩ | ⟨-, hentry⟩
    · have := hexpired entry hmem
      omega
    · rw [hentry]
      exact le_refl _

/-- Whatever the digest is, a connection that is presented at both ends of its window is let in twice. -/
theorem admitted_at_both_ends : ¬∃ hmac : String → String → HexDigest, ∀ server now attempts,
    Machine.Throughout (step hmac server) AdmittedOnce (start now) attempts := by
  rintro ⟨hmac, h⟩
  have hrun := h roomTwo 1799999970000 [presented hmac 1799999970000, presented hmac 1800000030000]
  obtain ⟨first, hfirst, hclock, hlive, hadmissions⟩ := step_admits hmac (start 1799999970000) 1799999970000
    (le_refl _) (by decide +kernel) (fun _ h => nomatch h)
  -- the second attempt comes at the instant the nonce expires
  obtain ⟨second, hsecond, -, -, hadmissions'⟩ := step_admits hmac first 1800000030000
    (by rw [hclock]; decide) (by decide +kernel) hlive
  have hstart : (start 1799999970000).admissions = [] := rfl
  have honce := ((hrun.2 first hfirst).2 second hsecond).head
  unfold AdmittedOnce at honce
  rw [hadmissions', hadmissions, hstart, List.nil_append, List.pairwise_append] at honce
  refine honce.2.2 _ (List.mem_singleton_self _) _ (List.mem_singleton_self _) ⟨rfl, ?_, rfl⟩
  have hissued : (JsNumber.ofNat 1800000000000).strictEq (.ofNat 1800000000000) = true := by decide +kernel
  exact hissued

end GatewayUpgrades

end Opsia
