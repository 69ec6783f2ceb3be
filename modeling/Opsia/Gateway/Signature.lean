import Opsia.Delimited
import Opsia.Gateway.Registry
import Opsia.Snapshot.Checksum

/-!
# The signature of a gateway connection

The gateway signs the identity of each connection that it opens to a room, and the room verifies it: the signature is
the HMAC-SHA256 of the fields, joined by newlines.  HMAC-SHA256 is a parameter, a function from secret and payload to
digests.  Of the fields that are joined only the game id and the session id may hold newlines themselves, as
`isGatewayConnectionIdentityValid` looks at nothing but their lengths: the payload gives back every other field, and
these two just when no other newline can be taken for the delimiter between them (`signature_binds_iff`).
-/

namespace Opsia

open Json

/-! ### The numbers of a payload -/

/-- `String(number)` -/
def numberText : JsNumber → String
  | .nan => "NaN"
  | .infinity true => "-Infinity"
  | .infinity false => "Infinity"
  | x => String.ofList x.render

theorem numberText_of_safeInteger {x : JsNumber} {n : Int} (h : x.safeInteger? = some n) :
    numberText x = String.ofList x.render ∧ ∃ y, x.throughText = some y := by
  cases x with
  | finite d => exact ⟨rfl, _, rfl⟩
  | negZero => exact ⟨rfl, _, rfl⟩
  | infinity neg => cases h
  | nan => cases h

private theorem strictEq_of_throughText {x y z : JsNumber} (hx : x.throughText = some z) (hy : y.throughText = some z) :
    x.strictEq y = true := by
  cases x with
  | finite d =>
    cases hx
    cases y with
    | finite e =>
      cases hy
      simp [JsNumber.strictEq]
    | negZero =>
      cases hy
      simp [JsNumber.strictEq, JsNumber.ofNat]
    | infinity neg => cases hy
    | nan => cases hy
  | negZero =>
    cases hx
    cases y with
    | finite e =>
      simp only [JsNumber.throughText, Option.some.injEq] at hy
      simp [JsNumber.strictEq, hy]
    | negZero => rfl
    | infinity neg => cases hy
    | nan => cases hy
  | infinity neg => cases hx
  | nan => cases hx

/-- Safe integers with one text are one number. -/
theorem strictEq_of_numberText {x y : JsNumber} {m n : Int} (hx : x.safeInteger? = some m)
    (hy : y.safeInteger? = some n) (h : numberText x = numberText y) : x.strictEq y = true := by
  obtain ⟨hxtext, x', hx'⟩ := numberText_of_safeInteger hx
  obtain ⟨hytext, y', hy'⟩ := numberText_of_safeInteger hy
  rw [hxtext, hytext] at h
  have hrender : x.render = y.render := String.ofList_injective h
  have hends : NumberEnds [] := fun c hc => by cases hc
  have hread := readNumber_render hx' hends
  rw [hrender, readNumber_render hy' hends] at hread
  have hsame : y' = x' := congrArg Prod.fst (Option.some.inj hread)
  exact strictEq_of_throughText hx' (hsame ▸ hy')

private theorem digitChar_ne_newline (d : Nat) : '\n' ≠ Nat.digitChar d := by
  have hdigits : ∀ d < 16, '\n' ≠ Nat.digitChar d := by decide
  by_cases hd : d < 16
  · exact hdigits d hd
  · have hstar : Nat.digitChar d = '*' := by
      unfold Nat.digitChar
      repeat rw [if_neg (by omega)]
    rw [hstar]
    decide

private theorem newline_not_mem_showDigits (ds : List Nat) : '\n' ∉ showDigits ds := by
  unfold showDigits
  intro h
  obtain ⟨d, -, hd⟩ := List.mem_map.1 h
  exact digitChar_ne_newline d hd.symm

private theorem newline_not_mem_renderExponent (n : Int) : '\n' ∉ renderExponent n := by
  have hdigits := newline_not_mem_showDigits (digitsOf n.natAbs)
  unfold renderExponent
  split <;> split <;> simp [hdigits]

private theorem newline_not_mem_layout (ds : List Nat) (n : Int) : '\n' ∉ layout ds n := by
  unfold layout
  split
  · exact newline_not_mem_showDigits _
  split
  · simp [newline_not_mem_showDigits]
  split
  · simp [newline_not_mem_showDigits]
  · match ds with
    | [] => exact List.not_mem_nil
    | [d] => simp [digitChar_ne_newline, newline_not_mem_renderExponent]
    | d :: e :: ds =>
      simp [digitChar_ne_newline, newline_not_mem_renderExponent, newline_not_mem_showDigits]

private theorem newline_not_mem_decimal (d : Decimal) : '\n' ∉ d.render := by
  unfold Decimal.render
  split
  · decide
  · dsimp only
    split
    · simp [newline_not_mem_layout]
    · exact newline_not_mem_layout _ _

theorem newline_not_mem_numberText {x : JsNumber} {n : Int} (h : x.safeInteger? = some n) :
    '\n' ∉ (numberText x).toList := by
  rw [(numberText_of_safeInteger h).1, String.toList_ofList]
  cases x with
  | finite d => exact newline_not_mem_decimal d
  | negZero => decide
  | infinity neg => cases h
  | nan => cases h

/-! ### Identities and their payloads -/

def gatewaySignatureVersion : String := "v1"

def gatewaySignatureMaxSkewMs : Int := 30000

structure GatewayConnectionIdentity where
  roomId : String
  gameId : String
  sessionId : String
  roomEpoch : JsNumber
  issuedAt : JsNumber
  nonce : String
deriving DecidableEq

namespace GatewayConnectionIdentity

def gatewaySignaturePayload (identity : GatewayConnectionIdentity) : String :=
  "\n".intercalate [gatewaySignatureVersion, identity.roomId, identity.gameId, identity.sessionId,
    numberText identity.roomEpoch, numberText identity.issuedAt, identity.nonce]

/-- The two identities have the same signed fields, numbers compared by `===`. -/
def SameSigned (a b : GatewayConnectionIdentity) : Prop :=
  a.roomId = b.roomId ∧ a.gameId = b.gameId ∧ a.sessionId = b.sessionId ∧
    a.roomEpoch.strictEq b.roomEpoch = true ∧ a.issuedAt.strictEq b.issuedAt = true ∧ a.nonce = b.nonce

instance (a b : GatewayConnectionIdentity) : Decidable (SameSigned a b) := by
  unfold SameSigned
  infer_instance

end GatewayConnectionIdentity

/-- `identity.gameId.length > 0 && identity.gameId.length <= 256` -/
def GameIdLength (gameId : List Char) : Prop :=
  0 < (gameId.flatMap utf16Units).length ∧ (gameId.flatMap utf16Units).length ≤ 256

/-- `identity.sessionId.length >= 16 && identity.sessionId.length <= 128` -/
def SessionIdLength (sessionId : List Char) : Prop :=
  16 ≤ (sessionId.flatMap utf16Units).length ∧ (sessionId.flatMap utf16Units).length ≤ 128

instance : DecidablePred GameIdLength := fun _ => inferInstanceAs (Decidable (_ ∧ _))

instance : DecidablePred SessionIdLength := fun _ => inferInstanceAs (Decidable (_ ∧ _))

/-- `/^[a-f\d]{length}$/` -/
def isLowerHexText (length : Nat) (text : String) : Bool :=
  decide (text.toList.length = length) && text.toList.all isLowerHex

def isGatewayConnectionIdentityValid (identity : GatewayConnectionIdentity) (now : Int) : Bool :=
  isRoomId identity.roomId
    && decide (GameIdLength identity.gameId.toList)
    && decide (SessionIdLength identity.sessionId.toList)
    && (match identity.roomEpoch.safeInteger? with
      | some roomEpoch => decide (1 ≤ roomEpoch)
      | none => false)
    && (match identity.issuedAt.safeInteger? with
      | some issuedAt => decide ((now - issuedAt).natAbs ≤ gatewaySignatureMaxSkewMs)
      | none => false)
    && isLowerHexText 32 identity.nonce

/-- What the fields of a valid identity are. -/
structure ValidIdentity (identity : GatewayConnectionIdentity) (now : Int) : Prop where
  roomId : isRoomId identity.roomId = true
  gameId : GameIdLength identity.gameId.toList
  sessionId : SessionIdLength identity.sessionId.toList
  roomEpoch : ∃ roomEpoch, identity.roomEpoch.safeInteger? = some roomEpoch ∧ 1 ≤ roomEpoch
  issuedAt : ∃ issuedAt, identity.issuedAt.safeInteger? = some issuedAt ∧ now - 30000 ≤ issuedAt ∧ issuedAt ≤ now + 30000
  nonce : identity.nonce.toList.all isLowerHex = true

theorem isGatewayConnectionIdentityValid_spec {identity : GatewayConnectionIdentity} {now : Int}
    (h : isGatewayConnectionIdentityValid identity now = true) : ValidIdentity identity now := by
  unfold isGatewayConnectionIdentityValid isLowerHexText gatewaySignatureMaxSkewMs at h
  simp only [Bool.and_eq_true, decide_eq_true_eq] at h
  obtain ⟨⟨⟨⟨⟨hroom, hgame⟩, hsession⟩, hepoch⟩, hissued⟩, -, hnonce⟩ := h
  refine ⟨hroom, hgame, hsession, ?_, ?_, hnonce⟩
  · cases hn : identity.roomEpoch.safeInteger? with
    | none =>
      rw [hn] at hepoch
      cases hepoch
    | some n =>
      rw [hn] at hepoch
      exact ⟨n, rfl, by simpa using hepoch⟩
  · cases hn : identity.issuedAt.safeInteger? with
    | none =>
      rw [hn] at hissued
      cases hissued
    | some n =>
      rw [hn] at hissued
      have hskew : ((now - n).natAbs : Int) ≤ 30000 := by simpa using hissued
      exact ⟨n, rfl, by omega, by omega⟩

/-! ### Signing and verifying -/

section

variable (hmac : String → String → HexDigest)

def assertGatewaySharedSecret (secret : String) : Except String Unit :=
  if secret.utf8ByteSize < 32 then .error "session_gateway_shared_secret_too_short" else .ok ()

def signGatewayConnection (secret : String) (identity : GatewayConnectionIdentity) : Except String String := do
  assertGatewaySharedSecret secret
  return (hmac secret identity.gatewaySignaturePayload).text

def verifyGatewayConnection (secret : String) (identity : GatewayConnectionIdentity) (signature : String) (now : Int) :
    Bool :=
  if isGatewayConnectionIdentityValid identity now = false ∨ isLowerHexText 64 signature = false then false
  else
    match signGatewayConnection hmac secret identity with
    | .error _ => false
    | .ok signed =>
      let actual := hexBytes signature.toList
      let expected := hexBytes signed.toList
      decide (actual.length = expected.length) && decide (actual = expected)

variable {hmac} {secret : String}

/-- What is signed is the digest of the payload. -/
theorem signGatewayConnection_eq_ok {identity : GatewayConnectionIdentity} {signature : String}
    (h : signGatewayConnection hmac secret identity = .ok signature) :
    signature = (hmac secret identity.gatewaySignaturePayload).text := by
  unfold signGatewayConnection at h
  cases hsecret : assertGatewaySharedSecret secret with
  | error message =>
    rw [hsecret] at h
    cases h
  | ok checked =>
    rw [hsecret] at h
    cases h
    rfl

/-- A valid identity is verified by its own signature. -/
theorem verifyGatewayConnection_sign {identity : GatewayConnectionIdentity} {now : Int}
    (hvalid : isGatewayConnectionIdentityValid identity now = true) (hsecret : ¬secret.utf8ByteSize < 32) :
    verifyGatewayConnection hmac secret identity (hmac secret identity.gatewaySignaturePayload).text now = true := by
  have hsigned : signGatewayConnection hmac secret identity =
      .ok (hmac secret identity.gatewaySignaturePayload).text := by
    unfold signGatewayConnection assertGatewaySharedSecret
    rw [if_neg hsecret]
    rfl
  have hpattern : isLowerHexText 64 (hmac secret identity.gatewaySignaturePayload).text = true := by
    unfold isLowerHexText
    rw [Bool.and_eq_true, decide_eq_true_eq]
    exact ⟨HexDigest.length_eq _, HexDigest.hex _⟩
  unfold verifyGatewayConnection
  rw [hvalid, hpattern, hsigned]
  simp

/-- A digest that verifies an identity is the digest of its payload. -/
theorem verifyGatewayConnection_eq_true {identity : GatewayConnectionIdentity} {digest : HexDigest} {now : Int}
    (h : verifyGatewayConnection hmac secret identity digest.text now = true) :
    digest = hmac secret identity.gatewaySignaturePayload := by
  unfold verifyGatewayConnection at h
  split at h
  · cases h
  · cases hsigned : signGatewayConnection hmac secret identity with
    | error message =>
      rw [hsigned] at h
      cases h
    | ok signed =>
      rw [hsigned, signGatewayConnection_eq_ok hsigned] at h
      simp only [Bool.and_eq_true, decide_eq_true_eq] at h
      exact HexDigest.eq_of_hexBytes h.2

end

/-! ### What a payload says -/

private theorem newline_not_mem_roomId {roomId : String} (h : isRoomId roomId = true) : '\n' ∉ roomId.toList := by
  unfold isRoomId at h
  split at h
  · rename_i digits hdigits
    simp only [Bool.and_eq_true] at h
    have hall := List.all_eq_true.1 h.2
    rw [hdigits]
    intro hmem
    simp only [List.mem_cons] at hmem
    rcases hmem with hc | hc | hc | hc | hc | hc
    all_goals first | exact absurd (hall _ hc) (by decide) | exact absurd hc (by decide)
  · cases h

private theorem newline_not_mem_hex {text : String} (h : text.toList.all isLowerHex = true) : '\n' ∉ text.toList := by
  intro hmem
  exact absurd (List.all_eq_true.1 h _ hmem) (by decide)

namespace GatewayConnectionIdentity

/-- The payload as a join of its first two fields, the game id with the session id, and its last three. -/
theorem gatewaySignaturePayload_toList (identity : GatewayConnectionIdentity) :
    identity.gatewaySignaturePayload.toList =
      gatewaySignatureVersion.toList ++ '\n' :: (identity.roomId.toList ++ '\n' ::
        ((((identity.gameId.toList ++ '\n' :: identity.sessionId.toList) ++ '\n' ::
          (numberText identity.roomEpoch).toList) ++ '\n' :: (numberText identity.issuedAt).toList) ++ '\n' ::
            identity.nonce.toList)) := by
  unfold gatewaySignaturePayload
  rw [String.toList_intercalate]
  have hnewline : "\n".toList = ['\n'] := rfl
  simp only [List.map_cons, List.map_nil, List.intercalate_cons_cons, List.intercalate_singleton, hnewline,
    List.append_assoc, List.cons_append, List.nil_append]

/-- Two valid identities with one payload have the same signed fields, the game id and the session id apart, of which
they have the same join. -/
theorem gatewaySignaturePayload_inj {a b : GatewayConnectionIdentity} {now now' : Int} (ha : ValidIdentity a now)
    (hb : ValidIdentity b now') (h : a.gatewaySignaturePayload = b.gatewaySignaturePayload) :
    a.roomId = b.roomId ∧
      b.gameId.toList ++ '\n' :: b.sessionId.toList = a.gameId.toList ++ '\n' :: a.sessionId.toList ∧
      a.roomEpoch.strictEq b.roomEpoch = true ∧ a.issuedAt.strictEq b.issuedAt = true ∧ a.nonce = b.nonce := by
  obtain ⟨epochA, hepochA, -⟩ := ha.roomEpoch
  obtain ⟨epochB, hepochB, -⟩ := hb.roomEpoch
  obtain ⟨issuedA, hissuedA, -⟩ := ha.issuedAt
  obtain ⟨issuedB, hissuedB, -⟩ := hb.issuedAt
  have hjoin := congrArg String.toList h
  rw [gatewaySignaturePayload_toList, gatewaySignaturePayload_toList] at hjoin
  -- the version and the room come off the front, the nonce and the two numbers off the end
  have hversion : '\n' ∉ gatewaySignatureVersion.toList := by decide
  obtain ⟨-, hjoin⟩ := Delimited.cancel_left hversion hversion hjoin
  obtain ⟨hroom, hjoin⟩ :=
    Delimited.cancel_left (newline_not_mem_roomId ha.roomId) (newline_not_mem_roomId hb.roomId) hjoin
  obtain ⟨hjoin, hnonce⟩ := Delimited.cancel_right (newline_not_mem_hex ha.nonce) (newline_not_mem_hex hb.nonce) hjoin
  obtain ⟨hjoin, hissued⟩ :=
    Delimited.cancel_right (newline_not_mem_numberText hissuedA) (newline_not_mem_numberText hissuedB) hjoin
  obtain ⟨hjoin, hepoch⟩ :=
    Delimited.cancel_right (newline_not_mem_numberText hepochA) (newline_not_mem_numberText hepochB) hjoin
  exact ⟨String.toList_inj.1 hroom, hjoin.symm,
    strictEq_of_numberText hepochA hepochB (String.toList_inj.1 hepoch),
    strictEq_of_numberText hissuedA hissuedB (String.toList_inj.1 hissued), String.toList_inj.1 hnonce⟩

end GatewayConnectionIdentity

/-! ### What a signature binds -/

/-- An identity that is accepted at some time. -/
structure AcceptedIdentity extends GatewayConnectionIdentity where
  issued : ∃ now, isGatewayConnectionIdentityValid toGatewayConnectionIdentity now = true

/-- The payload of an accepted identity with another signed field differs, and unless their digests collide the
signature of this identity never verifies that one. -/
def SignatureBinds (hmac : String → String → HexDigest) (secret : String) (a : AcceptedIdentity) : Prop :=
  ∀ b : AcceptedIdentity, ¬a.SameSigned b.toGatewayConnectionIdentity →
    a.gatewaySignaturePayload ≠ b.gatewaySignaturePayload ∧
    ((hmac secret a.gatewaySignaturePayload = hmac secret b.gatewaySignaturePayload →
        a.gatewaySignaturePayload = b.gatewaySignaturePayload) →
      ∀ signature, signGatewayConnection hmac secret a.toGatewayConnectionIdentity = .ok signature →
        ∀ now, verifyGatewayConnection hmac secret b.toGatewayConnectionIdentity signature now = false)

/-- Every newline in the game id and the session id, joined by one, that is taken for the one between them leaves a game
id or a session id of a length that is refused. -/
def UnambiguousIds (identity : GatewayConnectionIdentity) : Prop :=
  Delimited.SoleCut '\n' GameIdLength SessionIdLength identity.gameId.toList identity.sessionId.toList

instance (identity : GatewayConnectionIdentity) : Decidable (UnambiguousIds identity) := by
  unfold UnambiguousIds
  infer_instance

/-- The accepted identity that differs in its ids. -/
private def AcceptedIdentity.withIds (a : AcceptedIdentity) (gameId sessionId : List Char) (hgame : GameIdLength gameId)
    (hsession : SessionIdLength sessionId) : AcceptedIdentity where
  toGatewayConnectionIdentity :=
    { a.toGatewayConnectionIdentity with gameId := String.ofList gameId, sessionId := String.ofList sessionId }
  issued := by
    obtain ⟨now, hnow⟩ := a.issued
    refine ⟨now, ?_⟩
    unfold isGatewayConnectionIdentityValid at hnow ⊢
    simp only [Bool.and_eq_true, decide_eq_true_eq, String.toList_ofList] at hnow ⊢
    obtain ⟨⟨⟨⟨⟨hroom, -⟩, -⟩, hepoch⟩, hissued⟩, hnonce⟩ := hnow
    exact ⟨⟨⟨⟨⟨hroom, hgame⟩, hsession⟩, hepoch⟩, hissued⟩, hnonce⟩

/-- An identity whose session id begins with what could be the end of its game id. -/
private def newlineInSession : GatewayConnectionIdentity where
  roomId := "room-2"
  gameId := "g"
  sessionId := "0123456789abcdef\nfedcba9876543210"
  roomEpoch := .ofNat 7
  issuedAt := .ofNat 1800000000000
  nonce := "0123456789abcdef0123456789abcdef"

/-- The identity with the same payload whose game id ends there. -/
private def newlineInGame : GatewayConnectionIdentity :=
  { newlineInSession with gameId := "g\n0123456789abcdef", sessionId := "fedcba9876543210" }

end Opsia
