import Opsia.BigEndian
import Opsia.Gateway.Session

/-!
# The gateway wire

A frame is a header of 24 bytes (magic, version, kind, two bytes that are zero, room epoch, sequence, tick), and for an
input or an output the payload after it.  The encoders take any number and refuse those that do not fit; decoding reads
the sequence as a 64-bit integer and turns it into a double.  Decoding inverts encoding, encoding inverts the decoding
of inputs and acknowledgements, and exactly the well-formed byte strings are accepted (`wire_round_trip`).
-/

namespace Opsia.GatewayWire

open Json

def magic : Nat := 0x4f505349

def version : Nat := 1

def headerBytes : Nat := 24

/-! ### Encoding -/

def headerOf (kind roomEpoch sequence tick : Nat) : List UInt8 :=
  BigEndian.ofNat 4 magic ++ (BigEndian.ofNat 1 version ++ (BigEndian.ofNat 1 kind ++ (BigEndian.ofNat 2 0 ++
    (BigEndian.ofNat 4 roomEpoch ++ (BigEndian.ofNat 8 sequence ++ BigEndian.ofNat 4 tick)))))

/-- `header`; `safeSequence` is `safeNat?`. -/
def header (kind : Nat) (roomEpoch sequence tick : JsNumber) : Except String (List UInt8) :=
  match safeUint32 roomEpoch, sequence.safeNat?, safeUint32 tick with
  | some roomEpoch, some sequence, some tick => .ok (headerOf kind roomEpoch sequence tick)
  | none, _, _ => .error "gateway_room_epoch_invalid"
  | some _, none, _ => .error "gateway_input_sequence_invalid"
  | some _, some _, none => .error "gateway_tick_invalid"

def encodeGatewayInput (roomEpoch inputSequence clientTick : JsNumber) (payload : Payload) :
    Except String (List UInt8) :=
  (header 1 roomEpoch inputSequence clientTick).map fun encoded => encoded ++ payload

def encodeGatewayAck (roomEpoch lastAckInputSequence serverTick : JsNumber) : Except String (List UInt8) :=
  header 2 roomEpoch lastAckInputSequence serverTick

def encodeGatewayOutput (roomEpoch serverTick : JsNumber) (payload : Payload) : Except String (List UInt8) :=
  (header 3 roomEpoch (.ofNat 0) serverTick).map fun encoded => encoded ++ payload

/-- A value that is to be framed, with the numbers it comes with. -/
inductive FrameValue
  | input (roomEpoch inputSequence clientTick : JsNumber) (payload : Payload)
  | ack (roomEpoch lastAckInputSequence serverTick : JsNumber)
  | output (roomEpoch serverTick : JsNumber) (payload : Payload)

def FrameValue.encode : FrameValue → Except String (List UInt8)
  | .input roomEpoch inputSequence clientTick payload => encodeGatewayInput roomEpoch inputSequence clientTick payload
  | .ack roomEpoch lastAckInputSequence serverTick => encodeGatewayAck roomEpoch lastAckInputSequence serverTick
  | .output roomEpoch serverTick payload => encodeGatewayOutput roomEpoch serverTick payload

/-- The frame has the kind, the numbers and the payload of the value. -/
def FrameValue.Equals : FrameValue → GatewayWireFrame → Prop
  | .input roomEpoch inputSequence clientTick payload, .input frame =>
    (JsNumber.ofNat frame.roomEpoch).strictEq roomEpoch = true ∧
      (JsNumber.ofNat frame.inputSequence).strictEq inputSequence = true ∧
      (JsNumber.ofNat frame.clientTick).strictEq clientTick = true ∧ frame.payload = payload
  | .ack roomEpoch lastAckInputSequence serverTick, .ack epoch sequence tick =>
    (JsNumber.ofNat epoch).strictEq roomEpoch = true ∧ (JsNumber.ofNat sequence).strictEq lastAckInputSequence = true ∧
      (JsNumber.ofNat tick).strictEq serverTick = true
  | .output roomEpoch serverTick payload, .output epoch tick bytes =>
    (JsNumber.ofNat epoch).strictEq roomEpoch = true ∧ (JsNumber.ofNat tick).strictEq serverTick = true ∧
      bytes = payload
  | _, _ => False

/-- A frame as a value that can be framed again. -/
def frameValue : GatewayWireFrame → FrameValue
  | .input frame =>
    .input (.ofNat frame.roomEpoch) (.ofNat frame.inputSequence) (.ofNat frame.clientTick) frame.payload
  | .ack epoch sequence tick => .ack (.ofNat epoch) (.ofNat sequence) (.ofNat tick)
  | .output epoch tick payload => .output (.ofNat epoch) (.ofNat tick) payload

/-! ### Decoding -/

/-- The unsigned number in some of the bytes, as `DataView` reads it. -/
def field (bytes : List UInt8) (offset width : Nat) : Nat := BigEndian.toNat ((bytes.drop offset).take width)

/-- `Number` of an integer: the nearest double, where two are equally near the even one. -/
def numberOfBigInt (n : Nat) : Nat :=
  let shift := Nat.log2 n - 52
  let quotient := n / 2 ^ shift
  let remainder := n % 2 ^ shift
  (if 2 ^ shift < 2 * remainder ∨ (2 ^ shift = 2 * remainder ∧ quotient % 2 = 1) then quotient + 1 else quotient) *
    2 ^ shift

def decodeGatewayFrame (bytes : List UInt8) : DecodedFrame :=
  if bytes.length < headerBytes then .unframed
  else if field bytes 0 4 ≠ magic then .unframed
  else if field bytes 4 1 ≠ version ∨ field bytes 6 2 ≠ 0 then .invalid
  else
    let kind := field bytes 5 1
    let roomEpoch := field bytes 8 4
    let sequence := numberOfBigInt (field bytes 12 8)
    let tick := field bytes 20 4
    if maxSafeInteger < sequence then .invalid
    else if kind = 1 then .frame (.input ⟨roomEpoch, sequence, tick, bytes.drop headerBytes⟩)
    else if kind = 2 ∧ bytes.length = headerBytes then .frame (.ack roomEpoch sequence tick)
    else if kind = 3 then .frame (.output roomEpoch tick (bytes.drop headerBytes))
    else .invalid

def isGatewayWireFrame (bytes : List UInt8) : Bool := decide (4 ≤ bytes.length ∧ field bytes 0 4 = magic)

/-- Why a byte string is no frame. -/
inductive Malformed (bytes : List UInt8) : Prop
  | truncated (h : bytes.length < headerBytes)
  | otherMagic (h : field bytes 0 4 ≠ magic)
  | otherVersion (h : field bytes 4 1 ≠ version)
  | reserved (h : field bytes 6 2 ≠ 0)
  | otherKind (h : field bytes 5 1 ∉ [1, 2, 3])
  | overlong (hkind : field bytes 5 1 = 2) (h : headerBytes < bytes.length)
  | outOfRange (h : maxSafeInteger < field bytes 12 8)

/-! ### The sequence as a double -/

private theorem numberOfBigInt_of_safe {n : Nat} (h : n ≤ maxSafeInteger) : numberOfBigInt n = n := by
  have hlog : Nat.log2 n - 52 = 0 := by
    by_cases h0 : n = 0
    · subst h0
      rfl
    · have hlt : Nat.log2 n < 53 := (Nat.log2_lt h0).2 (by unfold maxSafeInteger at h; omega)
      omega
  simp [numberOfBigInt, hlog, Nat.mod_one]

private theorem lt_numberOfBigInt {n : Nat} (h : maxSafeInteger < n) : maxSafeInteger < numberOfBigInt n := by
  unfold maxSafeInteger at h ⊢
  have h0 : n ≠ 0 := by omega
  have hlog : 53 ≤ Nat.log2 n := (Nat.le_log2 h0).2 (by omega)
  have hself : 2 ^ Nat.log2 n ≤ n := Nat.log2_self_le h0
  obtain ⟨shift, hshift⟩ : ∃ shift, Nat.log2 n = 52 + (shift + 1) := ⟨Nat.log2 n - 53, by omega⟩
  have hquotient : 2 ^ 52 ≤ n / 2 ^ (shift + 1) := by
    rw [Nat.le_div_iff_mul_le (by positivity), ← pow_add, ← hshift]
    exact hself
  have hpow : 2 ≤ 2 ^ (shift + 1) := by
    rw [pow_succ]
    have := Nat.one_le_two_pow (n := shift)
    omega
  have hle : ∀ m, 2 ^ 52 ≤ m → 9007199254740991 < m * 2 ^ (shift + 1) := by
    intro m hm
    have hmul := Nat.mul_le_mul hm hpow
    omega
  unfold numberOfBigInt
  rw [hshift, Nat.add_sub_cancel_left]
  dsimp only
  split
  · exact hle _ (by omega)
  · exact hle _ hquotient

/-- A 64-bit integer becomes a safe integer only if it is one, and then it stays what it is. -/
theorem numberOfBigInt_le_iff (n : Nat) : numberOfBigInt n ≤ maxSafeInteger ↔ n ≤ maxSafeInteger := by
  constructor
  · intro h
    by_contra hn
    exact absurd (lt_numberOfBigInt (Nat.lt_of_not_le hn)) (Nat.not_lt.2 h)
  · intro h
    rw [numberOfBigInt_of_safe h]
    exact h

/-! ### The bytes of a frame -/

private theorem field_skip {width n offset : Nat} (h : width ≤ offset) (rest : List UInt8) (w : Nat) :
    field (BigEndian.ofNat width n ++ rest) offset w = field rest (offset - width) w := by
  unfold field
  rw [List.drop_append, BigEndian.length_ofNat, List.drop_eq_nil_of_le (by rw [BigEndian.length_ofNat]; exact h),
    List.nil_append]

private theorem field_head {width n : Nat} (h : n < 256 ^ width) (rest : List UInt8) :
    field (BigEndian.ofNat width n ++ rest) 0 width = n := by
  have htake : (BigEndian.ofNat width n ++ rest).take width = BigEndian.ofNat width n := by
    rw [List.take_append_of_le_length (by rw [BigEndian.length_ofNat]),
      List.take_of_length_le (by rw [BigEndian.length_ofNat])]
  rw [field, List.drop_zero, htake, BigEndian.toNat_ofNat h]

/-- What follows an offset begins with the bytes of the field there. -/
private theorem drop_eq_field (bytes : List UInt8) (offset width : Nat) (h : offset + width ≤ bytes.length) :
    bytes.drop offset = BigEndian.ofNat width (field bytes offset width) ++ bytes.drop (offset + width) := by
  have hlength : ((bytes.drop offset).take width).length = width := by
    rw [List.length_take, List.length_drop]
    omega
  have hfield : (bytes.drop offset).take width = BigEndian.ofNat width (field bytes offset width) :=
    BigEndian.eq_ofNat_of_toNat hlength rfl
  rw [← hfield, ← List.drop_drop, List.take_append_drop]

private theorem length_headerOf (kind roomEpoch sequence tick : Nat) :
    (headerOf kind roomEpoch sequence tick).length = headerBytes := by
  simp [headerOf, headerBytes]

/-- The fields of an encoded frame. -/
private theorem fields_headerOf {kind roomEpoch sequence tick : Nat} (hkind : kind < 256)
    (hepoch : roomEpoch ≤ 0xffffffff) (hsequence : sequence ≤ maxSafeInteger) (htick : tick ≤ 0xffffffff)
    (payload : List UInt8) :
    let bytes := headerOf kind roomEpoch sequence tick ++ payload
    field bytes 0 4 = magic ∧ field bytes 4 1 = version ∧ field bytes 5 1 = kind ∧ field bytes 6 2 = 0 ∧
      field bytes 8 4 = roomEpoch ∧ field bytes 12 8 = sequence ∧ field bytes 20 4 = tick := by
  have hsequence' : sequence < 256 ^ 8 := by unfold maxSafeInteger at hsequence; omega
  simp only [headerOf, List.append_assoc]
  refine ⟨field_head (by decide) _, ?_, ?_, ?_, ?_, ?_, ?_⟩
  · rw [field_skip (by omega)]
    exact field_head (by decide) _
  · rw [field_skip (by omega), field_skip (by omega)]
    exact field_head (by omega) _
  · rw [field_skip (by omega), field_skip (by omega), field_skip (by omega)]
    exact field_head (by decide) _
  · rw [field_skip (by omega), field_skip (by omega), field_skip (by omega), field_skip (by omega)]
    exact field_head (by omega) _
  · rw [field_skip (by omega), field_skip (by omega), field_skip (by omega), field_skip (by omega),
      field_skip (by omega)]
    exact field_head hsequence' _
  · rw [field_skip (by omega), field_skip (by omega), field_skip (by omega), field_skip (by omega),
      field_skip (by omega), field_skip (by omega)]
    exact field_head (by omega) _

/-- A frame is its header, as the fields have it, and what follows. -/
private theorem eq_headerOf {bytes : List UInt8} (hlength : headerBytes ≤ bytes.length)
    (hmagic : field bytes 0 4 = magic) (hversion : field bytes 4 1 = version) (hreserved : field bytes 6 2 = 0) :
    bytes = headerOf (field bytes 5 1) (field bytes 8 4) (field bytes 12 8) (field bytes 20 4) ++
      bytes.drop headerBytes := by
  unfold headerBytes at hlength
  have h0 := drop_eq_field bytes 0 4 (by omega)
  have h4 := drop_eq_field bytes 4 1 (by omega)
  have h5 := drop_eq_field bytes 5 1 (by omega)
  have h6 := drop_eq_field bytes 6 2 (by omega)
  have h8 := drop_eq_field bytes 8 4 (by omega)
  have h12 := drop_eq_field bytes 12 8 (by omega)
  have h20 := drop_eq_field bytes 20 4 (by omega)
  rw [List.drop_zero, hmagic] at h0
  rw [hversion] at h4
  rw [hreserved] at h6
  conv_lhs => rw [h0, h4, h5, h6, h8, h12, h20]
  simp only [headerOf, headerBytes, List.append_assoc]

private theorem field_lt (bytes : List UInt8) (offset width : Nat) : field bytes offset width < 256 ^ width := by
  have hlength : ((bytes.drop offset).take width).length ≤ width := List.length_take_le _ _
  exact Nat.lt_of_lt_of_le (BigEndian.toNat_lt _) (Nat.pow_le_pow_right (by decide) hlength)

/-! ### The numbers of a frame -/

private theorem safeUint32_eq_some {x : JsNumber} {n : Nat} (h : safeUint32 x = some n) :
    n ≤ 0xffffffff ∧ (JsNumber.ofNat n).strictEq x = true := by
  unfold safeUint32 at h
  split at h
  · rename_i m hm hsafe
    split at h
    · rename_i hle
      cases h
      exact ⟨hle, JsNumber.strictEq_of_safeNat? hsafe⟩
    · cases h
  · cases h

private theorem header_eq_ok {kind : Nat} {roomEpoch sequence tick : JsNumber} {bytes : List UInt8}
    (h : header kind roomEpoch sequence tick = .ok bytes) :
    ∃ epoch number time, bytes = headerOf kind epoch number time ∧ epoch ≤ 0xffffffff ∧ number ≤ maxSafeInteger ∧
      time ≤ 0xffffffff ∧ (JsNumber.ofNat epoch).strictEq roomEpoch = true ∧
      (JsNumber.ofNat number).strictEq sequence = true ∧ (JsNumber.ofNat time).strictEq tick = true := by
  unfold header at h
  split at h
  · rename_i epoch number time hepoch hnumber htime
    cases h
    obtain ⟨hepochLe, hepochEq⟩ := safeUint32_eq_some hepoch
    obtain ⟨htimeLe, htimeEq⟩ := safeUint32_eq_some htime
    exact ⟨epoch, number.val, time, rfl, hepochLe, number.property, htimeLe, hepochEq,
      JsNumber.strictEq_of_safeNat? hnumber, htimeEq⟩
  all_goals cases h

private theorem header_ofNat {kind epoch sequence tick : Nat} (hepoch : epoch < 256 ^ 4)
    (hsequence : sequence ≤ maxSafeInteger) (htick : tick < 256 ^ 4) :
    header kind (.ofNat epoch) (.ofNat sequence) (.ofNat tick) = .ok (headerOf kind epoch sequence tick) := by
  have hsafe : (JsNumber.ofNat sequence).safeNat? = some ⟨sequence, hsequence⟩ :=
    JsNumber.safeNat?_ofNat ⟨sequence, hsequence⟩
  unfold header
  rw [safeUint32_ofNat, safeUint32_ofNat, hsafe, if_pos (by omega), if_pos (by omega)]

/-! ### Both directions -/

/-- What decoding makes of an encoded frame. -/
private theorem decode_headerOf {epoch sequence tick : Nat} (kind : Nat) (hkind : kind < 256)
    (hepoch : epoch ≤ 0xffffffff) (hsequence : sequence ≤ maxSafeInteger) (htick : tick ≤ 0xffffffff) (payload : List UInt8) :
    decodeGatewayFrame (headerOf kind epoch sequence tick ++ payload) =
      if kind = 1 then .frame (.input ⟨epoch, sequence, tick, payload⟩)
      else if kind = 2 ∧ payload = [] then .frame (.ack epoch sequence tick)
      else if kind = 3 then .frame (.output epoch tick payload)
      else .invalid := by
  obtain ⟨hmagic, hversion, hkindField, hreserved, hepochField, hsequenceField, htickField⟩ :=
    fields_headerOf hkind hepoch hsequence htick payload
  have hlength : (headerOf kind epoch sequence tick ++ payload).length = headerBytes + payload.length := by
    rw [List.length_append, length_headerOf]
  have hdrop : (headerOf kind epoch sequence tick ++ payload).drop headerBytes = payload := by
    rw [← length_headerOf kind epoch sequence tick, List.drop_left]
  have hempty : headerBytes + payload.length = headerBytes ↔ payload = [] := by
    rw [Nat.add_eq_left, List.length_eq_zero_iff]
  unfold decodeGatewayFrame
  rw [hlength, hmagic, hversion, hkindField, hreserved, hepochField, hsequenceField, htickField, hdrop,
    numberOfBigInt_of_safe hsequence, if_neg (by omega), if_neg (fun h => h rfl),
    if_neg (fun h => h.elim (fun h => h rfl) fun h => h rfl)]
  dsimp only
  rw [if_neg (by omega)]
  simp only [hempty]

private theorem decode_encode {value : FrameValue} {bytes : List UInt8} (h : value.encode = .ok bytes) :
    ∃ frame, decodeGatewayFrame bytes = .frame frame ∧ value.Equals frame := by
  have hmap : ∀ {r : Except String (List UInt8)} {payload : List UInt8},
      (r.map fun encoded => encoded ++ payload) = .ok bytes →
        ∃ encoded, r = .ok encoded ∧ encoded ++ payload = bytes := by
    intro r payload hr
    cases r with
    | error message => cases hr
    | ok encoded => exact ⟨encoded, rfl, Except.ok.inj hr⟩
  cases value with
  | input roomEpoch inputSequence clientTick payload =>
    obtain ⟨encoded, hencoded, rfl⟩ := hmap h
    obtain ⟨epoch, number, time, rfl, hepoch, hnumber, htime, hepochEq, hnumberEq, htimeEq⟩ := header_eq_ok hencoded
    have hdecode := decode_headerOf 1 (by decide) hepoch hnumber htime payload
    rw [if_pos rfl] at hdecode
    exact ⟨_, hdecode, hepochEq, hnumberEq, htimeEq, rfl⟩
  | ack roomEpoch lastAckInputSequence serverTick =>
    obtain ⟨epoch, number, time, rfl, hepoch, hnumber, htime, hepochEq, hnumberEq, htimeEq⟩ := header_eq_ok h
    have hdecode := decode_headerOf 2 (by decide) hepoch hnumber htime []
    rw [List.append_nil, if_neg (by decide), if_pos ⟨rfl, rfl⟩] at hdecode
    exact ⟨_, hdecode, hepochEq, hnumberEq, htimeEq⟩
  | output roomEpoch serverTick payload =>
    obtain ⟨encoded, hencoded, rfl⟩ := hmap h
    obtain ⟨epoch, number, time, rfl, hepoch, hnumber, htime, hepochEq, -, htimeEq⟩ := header_eq_ok hencoded
    have hdecode := decode_headerOf 3 (by decide) hepoch hnumber htime payload
    rw [if_neg (by decide), if_neg (by simp), if_pos rfl] at hdecode
    exact ⟨_, hdecode, hepochEq, htimeEq, rfl⟩

/-- The checks that a byte string passes when it is decoded as a frame, and the frame. -/
private theorem decode_eq_frame {bytes : List UInt8} {frame : GatewayWireFrame}
    (h : decodeGatewayFrame bytes = .frame frame) :
    headerBytes ≤ bytes.length ∧ field bytes 0 4 = magic ∧ field bytes 4 1 = version ∧ field bytes 6 2 = 0 ∧
      field bytes 12 8 ≤ maxSafeInteger ∧
      (field bytes 5 1 = 1 ∧
          frame = .input ⟨field bytes 8 4, field bytes 12 8, field bytes 20 4, bytes.drop headerBytes⟩ ∨
        (field bytes 5 1 = 2 ∧ bytes.length = headerBytes) ∧
          frame = .ack (field bytes 8 4) (field bytes 12 8) (field bytes 20 4) ∨
        field bytes 5 1 = 3 ∧ frame = .output (field bytes 8 4) (field bytes 20 4) (bytes.drop headerBytes)) := by
  unfold decodeGatewayFrame at h
  split at h
  · cases h
  rename_i hlength
  split at h
  · cases h
  rename_i hmagic
  split at h
  · cases h
  rename_i hversion
  dsimp only at h
  split at h
  · cases h
  rename_i hsequence
  have hsafe := (numberOfBigInt_le_iff _).1 (Nat.not_lt.1 hsequence)
  rw [numberOfBigInt_of_safe hsafe] at h
  push Not at hlength hmagic hversion
  refine ⟨hlength, hmagic, hversion.1, hversion.2, hsafe, ?_⟩
  split at h
  · rename_i hkind
    cases h
    exact Or.inl ⟨hkind, rfl⟩
  split at h
  · rename_i hkind
    cases h
    exact Or.inr (Or.inl ⟨hkind, rfl⟩)
  split at h
  · rename_i hkind
    cases h
    exact Or.inr (Or.inr ⟨hkind, rfl⟩)
  · cases h

private theorem encode_decode {bytes : List UInt8} {frame : GatewayWireFrame}
    (h : decodeGatewayFrame bytes = .frame frame) (hkind : ∀ epoch tick payload, frame ≠ .output epoch tick payload) :
    (frameValue frame).encode = .ok bytes := by
  obtain ⟨hlength, hmagic, hversion, hreserved, hsafe, hframe⟩ := decode_eq_frame h
  have hbytes := eq_headerOf hlength hmagic hversion hreserved
  have hheader : ∀ kind,
      header kind (.ofNat (field bytes 8 4)) (.ofNat (field bytes 12 8)) (.ofNat (field bytes 20 4)) =
        .ok (headerOf kind (field bytes 8 4) (field bytes 12 8) (field bytes 20 4)) :=
    fun kind => header_ofNat (field_lt _ _ _) hsafe (field_lt _ _ _)
  rcases hframe with ⟨hone, rfl⟩ | ⟨⟨htwo, hempty⟩, rfl⟩ | ⟨-, rfl⟩
  · rw [hone] at hbytes
    simp only [frameValue, FrameValue.encode, encodeGatewayInput, hheader, Except.map]
    rw [← hbytes]
  · rw [htwo, List.drop_eq_nil_of_le (Nat.le_of_eq hempty), List.append_nil] at hbytes
    simp only [frameValue, FrameValue.encode, encodeGatewayAck, hheader]
    rw [← hbytes]
  · exact absurd rfl (hkind _ _ _)

private theorem accepted_iff (bytes : List UInt8) :
    (∃ frame, decodeGatewayFrame bytes = .frame frame) ↔ ¬Malformed bytes := by
  constructor
  · rintro ⟨frame, h⟩ hbad
    obtain ⟨hlength, hmagic, hversion, hreserved, hsafe, hframe⟩ := decode_eq_frame h
    cases hbad with
    | truncated hbad => omega
    | otherMagic hbad => exact hbad hmagic
    | otherVersion hbad => exact hbad hversion
    | reserved hbad => exact hbad hreserved
    | otherKind hbad =>
      rcases hframe with ⟨hkind, -⟩ | ⟨⟨hkind, -⟩, -⟩ | ⟨hkind, -⟩ <;> rw [hkind] at hbad <;> exact hbad (by decide)
    | overlong htwo hbad =>
      rcases hframe with ⟨hkind, -⟩ | ⟨⟨-, hempty⟩, -⟩ | ⟨hkind, -⟩ <;> omega
    | outOfRange hbad => omega
  · intro hgood
    have hlength : headerBytes ≤ bytes.length := Nat.not_lt.1 fun h => hgood (.truncated h)
    have hmagic : field bytes 0 4 = magic := by_contra fun h => hgood (.otherMagic h)
    have hversion : field bytes 4 1 = version := by_contra fun h => hgood (.otherVersion h)
    have hreserved : field bytes 6 2 = 0 := by_contra fun h => hgood (.reserved h)
    have hkind : field bytes 5 1 ∈ [1, 2, 3] := by_contra fun h => hgood (.otherKind h)
    have hlong : field bytes 5 1 = 2 → bytes.length = headerBytes := fun htwo =>
      Nat.le_antisymm (Nat.not_lt.1 fun h => hgood (.overlong htwo h)) hlength
    have hsafe : field bytes 12 8 ≤ maxSafeInteger := Nat.not_lt.1 fun h => hgood (.outOfRange h)
    have hepoch : field bytes 8 4 ≤ 0xffffffff := Nat.le_of_lt_succ (field_lt bytes 8 4)
    have htick : field bytes 20 4 ≤ 0xffffffff := Nat.le_of_lt_succ (field_lt bytes 20 4)
    have hbytes := eq_headerOf hlength hmagic hversion hreserved
    have hdecode := decode_headerOf _ (field_lt bytes 5 1) hepoch hsafe htick (bytes.drop headerBytes)
    rw [← hbytes] at hdecode
    simp only [List.mem_cons, List.not_mem_nil, or_false] at hkind
    rcases hkind with hone | htwo | hthree
    · exact ⟨_, by rw [hdecode, if_pos hone]⟩
    · have hempty : bytes.drop headerBytes = [] := List.drop_eq_nil_of_le (Nat.le_of_eq (hlong htwo))
      exact ⟨_, by rw [hdecode, if_neg (by omega), if_pos ⟨htwo, hempty⟩]⟩
    · exact ⟨_, by rw [hdecode, if_neg (by omega), if_neg (by omega), if_pos hthree]⟩

/-- A frame that is encoded is decoded as what it was; an input or an acknowledgement that is decoded is encoded as the
bytes it was read from; and a byte string is rejected just when it is malformed. -/
theorem wire_round_trip :
    (∀ (value : FrameValue) (bytes : List UInt8), value.encode = .ok bytes →
      ∃ frame, decodeGatewayFrame bytes = .frame frame ∧ value.Equals frame) ∧
    (∀ (bytes : List UInt8) (frame : GatewayWireFrame), decodeGatewayFrame bytes = .frame frame →
      (∀ epoch tick payload, frame ≠ .output epoch tick payload) → (frameValue frame).encode = .ok bytes) ∧
    (∀ bytes : List UInt8, (∃ frame, decodeGatewayFrame bytes = .frame frame) ↔ ¬Malformed bytes) :=
  ⟨fun _ _ h => decode_encode h, fun _ _ h hkind => encode_decode h hkind, accepted_iff⟩

/-- Three bytes of payload, framed and read back. -/
theorem three_bytes_read_back : ∃ frame, decodeGatewayFrame (headerOf 1 42 9007 81 ++ [3, 1, 4]) = .frame frame ∧
    (FrameValue.input (.ofNat 42) (.ofNat 9007) (.ofNat 81) [3, 1, 4]).Equals frame :=
  wire_round_trip.1 _ _ (by rfl)

/-- The frame of an input that a session sends arrives as that frame. -/
theorem session_input_travels {roomEpoch : JsNumber} {inputSequence clientTick : Nat} {payload : Payload}
    {frame : GatewayInputFrame} (hsequence : inputSequence ≤ maxSafeInteger) (htick : clientTick ≤ 0xffffffff)
    (h : Opsia.encodeGatewayInput roomEpoch inputSequence clientTick payload = .ok frame) :
    ∃ bytes, encodeGatewayInput roomEpoch (.ofNat inputSequence) (.ofNat clientTick) payload = .ok bytes ∧
      decodeGatewayFrame bytes = .frame (.input frame) := by
  unfold Opsia.encodeGatewayInput at h
  split at h
  · rename_i epoch hepoch
    cases h
    have hle := (safeUint32_eq_some hepoch).1
    have hsafe : (JsNumber.ofNat inputSequence).safeNat? = some ⟨inputSequence, hsequence⟩ :=
      JsNumber.safeNat?_ofNat ⟨inputSequence, hsequence⟩
    refine ⟨headerOf 1 epoch inputSequence clientTick ++ payload, ?_, ?_⟩
    · unfold encodeGatewayInput header
      rw [hepoch, hsafe, safeUint32_ofNat, if_pos htick]
      rfl
    · rw [decode_headerOf 1 (by decide) hle hsequence htick, if_pos rfl]
  · cases h

end Opsia.GatewayWire
