import Opsia.BitField
import Opsia.Gateway.Buffer
import Opsia.Json.Record

/-!
# Bit streams

`BitView` reads and writes numbers of up to 32 bits at any bit of a buffer, byte by byte, and `BitStream` keeps the
place it has come to.  `getBits` gives the number whose field is at the place (`getBits_eq_valueAt`), and `setBits` puts
the field of a number there and touches no other bit (`setBits_spec`).  Above that, a reader that takes a field for a
value (`Reads`) and a writer that puts it (`Writes`) are put together from readers and writers of its parts.
-/

namespace Opsia

open BitField Json

/-! ### Views -/

/-- The loop of `getBits`; each round reads up to the end of a byte, and `rounds` is not less than what is left. -/
def getBitsLoop (view : List UInt8) (bits : ℕ) : (rounds offset i value : ℕ) → ℕ
  | 0, _, _, value => value
  | rounds + 1, offset, i, value =>
    if i < bits then
      let remaining := bits - i
      let bitOffset := offset % 8
      let currentByte := (view.getD (offset / 8) 0).toNat
      let read := min remaining (8 - bitOffset)
      let mask := 1 <<< read - 1
      let readBits := currentByte >>> bitOffset &&& mask
      getBitsLoop view bits rounds (offset + read) (i + read) (value ||| readBits <<< i)
    else value

def getBits (view : List UInt8) (offset bits : ℕ) : Except String ℕ :=
  let available : ℤ := view.length * 8 - offset
  if available < bits then
    .error s!"Cannot get {bits} bit(s) from offset {offset}, {available} available"
  else .ok (getBitsLoop view bits bits offset 0 0)

/-- What a `Uint8Array` keeps of a number. -/
def toUint8 (value : BitVec 32) : UInt8 := .ofBitVec (value.setWidth 8)

/-- The loop of `setBits`, over 32-bit integers. -/
def setBitsLoop (bits : ℕ) : (rounds : ℕ) → List UInt8 → (offset i : ℕ) → BitVec 32 → List UInt8
  | 0, view, _, _, _ => view
  | rounds + 1, view, offset, i, value =>
    if i < bits then
      if 8 ≤ bits - i ∧ offset % 8 = 0 then
        setBitsLoop bits rounds (view.set (offset / 8) (toUint8 (value &&& 0xff))) (offset + 8) (i + 8)
          (value.sshiftRight 8)
      else
        let remaining := bits - i
        let bitOffset := offset % 8
        let byteOffset := offset / 8
        let wrote := min remaining (8 - bitOffset)
        let mask : BitVec 32 := ~~~((0xff : BitVec 32) <<< wrote)
        let writeBits := value &&& mask
        let destMask := ~~~(mask <<< bitOffset)
        let byte : BitVec 32 := (view.getD byteOffset 0).toBitVec.setWidth 32
        setBitsLoop bits rounds (view.set byteOffset (toUint8 ((byte &&& destMask) ||| (writeBits <<< bitOffset))))
          (offset + wrote) (i + wrote) (value.sshiftRight wrote)
    else view

def setBits (view : List UInt8) (offset : ℕ) (value : BitVec 32) (bits : ℕ) : Except String (List UInt8) :=
  let available : ℤ := view.length * 8 - offset
  if available < bits then
    .error s!"Cannot set {bits} bit(s) from offset {offset}, {available} available"
  else .ok (setBitsLoop bits bits view offset 0 value)

/-! ### What the loops do -/

variable {view view' : List UInt8} {bits offset i value : ℕ}

private theorem testBit_byte (view : List UInt8) (offset k : ℕ) (hk : offset % 8 + k < 8) :
    (view.getD (offset / 8) 0).toNat.testBit (offset % 8 + k) = bitAt view (offset + k) := by
  unfold bitAt
  rw [show (offset + k) / 8 = offset / 8 by omega, show (offset + k) % 8 = offset % 8 + k by omega,
    ← BitVec.testBit_toNat]
  rfl

private theorem or_shift_lt (hvalue : value < 2 ^ i) (byte read : ℕ) :
    value ||| (byte &&& (1 <<< read - 1)) <<< i < 2 ^ (i + read) := by
  refine Nat.or_lt_two_pow (hvalue.trans_le (Nat.pow_le_pow_right (by omega) (by omega))) ?_
  rw [Nat.shiftLeft_eq, Nat.pow_add, Nat.mul_comm]
  refine Nat.mul_lt_mul_of_pos_left ?_ (Nat.two_pow_pos i)
  rw [Nat.one_shiftLeft]
  exact Nat.and_lt_two_pow _ (Nat.sub_lt (Nat.two_pow_pos read) Nat.one_pos)

/-- The bits below the place come from the value so far, the others from the view. -/
private theorem testBit_getBitsLoop (rounds : ℕ) (hrounds : bits - i ≤ rounds) (hvalue : value < 2 ^ i) (k : ℕ)
    (hk : k < max i bits) :
    (getBitsLoop view bits rounds offset i value).testBit k =
      if k < i then value.testBit k else bitAt view (offset + (k - i)) := by
  induction rounds generalizing offset i value with
  | zero =>
    unfold getBitsLoop
    rw [if_pos (by omega)]
  | succ rounds ih =>
    unfold getBitsLoop
    split
    · rename_i hi
      dsimp only
      have hread : 0 < min (bits - i) (8 - offset % 8) := by omega
      have hend : offset % 8 + min (bits - i) (8 - offset % 8) ≤ 8 := by omega
      have hle : i + min (bits - i) (8 - offset % 8) ≤ bits := by omega
      generalize min (bits - i) (8 - offset % 8) = read at hread hend hle
      have hnew := or_shift_lt hvalue ((view.getD (offset / 8) 0).toNat >>> (offset % 8)) read
      rw [ih (by omega) hnew (by omega)]
      rcases Nat.lt_or_ge k i with hki | hki
      · rw [if_pos (by omega), if_pos hki, Nat.testBit_or, Nat.testBit_shiftLeft]
        simp [Nat.not_le.2 hki]
      · rw [if_neg (Nat.not_lt.2 hki)]
        split
        · rename_i hkr
          rw [Nat.testBit_or, Nat.testBit_lt_two_pow (hvalue.trans_le (Nat.pow_le_pow_right (by omega) hki)),
            Nat.testBit_shiftLeft, Nat.testBit_and, Nat.one_shiftLeft, Nat.testBit_two_pow_sub_one,
            Nat.testBit_shiftRight, testBit_byte view offset (k - i) (by omega)]
          simp [hki, show k - i < read by omega]
        · rw [show offset + read + (k - (i + read)) = offset + (k - i) by omega]
    · rename_i hi
      rw [if_pos (by omega)]

private theorem getBitsLoop_lt (rounds : ℕ) (hvalue : value < 2 ^ i) (hi : i ≤ bits) :
    getBitsLoop view bits rounds offset i value < 2 ^ bits := by
  induction rounds generalizing offset i value with
  | zero =>
    unfold getBitsLoop
    exact hvalue.trans_le (Nat.pow_le_pow_right (by omega) hi)
  | succ rounds ih =>
    unfold getBitsLoop
    split
    · dsimp only
      exact ih (or_shift_lt hvalue _ _) (by omega)
    · exact hvalue.trans_le (Nat.pow_le_pow_right (by omega) hi)

theorem getBits_eq (h : offset + bits ≤ 8 * view.length) :
    getBits view offset bits = .ok (getBitsLoop view bits bits offset 0 0) := by
  unfold getBits
  exact if_neg (by omega)

theorem getBits_of_short (view : List UInt8) (offset bits : ℕ) (h : 8 * view.length < offset + bits) :
    ∃ message, getBits view offset bits = .error message := by
  unfold getBits
  exact ⟨_, if_pos (by omega)⟩

/-- `getBits` gives the number whose field is at the place. -/
theorem getBits_eq_valueAt (h : offset + bits ≤ 8 * view.length) :
    getBits view offset bits = .ok (valueAt view offset bits) := by
  rw [getBits_eq h]
  refine congrArg _ (Nat.eq_of_testBit_eq fun k => ?_)
  rcases Nat.lt_or_ge k bits with hk | hk
  · rw [testBit_getBitsLoop bits (by omega) (Nat.two_pow_pos 0) k (by omega), if_neg (by omega), Nat.sub_zero]
    exact holds_bitsOf.1 (holds_valueAt view offset bits) k hk
  · have hle : 2 ^ bits ≤ 2 ^ k := Nat.pow_le_pow_right (by omega) hk
    rw [Nat.testBit_lt_two_pow ((valueAt_lt view offset bits).trans_le hle),
      Nat.testBit_lt_two_pow ((getBitsLoop_lt bits (Nat.two_pow_pos 0) (by omega)).trans_le hle)]

/-- One byte of `setBits`: the bits from the place on are those of the number. -/
private theorem bitAt_setByte {byte : UInt8} {number : BitVec 32} {wrote : ℕ} (hplace : offset / 8 < view.length)
    (hwrote : offset % 8 + wrote ≤ 8)
    (hbyte : ∀ m < 8, byte.toBitVec.getLsbD m =
      if offset % 8 ≤ m ∧ m < offset % 8 + wrote then number.getLsbD (m - offset % 8)
      else (view.getD (offset / 8) 0).toBitVec.getLsbD m) (j : ℕ) :
    bitAt (view.set (offset / 8) byte) j =
      if offset ≤ j ∧ j < offset + wrote then number.getLsbD (j - offset) else bitAt view j := by
  rw [bitAt_set _ _ _ _ hplace]
  split
  · rename_i hj
    rw [hbyte _ (Nat.mod_lt _ (by omega))]
    split
    · rw [if_pos (by omega), show j % 8 - offset % 8 = j - offset by omega]
    · rw [if_neg (by omega), ← hj]
      rfl
  · rw [if_neg (by omega)]

private theorem getLsbD_toUint8 (number : BitVec 32) (m : ℕ) (hm : m < 8) :
    (toUint8 number).toBitVec.getLsbD m = number.getLsbD m := by
  unfold toUint8
  rw [BitVec.getLsbD_setWidth]
  simp [hm]

private theorem getLsbD_ff : ∀ m < 8, (0xff : BitVec 32).getLsbD m = true := by decide

private theorem getLsbD_wholeByte (number : BitVec 32) (m : ℕ) (hm : m < 8) :
    (toUint8 (number &&& 0xff)).toBitVec.getLsbD m = number.getLsbD m := by
  rw [getLsbD_toUint8 _ _ hm, BitVec.getLsbD_and, getLsbD_ff m hm, Bool.and_true]

/-- The mask of a byte in part: its lowest bits. -/
private theorem getLsbD_mask (wrote k : ℕ) (hk : k < 8) :
    (~~~((0xff : BitVec 32) <<< wrote)).getLsbD k = decide (k < wrote) := by
  rw [BitVec.getLsbD_not, BitVec.getLsbD_shiftLeft, getLsbD_ff _ (by omega)]
  simp [show k < 32 by omega]

private theorem getLsbD_partialByte (byte : UInt8) (number : BitVec 32) {start wrote : ℕ} (h : start + wrote ≤ 8) (m : ℕ)
    (hm : m < 8) :
    (toUint8 ((byte.toBitVec.setWidth 32 &&& ~~~(~~~((0xff : BitVec 32) <<< wrote) <<< start)) |||
        ((number &&& ~~~((0xff : BitVec 32) <<< wrote)) <<< start))).toBitVec.getLsbD m =
      if start ≤ m ∧ m < start + wrote then number.getLsbD (m - start) else byte.toBitVec.getLsbD m := by
  rw [getLsbD_toUint8 _ _ hm, BitVec.getLsbD_or, BitVec.getLsbD_and, BitVec.getLsbD_not, BitVec.getLsbD_shiftLeft,
    BitVec.getLsbD_shiftLeft, BitVec.getLsbD_and, BitVec.getLsbD_setWidth, getLsbD_mask _ _ (by omega)]
  have hm' : m < 32 := by omega
  split
  · rename_i hin
    simp [hm', Nat.not_lt.2 hin.1, show m - start < wrote by omega]
  · rename_i hout
    rcases Nat.lt_or_ge m start with hlt | hge
    · simp [hm', hlt]
    · simp [hm', Nat.not_lt.2 hge, show ¬m - start < wrote by omega]

/-- Of the rest of the number the loop writes the bits that are left, and no bit in front of the place or behind them. -/
private theorem setBitsLoop_spec (rounds : ℕ) (view : List UInt8) (offset i : ℕ) (number : BitVec 32) (hrounds : bits - i ≤ rounds) (hi : bits - i ≤ 32)
    (hroom : offset + (bits - i) ≤ 8 * view.length) :
    (setBitsLoop bits rounds view offset i number).length = view.length ∧
      ∀ j, bitAt (setBitsLoop bits rounds view offset i number) j =
        if offset ≤ j ∧ j < offset + (bits - i) then number.getLsbD (j - offset) else bitAt view j := by
  induction rounds generalizing view offset i number with
  | zero =>
    unfold setBitsLoop
    exact ⟨rfl, fun j => (if_neg (by omega)).symm⟩
  | succ rounds ih =>
    -- one byte, and then the rest of the number at the place behind it
    have hstep : ∀ (byte : UInt8) (wrote : ℕ), 0 < wrote → wrote ≤ bits - i → offset % 8 + wrote ≤ 8 →
        (∀ m < 8, byte.toBitVec.getLsbD m =
          if offset % 8 ≤ m ∧ m < offset % 8 + wrote then number.getLsbD (m - offset % 8)
          else (view.getD (offset / 8) 0).toBitVec.getLsbD m) →
        (setBitsLoop bits rounds (view.set (offset / 8) byte) (offset + wrote) (i + wrote)
            (number.sshiftRight wrote)).length = view.length ∧
          ∀ j, bitAt (setBitsLoop bits rounds (view.set (offset / 8) byte) (offset + wrote) (i + wrote)
              (number.sshiftRight wrote)) j =
            if offset ≤ j ∧ j < offset + (bits - i) then number.getLsbD (j - offset) else bitAt view j := by
      intro byte wrote hpos hle hend hbyte
      obtain ⟨hlength, hrest⟩ := ih (view.set (offset / 8) byte) (offset + wrote) (i + wrote)
        (number.sshiftRight wrote) (by omega) (by omega) (by rw [List.length_set]; omega)
      refine ⟨by rw [hlength, List.length_set], fun j => ?_⟩
      rw [hrest, bitAt_setByte (by omega) hend hbyte]
      split
      · rw [if_pos (by omega), BitVec.getLsbD_sshiftRight, if_pos (by omega),
          show wrote + (j - (offset + wrote)) = j - offset by omega]
        simp
        omega
      · split
        · rw [if_pos (by omega)]
        · rw [if_neg (by omega)]
    unfold setBitsLoop
    split
    · split
      · refine hstep _ 8 (by omega) (by omega) (by omega) fun m hm => ?_
        rw [getLsbD_wholeByte _ _ hm, if_pos (by omega), show m - offset % 8 = m by omega]
      · dsimp only
        refine hstep _ _ (by omega) (Nat.min_le_left _ _) (by omega) fun m hm => ?_
        exact getLsbD_partialByte _ _ (by omega) m hm
    · exact ⟨rfl, fun j => (if_neg (by omega)).symm⟩

/-- `setBits` puts the field of a number at a place where there is room for it, and changes no other bit. -/
theorem setBits_spec (view : List UInt8) (offset : ℕ) (number : BitVec 32) (hbits : bits ≤ 32) (hroom : offset + bits ≤ 8 * view.length) :
    ∃ view', setBits view offset number bits = .ok view' ∧ view'.length = view.length ∧
      Holds view' offset (bitsOf bits number.toNat) ∧
      ∀ j, j < offset ∨ offset + bits ≤ j → bitAt view' j = bitAt view j := by
  have hloop := setBitsLoop_spec bits view offset 0 number (Nat.sub_le bits 0) hbits hroom
  rw [Nat.sub_zero] at hloop
  obtain ⟨hlength, hbit⟩ := hloop
  refine ⟨_, ?_, hlength, holds_bitsOf.2 fun k hk => ?_, fun j hj => ?_⟩
  · unfold setBits
    exact if_neg (by omega)
  · rw [hbit, if_pos (by omega), Nat.add_sub_cancel_left, BitVec.testBit_toNat]
  · rw [hbit, if_neg (by omega)]

/-! ### Streams -/

/-- The length of a stream is that of its view. -/
structure BitStream where
  view : List UInt8
  index : ℕ := 0

/-- What a method does to a stream, unless it throws. -/
abbrev Streaming := StateT BitStream (Except String)

namespace BitStream

def length (stream : BitStream) : ℕ := stream.view.length * 8

def advance (stream : BitStream) (size : ℕ) : BitStream := { stream with index := stream.index + size }

/-- The methods that `reader` makes. -/
def reader (size : ℕ) : Streaming ℕ := fun stream =>
  if stream.length < stream.index + size then .error "Trying to read past the end of the stream"
  else
    match getBits stream.view stream.index size with
    | .error message => .error message
    | .ok val => .ok (val, stream.advance size)

/-- The methods that `writer` makes. -/
def writer (size : ℕ) (value : BitVec 32) : Streaming Unit := fun stream =>
  match setBits stream.view stream.index value size with
  | .error message => .error message
  | .ok view => .ok ((), { view, index := stream.index + size })

def readBits (bits : ℕ) : Streaming ℕ := fun stream =>
  match getBits stream.view stream.index bits with
  | .error message => .error message
  | .ok val => .ok (val, stream.advance bits)

def writeBits (value : BitVec 32) (bits : ℕ) : Streaming Unit := writer bits value

def readBoolean : Streaming Bool := do return decide ((← reader 1) ≠ 0)

def readUint8 : Streaming ℕ := reader 8

def readUint32 : Streaming ℕ := reader 32

def writeBoolean (value : Bool) : Streaming Unit := writer 1 (if value then 1 else 0)

def writeUint8 (value : BitVec 32) : Streaming Unit := writer 8 value

def writeUint32 (value : BitVec 32) : Streaming Unit := writer 32 value

/-- The loop of `readString`; `rounds` is the number of bytes that are left. -/
def readStringLoop (fixedLength : Bool) : (rounds : ℕ) → (chars : List ℕ) → (append : Bool) → Streaming (List ℕ)
  | 0, chars, _ => pure chars
  | rounds + 1, chars, append => do
    let c ← readUint8
    if c = 0 ∧ fixedLength = false then pure chars
    else
      let append := append && decide (c ≠ 0)
      readStringLoop fixedLength rounds (if append then chars ++ [c] else chars) append

/-- `String.fromCharCode.apply(null, chars)` for codes of a byte; a call takes only so many arguments. -/
def fromCharCode (maxArguments : ℕ) (chars : List ℕ) : Except String String :=
  if maxArguments < chars.length then .error "Maximum call stack size exceeded"
  else .ok (String.ofList (chars.map Char.ofNat))

def readString (maxArguments : ℕ) (bytes : Option ℕ) : Streaming String :=
  if bytes = some 0 then pure ""
  else do
    let stream ← get
    let chars ← readStringLoop bytes.isSome (bytes.getD ((stream.length - stream.index) / 8)) [] true
    fromCharCode maxArguments chars

/-- `writeASCIIString` -/
def writeString (string : String) (bytes : Option ℕ) : Streaming Unit :=
  let codes := utf16 string
  let length := if bytes.getD 0 = 0 then codes.length + 1 else bytes.getD 0
  (List.range length).forM fun i => writeUint8 (.ofNat 32 (codes.getD i 0))

def writeAlignToNextByte : Streaming Unit := do
  let offset := 8 - (← get).index % 8
  if offset < 8 then writeBits 0 offset

def writeArray {α : Type} (array : List α) (bits : ℕ) (writeFn : α → Streaming Unit) : Streaming Unit := do
  let maxSize := 1 <<< bits - 1
  let length := min array.length maxSize
  writeBits (.ofNat 32 length) bits
  (array.take length).forM writeFn

/-- The loop of `readArray`. -/
def readArrayLoop {α : Type} (readFn : Streaming α) : (length : ℕ) → Streaming (List α)
  | 0 => pure []
  | length + 1 => do
    let item ← readFn
    let rest ← readArrayLoop readFn length
    return item :: rest

def readArray {α : Type} (bits : ℕ) (readFn : Streaming α) : Streaming (List α) := do
  readArrayLoop readFn (← readBits bits)

/-! ### What a reader takes -/

variable {α β : Type} {size more : ℕ} {stream : BitStream}

@[simp] theorem length_advance (stream : BitStream) (size : ℕ) : (stream.advance size).length = stream.length := rfl

@[simp] theorem index_advance (stream : BitStream) (size : ℕ) : (stream.advance size).index = stream.index + size := rfl

@[simp] theorem view_advance (stream : BitStream) (size : ℕ) : (stream.advance size).view = stream.view := rfl

@[simp] theorem advance_zero (stream : BitStream) : stream.advance 0 = stream := rfl

theorem advance_advance (stream : BitStream) (size more : ℕ) :
    (stream.advance size).advance more = stream.advance (size + more) :=
  congrArg (BitStream.mk stream.view) (Nat.add_assoc _ _ _)

theorem get_eq (stream : BitStream) : (get : Streaming BitStream) stream = .ok (stream, stream) := rfl

theorem bind_of_ok {read : Streaming α} {next : α → Streaming β} {value : α} {stream' : BitStream}
    (h : read stream = .ok (value, stream')) : (read >>= next) stream = next value stream' := by
  show (read stream >>= fun result => next result.1 result.2) = _
  rw [h]
  rfl

theorem bind_of_error {read : Streaming α} {next : α → Streaming β} {message : String}
    (h : read stream = .error message) : (read >>= next) stream = .error message := by
  show (read stream >>= fun result => next result.1 result.2) = _
  rw [h]
  rfl

theorem ok_of_bind {read : Streaming α} {next : α → Streaming β} {result : β × BitStream}
    (h : (read >>= next) stream = .ok result) :
    ∃ value stream', read stream = .ok (value, stream') ∧ next value stream' = .ok result := by
  cases hread : read stream with
  | error message =>
    rw [bind_of_error hread] at h
    cases h
  | ok first =>
    rw [bind_of_ok hread] at h
    exact ⟨_, _, rfl, h⟩

theorem ok_of_forM {items : List α} {write : α → Streaming Unit} {result : Unit × BitStream}
    (h : items.forM write stream = .ok result) {item : α} (hitem : item ∈ items) :
    ∃ before after, write item before = .ok ((), after) := by
  induction items generalizing stream with
  | nil => cases hitem
  | cons first items ih =>
    obtain ⟨_, middle, hfirst, hrest⟩ := ok_of_bind h
    rcases List.mem_cons.1 hitem with rfl | hitem
    · exact ⟨stream, middle, hfirst⟩
    · exact ih hrest hitem

/-- The reader takes as many bits as it says and gives what they say; where the stream has less of them it throws. -/
def Takes (read : Streaming α) (size : BitStream → ℕ) (value : BitStream → α) : Prop :=
  ∀ stream : BitStream, stream.index ≤ stream.length →
    (stream.index + size stream ≤ stream.length → read stream = .ok (value stream, stream.advance (size stream))) ∧
      (stream.length < stream.index + size stream → ∃ message, read stream = .error message)

theorem Takes.congr {read : Streaming α} {size size' : BitStream → ℕ} {value value' : BitStream → α}
    (h : Takes read size value) (hsize : ∀ stream, size stream = size' stream)
    (hvalue : ∀ stream, value stream = value' stream) : Takes read size' value' :=
  funext hsize ▸ funext hvalue ▸ h

theorem takes_pure (value : α) : Takes (pure value) (fun _ => 0) fun _ => value :=
  fun _ hle => ⟨fun _ => rfl, fun hlt => absurd hlt (Nat.not_lt.2 hle)⟩

theorem Takes.bind {read : Streaming α} {next : α → Streaming β} {size : BitStream → ℕ} {value : BitStream → α}
    {more : α → BitStream → ℕ} {nextValue : α → BitStream → β} (h : Takes read size value)
    (hnext : ∀ a, Takes (next a) (more a) (nextValue a)) :
    Takes (read >>= next) (fun stream => size stream + more (value stream) (stream.advance (size stream)))
      fun stream => nextValue (value stream) (stream.advance (size stream)) := by
  intro stream hle
  rcases Nat.lt_or_ge stream.length (stream.index + size stream) with hshort | hfits
  · obtain ⟨message, hread⟩ := (h stream hle).2 hshort
    exact ⟨fun hall => absurd hall (by dsimp only; omega), fun _ => ⟨message, bind_of_error hread⟩⟩
  · rw [bind_of_ok ((h stream hle).1 hfits), ← advance_advance, ← Nat.add_assoc]
    exact hnext (value stream) (stream.advance (size stream)) hfits

theorem Takes.map {read : Streaming α} {size : BitStream → ℕ} {value : BitStream → α} (h : Takes read size value)
    (f : α → β) : Takes (do return f (← read)) size fun stream => f (value stream) :=
  h.bind fun a => takes_pure (f a)

theorem takes_readBits (bits : ℕ) :
    Takes (readBits bits) (fun _ => bits) fun stream => valueAt stream.view stream.index bits := by
  refine fun stream _ => ⟨fun hfits => ?_, fun hshort => ?_⟩
  · unfold readBits
    unfold length at hfits
    dsimp only at hfits
    rw [getBits_eq_valueAt (by omega)]
  · unfold readBits
    unfold length at hshort
    dsimp only at hshort
    obtain ⟨message, hget⟩ := getBits_of_short stream.view stream.index bits (by omega)
    exact ⟨message, by rw [hget]⟩

theorem takes_reader (size : ℕ) :
    Takes (reader size) (fun _ => size) fun stream => valueAt stream.view stream.index size := by
  refine fun stream _ => ⟨fun hfits => ?_, fun hshort => ⟨_, if_pos hshort⟩⟩
  unfold reader
  unfold length at hfits ⊢
  dsimp only at hfits
  rw [if_neg (by omega), getBits_eq_valueAt (by omega)]

theorem takes_readBoolean :
    Takes readBoolean (fun _ => 1) fun stream => decide (valueAt stream.view stream.index 1 ≠ 0) :=
  (takes_reader 1).map fun bit => decide (bit ≠ 0)

theorem takes_readArrayLoop {readFn : Streaming α} {value : BitStream → α} (h : Takes readFn (fun _ => size) value)
    (length : ℕ) :
    Takes (readArrayLoop readFn length) (fun _ => length * size) fun stream =>
      (List.range length).map fun k => value (stream.advance (k * size)) := by
  induction length with
  | zero => exact (takes_pure []).congr (fun _ => (Nat.zero_mul size).symm) fun _ => rfl
  | succ length ih =>
    refine (h.bind fun item => ih.map (item :: ·)).congr (fun _ => by rw [Nat.succ_mul, Nat.add_comm]) fun stream => ?_
    rw [List.range_succ_eq_map, List.map_cons, List.map_map, Nat.zero_mul, advance_zero]
    refine congrArg _ (List.map_congr_left fun k _ => ?_)
    rw [advance_advance, Function.comp_apply, Nat.succ_mul, Nat.add_comm]

/-- An array whose items have one size: the number of its items says how much it takes. -/
theorem takes_readArray {readFn : Streaming α} {value : BitStream → α} (h : Takes readFn (fun _ => size) value)
    (bits : ℕ) :
    Takes (readArray bits readFn) (fun stream => bits + valueAt stream.view stream.index bits * size) fun stream =>
      (List.range (valueAt stream.view stream.index bits)).map fun k => value (stream.advance (bits + k * size)) :=
  ((takes_readBits bits).bind fun length => takes_readArrayLoop h length).congr (fun _ => rfl) fun stream =>
    List.map_congr_left fun k _ => congrArg value (advance_advance stream bits (k * size))

/-- The bytes at the place. -/
def codes (stream : BitStream) (count : ℕ) : List ℕ :=
  (List.range count).map fun k => valueAt stream.view (stream.index + k * 8) 8

theorem codes_succ (stream : BitStream) (count : ℕ) :
    stream.codes (count + 1) = valueAt stream.view stream.index 8 :: (stream.advance 8).codes count := by
  unfold codes
  rw [List.range_succ_eq_map, List.map_cons, List.map_map, Nat.zero_mul, Nat.add_zero]
  refine congrArg _ (List.map_congr_left fun k _ => ?_)
  rw [Function.comp_apply, Nat.succ_mul, index_advance, view_advance, Nat.add_assoc, Nat.add_comm 8]

/-- The codes of the string at the place: those in front of the first zero. -/
def stringCodes (stream : BitStream) (count : ℕ) : List ℕ := (stream.codes count).takeWhile (· ≠ 0)

theorem stringCodes_succ (stream : BitStream) (count : ℕ) :
    stream.stringCodes (count + 1) =
      if valueAt stream.view stream.index 8 = 0 then []
      else valueAt stream.view stream.index 8 :: (stream.advance 8).stringCodes count := by
  unfold stringCodes
  rw [codes_succ, List.takeWhile_cons]
  by_cases hzero : valueAt stream.view stream.index 8 = 0
  · simp [hzero]
  · simp [hzero]

theorem length_stringCodes_le (stream : BitStream) (count : ℕ) : (stream.stringCodes count).length ≤ count := by
  unfold stringCodes codes
  refine (List.takeWhile_prefix _).length_le.trans ?_
  rw [List.length_map, List.length_range]

theorem stringCodes_mem {code count : ℕ} (h : code ∈ stream.stringCodes count) : 0 < code ∧ code < 256 := by
  unfold stringCodes at h
  have hne : decide (code ≠ 0) = true := List.all_eq_true.1 List.all_takeWhile code h
  have hmem := (List.takeWhile_prefix _).mem h
  unfold codes at hmem
  obtain ⟨k, -, rfl⟩ := List.mem_map.1 hmem
  exact ⟨Nat.pos_of_ne_zero (of_decide_eq_true hne), valueAt_lt _ _ 8⟩

/-- A string of fixed length: its bytes behind a zero are passed over. -/
theorem takes_readStringLoop (rounds : ℕ) (chars : List ℕ) (append : Bool) :
    Takes (readStringLoop true rounds chars append) (fun _ => 8 * rounds) fun stream =>
      chars ++ if append then stream.stringCodes rounds else [] := by
  induction rounds generalizing chars append with
  | zero =>
    refine fun stream hle => ⟨fun _ => ?_, fun hlt => absurd hlt (Nat.not_lt.2 hle)⟩
    unfold stringCodes codes
    simp [readStringLoop]
    rfl
  | succ rounds ih =>
    have hrest (c : ℕ) : Takes (if c = 0 ∧ true = false then pure chars
        else readStringLoop true rounds (if (append && decide (c ≠ 0)) = true then chars ++ [c] else chars)
          (append && decide (c ≠ 0))) (fun _ => 8 * rounds) fun stream =>
        (if (append && decide (c ≠ 0)) = true then chars ++ [c] else chars) ++
          if (append && decide (c ≠ 0)) = true then stream.stringCodes rounds else [] := by
      rw [if_neg (by simp)]
      exact ih _ _
    refine ((takes_reader 8).bind hrest).congr (fun _ => by omega) fun stream => ?_
    rw [stringCodes_succ]
    cases append with
    | false => rfl
    | true =>
      by_cases hzero : valueAt stream.view stream.index 8 = 0
      · simp [hzero]
      · simp [hzero]

/-- A string without a fixed length ends with a zero, or with the stream: it can always be read. -/
theorem readStringLoop_eq (rounds : ℕ) (chars : List ℕ) (hrounds : stream.index + 8 * rounds ≤ stream.length) :
    readStringLoop false rounds chars true stream =
      .ok (chars ++ stream.stringCodes rounds,
        stream.advance (8 * min rounds ((stream.stringCodes rounds).length + 1))) := by
  induction rounds generalizing stream chars with
  | zero =>
    unfold stringCodes codes
    simp [readStringLoop]
    rfl
  | succ rounds ih =>
    have hread : readUint8 stream = .ok (valueAt stream.view stream.index 8, stream.advance 8) :=
      (takes_reader 8 stream (by omega)).1 (by dsimp only; omega)
    unfold readStringLoop
    rw [bind_of_ok hread, stringCodes_succ]
    by_cases hzero : valueAt stream.view stream.index 8 = 0
    · simp [hzero]
      rfl
    · rw [if_neg (by simp [hzero])]
      simp only [ne_eq, hzero, not_false_eq_true, decide_true, Bool.and_true, if_true, if_false]
      rw [ih _ (by rw [index_advance, length_advance]; omega), advance_advance, List.append_assoc,
        List.singleton_append, List.length_cons]
      refine congrArg (fun size => Except.ok (_, stream.advance size)) ?_
      omega

/-! ### What a reader finds and a writer leaves -/

variable {bits rest : List Bool}

/-- Where the stream has the field at its place, the reader takes it and gives the value. -/
def Reads (read : Streaming α) (bits : List Bool) (value : α) : Prop :=
  ∀ stream : BitStream, stream.index + bits.length ≤ stream.length → Holds stream.view stream.index bits →
    read stream = .ok (value, stream.advance bits.length)

/-- Where the stream has room for the field, the writer puts it at its place; what is in front of it stays. -/
def Writes (write : Streaming Unit) (bits : List Bool) : Prop :=
  ∀ stream : BitStream, stream.index + bits.length ≤ stream.length →
    ∃ stream', write stream = .ok ((), stream') ∧ stream'.index = stream.index + bits.length ∧
      stream'.length = stream.length ∧ Holds stream'.view stream.index bits ∧
      ∀ j < stream.index, bitAt stream'.view j = bitAt stream.view j

theorem reads_pure (value : α) : Reads (pure value) [] value := fun _ _ _ => rfl

theorem Reads.bind {read : Streaming α} {next : α → Streaming β} {value : α} {nextValue : β}
    (h : Reads read bits value) (hnext : Reads (next value) rest nextValue) :
    Reads (read >>= next) (bits ++ rest) nextValue := by
  intro stream hfits hholds
  rw [List.length_append] at hfits ⊢
  obtain ⟨hbits, hrest⟩ := holds_append.1 hholds
  rw [bind_of_ok (h stream (by omega) hbits), ← advance_advance]
  exact hnext (stream.advance bits.length) (by rw [index_advance, length_advance]; omega) hrest

theorem Reads.map {read : Streaming α} {value : α} (h : Reads read bits value) (f : α → β) :
    Reads (do return f (← read)) bits (f value) := by
  have hbind : Reads (read >>= fun a => pure (f a)) (bits ++ []) (f value) := h.bind (reads_pure (f value))
  rwa [List.append_nil] at hbind

theorem Takes.reads {read : Streaming ℕ} {number : ℕ}
    (h : Takes read (fun _ => size) fun stream => valueAt stream.view stream.index size) (hnumber : number < 2 ^ size) :
    Reads read (bitsOf size number) number := by
  intro stream hfits hholds
  rw [length_bitsOf] at hfits ⊢
  rw [(h stream (by omega)).1 hfits]
  exact congrArg (fun number => Except.ok (number, stream.advance size)) (valueAt_eq hholds hnumber)

theorem reads_readBoolean (flag : Bool) : Reads readBoolean (bitsOf 1 flag.toNat) flag := by
  have hread := ((takes_reader 1).reads (Bool.toNat_lt flag)).map fun bit => decide (bit ≠ 0)
  rwa [show decide (flag.toNat ≠ 0) = flag by cases flag <;> rfl] at hread

theorem reads_readArrayLoop {readFn : Streaming α} {fields : α → List Bool} (items : List α)
    (h : ∀ item ∈ items, Reads readFn (fields item) item) :
    Reads (readArrayLoop readFn items.length) (items.flatMap fields) items := by
  induction items with
  | nil => exact reads_pure []
  | cons item items ih =>
    exact (h item List.mem_cons_self).bind ((ih fun other hother => h other (List.mem_cons_of_mem _ hother)).map _)

theorem reads_readArray {readFn : Streaming α} {fields : α → List Bool} {items : List α}
    (hlength : items.length < 2 ^ size) (h : ∀ item ∈ items, Reads readFn (fields item) item) :
    Reads (readArray size readFn) (bitsOf size items.length ++ items.flatMap fields) items :=
  ((takes_readBits size).reads hlength).bind (reads_readArrayLoop items h)

theorem writes_pure : Writes (pure ()) [] :=
  fun stream _ => ⟨stream, rfl, rfl, rfl, holds_nil _ _, fun _ _ => rfl⟩

theorem Writes.bind {write : Streaming Unit} {next : Unit → Streaming Unit} (h : Writes write bits)
    (hnext : Writes (next ()) rest) : Writes (write >>= next) (bits ++ rest) := by
  intro stream hfits
  rw [List.length_append] at hfits ⊢
  obtain ⟨middle, hwrite, hindex, hlength, hholds, hfront⟩ := h stream (by omega)
  obtain ⟨stream', hwrite', hindex', hlength', hholds', hfront'⟩ := hnext middle (by omega)
  refine ⟨stream', by rw [bind_of_ok hwrite, hwrite'], by omega, hlength'.trans hlength, ?_, fun j hj => ?_⟩
  · refine holds_append.2 ⟨hholds.congr fun j _ hj => hfront' j (by omega), ?_⟩
    rwa [hindex] at hholds'
  · rw [hfront' j (by omega), hfront j hj]

theorem writes_writer (size : ℕ) (number : BitVec 32) (hsize : size ≤ 32) :
    Writes (writer size number) (bitsOf size number.toNat) := by
  intro stream hfits
  rw [length_bitsOf] at hfits ⊢
  unfold length at hfits
  obtain ⟨view', hset, hlength, hholds, hframe⟩ :=
    setBits_spec stream.view stream.index number hsize (by omega)
  refine ⟨{ view := view', index := stream.index + size }, ?_, rfl, ?_, hholds, fun j hj => hframe j (Or.inl hj)⟩
  · unfold writer
    rw [hset]
  · unfold length
    rw [hlength]

/-- `writeAlignToNextByte` goes on to the start of a byte and writes behind the place only. -/
theorem writeAlignToNextByte_spec (stream : BitStream) (h : stream.index ≤ stream.length) :
    ∃ stream', writeAlignToNextByte stream = .ok ((), stream') ∧ stream'.index = (stream.index + 7) / 8 * 8 ∧
      stream'.length = stream.length ∧ ∀ j < stream.index, bitAt stream'.view j = bitAt stream.view j := by
  unfold writeAlignToNextByte
  rw [bind_of_ok (get_eq stream)]
  split
  · obtain ⟨stream', hwrite, hindex, hlength, -, hfront⟩ :=
      writes_writer (8 - stream.index % 8) 0 (by omega) stream
        (by rw [length_bitsOf]; unfold length at h ⊢; omega)
    rw [length_bitsOf] at hindex
    exact ⟨stream', hwrite, by omega, hlength, hfront⟩
  · exact ⟨stream, rfl, by omega, rfl, fun _ _ => rfl⟩

theorem writes_writeBoolean (flag : Bool) : Writes (writeBoolean flag) (bitsOf 1 flag.toNat) := by
  cases flag with
  | false => exact writes_writer 1 0 (by omega)
  | true => exact writes_writer 1 1 (by omega)

theorem writes_forM {items : List α} {write : α → Streaming Unit} {fields : α → List Bool}
    (h : ∀ item ∈ items, Writes (write item) (fields item)) : Writes (items.forM write) (items.flatMap fields) := by
  induction items with
  | nil => exact writes_pure
  | cons item items ih =>
    exact (h item List.mem_cons_self).bind (ih fun other hother => h other (List.mem_cons_of_mem _ hother))

theorem writes_writeArray {items : List α} {write : α → Streaming Unit} {fields : α → List Bool}
    (hsize : size ≤ 31) (hlength : items.length < 2 ^ size) (h : ∀ item ∈ items, Writes (write item) (fields item)) :
    Writes (writeArray items size write) (bitsOf size items.length ++ items.flatMap fields) := by
  have hmax : min items.length (1 <<< size - 1) = items.length := by
    rw [Nat.one_shiftLeft]
    omega
  have hword : (BitVec.ofNat 32 items.length).toNat = items.length :=
    Nat.mod_eq_of_lt (hlength.trans_le (Nat.pow_le_pow_right (by omega) (by omega)))
  unfold writeArray
  dsimp only
  rw [hmax, List.take_length]
  have hcount := writes_writer size (BitVec.ofNat 32 items.length) (by omega)
  rw [hword] at hcount
  exact hcount.bind (writes_forM h)

/-! ### Strings -/

variable {maxArguments : ℕ} {bytes : Option ℕ} {string : String}

/-- The string that a list of codes is read for. -/
def stringOf (codes : List ℕ) : String := String.ofList (codes.map Char.ofNat)

theorem readString_of_ok {chars : List ℕ} {stream' : BitStream} (hbytes : bytes ≠ some 0)
    (h : readStringLoop bytes.isSome (bytes.getD ((stream.length - stream.index) / 8)) [] true stream =
      .ok (chars, stream')) (hle : chars.length ≤ maxArguments) :
    readString maxArguments bytes stream = .ok (stringOf chars, stream') := by
  unfold readString
  rw [if_neg hbytes, bind_of_ok (get_eq stream), bind_of_ok h]
  unfold fromCharCode
  rw [if_neg (Nat.not_lt.2 hle)]
  rfl

theorem readString_of_many {chars : List ℕ} {stream' : BitStream} (hbytes : bytes ≠ some 0)
    (h : readStringLoop bytes.isSome (bytes.getD ((stream.length - stream.index) / 8)) [] true stream =
      .ok (chars, stream')) (hlt : maxArguments < chars.length) :
    ∃ message, readString maxArguments bytes stream = .error message := by
  unfold readString
  rw [if_neg hbytes, bind_of_ok (get_eq stream), bind_of_ok h]
  unfold fromCharCode
  rw [if_pos hlt]
  exact ⟨_, rfl⟩

/-- A string of fixed length that a call can take. -/
theorem takes_readString {length : ℕ} (hpos : length ≠ 0) (hle : length ≤ maxArguments) :
    Takes (readString maxArguments (some length)) (fun _ => 8 * length) fun stream =>
      stringOf (stream.stringCodes length) := by
  have hbytes : some length ≠ some 0 := fun h => hpos (Option.some.inj h)
  intro stream hindex
  obtain ⟨hok, herror⟩ := takes_readStringLoop length [] true stream hindex
  refine ⟨fun hfits => ?_, fun hshort => ?_⟩
  · exact readString_of_ok hbytes (hok hfits) ((length_stringCodes_le stream length).trans hle)
  · obtain ⟨message, hloop⟩ := herror hshort
    unfold readString
    rw [if_neg hbytes, bind_of_ok (get_eq stream)]
    exact ⟨message, bind_of_error hloop⟩

/-- A string up to its zero. -/
theorem readString_eq (h : stream.index ≤ stream.length)
    (hle : (stream.stringCodes ((stream.length - stream.index) / 8)).length ≤ maxArguments) :
    readString maxArguments none stream =
      .ok (stringOf (stream.stringCodes ((stream.length - stream.index) / 8)),
        stream.advance (8 * min ((stream.length - stream.index) / 8)
          ((stream.stringCodes ((stream.length - stream.index) / 8)).length + 1))) :=
  readString_of_ok (fun h => nomatch h) (readStringLoop_eq _ [] (by rw [Option.getD_none]; omega)) hle

theorem readString_of_long (h : stream.index ≤ stream.length)
    (hlt : maxArguments < (stream.stringCodes ((stream.length - stream.index) / 8)).length) :
    ∃ message, readString maxArguments none stream = .error message :=
  readString_of_many (fun h => nomatch h) (readStringLoop_eq _ [] (by rw [Option.getD_none]; omega)) hlt

/-- A string whose characters are bytes other than zero. -/
def Latin (string : String) : Prop := ∀ c ∈ string.toList, 0 < c.toNat ∧ c.toNat < 256

theorem utf16_of_latin (h : Latin string) : utf16 string = string.toList.map Char.toNat := by
  unfold utf16
  unfold Latin at h
  generalize string.toList = chars at h
  induction chars with
  | nil => rfl
  | cons c chars ih =>
    rw [List.flatMap_cons, List.map_cons, ih fun d hd => h d (List.mem_cons_of_mem _ hd)]
    unfold utf16Units
    rw [if_pos (by have := (h c List.mem_cons_self).2; omega)]
    rfl

theorem stringOf_toNat (string : String) : stringOf (string.toList.map Char.toNat) = string := by
  unfold stringOf
  rw [List.map_map]
  have hid : (Char.ofNat ∘ Char.toNat) = id := funext fun c => Char.ofNat_toNat c
  rw [hid, List.map_id, String.ofList_toList]

theorem latin_stringOf {codes : List ℕ} (h : ∀ code ∈ codes, 0 < code ∧ code < 256) : Latin (stringOf codes) := by
  unfold Latin stringOf
  rw [String.toList_ofList]
  intro c hc
  obtain ⟨code, hcode, rfl⟩ := List.mem_map.1 hc
  have hvalid : code.isValidChar := Or.inl (by have := (h code hcode).2; omega)
  have htoNat : (Char.ofNat code).toNat = code := by
    unfold Char.ofNat
    rw [dif_pos hvalid]
    rfl
  rw [htoNat]
  exact h code hcode

theorem length_stringOf (codes : List ℕ) : (stringOf codes).length = codes.length := by
  unfold stringOf
  rw [String.length_ofList, List.length_map]

/-- The bytes of a string with so many zeros behind it. -/
def stringBits (string : String) (zeros : ℕ) : List Bool :=
  (string.toList.map Char.toNat ++ List.replicate zeros 0).flatMap (bitsOf 8)

theorem length_bytesBits (codes : List ℕ) : (codes.flatMap (bitsOf 8)).length = 8 * codes.length := by
  induction codes with
  | nil => rfl
  | cons code codes ih =>
    rw [List.flatMap_cons, List.length_append, length_bitsOf, ih, List.length_cons]
    omega

theorem length_stringBits (string : String) (zeros : ℕ) :
    (stringBits string zeros).length = 8 * (string.length + zeros) := by
  unfold stringBits
  rw [length_bytesBits, List.length_append, List.length_map, List.length_replicate, String.length_toList]

/-- The codes at the place, where they begin with certain bytes. -/
theorem codes_of_holds {codes : List ℕ} (stream : BitStream) (more : ℕ) (h : Holds stream.view stream.index (codes.flatMap (bitsOf 8)))
    (hbyte : ∀ code ∈ codes, code < 256) : ∃ others, stream.codes (codes.length + more) = codes ++ others := by
  induction codes generalizing stream with
  | nil => exact ⟨_, rfl⟩
  | cons code codes ih =>
    rw [List.flatMap_cons, holds_append, length_bitsOf] at h
    obtain ⟨others, hothers⟩ := ih (stream.advance 8) h.2 fun c hc => hbyte c (List.mem_cons_of_mem _ hc)
    refine ⟨others, ?_⟩
    rw [List.length_cons, Nat.add_right_comm, codes_succ, hothers,
      valueAt_eq h.1 (hbyte code List.mem_cons_self)]
    rfl

/-- Where a string stands with a zero or the end of its field behind it, it is the string at the place. -/
theorem stringCodes_of_holds {zeros : ℕ} (more : ℕ) (hlatin : Latin string)
    (h : Holds stream.view stream.index (stringBits string zeros)) (hend : 0 < zeros ∨ more = 0) :
    stream.stringCodes (string.length + zeros + more) = string.toList.map Char.toNat := by
  unfold stringBits at h
  obtain ⟨others, hothers⟩ := codes_of_holds stream more h (by
    intro code hcode
    rcases List.mem_append.1 hcode with hcode | hcode
    · obtain ⟨c, hc, rfl⟩ := List.mem_map.1 hcode
      exact (hlatin c hc).2
    · rw [List.eq_of_mem_replicate hcode]
      omega)
  rw [List.length_append, List.length_map, List.length_replicate, String.length_toList] at hothers
  have hlength := congrArg List.length hothers
  unfold stringCodes
  rw [hothers, List.append_assoc, List.takeWhile_append_of_pos]
  · cases zeros with
    | succ zeros => simp [List.replicate_succ]
    | zero =>
      obtain rfl : more = 0 := hend.resolve_left (by omega)
      obtain rfl : others = [] := by
        refine List.length_eq_zero_iff.1 ?_
        unfold codes at hlength
        rw [List.length_map, List.length_range, List.length_append, List.length_append, List.length_map,
          List.length_replicate, String.length_toList] at hlength
        omega
      exact List.append_nil _
  · intro code hcode
    obtain ⟨c, hc, rfl⟩ := List.mem_map.1 hcode
    exact decide_eq_true (Nat.pos_iff_ne_zero.1 (hlatin c hc).1)

theorem reads_readString (hlatin : Latin string) (hle : string.length ≤ maxArguments) :
    Reads (readString maxArguments none) (stringBits string 1) string := by
  intro stream hfits hholds
  rw [length_stringBits] at hfits ⊢
  obtain ⟨more, hmore⟩ : ∃ more, (stream.length - stream.index) / 8 = string.length + 1 + more :=
    ⟨(stream.length - stream.index) / 8 - (string.length + 1), by omega⟩
  have hcodes := stringCodes_of_holds more hlatin hholds (Or.inl Nat.one_pos)
  have hlength : (string.toList.map Char.toNat).length = string.length := by
    rw [List.length_map, String.length_toList]
  rw [readString_eq (by omega) (by rw [hmore, hcodes, hlength]; exact hle), hmore, hcodes, stringOf_toNat, hlength,
    Nat.min_eq_right (by omega)]

theorem reads_readFixedString {length : ℕ} (hlatin : Latin string) (hpos : length ≠ 0) (hle : string.length ≤ length)
    (hmax : length ≤ maxArguments) :
    Reads (readString maxArguments (some length)) (stringBits string (length - string.length)) string := by
  intro stream hfits hholds
  rw [length_stringBits, Nat.add_sub_cancel' hle] at hfits ⊢
  have hcodes := stringCodes_of_holds 0 hlatin hholds (Or.inr rfl)
  rw [Nat.add_zero, Nat.add_sub_cancel' hle] at hcodes
  rw [(takes_readString hpos hmax stream (by omega)).1 hfits]
  dsimp only
  rw [hcodes, stringOf_toNat]

private theorem map_getD_range (codes : List ℕ) (zeros : ℕ) :
    (List.range (codes.length + zeros)).map (fun i => codes.getD i 0) = codes ++ List.replicate zeros 0 := by
  refine List.ext_getElem (by simp) fun i h h' => ?_
  rw [List.getElem_map, List.getElem_range, List.getElem_append, List.getD_eq_getElem?_getD]
  split
  · rw [List.getElem?_eq_getElem ‹_›]
    rfl
  · rw [List.getElem?_eq_none (by omega), List.getElem_replicate]
    rfl

/-- A string of bytes is written with zeros behind it, up to its length or for one byte. -/
theorem writes_writeString {zeros : ℕ} (hlatin : Latin string)
    (hbytes : (if bytes.getD 0 = 0 then string.length + 1 else bytes.getD 0) = string.length + zeros) :
    Writes (writeString string bytes) (stringBits string zeros) := by
  have hcodes := utf16_of_latin hlatin
  have hlength : (utf16 string).length = string.length := by
    rw [hcodes, List.length_map, String.length_toList]
  unfold writeString stringBits
  dsimp only
  rw [hlength, hbytes, ← hlength, ← hcodes, ← map_getD_range, List.flatMap_map]
  refine writes_forM fun i _ => ?_
  rw [← bitsOf_mod ((utf16 string).getD i 0) (by omega : 8 ≤ 32)]
  exact writes_writer 8 (.ofNat 32 _) (by omega)

end BitStream

end Opsia
