import Opsia.Gateway.BitStream
import Opsia.Gateway.Session

/-!
# The join message

The first message of a browser carries its match token, its name and the ids of its loadout.  The gateway reads it once
(`readGatewayJoin`), and writes it again with another token when it prepares a candidate (`writeGatewayJoin`).  The
reader gives `undefined` for an id without a type, and the writer throws on it.
-/

namespace Opsia

open BitField Json BitStream

/-! ### Types and ids -/

/-- A `DefinitionRegister` as its constructor leaves it: the types in the order of their ids. -/
structure DefinitionRegister (typeBits : ℕ) where
  types : List String
  empty_first : types.head? = some ""
  nodup : types.Nodup
  length_le : types.length ≤ 2 ^ typeBits
  undefined_not_mem : "undefined" ∉ types

namespace DefinitionRegister

variable {typeBits : ℕ} (register : DefinitionRegister typeBits)

def idToType (id : ℕ) : Option String := register.types[id]?

/-- `typeToId`; the key of an undefined type is its text. -/
def typeToId (type : Option String) : Except String ℕ :=
  let key := type.getD "undefined"
  if key ∈ register.types then .ok (register.types.idxOf key) else .error ("Invalid type " ++ key)

variable {register}

theorem idToType_idxOf {type : String} (h : type ∈ register.types) :
    register.idToType (register.types.idxOf type) = some type := by
  have hlt := List.idxOf_lt_length_of_mem h
  unfold idToType
  rw [List.getElem?_eq_getElem hlt, List.getElem_idxOf hlt]

theorem idxOf_lt {type : String} (h : type ∈ register.types) : register.types.idxOf type < 2 ^ typeBits :=
  (List.idxOf_lt_length_of_mem h).trans_le register.length_le

theorem mem_of_idToType {type : String} {id : ℕ} (h : register.idToType id = some type) : type ∈ register.types :=
  List.mem_of_getElem? h

theorem typeToId_none (register : DefinitionRegister typeBits) : ∃ message, register.typeToId none = .error message := ⟨_, if_neg register.undefined_not_mem⟩

end DefinitionRegister

/-! ### The message -/

/-- `DefinitionRegister` of the game objects: their ids have ten bits. -/
abbrev GameObjectRegister := DefinitionRegister 10

structure JoinLoadout where
  outfit : Option String
  melee : Option String
  heal : Option String
  boost : Option String
  emotes : List (Option String)
deriving DecidableEq

/-- A join message, which is also what the template of a session keeps of it. -/
structure JoinMsg where
  protocol : ℕ
  matchPriv : String
  name : String
  useTouch : Bool
  isMobile : Bool
  bot : Bool
  loadout : JoinLoadout
deriving DecidableEq

abbrev GatewayJoinTemplate := JoinMsg

/-- The types of a loadout. -/
def JoinLoadout.types (loadout : JoinLoadout) : List (Option String) :=
  [loadout.outfit, loadout.melee, loadout.heal, loadout.boost] ++ loadout.emotes

def PlayerNameMaxLen : ℕ := 16

def MsgType.None : ℕ := 0

def MsgType.Join : ℕ := 1

section Messages

variable (register : GameObjectRegister) (maxArguments : ℕ)

def writeGameType (type : Option String) : Streaming Unit := do
  let id ← register.typeToId type
  writeBits (.ofNat 32 id) 10

def readGameType : Streaming (Option String) := do return register.idToType (← readBits 10)

namespace JoinMsg

def serialize (msg : JoinMsg) : Streaming Unit := do
  writeUint32 (.ofNat 32 msg.protocol)
  writeString msg.matchPriv none
  writeString msg.name (some PlayerNameMaxLen)
  writeBoolean msg.useTouch
  writeBoolean msg.isMobile
  writeBoolean msg.bot
  writeGameType register msg.loadout.outfit
  writeGameType register msg.loadout.melee
  writeGameType register msg.loadout.heal
  writeGameType register msg.loadout.boost
  writeArray msg.loadout.emotes 8 (writeGameType register)

def deserialize : Streaming JoinMsg := do
  let protocol ← readUint32
  let matchPriv ← readString maxArguments none
  let name ← readString maxArguments (some PlayerNameMaxLen)
  let useTouch ← readBoolean
  let isMobile ← readBoolean
  let bot ← readBoolean
  let outfit ← readGameType register
  let melee ← readGameType register
  let heal ← readGameType register
  let boost ← readGameType register
  let emotes ← readArray 8 (readGameType register)
  return { protocol, matchPriv, name, useTouch, isMobile, bot, loadout := { outfit, melee, heal, boost, emotes } }

end JoinMsg

/-- `MsgStream.serializeMsg` of a join message; the stream is at the start of a byte. -/
def serializeMsg (msg : JoinMsg) : Streaming Unit := do
  writeUint8 (.ofNat 32 MsgType.Join)
  msg.serialize register
  writeAlignToNextByte

def deserializeMsgType : Streaming ℕ := do
  let stream ← get
  if 1 ≤ stream.length - (stream.index + 7) / 8 * 8 then readUint8 else return MsgType.None

def readGatewayJoin (payload : Payload) : Except String (Option GatewayJoinTemplate) :=
  match deserializeMsgType { view := payload } with
  | .error message => .error message
  | .ok (type, stream) =>
    if type ≠ MsgType.Join then .ok none
    else
      match JoinMsg.deserialize register maxArguments stream with
      | .error message => .error message
      | .ok (join, _) => .ok (some join)

def writeGatewayJoin (template : GatewayJoinTemplate) (matchPriv : String) : Except String Payload :=
  let length := (utf16 matchPriv).length
  if matchPriv = "" ∨ 16 * 1024 < length then .error "invalid_resume_match_token"
  else
    match serializeMsg register { template with matchPriv } { view := List.replicate (max 8192 (length + 1024)) 0 } with
    | .error message => .error message
    | .ok (_, stream) => .ok (stream.view.take ((stream.index + 7) / 8))

end Messages

/-! ### What the reader accepts -/

/-- The bytes of the match token: those behind the type and the protocol, up to a zero. -/
def joinTokenBytes (payload : Payload) : List UInt8 := (payload.drop 5).takeWhile (· ≠ 0)

/-- The first bit behind the match token and its zero. -/
def joinTokenEnd (payload : Payload) : ℕ := 8 * (6 + (joinTokenBytes payload).length)

/-- A message whose first byte says that it is a join has all that a join has: a match token with its zero that a call
can take, a name, three flags, four ids, and as many ids as the number of its emotes says. -/
def JoinFits (maxArguments : ℕ) (payload : Payload) : Prop :=
  5 ≤ payload.length ∧ (joinTokenBytes payload).length ≤ maxArguments ∧
    joinTokenEnd payload + 179 + 10 * valueAt payload (joinTokenEnd payload + 171) 8 ≤ 8 * payload.length

instance (maxArguments : ℕ) (payload : Payload) : Decidable (JoinFits maxArguments payload) := by
  unfold JoinFits
  infer_instance

/-- What the reader vouches for. -/
structure JoinMsg.WellFormed (register : GameObjectRegister) (msg : JoinMsg) : Prop where
  protocol_lt : msg.protocol < 2 ^ 32
  matchPriv_latin : Latin msg.matchPriv
  name_latin : Latin msg.name
  name_le : msg.name.length ≤ PlayerNameMaxLen
  emotes_lt : msg.loadout.emotes.length < 2 ^ 8
  types_mem : ∀ type, some type ∈ msg.loadout.types → type ∈ register.types

variable {register : GameObjectRegister} {maxArguments : ℕ} {payload : Payload}

theorem takes_readGameType : Takes (readGameType register) (fun _ => 10) fun stream =>
    register.idToType (valueAt stream.view stream.index 10) := (takes_readBits 10).map register.idToType

/-- The fields behind the match token. -/
theorem takes_joinFields (register : GameObjectRegister) (hmax : PlayerNameMaxLen ≤ maxArguments) {protocol : ℕ} (hprotocol : protocol < 2 ^ 32)
    {matchPriv : String} (hmatchPriv : Latin matchPriv) :
    ∃ value : BitStream → JoinMsg,
      Takes (do
        let name ← readString maxArguments (some PlayerNameMaxLen)
        let useTouch ← readBoolean
        let isMobile ← readBoolean
        let bot ← readBoolean
        let outfit ← readGameType register
        let melee ← readGameType register
        let heal ← readGameType register
        let boost ← readGameType register
        let emotes ← readArray 8 (readGameType register)
        return JoinMsg.mk protocol matchPriv name useTouch isMobile bot ⟨outfit, melee, heal, boost, emotes⟩)
        (fun stream => 179 + 10 * valueAt stream.view (stream.index + 171) 8) value ∧
      ∀ stream, (value stream).WellFormed register := by
  refine ⟨_, ((takes_readString (by decide) hmax).bind fun name => takes_readBoolean.bind fun useTouch =>
    takes_readBoolean.bind fun isMobile => takes_readBoolean.bind fun bot => takes_readGameType.bind fun outfit =>
    takes_readGameType.bind fun melee => takes_readGameType.bind fun heal => takes_readGameType.bind fun boost =>
    (takes_readArray takes_readGameType 8).map fun emotes => JoinMsg.mk protocol matchPriv name useTouch isMobile bot
      ⟨outfit, melee, heal, boost, emotes⟩).congr ?_ fun _ => rfl, ?_⟩
  · intro stream
    simp only [advance_advance, view_advance, index_advance, PlayerNameMaxLen, Nat.reduceMul, Nat.reduceAdd]
    omega
  · intro stream
    exact
      { protocol_lt := hprotocol
        matchPriv_latin := hmatchPriv
        name_latin := latin_stringOf fun code hcode => stringCodes_mem hcode
        name_le := by
          rw [length_stringOf]
          exact length_stringCodes_le _ _
        emotes_lt := by
          dsimp only
          rw [List.length_map, List.length_range]
          exact valueAt_lt _ _ _
        types_mem := by
          intro type htype
          obtain ⟨id, hid⟩ : ∃ id, register.idToType id = some type := by
            unfold JoinLoadout.types at htype
            simp only [List.mem_append, List.mem_cons, List.not_mem_nil, or_false, List.mem_map] at htype
            rcases htype with (h | h | h | h) | ⟨_, _, h⟩
            · exact ⟨_, h.symm⟩
            · exact ⟨_, h.symm⟩
            · exact ⟨_, h.symm⟩
            · exact ⟨_, h.symm⟩
            · exact ⟨_, h⟩
          exact DefinitionRegister.mem_of_idToType hid }

theorem valueAt_byte (payload : Payload) (i : ℕ) {byte : UInt8} (h : payload[i]? = some byte) : valueAt payload (i * 8) 8 = byte.toNat := by
  refine valueAt_eq (holds_bitsOf.2 fun k hk => ?_) byte.toNat_lt
  unfold bitAt
  rw [show (i * 8 + k) / 8 = i by omega, show (i * 8 + k) % 8 = k by omega, List.getD_eq_getElem?_getD, h,
    Option.getD_some, ← BitVec.testBit_toNat]
  rfl

/-- From a byte on the codes are the bytes. -/
theorem codes_eq_drop (n : ℕ) :
    codes { view := payload, index := n * 8 } (payload.length - n) = (payload.drop n).map UInt8.toNat := by
  refine List.ext_getElem (by simp [codes]) fun k h h' => ?_
  unfold codes at h ⊢
  rw [List.length_map, List.length_range] at h
  rw [List.getElem_map, List.getElem_range, List.getElem_map, List.getElem_drop]
  dsimp only
  rw [← Nat.add_mul, valueAt_byte _ _ (List.getElem?_eq_getElem (by omega))]

theorem stringCodes_token :
    stringCodes { view := payload, index := 5 * 8 } (payload.length - 5) = (joinTokenBytes payload).map UInt8.toNat := by
  unfold stringCodes joinTokenBytes
  rw [codes_eq_drop, List.takeWhile_map]
  refine congrArg _ (congrArg (fun p => List.takeWhile p _) (funext fun byte => ?_))
  rw [Function.comp_apply, decide_eq_decide]
  exact not_congr ⟨fun h => UInt8.toNat_inj.1 h, fun h => congrArg UInt8.toNat h⟩

theorem length_joinTokenBytes_le (payload : Payload) : (joinTokenBytes payload).length ≤ payload.length - 5 := by
  unfold joinTokenBytes
  refine (List.takeWhile_prefix _).length_le.trans ?_
  rw [List.length_drop]

/-- The protocol, in the four bytes behind the type. -/
private theorem read_protocol (hpos : 1 ≤ payload.length) :
    (5 ≤ payload.length → readUint32 { view := payload, index := 8 } =
      .ok (valueAt payload 8 32, { view := payload, index := 5 * 8 })) ∧
    (payload.length < 5 → ∃ message, readUint32 { view := payload, index := 8 } = .error message) := by
  have hlength : BitStream.length { view := payload, index := 8 } = payload.length * 8 := rfl
  obtain ⟨hok, herror⟩ := takes_reader 32 { view := payload, index := 8 } (by rw [hlength]; dsimp only; omega)
  rw [hlength] at hok herror
  dsimp only at hok herror
  exact ⟨fun h => hok (by omega), fun h => herror (by omega)⟩

/-- The match token, which ends with its zero or with the message. -/
private theorem read_token (hlong : 5 ≤ payload.length) :
    ((joinTokenBytes payload).length ≤ maxArguments →
      ∃ token, Latin token ∧ readString maxArguments none { view := payload, index := 5 * 8 } =
        .ok (token, { view := payload, index := min (8 * payload.length) (joinTokenEnd payload) })) ∧
    (maxArguments < (joinTokenBytes payload).length →
      ∃ message, readString maxArguments none { view := payload, index := 5 * 8 } = .error message) := by
  have hlength : BitStream.length { view := payload, index := 5 * 8 } = payload.length * 8 := rfl
  have hindex : 5 * 8 ≤ BitStream.length { view := payload, index := 5 * 8 } := by
    rw [hlength]
    omega
  have hcodes : stringCodes { view := payload, index := 5 * 8 }
      ((BitStream.length { view := payload, index := 5 * 8 } - 5 * 8) / 8) =
        (joinTokenBytes payload).map UInt8.toNat := by
    rw [hlength, ← Nat.sub_mul, Nat.mul_div_cancel _ (by omega), stringCodes_token]
  refine ⟨fun hfew => ⟨stringOf ((joinTokenBytes payload).map UInt8.toNat), ?_, ?_⟩, fun hmany => ?_⟩
  · rw [← hcodes]
    exact latin_stringOf fun code hcode => stringCodes_mem hcode
  · rw [readString_eq hindex (by rw [hcodes, List.length_map]; exact hfew), hcodes, List.length_map, hlength]
    refine congrArg (fun index => Except.ok (_, BitStream.mk payload index)) ?_
    unfold joinTokenEnd
    dsimp only
    omega
  · exact readString_of_long hindex (by rw [hcodes, List.length_map]; exact hmany)

/-- `deserialize` behind the type: it throws exactly on a message that is cut off. -/
theorem deserialize_join (register : GameObjectRegister) (payload : Payload) (hmax : PlayerNameMaxLen ≤ maxArguments)
    (hpos : 1 ≤ payload.length) :
    (JoinFits maxArguments payload → ∃ join stream, join.WellFormed register ∧
      JoinMsg.deserialize register maxArguments { view := payload, index := 8 } = .ok (join, stream)) ∧
    (¬JoinFits maxArguments payload → ∃ message,
      JoinMsg.deserialize register maxArguments { view := payload, index := 8 } = .error message) := by
  unfold JoinFits JoinMsg.deserialize
  rcases Nat.lt_or_ge payload.length 5 with hshort | hlong
  · obtain ⟨message, hread⟩ := (read_protocol hpos).2 hshort
    exact ⟨fun hfits => absurd hfits.1 (by omega), fun _ => ⟨message, bind_of_error hread⟩⟩
  rw [bind_of_ok ((read_protocol hpos).1 hlong)]
  rcases Nat.lt_or_ge maxArguments (joinTokenBytes payload).length with hmany | hfew
  · obtain ⟨message, hread⟩ := (read_token hlong).2 hmany
    exact ⟨fun hfits => absurd hfits.2.1 (by omega), fun _ => ⟨message, bind_of_error hread⟩⟩
  obtain ⟨token, hlatin, htoken⟩ := (read_token hlong).1 hfew
  obtain ⟨value, htakes, hvalue⟩ := takes_joinFields register hmax (valueAt_lt payload 8 32) hlatin
  rw [bind_of_ok htoken]
  have hlength (index : ℕ) : BitStream.length { view := payload, index } = 8 * payload.length := Nat.mul_comm _ _
  obtain ⟨hok, herror⟩ := htakes { view := payload, index := min (8 * payload.length) (joinTokenEnd payload) }
    (by rw [hlength]; exact Nat.min_le_left _ _)
  rw [hlength] at hok herror
  dsimp only at hok herror
  -- a token without a zero ends with the message, and then its fields are not there
  rcases Nat.le_total (joinTokenEnd payload) (8 * payload.length) with hle | hge
  · rw [Nat.min_eq_right hle] at hok herror ⊢
    refine ⟨fun hfits => ⟨_, _, hvalue _, hok (by omega)⟩, fun hcut => herror ?_⟩
    by_contra hnot
    exact hcut ⟨hlong, hfew, by omega⟩
  · refine ⟨fun hfits => absurd hfits.2.2 (by omega), fun _ => herror (by rw [Nat.min_eq_left hge]; omega)⟩

private theorem read_type (byte : UInt8) (rest : Payload) :
    deserializeMsgType { view := byte :: rest } = .ok (byte.toNat, { view := byte :: rest, index := 8 }) := by
  have hlength : BitStream.length { view := byte :: rest } = (rest.length + 1) * 8 := rfl
  have hread := (takes_reader 8 { view := byte :: rest } (Nat.zero_le _)).1 (by rw [hlength]; dsimp only; omega)
  have hbyte : valueAt (byte :: rest) 0 8 = byte.toNat := valueAt_byte _ 0 rfl
  dsimp only at hread
  rw [hbyte] at hread
  unfold deserializeMsgType
  rw [bind_of_ok (get_eq _), if_pos (by rw [hlength]; dsimp only; omega)]
  exact hread

/-- A message that does not start with the type of a join is none. -/
theorem readGatewayJoin_of_other (h : payload.head? ≠ some 1) :
    readGatewayJoin register maxArguments payload = .ok none := by
  unfold readGatewayJoin
  cases payload with
  | nil => rfl
  | cons byte rest =>
    rw [read_type]
    dsimp only
    rw [if_pos]
    intro hjoin
    exact h (congrArg some (UInt8.toNat_inj.1 hjoin))

/-- A join message that fits is read, and one that does not makes the reader throw. -/
theorem readGatewayJoin_of_join (register : GameObjectRegister) (hmax : PlayerNameMaxLen ≤ maxArguments)
    (h : payload.head? = some 1) :
    (JoinFits maxArguments payload → ∃ template, template.WellFormed register ∧
      readGatewayJoin register maxArguments payload = .ok (some template)) ∧
    (¬JoinFits maxArguments payload → ∃ message,
      readGatewayJoin register maxArguments payload = .error message) := by
  cases payload with
  | nil => cases h
  | cons byte rest =>
    obtain rfl := Option.some.inj h
    unfold readGatewayJoin
    rw [read_type]
    dsimp only
    rw [if_neg (fun hne => hne rfl)]
    obtain ⟨hok, herror⟩ := deserialize_join register (1 :: rest) hmax (Nat.succ_pos _)
    refine ⟨fun hfits => ?_, fun hcut => ?_⟩
    · obtain ⟨join, stream, hwellFormed, hread⟩ := hok hfits
      rw [hread]
      exact ⟨join, hwellFormed, rfl⟩
    · obtain ⟨message, hread⟩ := herror hcut
      rw [hread]
      exact ⟨message, rfl⟩

theorem wellFormed_of_readGatewayJoin {template : GatewayJoinTemplate} (hmax : PlayerNameMaxLen ≤ maxArguments)
    (h : readGatewayJoin register maxArguments payload = .ok (some template)) : template.WellFormed register := by
  by_cases hjoin : payload.head? = some 1
  · obtain ⟨hok, herror⟩ := readGatewayJoin_of_join register hmax hjoin
    by_cases hfits : JoinFits maxArguments payload
    · obtain ⟨read, hwellFormed, hread⟩ := hok hfits
      rw [hread] at h
      cases h
      exact hwellFormed
    · obtain ⟨message, hread⟩ := herror hfits
      rw [hread] at h
      cases h
  · rw [readGatewayJoin_of_other hjoin] at h
    cases h

/-! ### Writing a join again -/

/-- The loadout has a type for every id. -/
def JoinLoadout.Named (loadout : JoinLoadout) : Prop := none ∉ loadout.types

instance (loadout : JoinLoadout) : Decidable loadout.Named := by
  unfold JoinLoadout.Named
  infer_instance

/-- The field of a type. -/
def typeBits (register : GameObjectRegister) (type : Option String) : List Bool :=
  bitsOf 10 (register.types.idxOf (type.getD "undefined"))

theorem length_typeBits (type : Option String) : (typeBits register type).length = 10 := length_bitsOf _ _

/-- The fields of a message. -/
def JoinMsg.bits (register : GameObjectRegister) (msg : JoinMsg) : List Bool :=
  bitsOf 32 msg.protocol ++ (stringBits msg.matchPriv 1 ++
    (stringBits msg.name (PlayerNameMaxLen - msg.name.length) ++ (bitsOf 1 msg.useTouch.toNat ++
      (bitsOf 1 msg.isMobile.toNat ++ (bitsOf 1 msg.bot.toNat ++ (typeBits register msg.loadout.outfit ++
        (typeBits register msg.loadout.melee ++ (typeBits register msg.loadout.heal ++
          (typeBits register msg.loadout.boost ++ (bitsOf 8 msg.loadout.emotes.length ++
            msg.loadout.emotes.flatMap (typeBits register)))))))))))

theorem writes_writeGameType {type : Option String} (h : type.getD "undefined" ∈ register.types) :
    Writes (writeGameType register type) (typeBits register type) := by
  have hid : register.typeToId type = .ok (register.types.idxOf (type.getD "undefined")) := if_pos h
  have hword : (BitVec.ofNat 32 (register.types.idxOf (type.getD "undefined"))).toNat =
      register.types.idxOf (type.getD "undefined") :=
    Nat.mod_eq_of_lt ((DefinitionRegister.idxOf_lt h).trans (by decide))
  have hwrite := writes_writer 10 (.ofNat 32 (register.types.idxOf (type.getD "undefined"))) (by omega)
  rw [hword] at hwrite
  intro stream hfits
  have hrun : writeGameType register type stream =
      writer 10 (.ofNat 32 (register.types.idxOf (type.getD "undefined"))) stream := by
    unfold writeGameType
    rw [hid]
    rfl
  rw [hrun]
  exact hwrite stream hfits

theorem reads_readGameType {type : Option String} (h : type.getD "undefined" ∈ register.types) (hnamed : type ≠ none) :
    Reads (readGameType register) (typeBits register type) type := by
  have hread := ((takes_readBits 10).reads (DefinitionRegister.idxOf_lt h)).map register.idToType
  rw [DefinitionRegister.idToType_idxOf h] at hread
  cases type with
  | none => exact absurd rfl hnamed
  | some type => exact hread

/-- The types of a loadout that has one for every id are in the register. -/
private theorem mem_register {msg : JoinMsg} (h : msg.WellFormed register) (hnamed : msg.loadout.Named)
    {type : Option String} (htype : type ∈ msg.loadout.types) :
    type.getD "undefined" ∈ register.types ∧ type ≠ none := by
  cases type with
  | none => exact absurd htype hnamed
  | some type => exact ⟨h.types_mem type htype, fun h => nomatch h⟩

private theorem mem_types (loadout : JoinLoadout) :
    loadout.outfit ∈ loadout.types ∧ loadout.melee ∈ loadout.types ∧ loadout.heal ∈ loadout.types ∧
      loadout.boost ∈ loadout.types ∧ ∀ emote ∈ loadout.emotes, emote ∈ loadout.types := by
  unfold JoinLoadout.types
  refine ⟨by simp, by simp, by simp, by simp, fun emote hemote => List.mem_append_right _ hemote⟩

theorem JoinMsg.writes_serialize {msg : JoinMsg} (h : msg.WellFormed register) (hnamed : msg.loadout.Named) :
    Writes (msg.serialize register) (msg.bits register) := by
  have hprotocol : (BitVec.ofNat 32 msg.protocol).toNat = msg.protocol := Nat.mod_eq_of_lt h.protocol_lt
  have hprotocol' := writes_writer 32 (.ofNat 32 msg.protocol) (by omega)
  rw [hprotocol] at hprotocol'
  have hname : (if (some PlayerNameMaxLen).getD 0 = 0 then msg.name.length + 1 else (some PlayerNameMaxLen).getD 0) =
      msg.name.length + (PlayerNameMaxLen - msg.name.length) := (Nat.add_sub_cancel' h.name_le).symm
  obtain ⟨houtfit, hmelee, hheal, hboost, hemotes⟩ := mem_types msg.loadout
  have htype {type : Option String} (hmem : type ∈ msg.loadout.types) :=
    writes_writeGameType (mem_register h hnamed hmem).1
  exact hprotocol'.bind ((writes_writeString h.matchPriv_latin rfl).bind ((writes_writeString h.name_latin hname).bind
    ((writes_writeBoolean msg.useTouch).bind ((writes_writeBoolean msg.isMobile).bind
      ((writes_writeBoolean msg.bot).bind ((htype houtfit).bind ((htype hmelee).bind ((htype hheal).bind
        ((htype hboost).bind (writes_writeArray (by omega) h.emotes_lt fun emote hemote =>
          htype (hemotes emote hemote)))))))))))

theorem JoinMsg.reads_deserialize {msg : JoinMsg} (h : msg.WellFormed register) (hnamed : msg.loadout.Named)
    (hmax : PlayerNameMaxLen ≤ maxArguments) (htoken : msg.matchPriv.length ≤ maxArguments) :
    Reads (JoinMsg.deserialize register maxArguments) (msg.bits register) msg := by
  obtain ⟨houtfit, hmelee, hheal, hboost, hemotes⟩ := mem_types msg.loadout
  have htype {type : Option String} (hmem : type ∈ msg.loadout.types) :=
    reads_readGameType (mem_register h hnamed hmem).1 (mem_register h hnamed hmem).2
  exact ((takes_reader 32).reads h.protocol_lt).bind ((reads_readString h.matchPriv_latin htoken).bind
    ((reads_readFixedString h.name_latin (by decide) h.name_le hmax).bind
      ((reads_readBoolean msg.useTouch).bind ((reads_readBoolean msg.isMobile).bind
        ((reads_readBoolean msg.bot).bind ((htype houtfit).bind ((htype hmelee).bind ((htype hheal).bind
          ((htype hboost).bind ((reads_readArray h.emotes_lt fun emote hemote => htype (hemotes emote hemote)).map
            (JoinMsg.mk _ _ _ _ _ _ ⟨_, _, _, _, ·⟩)))))))))))

theorem JoinMsg.length_bits {msg : JoinMsg} (h : msg.WellFormed register) :
    (msg.bits register).length = 219 + 8 * msg.matchPriv.length + 10 * msg.loadout.emotes.length := by
  have hemotes (emotes : List (Option String)) : (emotes.flatMap (typeBits register)).length = 10 * emotes.length := by
    induction emotes with
    | nil => rfl
    | cons emote emotes ih =>
      rw [List.flatMap_cons, List.length_append, ih, length_typeBits, List.length_cons]
      omega
  have hname := h.name_le
  unfold JoinMsg.bits
  simp only [List.length_append, length_bitsOf, length_stringBits, length_typeBits, hemotes]
  unfold PlayerNameMaxLen at hname ⊢
  omega

private theorem ok_writeGameType {type : Option String} {before after : BitStream}
    (h : writeGameType register type before = .ok ((), after)) : type ≠ none := by
  rintro rfl
  obtain ⟨message, hnone⟩ := DefinitionRegister.typeToId_none register
  unfold writeGameType at h
  rw [hnone] at h
  cases h

/-- What has been written had a type for every id. -/
theorem JoinMsg.named_of_serialize {msg : JoinMsg} {before after : BitStream}
    (hemotes : msg.loadout.emotes.length < 2 ^ 8) (h : msg.serialize register before = .ok ((), after)) :
    msg.loadout.Named := by
  unfold JoinMsg.serialize at h
  obtain ⟨_, _, -, h⟩ := ok_of_bind h
  obtain ⟨_, _, -, h⟩ := ok_of_bind h
  obtain ⟨_, _, -, h⟩ := ok_of_bind h
  obtain ⟨_, _, -, h⟩ := ok_of_bind h
  obtain ⟨_, _, -, h⟩ := ok_of_bind h
  obtain ⟨_, _, -, h⟩ := ok_of_bind h
  obtain ⟨_, _, houtfit, h⟩ := ok_of_bind h
  obtain ⟨_, _, hmelee, h⟩ := ok_of_bind h
  obtain ⟨_, _, hheal, h⟩ := ok_of_bind h
  obtain ⟨_, _, hboost, h⟩ := ok_of_bind h
  unfold writeArray at h
  obtain ⟨_, _, -, h⟩ := ok_of_bind h
  rw [List.take_of_length_le (by rw [Nat.one_shiftLeft]; omega)] at h
  unfold JoinLoadout.Named JoinLoadout.types
  intro hnone
  rcases List.mem_append.1 hnone with hnone | hnone
  · simp only [List.mem_cons, List.not_mem_nil, or_false] at hnone
    rcases hnone with hnone | hnone | hnone | hnone
    · exact ok_writeGameType houtfit hnone.symm
    · exact ok_writeGameType hmelee hnone.symm
    · exact ok_writeGameType hheal hnone.symm
    · exact ok_writeGameType hboost hnone.symm
  · obtain ⟨_, _, hemote⟩ := ok_of_forM h hnone
    exact ok_writeGameType hemote rfl

/-- A token that `writeGatewayJoin` takes: ASCII characters other than NUL. -/
def AsciiToken (token : String) : Prop := ∀ c ∈ token.toList, 0 < c.toNat ∧ c.toNat < 128

theorem AsciiToken.latin {token : String} (h : AsciiToken token) : Latin token :=
  fun c hc => ⟨(h c hc).1, (h c hc).2.trans (by decide)⟩

theorem AsciiToken.length_utf16 {token : String} (h : AsciiToken token) : (utf16 token).length = token.length := by
  rw [utf16_of_latin h.latin, List.length_map, String.length_toList]

/-- The template with another token. -/
theorem JoinMsg.WellFormed.withToken {template : GatewayJoinTemplate} (h : template.WellFormed register) {token : String}
    (htoken : Latin token) : ({ template with matchPriv := token } : JoinMsg).WellFormed register :=
  { h with matchPriv_latin := htoken }

/-- The bits of a message behind its type. -/
def JoinMsg.framed (register : GameObjectRegister) (msg : JoinMsg) : List Bool :=
  bitsOf 8 MsgType.Join ++ msg.bits register

theorem JoinMsg.length_framed {msg : JoinMsg} (h : msg.WellFormed register) :
    (msg.framed register).length = 227 + 8 * msg.matchPriv.length + 10 * msg.loadout.emotes.length := by
  unfold JoinMsg.framed
  rw [List.length_append, length_bitsOf, JoinMsg.length_bits h]
  omega

theorem serializeMsg_spec (payload : Payload) {msg : JoinMsg} (h : msg.WellFormed register) (hnamed : msg.loadout.Named)
    (hroom : (msg.framed register).length ≤ payload.length * 8) :
    ∃ stream, serializeMsg register msg { view := payload } = .ok ((), stream) ∧
      stream.index = ((msg.framed register).length + 7) / 8 * 8 ∧ stream.view.length = payload.length ∧
      Holds stream.view 0 (msg.framed register) := by
  have hwrite : Writes (writeUint8 (.ofNat 32 MsgType.Join) >>= fun _ => msg.serialize register)
      (msg.framed register) := (writes_writer 8 (.ofNat 32 MsgType.Join) (by omega)).bind (JoinMsg.writes_serialize h hnamed)
  obtain ⟨written, hok, hindex, hlength, hholds, -⟩ := hwrite { view := payload } (by
    rw [show BitStream.length { view := payload } = payload.length * 8 from rfl]
    dsimp only
    omega)
  unfold BitStream.length at hlength
  dsimp only at hindex hlength hholds
  obtain ⟨aligned, halign, hindex', hlength', hfront⟩ := writeAlignToNextByte_spec written (by
    unfold BitStream.length
    omega)
  unfold BitStream.length at hlength'
  refine ⟨aligned, ?_, by omega, by omega, hholds.congr fun j _ hj => hfront j (by omega)⟩
  obtain ⟨_, middle, hfirst, hsecond⟩ := ok_of_bind hok
  unfold serializeMsg
  rw [bind_of_ok hfirst, bind_of_ok hsecond, halign]

theorem readGatewayJoin_of_holds {msg : JoinMsg} (h : msg.WellFormed register) (hnamed : msg.loadout.Named)
    (hmax : PlayerNameMaxLen ≤ maxArguments) (htoken : msg.matchPriv.length ≤ maxArguments)
    (hlength : (msg.framed register).length ≤ payload.length * 8) (hholds : Holds payload 0 (msg.framed register)) :
    readGatewayJoin register maxArguments payload = .ok (some msg) := by
  unfold JoinMsg.framed at hlength hholds
  obtain ⟨htype, hbits⟩ := holds_append.1 hholds
  rw [List.length_append, length_bitsOf] at hlength
  rw [length_bitsOf] at hbits
  cases payload with
  | nil => exact absurd hlength (by rw [List.length_nil]; omega)
  | cons byte rest =>
    have hbyte : byte.toNat = MsgType.Join :=
      (valueAt_byte (byte :: rest) 0 rfl).symm.trans (valueAt_eq htype (by decide))
    have hread := JoinMsg.reads_deserialize h hnamed hmax htoken { view := byte :: rest, index := 8 } (by
      rw [show BitStream.length { view := byte :: rest, index := 8 } = (byte :: rest).length * 8 from rfl]
      omega) hbits
    unfold readGatewayJoin
    rw [read_type]
    dsimp only
    rw [if_neg (fun hne => hne hbyte), hread]

/-- A template with a type for every id is written, and the message is read for the template with the token. -/
theorem readGatewayJoin_writeGatewayJoin {template : GatewayJoinTemplate} (h : template.WellFormed register)
    (hnamed : template.loadout.Named) (hmax : 16 * 1024 ≤ maxArguments) {token : String} (hne : token ≠ "")
    (hascii : AsciiToken token) (hle : token.length ≤ 16 * 1024) :
    ∃ resumed, writeGatewayJoin register template token = .ok resumed ∧
      readGatewayJoin register maxArguments resumed = .ok (some { template with matchPriv := token }) := by
  have hwellFormed := h.withToken hascii.latin
  have hframed := JoinMsg.length_framed hwellFormed
  have hemotes := h.emotes_lt
  have hutf16 := hascii.length_utf16
  dsimp only at hframed
  -- the type, the fields and the padding take at most 348 bytes more than the token
  obtain ⟨stream, hserialize, hindex, hlength, hholds⟩ := serializeMsg_spec
    (List.replicate (max 8192 (token.length + 1024)) 0) hwellFormed hnamed (by rw [hframed, List.length_replicate]; omega)
  rw [List.length_replicate] at hlength
  refine ⟨stream.view.take ((stream.index + 7) / 8), ?_, ?_⟩
  · unfold writeGatewayJoin
    dsimp only
    rw [hutf16, if_neg, hserialize]
    rintro (rfl | hlong)
    · exact hne rfl
    · omega
  · refine readGatewayJoin_of_holds hwellFormed hnamed ?_ (hle.trans hmax) ?_ (hholds.congr fun j _ hj => ?_)
    · unfold PlayerNameMaxLen
      omega
    · rw [List.length_take, hlength]
      omega
    · exact bitAt_take _ _ _ (by omega)

/-- A template with an id that has no type cannot be written. -/
theorem writeGatewayJoin_of_not_named {template : GatewayJoinTemplate} (h : template.WellFormed register)
    (hnamed : ¬template.loadout.Named) (token : String) :
    ∃ message, writeGatewayJoin register template token = .error message := by
  unfold writeGatewayJoin
  dsimp only
  split
  · exact ⟨_, rfl⟩
  · split
    · exact ⟨_, rfl⟩
    · rename_i hserialize
      unfold serializeMsg at hserialize
      obtain ⟨_, _, -, hrest⟩ := ok_of_bind hserialize
      obtain ⟨_, _, hserialize, -⟩ := ok_of_bind hrest
      let msg : JoinMsg := { template with matchPriv := token }
      exact absurd (@JoinMsg.named_of_serialize register msg _ _ h.emotes_lt hserialize) hnamed

/-! ### The join of a session -/

/-- The join message as the gateway reads and writes it; a session keeps the template that its join was read for. -/
def gatewayJoinCodec (register : GameObjectRegister) (maxArguments : ℕ) : GatewayJoinCodec where
  readGatewayJoin payload := (readGatewayJoin register maxArguments payload).map fun template =>
    template.map JoinMsg.matchPriv
  writeGatewayJoin payload matchPriv :=
    match readGatewayJoin register maxArguments payload with
    | .ok (some template) => writeGatewayJoin register template matchPriv
    | .ok none => .error "gateway_join_not_observed"
    | .error message => .error message

/-- A candidate whose socket opens goes on to wait for its first output, unless the join cannot be written. -/
theorem phase_of_opened {limits : GatewayLimits} {codec : GatewayJoinCodec} {session : GatewaySession limits} {i : ℕ}
    {connection old : UpstreamConnection} {candidate : PreparedUpstream} (hold : session.upstream i = some old)
    (hcandidate : connection.candidate = some candidate) (hepoch : safeUint32 connection.epoch ≠ none) :
    ((session.opened codec i connection).upstream i).map UpstreamConnection.phase = some .awaiting ↔
      ∃ join, codec.writeGatewayJoin (session.initialJoin.getD []) candidate.token = .ok join := by
  have hlt : i < session.upstreams.length := (List.getElem?_eq_some_iff.1 hold).1
  obtain ⟨endpoint, epoch, sentThroughSequence, readyState, sent, phase, _⟩ := connection
  obtain rfl : _ = some candidate := hcandidate
  unfold GatewaySession.opened
  dsimp only at hepoch ⊢
  unfold GatewaySession.candidateOpened
  cases hwrite : codec.writeGatewayJoin (session.initialJoin.getD []) candidate.token with
  | error message =>
    dsimp only
    refine ⟨fun hphase => ?_, fun ⟨_, hjoin⟩ => nomatch hjoin⟩
    unfold GatewaySession.rejectOpening GatewaySession.upstream GatewaySession.setUpstream at hphase
    dsimp only at hphase
    rw [List.getElem?_set_self hlt] at hphase
    cases hphase
  | ok join =>
    refine ⟨fun _ => ⟨join, rfl⟩, fun _ => ?_⟩
    obtain ⟨roomEpoch, hepoch⟩ := Option.ne_none_iff_exists'.1 hepoch
    unfold UpstreamConnection.sendInput encodeGatewayInput
    dsimp only
    rw [hepoch]
    dsimp only
    rw [if_pos rfl]
    unfold GatewaySession.upstream GatewaySession.setUpstream
    dsimp only
    rw [List.getElem?_set_self hlt]
    rfl

/-- A join that the gateway has accepted can be written with a new token, and is then read for the same template, exactly
if each of its ids is that of a type; otherwise a candidate that is prepared for its session fails. -/
theorem join_rewritten_iff_named (hmax : 16 * 1024 ≤ maxArguments) {template : GatewayJoinTemplate}
    (hread : readGatewayJoin register maxArguments payload = .ok (some template)) {token : String} (hne : token ≠ "")
    (hascii : AsciiToken token) (hle : token.length ≤ 16 * 1024) :
    ((∃ resumed, writeGatewayJoin register template token = .ok resumed ∧
        readGatewayJoin register maxArguments resumed = .ok (some { template with matchPriv := token })) ↔
      template.loadout.Named) ∧
    ∀ (limits : GatewayLimits) (session : GatewaySession limits) (i : ℕ) (connection old : UpstreamConnection)
      (candidate : PreparedUpstream), session.initialJoin = some payload → session.upstream i = some old →
      connection.candidate = some candidate → candidate.token = token → safeUint32 connection.epoch ≠ none →
      (((session.opened (gatewayJoinCodec register maxArguments) i connection).upstream i).map
          UpstreamConnection.phase = some .awaiting ↔ template.loadout.Named) := by
  have hlen : PlayerNameMaxLen ≤ maxArguments := Nat.le_trans (by decide) hmax
  have hwellFormed := wellFormed_of_readGatewayJoin hlen hread
  have hwrite (hnamed : template.loadout.Named) :=
    readGatewayJoin_writeGatewayJoin hwellFormed hnamed hmax hne hascii hle
  have hnamed_of_ok {resumed : Payload} (hok : writeGatewayJoin register template token = .ok resumed) :
      template.loadout.Named := by
    by_contra hnot
    obtain ⟨message, herror⟩ := writeGatewayJoin_of_not_named hwellFormed hnot token
    rw [herror] at hok
    cases hok
  refine ⟨⟨fun ⟨_, hok, _⟩ => hnamed_of_ok hok, hwrite⟩, ?_⟩
  intro limits session i connection old candidate hjoin hold hcandidate htoken hepoch
  have hcodec : (gatewayJoinCodec register maxArguments).writeGatewayJoin (session.initialJoin.getD [])
      candidate.token = writeGatewayJoin register template token := by
    unfold gatewayJoinCodec
    dsimp only
    rw [hjoin, Option.getD_some, hread, htoken]
  rw [phase_of_opened hold hcandidate hepoch, hcodec]
  refine ⟨fun ⟨_, hok⟩ => hnamed_of_ok hok, fun hnamed => ?_⟩
  obtain ⟨resumed, hok, -⟩ := hwrite hnamed
  exact ⟨resumed, hok⟩

/-- Six types of the register of the game objects, in an order of their own. -/
def sampleRegister : GameObjectRegister where
  types := ["", "outfitBase", "fists", "heal_basic", "boost_basic", "emote_happyface"]
  empty_first := rfl
  nodup := by decide
  length_le := by decide
  undefined_not_mem := by decide

/-- A join with no name, no loadout and one emote, whose id is made of two bytes. -/
def sampleJoin (low high : UInt8) : Payload :=
  [1, 0xfd, 3, 0, 0, 0x74, 0] ++ List.replicate 16 0 ++ [0, 0, 0, 0, 0, 0x08, low, high]

/-- What the sample is read for. -/
def sampleTemplate (emote : Option String) : GatewayJoinTemplate where
  protocol := 1021
  matchPriv := "t"
  name := ""
  useTouch := false
  isMobile := false
  bot := false
  loadout := { outfit := some "", melee := some "", heal := some "", boost := some "", emotes := [emote] }

theorem read_happyJoin :
    readGatewayJoin sampleRegister 65536 (sampleJoin 0x28 0) = .ok (some (sampleTemplate (some "emote_happyface"))) := by
  decide +kernel

theorem read_unknownJoin :
    readGatewayJoin sampleRegister 65536 (sampleJoin 0xf8 0x1f) = .ok (some (sampleTemplate none)) := by
  decide +kernel

theorem asciiToken_resume : AsciiToken "resume" := by
  have hchars : "resume".toList = ['r', 'e', 's', 'u', 'm', 'e'] := rfl
  unfold AsciiToken
  rw [hchars]
  simp

/-- A join whose emote has a name gets its new token. -/
theorem happyJoin_is_rewritten :
    ∃ resumed, writeGatewayJoin sampleRegister (sampleTemplate (some "emote_happyface")) "resume" = .ok resumed ∧
      readGatewayJoin sampleRegister 65536 resumed =
        .ok (some { sampleTemplate (some "emote_happyface") with matchPriv := "resume" }) :=
  (join_rewritten_iff_named (by decide) read_happyJoin (by decide) asciiToken_resume (by decide)).1.2 (by decide)

/-- A join whose emote is the id 1023 is read, and cannot be written. -/
theorem unknownJoin_is_not_rewritten :
    ∃ template, readGatewayJoin sampleRegister 65536 (sampleJoin 0xf8 0x1f) = .ok (some template) ∧
      ¬∃ resumed, writeGatewayJoin sampleRegister template "resume" = .ok resumed := by
  refine ⟨_, read_unknownJoin, fun ⟨resumed, hok⟩ => ?_⟩
  obtain ⟨message, herror⟩ := writeGatewayJoin_of_not_named
    (wellFormed_of_readGatewayJoin (by decide) read_unknownJoin) (by decide) "resume"
  rw [herror] at hok
  cases hok

end Opsia
