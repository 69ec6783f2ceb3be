import Mathlib.Data.List.Nodup
import Mathlib.Logic.Function.Basic
import Opsia.Json.Number

/-!
# The players of a game

A player object has a position, a health and an inventory.  `capturePlayer` writes them into a snapshot, and
`restorePlayer` gives them to a player that has just been made.  The restored player carries what the snapshot says
(`restorePlayer_carries_iff`), unless the perks it was made with cut its inventory to what the backpack holds.

Weapons, teams and the references between objects are left out: setting them does not change the position, the health
or the inventory of a player.
-/

namespace Opsia

namespace Game

open Json

structure Vec2 where
  x : JsNumber
  y : JsNumber
deriving DecidableEq

/-- What an inventory depends on in the game's definitions: the items a bag holds and how many of each. -/
structure GameDefs where
  bagItems : List String
  nodup_bagItems : bagItems.Nodup
  bagSizes : String → Nat → Nat
  gearLevel : String → Nat
  fragBonus : Nat
  mirvBonus : Nat

/-- The amounts an inventory holds, `0` for every item it does not know. -/
abbrev Items := String → Nat

structure PlayerBody where
  pos : Vec2
  health : JsNumber
  items : Items
  backpack : String
  perks : List String

/-- A player in a snapshot. -/
structure LoosePlayerState where
  sessionId : String
  x : JsNumber
  y : JsNumber
  health : JsNumber
  lastInputSequence : Option Int
  inventory : List (String × Int)
  backpack : Option String
  perks : Option (List String)

variable (defs : GameDefs)

/-! ### The inventory -/

def GameDefs.isValid (item : String) : Bool := decide (item ∈ defs.bagItems)

/-- `set` of the inventory manager, with its assertion. -/
def setItem (items : Items) (item : String) (amount : Int) : Except String Items :=
  if amount < 0 ∨ 2147483647 < amount then .error "Inventory Items must be positive, finite and integers"
  else .ok (Function.update items item amount.toNat)

def getGearLevel (type : String) : Nat := if type = "" then 0 else defs.gearLevel type

def getMaxCapacity (backpack : String) (perks : List String) (item : String) : Nat :=
  defs.bagSizes item (getGearLevel defs backpack) +
    if "flak_jacket" ∈ perks then
      if item = "frag" then defs.fragBonus else if item = "mirv" then defs.mirvBonus else 0
    else 0

/-- What is over the capacity is dropped. -/
def PlayerBody.enforceMaxCapacity (body : PlayerBody) (item : String) : PlayerBody :=
  let max := getMaxCapacity defs body.backpack body.perks item
  if max < body.items item then { body with items := Function.update body.items item max } else body

/-- Gives an amount of an item, as far as there is space.  The capacities are small numbers, so the assertion of `set`
holds here. -/
def PlayerBody.give (body : PlayerBody) (item : String) (amount : Nat) : PlayerBody :=
  let max := getMaxCapacity defs body.backpack body.perks item
  let current := body.items item
  let spaceLeft := max - current
  if spaceLeft = 0 then body
  else if spaceLeft < amount then { body with items := Function.update body.items item max }
  else { body with items := Function.update body.items item (current + amount) }

def PlayerBody.addPerk (body : PlayerBody) (type : String) : PlayerBody := { body with perks := body.perks ++ [type] }

def PlayerBody.removePerk (body : PlayerBody) (type : String) : PlayerBody :=
  if type ∈ body.perks then
    let removed : PlayerBody := { body with perks := body.perks.erase type }
    if type = "flak_jacket" then (removed.enforceMaxCapacity defs "frag").enforceMaxCapacity defs "mirv" else removed
  else body

/-- A gun a bot may start with, with the clip it has for that bot.  No gun fires grenades. -/
structure StarterGun where
  ammo : String
  maxClip : Nat
  ammo_ne_frag : ammo ≠ "frag"
  ammo_ne_mirv : ammo ≠ "mirv"

/-- What the starter weapon adds to the inventory of a bot. -/
def PlayerBody.equipOpsiaBotStarterWeapon (body : PlayerBody) (starterWeapon : Option StarterGun) : PlayerBody :=
  match starterWeapon with
  | none => body
  | some gun =>
    if defs.isValid gun.ammo then
      body.give defs gun.ammo (min (gun.maxClip * 3) (getMaxCapacity defs body.backpack body.perks gun.ammo))
    else body

/-! ### Capture and restore -/

def capturePlayer (sessionId : String) (sequence : Nat) (body : PlayerBody) : LoosePlayerState where
  sessionId := sessionId
  x := body.pos.x
  y := body.pos.y
  health := body.health
  lastInputSequence := some sequence
  inventory := defs.bagItems.map fun item => (item, (body.items item : Int))
  backpack := some body.backpack
  perks := some body.perks

/-- The player is one that a game has captured: it lists every item of a bag once, with an amount that an inventory
takes. -/
structure LoosePlayerState.Captured (state : LoosePlayerState) : Prop where
  nodup : (state.inventory.map Prod.fst).Nodup
  keys : ∀ item, item ∈ state.inventory.map Prod.fst ↔ item ∈ defs.bagItems
  amounts : ∀ entry ∈ state.inventory, 0 ≤ entry.2 ∧ entry.2 ≤ 2147483647
  sequence : ∃ n : Nat, state.lastInputSequence = some (n : Int) ∧ n ≤ 9007199254740991
  backpack : ∃ backpack, state.backpack = some backpack
  perks : ∃ perks, state.perks = some perks

/-- The amount of an item in the snapshot. -/
def LoosePlayerState.amount (state : LoosePlayerState) (item : String) : Nat :=
  ((state.inventory.lookup item).getD 0).toNat

/-- The last input sequence that a restored game starts from. -/
def LoosePlayerState.sequence (state : LoosePlayerState) : Nat :=
  let sequence := state.lastInputSequence.getD 0
  if 0 ≤ sequence ∧ sequence ≤ 9007199254740991 then sequence.toNat else 0

def restoreInventory (items : Items) (inventory : List (String × Int)) : Except String Items :=
  inventory.foldlM
    (fun items entry => if defs.isValid entry.1 && decide (0 ≤ entry.2) then setItem items entry.1 entry.2 else .ok items)
    items

/-- `restorePlayer`, from the position of the player to its perks. -/
def restorePlayer (state : LoosePlayerState) (body : PlayerBody) : Except String PlayerBody :=
  (restoreInventory defs body.items state.inventory).map fun items =>
    let restored : PlayerBody := {
      pos := ⟨state.x, state.y⟩
      health := state.health
      items := items
      backpack := state.backpack.getD body.backpack
      perks := body.perks }
    match state.perks with
    | none => restored
    | some perks => perks.foldl PlayerBody.addPerk (body.perks.foldl (PlayerBody.removePerk defs) restored)

/-- The player object carries the position, the health and the inventory of the snapshot. -/
structure PlayerBody.Carries (body : PlayerBody) (state : LoosePlayerState) : Prop where
  pos : body.pos = ⟨state.x, state.y⟩
  health : body.health = state.health
  items : ∀ item ∈ defs.bagItems, body.items item = state.amount item

instance (body : PlayerBody) (state : LoosePlayerState) : Decidable (body.Carries defs state) :=
  decidable_of_iff (body.pos = ⟨state.x, state.y⟩ ∧ body.health = state.health ∧
      ∀ item ∈ defs.bagItems, body.items item = state.amount item)
    ⟨fun ⟨hp, hh, hi⟩ => ⟨hp, hh, hi⟩, fun h => ⟨h.pos, h.health, h.items⟩⟩

/-- The inventory of the snapshot fits the backpack without the bonus of a flak jacket. -/
def LoosePlayerState.FitsBackpack (state : LoosePlayerState) : Prop :=
  ∀ item ∈ ["frag", "mirv"], item ∈ defs.bagItems →
    state.amount item ≤ defs.bagSizes item (getGearLevel defs (state.backpack.getD ""))

instance (state : LoosePlayerState) : Decidable (state.FitsBackpack defs) := by
  unfold LoosePlayerState.FitsBackpack
  infer_instance

/-- The starter weapon adds nothing to the inventory of the snapshot. -/
def LoosePlayerState.StarterAddsNothing (state : LoosePlayerState) (starterWeapon : Option StarterGun) : Prop :=
  ∀ gun ∈ starterWeapon, gun.ammo ∈ defs.bagItems →
    let max := getMaxCapacity defs (state.backpack.getD "") (state.perks.getD []) gun.ammo
    gun.maxClip = 0 ∨ max ≤ state.amount gun.ammo

instance (state : LoosePlayerState) (starterWeapon : Option StarterGun) :
    Decidable (state.StarterAddsNothing defs starterWeapon) := by
  unfold LoosePlayerState.StarterAddsNothing
  infer_instance

/-! ### What a restored player carries -/

variable {defs}

private theorem restoreInventory_spec {inventory : List (String × Int)} (hnodup : (inventory.map Prod.fst).Nodup)
    (hvalid : ∀ entry ∈ inventory, entry.1 ∈ defs.bagItems ∧ 0 ≤ entry.2 ∧ entry.2 ≤ 2147483647) (items : Items) :
    ∃ items', restoreInventory defs items inventory = .ok items' ∧
      ∀ item, items' item = ((inventory.lookup item).map Int.toNat).getD (items item) := by
  induction inventory generalizing items with
  | nil => exact ⟨items, rfl, fun item => rfl⟩
  | cons entry inventory ih =>
    obtain ⟨key, amount⟩ := entry
    obtain ⟨hkey, hnodup⟩ := List.nodup_cons.1 hnodup
    obtain ⟨hmem, hnonneg, hle⟩ := hvalid (key, amount) (List.mem_cons_self ..)
    obtain ⟨items', hrest, hitems⟩ := ih hnodup (fun e he => hvalid e (List.mem_cons_of_mem _ he))
      (Function.update items key amount.toNat)
    have hset : setItem items key amount = .ok (Function.update items key amount.toNat) := by
      rw [setItem, if_neg (by simp only at hnonneg hle; omega)]
    have hguard : (defs.isValid key && decide (0 ≤ amount)) = true := by
      simp only at hmem hnonneg
      simp [GameDefs.isValid, hmem, hnonneg]
    refine ⟨items', ?_, fun item => ?_⟩
    · rw [restoreInventory, List.foldlM_cons]
      simp only [hguard, if_true, hset]
      exact hrest
    · rw [hitems item, List.lookup_cons]
      by_cases hitem : item = key
      · subst hitem
        have hnone : inventory.lookup item = none := by
          rw [List.lookup_eq_none_iff]
          intro e he
          have hne : e.1 ≠ item := fun h => hkey (List.mem_map.2 ⟨e, he, h⟩)
          simpa using Ne.symm hne
        simp [hnone]
      · have hbeq : (item == key) = false := by simpa using hitem
        rw [hbeq, Function.update_of_ne hitem]

private theorem restoreInventory_captured {state : LoosePlayerState} (h : state.Captured defs) (items : Items) :
    ∃ items', restoreInventory defs items state.inventory = .ok items' ∧
      ∀ item ∈ defs.bagItems, items' item = state.amount item := by
  have hvalid : ∀ entry ∈ state.inventory, entry.1 ∈ defs.bagItems ∧ 0 ≤ entry.2 ∧ entry.2 ≤ 2147483647 := by
    intro entry hentry
    exact ⟨(h.keys entry.1).1 (List.mem_map.2 ⟨entry, hentry, rfl⟩), h.amounts entry hentry⟩
  obtain ⟨items', hok, hitems⟩ := restoreInventory_spec h.nodup hvalid items
  refine ⟨items', hok, fun item hitem => ?_⟩
  obtain ⟨entry, hentry, rfl⟩ := List.mem_map.1 ((h.keys item).2 hitem)
  have hsome : (state.inventory.lookup entry.1).isSome := by
    rw [List.lookup_isSome_iff]
    exact ⟨entry, hentry, by simp⟩
  obtain ⟨amount, hamount⟩ := Option.isSome_iff_exists.1 hsome
  rw [hitems, LoosePlayerState.amount, hamount]
  rfl

theorem getMaxCapacity_of_not_mem {backpack : String} {perks : List String} (h : "flak_jacket" ∉ perks)
    (item : String) : getMaxCapacity defs backpack perks item = defs.bagSizes item (getGearLevel defs backpack) := by
  rw [getMaxCapacity, if_neg h, Nat.add_zero]

theorem le_getMaxCapacity (backpack : String) (perks : List String) (item : String) :
    defs.bagSizes item (getGearLevel defs backpack) ≤ getMaxCapacity defs backpack perks item := Nat.le_add_right ..

namespace PlayerBody

/-- The body with one amount changed, or as it was. -/
private theorem enforceMaxCapacity_eq (body : PlayerBody) (item : String) :
    ∃ items, body.enforceMaxCapacity defs item = { body with items := items } := by
  by_cases hover : getMaxCapacity defs body.backpack body.perks item < body.items item
  · exact ⟨_, if_pos hover⟩
  · exact ⟨body.items, if_neg hover⟩

@[simp] theorem enforceMaxCapacity_pos (body : PlayerBody) (item : String) :
    (body.enforceMaxCapacity defs item).pos = body.pos := by
  obtain ⟨items, h⟩ := enforceMaxCapacity_eq body item
  rw [h]

@[simp] theorem enforceMaxCapacity_health (body : PlayerBody) (item : String) :
    (body.enforceMaxCapacity defs item).health = body.health := by
  obtain ⟨items, h⟩ := enforceMaxCapacity_eq body item
  rw [h]

@[simp] theorem enforceMaxCapacity_backpack (body : PlayerBody) (item : String) :
    (body.enforceMaxCapacity defs item).backpack = body.backpack := by
  obtain ⟨items, h⟩ := enforceMaxCapacity_eq body item
  rw [h]

@[simp] theorem enforceMaxCapacity_perks (body : PlayerBody) (item : String) :
    (body.enforceMaxCapacity defs item).perks = body.perks := by
  obtain ⟨items, h⟩ := enforceMaxCapacity_eq body item
  rw [h]

theorem enforceMaxCapacity_items (body : PlayerBody) (item other : String) :
    (body.enforceMaxCapacity defs item).items other =
      if other = item then min (body.items other) (getMaxCapacity defs body.backpack body.perks other)
      else body.items other := by
  unfold enforceMaxCapacity
  by_cases hover : getMaxCapacity defs body.backpack body.perks item < body.items item
  · rw [if_pos hover]
    by_cases hother : other = item
    · subst hother
      rw [if_pos rfl, Nat.min_eq_right (by omega)]
      exact Function.update_self ..
    · rw [if_neg hother]
      exact Function.update_of_ne hother ..
  · rw [if_neg hover]
    by_cases hother : other = item
    · subst hother
      rw [if_pos rfl, Nat.min_eq_left (by omega)]
    · rw [if_neg hother]

/-- Removing a perk cuts grenades to what the backpack holds, when the perk is a flak jacket, and changes nothing else
of the inventory. -/
theorem removePerk_items (body : PlayerBody) (type item : String) :
    (body.removePerk defs type).items item =
      if type = "flak_jacket" ∧ type ∈ body.perks ∧ (item = "frag" ∨ item = "mirv") then
        min (body.items item) (getMaxCapacity defs body.backpack (body.perks.erase type) item)
      else body.items item := by
  unfold removePerk
  by_cases hmem : type ∈ body.perks
  · by_cases hflak : type = "flak_jacket"
    · rw [if_pos hmem, if_pos hflak, enforceMaxCapacity_items, enforceMaxCapacity_items]
      by_cases hfrag : item = "frag"
      · subst hfrag
        simp [hflak, hflak ▸ hmem]
      · by_cases hmirv : item = "mirv"
        · subst hmirv
          simp [hflak, hflak ▸ hmem]
        · simp [hfrag, hmirv]
    · rw [if_pos hmem, if_neg hflak, if_neg (fun h => hflak h.1)]
  · rw [if_neg hmem, if_neg (fun h => hmem h.2.1)]

theorem removePerk_frame (body : PlayerBody) (type : String) :
    (body.removePerk defs type).pos = body.pos ∧ (body.removePerk defs type).health = body.health ∧
      (body.removePerk defs type).backpack = body.backpack ∧
      (body.removePerk defs type).perks = body.perks.erase type := by
  unfold removePerk
  by_cases hmem : type ∈ body.perks
  · by_cases hflak : type = "flak_jacket"
    · rw [if_pos hmem, if_pos hflak]
      simp
    · rw [if_pos hmem, if_neg hflak]
      exact ⟨rfl, rfl, rfl, rfl⟩
  · rw [if_neg hmem]
    exact ⟨rfl, rfl, rfl, (List.erase_of_not_mem hmem).symm⟩

theorem removePerks_frame (body : PlayerBody) (types : List String) :
    (types.foldl (removePerk defs) body).pos = body.pos ∧ (types.foldl (removePerk defs) body).health = body.health ∧
      (types.foldl (removePerk defs) body).backpack = body.backpack := by
  induction types generalizing body with
  | nil => exact ⟨rfl, rfl, rfl⟩
  | cons type types ih =>
    obtain ⟨hpos, hhealth, hbackpack, -⟩ := removePerk_frame body type
    have hrest := ih (body.removePerk defs type)
    rw [hpos, hhealth, hbackpack] at hrest
    exact hrest

/-- All perks are gone when each of them has been removed. -/
theorem removePerks_perks (body : PlayerBody) (types : List String) (h : body.perks = types) :
    (types.foldl (removePerk defs) body).perks = [] := by
  induction types generalizing body with
  | nil => exact h
  | cons type types ih =>
    refine ih (body.removePerk defs type) ?_
    rw [(removePerk_frame body type).2.2.2, h, List.erase_cons_head]

private theorem removePerks_le (body : PlayerBody) (types : List String) (item : String) :
    (types.foldl (removePerk defs) body).items item ≤ body.items item := by
  induction types generalizing body with
  | nil => exact Nat.le_refl _
  | cons type types ih =>
    have hone : (body.removePerk defs type).items item ≤ body.items item := by
      rw [removePerk_items]
      split
      · exact Nat.min_le_left ..
      · exact Nat.le_refl _
    exact Nat.le_trans (ih (body.removePerk defs type)) hone

/-- What fits the backpack without a flak jacket stays. -/
private theorem removePerks_fitting (body : PlayerBody) (types : List String) {item : String}
    (h : item = "frag" ∨ item = "mirv" → body.items item ≤ defs.bagSizes item (getGearLevel defs body.backpack)) :
    (types.foldl (removePerk defs) body).items item = body.items item := by
  induction types generalizing body with
  | nil => rfl
  | cons type types ih =>
    obtain ⟨-, -, hbackpack, -⟩ := removePerk_frame body type
    have hone : (body.removePerk defs type).items item = body.items item := by
      rw [removePerk_items]
      by_cases hcut : type = "flak_jacket" ∧ type ∈ body.perks ∧ (item = "frag" ∨ item = "mirv")
      · rw [if_pos hcut]
        exact Nat.min_eq_left (Nat.le_trans (h hcut.2.2) (le_getMaxCapacity ..))
      · rw [if_neg hcut]
    refine (ih (body.removePerk defs type) ?_).trans hone
    rw [hone, hbackpack]
    exact h

/-- A player without a flak jacket keeps its inventory. -/
private theorem removePerks_plain (body : PlayerBody) (types : List String) (h : "flak_jacket" ∉ body.perks)
    (item : String) : (types.foldl (removePerk defs) body).items item = body.items item := by
  induction types generalizing body with
  | nil => rfl
  | cons type types ih =>
    obtain ⟨-, -, -, hperks⟩ := removePerk_frame body type
    have hone : (body.removePerk defs type).items item = body.items item := by
      rw [removePerk_items, if_neg]
      rintro ⟨rfl, hmem, -⟩
      exact h hmem
    refine (ih (body.removePerk defs type) ?_).trans hone
    rw [hperks]
    exact fun hmem => h (List.mem_of_mem_erase hmem)

/-- Once all flak jackets are gone, grenades fit the backpack. -/
private theorem removePerks_cut (body : PlayerBody) (types : List String) (hmem : "flak_jacket" ∈ types)
    (hcount : types.count "flak_jacket" = body.perks.count "flak_jacket") {item : String}
    (hitem : item = "frag" ∨ item = "mirv") :
    (types.foldl (removePerk defs) body).items item ≤ defs.bagSizes item (getGearLevel defs body.backpack) := by
  induction types generalizing body with
  | nil => cases hmem
  | cons type types ih =>
    obtain ⟨-, -, hbackpack, hperks⟩ := removePerk_frame body type
    have hcount' : types.count "flak_jacket" = (body.removePerk defs type).perks.count "flak_jacket" := by
      rw [hperks, List.count_erase, ← hcount, List.count_cons]
      by_cases htype : type = "flak_jacket"
      · simp [htype]
      · simp [htype]
    by_cases hrest : "flak_jacket" ∈ types
    · have := ih (body.removePerk defs type) hrest hcount'
      rwa [hbackpack] at this
    · -- the last flak jacket goes here
      have htype : type = "flak_jacket" := by
        rcases List.mem_cons.1 hmem with h | h
        · exact h.symm
        · exact absurd h hrest
      subst htype
      have hgone : "flak_jacket" ∉ body.perks.erase "flak_jacket" := by
        rw [← hperks, ← List.count_eq_zero, ← hcount', List.count_eq_zero]
        exact hrest
      have hhave : "flak_jacket" ∈ body.perks := by
        rw [← List.count_pos_iff, ← hcount]
        exact List.count_pos_iff.2 hmem
      refine Nat.le_trans (removePerks_le _ types item) ?_
      rw [removePerk_items, if_pos ⟨rfl, hhave, hitem⟩, getMaxCapacity_of_not_mem hgone]
      exact Nat.min_le_right ..

theorem addPerks_frame (body : PlayerBody) (types : List String) :
    types.foldl addPerk body = { body with perks := body.perks ++ types } := by
  induction types generalizing body with
  | nil => simp
  | cons type types ih =>
    rw [List.foldl_cons, ih]
    simp [addPerk]

theorem give_frame (body : PlayerBody) (item : String) (amount : Nat) :
    (body.give defs item amount).pos = body.pos ∧ (body.give defs item amount).health = body.health := by
  simp only [give]
  split
  · exact ⟨rfl, rfl⟩
  · split <;> exact ⟨rfl, rfl⟩

/-- What is given comes on top, up to the capacity. -/
theorem give_items (body : PlayerBody) (item other : String) (amount : Nat) :
    (body.give defs item amount).items other =
      if other = item then
        max (body.items other) (min (getMaxCapacity defs body.backpack body.perks other) (body.items other + amount))
      else body.items other := by
  simp only [give]
  by_cases hother : other = item
  · subst hother
    rw [if_pos rfl]
    split
    · omega
    · split
      · refine (Function.update_self ..).trans ?_
        omega
      · refine (Function.update_self ..).trans ?_
        omega
  · rw [if_neg hother]
    split
    · rfl
    · split <;> exact Function.update_of_ne hother ..

theorem equipOpsiaBotStarterWeapon_frame (body : PlayerBody) (starterWeapon : Option StarterGun) :
    (body.equipOpsiaBotStarterWeapon defs starterWeapon).pos = body.pos ∧
      (body.equipOpsiaBotStarterWeapon defs starterWeapon).health = body.health := by
  unfold equipOpsiaBotStarterWeapon
  cases starterWeapon with
  | none => exact ⟨rfl, rfl⟩
  | some gun =>
    simp only
    split
    · exact give_frame ..
    · exact ⟨rfl, rfl⟩

end PlayerBody

/-- The player that `restorePlayer` gives, and what it keeps of the inventory of the snapshot. -/
private theorem restorePlayer_spec {state : LoosePlayerState} (h : state.Captured defs) (body : PlayerBody) :
    ∃ restored, restorePlayer defs state body = .ok restored ∧ restored.pos = ⟨state.x, state.y⟩ ∧
      restored.health = state.health ∧ restored.backpack = state.backpack.getD "" ∧
      restored.perks = state.perks.getD [] ∧
      ∀ item ∈ defs.bagItems, (item = "frag" ∨ item = "mirv") ∧ "flak_jacket" ∈ body.perks ∧
          defs.bagSizes item (getGearLevel defs (state.backpack.getD "")) < state.amount item ∧
          restored.items item < state.amount item ∨
        (item = "frag" ∨ item = "mirv" → "flak_jacket" ∈ body.perks →
          state.amount item ≤ defs.bagSizes item (getGearLevel defs (state.backpack.getD ""))) ∧
          restored.items item = state.amount item := by
  obtain ⟨items, hok, hitems⟩ := restoreInventory_captured h body.items
  obtain ⟨backpack, hbackpack⟩ := h.backpack
  obtain ⟨perks, hperks⟩ := h.perks
  let start : PlayerBody := ⟨⟨state.x, state.y⟩, state.health, items, backpack, body.perks⟩
  let bare : PlayerBody := body.perks.foldl (PlayerBody.removePerk defs) start
  obtain ⟨hpos, hhealth, hpack⟩ : bare.pos = ⟨state.x, state.y⟩ ∧ bare.health = state.health ∧ bare.backpack = backpack :=
    PlayerBody.removePerks_frame start body.perks
  have hnone : bare.perks = [] := PlayerBody.removePerks_perks start body.perks rfl
  refine ⟨{ bare with perks := bare.perks ++ perks }, ?_, hpos, hhealth, ?_, ?_, fun item hitem => ?_⟩
  · rw [restorePlayer, hok]
    simp only [Except.map, hbackpack, hperks, Option.getD_some]
    rw [PlayerBody.addPerks_frame]
  · rw [hbackpack]
    exact hpack
  · rw [hperks, hnone]
    rfl
  · have hstart : start.items item = state.amount item := hitems item hitem
    rw [hbackpack, Option.getD_some]
    by_cases hgrenade : item = "frag" ∨ item = "mirv"
    · by_cases hflak : "flak_jacket" ∈ body.perks
      · by_cases hfits : state.amount item ≤ defs.bagSizes item (getGearLevel defs backpack)
        · right
          refine ⟨fun _ _ => hfits, ?_⟩
          rw [← hstart]
          exact PlayerBody.removePerks_fitting start body.perks fun _ => by rw [hstart]; exact hfits
        · left
          have hcut : bare.items item ≤ defs.bagSizes item (getGearLevel defs backpack) :=
            PlayerBody.removePerks_cut start body.perks hflak rfl hgrenade
          exact ⟨hgrenade, hflak, by omega, by show bare.items item < _; omega⟩
      · right
        refine ⟨fun _ h => absurd h hflak, ?_⟩
        rw [← hstart]
        exact PlayerBody.removePerks_plain start body.perks hflak item
    · right
      refine ⟨fun h => absurd h hgrenade, ?_⟩
      rw [← hstart]
      exact PlayerBody.removePerks_fitting start body.perks fun h => absurd h hgrenade

/-- A restored player carries what the snapshot says just when it was not made with a flak jacket, or its grenades fit
the backpack without one. -/
theorem restorePlayer_carries_iff {state : LoosePlayerState} (h : state.Captured defs) (body : PlayerBody) :
    ∃ restored, restorePlayer defs state body = .ok restored ∧
      (restored.Carries defs state ↔ ("flak_jacket" ∈ body.perks → state.FitsBackpack defs)) := by
  obtain ⟨restored, hok, hpos, hhealth, -, -, hitems⟩ := restorePlayer_spec h body
  refine ⟨restored, hok, fun hcarries hflak item hgrenade hitem => ?_, fun hfits => ⟨hpos, hhealth, fun item hitem => ?_⟩⟩
  · have hgrenade : item = "frag" ∨ item = "mirv" := by simpa using hgrenade
    rcases hitems item hitem with ⟨-, -, -, hlt⟩ | ⟨hle, -⟩
    · exact absurd (hcarries.items item hitem) (by omega)
    · exact hle hgrenade hflak
  · rcases hitems item hitem with ⟨hgrenade, hflak, hover, -⟩ | ⟨-, heq⟩
    · have := hfits hflak item (by simpa using hgrenade) hitem
      omega
    · exact heq

/-- What the starter weapon of a bot leaves of that. -/
theorem restorePlayer_starter_carries_iff {state : LoosePlayerState} (h : state.Captured defs) (body : PlayerBody)
    (starterWeapon : Option StarterGun) :
    ∃ restored, restorePlayer defs state body = .ok restored ∧
      ((restored.equipOpsiaBotStarterWeapon defs starterWeapon).Carries defs state ↔
        ("flak_jacket" ∈ body.perks → state.FitsBackpack defs) ∧ state.StarterAddsNothing defs starterWeapon) := by
  obtain ⟨restored, hok, hcarries⟩ := restorePlayer_carries_iff h body
  obtain ⟨restored', hok', hpos, hhealth, hbackpack, hperks, hitems⟩ := restorePlayer_spec h body
  obtain rfl : restored' = restored := by
    rw [hok] at hok'
    cases hok'
    rfl
  refine ⟨restored', hok, ?_⟩
  rw [← hcarries]
  have hplain : (∀ gun ∈ starterWeapon, gun.ammo ∉ defs.bagItems) →
      restored'.equipOpsiaBotStarterWeapon defs starterWeapon = restored' := by
    intro hnone
    cases starterWeapon with
    | none => rfl
    | some gun =>
      have : defs.isValid gun.ammo = false := decide_eq_false (hnone gun rfl)
      simp [PlayerBody.equipOpsiaBotStarterWeapon, this]
  by_cases hvalid : ∀ gun ∈ starterWeapon, gun.ammo ∉ defs.bagItems
  · rw [hplain hvalid]
    exact ⟨fun h => ⟨h, fun gun hgun hmem => absurd hmem (hvalid gun hgun)⟩, fun h => h.1⟩
  · push Not at hvalid
    obtain ⟨gun, hgun, hmem⟩ := hvalid
    obtain rfl : starterWeapon = some gun := hgun
    have hequip : restored'.equipOpsiaBotStarterWeapon defs (some gun) =
        restored'.give defs gun.ammo (min (gun.maxClip * 3)
          (getMaxCapacity defs restored'.backpack restored'.perks gun.ammo)) := by
      have : defs.isValid gun.ammo = true := decide_eq_true hmem
      simp [PlayerBody.equipOpsiaBotStarterWeapon, this]
    -- the ammunition is not among what the flak jacket has cut
    have hammo : restored'.items gun.ammo = state.amount gun.ammo := by
      rcases hitems gun.ammo hmem with ⟨hgrenade, -⟩ | ⟨-, heq⟩
      · exact absurd hgrenade (by rintro (h | h); exacts [gun.ammo_ne_frag h, gun.ammo_ne_mirv h])
      · exact heq
    have hnothing : state.StarterAddsNothing defs (some gun) ↔
        gun.maxClip = 0 ∨ getMaxCapacity defs restored'.backpack restored'.perks gun.ammo ≤ state.amount gun.ammo := by
      rw [hbackpack, hperks]
      constructor
      · intro h
        exact h gun rfl hmem
      · rintro h other hother -
        cases hother
        exact h
    rw [hnothing, hequip]
    obtain ⟨hpos', hhealth'⟩ := @PlayerBody.give_frame defs restored' gun.ammo (min (gun.maxClip * 3)
      (getMaxCapacity defs restored'.backpack restored'.perks gun.ammo))
    constructor
    · intro h
      refine ⟨⟨hpos, hhealth, fun item hitem => ?_⟩, ?_⟩
      · by_cases heq : item = gun.ammo
        · rw [heq]
          exact hammo
        · have := h.items item hitem
          rwa [PlayerBody.give_items, if_neg heq] at this
      · have := h.items gun.ammo hmem
        rw [PlayerBody.give_items, if_pos rfl, hammo] at this
        omega
    · rintro ⟨hcarried, hadds⟩
      refine ⟨hpos'.trans hpos, hhealth'.trans hhealth, fun item hitem => ?_⟩
      rw [PlayerBody.give_items]
      by_cases heq : item = gun.ammo
      · subst heq
        rw [if_pos rfl, hammo]
        omega
      · rw [if_neg heq]
        exact hcarried.items item hitem

theorem capturePlayer_captured (sessionId : String) {sequence : Nat} (hsequence : sequence ≤ 9007199254740991)
    {body : PlayerBody} (hitems : ∀ item, body.items item ≤ 2147483647) :
    (capturePlayer defs sessionId sequence body).Captured defs := by
  have hkeys : (capturePlayer defs sessionId sequence body).inventory.map Prod.fst = defs.bagItems := by
    simp [capturePlayer, Function.comp_def]
  refine ⟨hkeys ▸ defs.nodup_bagItems, fun item => by rw [hkeys], fun entry hentry => ?_, ⟨sequence, rfl, hsequence⟩,
    ⟨body.backpack, rfl⟩, ⟨body.perks, rfl⟩⟩
  obtain ⟨item, -, rfl⟩ := List.mem_map.1 hentry
  have := hitems item
  exact ⟨by simp, by simp only; omega⟩

private theorem lookup_map_self {f : String → Int} {keys : List String} {item : String} (h : item ∈ keys) :
    (keys.map fun key => (key, f key)).lookup item = some (f item) := by
  induction keys with
  | nil => cases h
  | cons key keys ih =>
    rw [List.map_cons, List.lookup_cons]
    by_cases hitem : item = key
    · subst hitem
      simp
    · have hbeq : (item == key) = false := by simpa using hitem
      rw [hbeq]
      exact ih ((List.mem_cons.1 h).resolve_left hitem)

/-- A player carries what is captured of it. -/
theorem carries_capturePlayer (sessionId : String) (sequence : Nat) (body : PlayerBody) :
    body.Carries defs (capturePlayer defs sessionId sequence body) := by
  refine ⟨rfl, rfl, fun item hitem => ?_⟩
  simp only [LoosePlayerState.amount, capturePlayer]
  rw [lookup_map_self hitem]
  rfl

end Game

end Opsia
