import Mathlib.Algebra.Order.Ring.Rat
import Opsia.Game.PlayerBarn
import Opsia.Machine

/-!
# The living, the dead and the kill leader

In an infinite room the living players of the barn, of each group and of each team should be those that are not dead,
every dead player should have its countdown, and the kill leader should be the one player that is flagged as it.  Each
update of a list is one lemma about `Tracks`; `Kept` collects what they keep.

Four operations break it: the countdown brings a player back without its group, a join restores a player that its
snapshot has as dead or as kill leader, and a removal leaves the kill leader where it was.
-/

namespace Opsia

open Machine

namespace PlayerBarn

variable {rules : BarnRules}

/-! ### Lists of players -/

/-- The lists are the members and those of them that are not dead. -/
structure Tracks (players livingPlayers : List Nat) (member : Nat → Prop) (dead : Nat → Bool) : Prop where
  nodup : players.Nodup
  mem : ∀ p, p ∈ players ↔ member p
  livingNodup : livingPlayers.Nodup
  living : ∀ p, p ∈ livingPlayers ↔ member p ∧ dead p = false

section Lists

variable {players livingPlayers : List Nat} {member member' : Nat → Prop} {dead dead' : Nat → Bool} {p : Nat}

theorem Tracks.congr (h : Tracks players livingPlayers member dead) (hmember : ∀ q, member q ↔ member' q)
    (hdead : ∀ q, member q → dead q = dead' q) : Tracks players livingPlayers member' dead' := by
  refine ⟨h.nodup, fun q => (h.mem q).trans (hmember q), h.livingNodup, fun q => ?_⟩
  rw [h.living q, ← hmember q]
  constructor
  · exact fun hq => ⟨hq.1, hdead q hq.1 ▸ hq.2⟩
  · exact fun hq => ⟨hq.1, (hdead q hq.1).trans hq.2⟩

/-- A check puts the living players right. -/
theorem tracks_filter (hnodup : players.Nodup) (hmem : ∀ q, q ∈ players ↔ member q) :
    Tracks players (players.filter fun q => !dead q) member dead := by
  refine ⟨hnodup, hmem, hnodup.filter _, fun q => ?_⟩
  simp only [List.mem_filter, hmem q, Bool.not_eq_true']

/-- A new member that is alive comes onto both lists. -/
theorem Tracks.add (h : Tracks players livingPlayers member dead) (hp : ¬member p)
    (hmember : ∀ q, member' q ↔ member q ∨ q = p) (hdead : ∀ q, member q → dead' q = dead q) (hnew : dead' p = false) :
    Tracks (players ++ [p]) (livingPlayers ++ [p]) member' dead' := by
  have hplayers : p ∉ players := fun hmem => hp ((h.mem p).1 hmem)
  have hliving : p ∉ livingPlayers := fun hmem => hp ((h.living p).1 hmem).1
  refine ⟨?_, fun q => ?_, ?_, fun q => ?_⟩
  · exact h.nodup.append (List.nodup_singleton p) (by simpa using hplayers)
  · rw [List.mem_append, List.mem_singleton, h.mem q, hmember q]
  · exact h.livingNodup.append (List.nodup_singleton p) (by simpa using hliving)
  · rw [List.mem_append, List.mem_singleton, h.living q, hmember q]
    constructor
    · rintro (hq | rfl)
      · exact ⟨Or.inl hq.1, (hdead q hq.1).trans hq.2⟩
      · exact ⟨Or.inr rfl, hnew⟩
    · rintro ⟨hq | rfl, hlive⟩
      · exact Or.inl ⟨hq, (hdead q hq).symm.trans hlive⟩
      · exact Or.inr rfl

/-- A member that leaves is taken off both lists. -/
theorem Tracks.remove (h : Tracks players livingPlayers member dead) (hmember : ∀ q, member' q ↔ member q ∧ q ≠ p)
    (hdead : ∀ q, member q → dead' q = dead q) :
    Tracks (players.erase p) (livingPlayers.erase p) member' dead' := by
  refine ⟨h.nodup.erase p, fun q => ?_, h.livingNodup.erase p, fun q => ?_⟩
  · rw [h.nodup.mem_erase_iff, h.mem q, hmember q, and_comm]
  · rw [h.livingNodup.mem_erase_iff, h.living q, hmember q]
    constructor
    · exact fun hq => ⟨⟨hq.2.1, hq.1⟩, (hdead q hq.2.1).trans hq.2.2⟩
    · exact fun hq => ⟨hq.1.2, hq.1.1, (hdead q hq.1.1).symm.trans hq.2⟩

/-- A member that dies is taken off the living. -/
theorem Tracks.die (h : Tracks players livingPlayers member dead) (hp : dead' p = true)
    (hdead : ∀ q, q ≠ p → dead' q = dead q) : Tracks players (livingPlayers.erase p) member dead' := by
  refine ⟨h.nodup, h.mem, h.livingNodup.erase p, fun q => ?_⟩
  rw [h.livingNodup.mem_erase_iff, h.living q]
  constructor
  · exact fun hq => ⟨hq.2.1, (hdead q hq.1).trans hq.2.2⟩
  · intro hq
    have hne : q ≠ p := by
      rintro rfl
      exact absurd hq.2 (by simp [hp])
    exact ⟨hne, hq.1, (hdead q hne).symm.trans hq.2⟩

/-- A member that comes back is put on the living, unless it is there. -/
theorem Tracks.comeBack (h : Tracks players livingPlayers member dead) (hmember : member p) (hp : dead' p = false)
    (hdead : ∀ q, q ≠ p → dead' q = dead q) :
    Tracks players (if p ∈ livingPlayers then livingPlayers else livingPlayers ++ [p]) member dead' := by
  have hmem : ∀ q, (q ∈ livingPlayers ∨ q = p) ↔ member q ∧ dead' q = false := by
    intro q
    by_cases hq : q = p
    · subst hq
      exact ⟨fun _ => ⟨hmember, hp⟩, fun _ => Or.inr rfl⟩
    · rw [h.living q, hdead q hq]
      exact ⟨fun h => h.resolve_right hq, Or.inl⟩
  by_cases hliving : p ∈ livingPlayers
  · rw [if_pos hliving]
    refine ⟨h.nodup, h.mem, h.livingNodup, fun q => ?_⟩
    rw [← hmem q]
    exact ⟨Or.inl, fun hq => hq.elim id fun hqp => hqp ▸ hliving⟩
  · rw [if_neg hliving]
    refine ⟨h.nodup, h.mem, h.livingNodup.append (List.nodup_singleton p) (by simpa using hliving), fun q => ?_⟩
    rw [List.mem_append, List.mem_singleton, hmem q]

theorem tracks_nil (hnone : ∀ q, ¬member q) : Tracks [] [] member dead := by
  refine ⟨List.nodup_nil, fun q => ?_, List.nodup_nil, fun q => ?_⟩
  · simp only [List.not_mem_nil, hnone q]
  · simp only [List.not_mem_nil, hnone q, false_and]

theorem Tracks.perm {livingPlayers' : List Nat} (h : Tracks players livingPlayers member dead)
    (hperm : livingPlayers'.Perm livingPlayers) : Tracks players livingPlayers' member dead :=
  ⟨h.nodup, h.mem, hperm.nodup_iff.2 h.livingNodup, fun q => hperm.mem_iff.trans (h.living q)⟩

end Lists

/-! ### Families of lists -/

/-- Each list of a family tracks the members that name it. -/
def FamilyTracks (players livingPlayers : Nat → List Nat) (key : Nat → Option Nat) (member : Nat → Prop)
    (dead : Nat → Bool) : Prop :=
  ∀ k, Tracks (players k) (livingPlayers k) (fun p => member p ∧ key p = some k) dead

section Families

variable {players livingPlayers players' livingPlayers' : Nat → List Nat} {key key' : Nat → Option Nat}
  {member member' : Nat → Prop} {dead dead' : Nat → Bool} {p : Nat}

theorem FamilyTracks.congr (h : FamilyTracks players livingPlayers key member dead)
    (hmember : ∀ q k, member q ∧ key q = some k ↔ member' q ∧ key' q = some k)
    (hdead : ∀ q, dead q = dead' q) : FamilyTracks players livingPlayers key' member' dead' :=
  fun k => (h k).congr (fun q => hmember q k) fun q _ => hdead q

/-- The list of a member that dies is checked. -/
theorem FamilyTracks.check (h : FamilyTracks players livingPlayers key member dead)
    (hdead : ∀ q, q ≠ p → dead' q = dead q)
    (hliving : ∀ k, livingPlayers' k =
      if key p = some k then (players k).filter fun q => !dead' q else livingPlayers k) :
    FamilyTracks players livingPlayers' key member dead' := by
  intro k
  rw [hliving]
  by_cases hk : key p = some k
  · rw [if_pos hk]
    exact tracks_filter (h k).nodup (h k).mem
  · rw [if_neg hk]
    refine (h k).congr (fun _ => Iff.rfl) fun q hq => (hdead q ?_).symm
    rintro rfl
    exact hk hq.2

/-- A member that dies is taken off its list. -/
theorem FamilyTracks.die (h : FamilyTracks players livingPlayers key member dead) (hp : dead' p = true)
    (hdead : ∀ q, q ≠ p → dead' q = dead q)
    (hliving : ∀ k, livingPlayers' k = if key p = some k then (livingPlayers k).erase p else livingPlayers k) :
    FamilyTracks players livingPlayers' key member dead' := by
  intro k
  rw [hliving]
  by_cases hk : key p = some k
  · rw [if_pos hk]
    exact (h k).die hp hdead
  · rw [if_neg hk]
    refine (h k).congr (fun _ => Iff.rfl) fun q hq => (hdead q ?_).symm
    rintro rfl
    exact hk hq.2

/-- A member that comes back is put on its list. -/
theorem FamilyTracks.comeBack (h : FamilyTracks players livingPlayers key member dead) (hmember : member p)
    (hp : dead' p = false) (hdead : ∀ q, q ≠ p → dead' q = dead q)
    (hliving : ∀ k, livingPlayers' k =
      if key p = some k then if p ∈ livingPlayers k then livingPlayers k else livingPlayers k ++ [p]
      else livingPlayers k) :
    FamilyTracks players livingPlayers' key member dead' := by
  intro k
  rw [hliving]
  by_cases hk : key p = some k
  · rw [if_pos hk]
    exact (h k).comeBack ⟨hmember, hk⟩ hp hdead
  · rw [if_neg hk]
    refine (h k).congr (fun _ => Iff.rfl) fun q hq => (hdead q ?_).symm
    rintro rfl
    exact hk hq.2

/-- A member leaves, and its list is checked. -/
theorem FamilyTracks.leave (h : FamilyTracks players livingPlayers key member dead)
    (hplayers : ∀ k, players' k = if key p = some k then (players k).erase p else players k)
    (hliving : ∀ k, livingPlayers' k =
      if key p = some k then ((players k).erase p).filter fun q => !dead q else livingPlayers k) :
    FamilyTracks players' livingPlayers' key (fun q => member q ∧ q ≠ p) dead := by
  intro k
  rw [hplayers, hliving]
  by_cases hk : key p = some k
  · rw [if_pos hk, if_pos hk]
    refine tracks_filter ((h k).nodup.erase p) fun q => ?_
    rw [(h k).nodup.mem_erase_iff, (h k).mem q]
    exact ⟨fun hq => ⟨⟨hq.2.1, hq.1⟩, hq.2.2⟩, fun hq => ⟨hq.1.2, hq.1.1, hq.2⟩⟩
  · rw [if_neg hk, if_neg hk]
    refine (h k).congr (fun q => ⟨fun hq => ⟨⟨hq.1, ?_⟩, hq.2⟩, fun hq => ⟨hq.1.1, hq.2⟩⟩) fun _ _ => rfl
    rintro rfl
    exact hk hq.2

/-- A member enters a list, which is checked. -/
theorem FamilyTracks.enter (h : FamilyTracks players livingPlayers key (fun q => member q ∧ q ≠ p) dead)
    (hmember : member p) {k₀ : Nat} (hkey : key' p = some k₀) (hother : ∀ q, q ≠ p → key' q = key q)
    (hplayers : ∀ k, players' k = if k = k₀ then players k ++ [p] else players k)
    (hliving : ∀ k, livingPlayers' k =
      if k = k₀ then (players k ++ [p]).filter fun q => !dead q else livingPlayers k) :
    FamilyTracks players' livingPlayers' key' member dead := by
  have hmem : ∀ q k, q ≠ p → (((member q ∧ q ≠ p) ∧ key q = some k) ↔ member q ∧ key' q = some k) := by
    intro q k hq
    rw [hother q hq]
    exact ⟨fun hm => ⟨hm.1.1, hm.2⟩, fun hm => ⟨⟨hm.1, hq⟩, hm.2⟩⟩
  intro k
  rw [hplayers, hliving]
  by_cases hk : k = k₀
  · subst hk
    rw [if_pos rfl, if_pos rfl]
    have hp : p ∉ players k := fun hin => (((h k).mem p).1 hin).1.2 rfl
    refine tracks_filter ((h k).nodup.append (List.nodup_singleton p) (by simpa using hp)) fun q => ?_
    rw [List.mem_append, List.mem_singleton, (h k).mem q]
    by_cases hq : q = p
    · subst hq
      exact ⟨fun _ => ⟨hmember, hkey⟩, fun _ => Or.inr rfl⟩
    · rw [← hmem q k hq]
      exact ⟨fun hm => hm.resolve_right hq, Or.inl⟩
  · rw [if_neg hk, if_neg hk]
    refine (h k).congr (fun q => ?_) fun _ _ => rfl
    by_cases hq : q = p
    · subst hq
      rw [hkey]
      exact ⟨fun hm => absurd rfl hm.1.2, fun hm => absurd (Option.some.inj hm.2).symm hk⟩
    · exact hmem q k hq

end Families

/-! ### Bookkeeping -/

/-- The lists, the countdowns and the kill leader say the same as the players. -/
structure Bookkept (b : PlayerBarn) : Prop where
  living : (∀ p ∈ b.livingPlayers, p ∈ b.players) ∧ ∀ p ∈ b.players, p ∈ b.livingPlayers ↔ b.dead p = false
  group : ∀ p ∈ b.players, ∀ group ∈ b.group p, p ∈ (b.groupObject group).livingPlayers ↔ b.dead p = false
  team : ∀ p ∈ b.players, ∀ team ∈ b.team p, p ∈ (b.teamObject team).livingPlayers ↔ b.dead p = false
  countdown : ∀ p ∈ b.players, b.dead p = true → 0 ≤ (b.playerObject p).opsiaRespawnTicker
  killLeader : (∀ p ∈ b.killLeader, p ∈ b.players) ∧
    ∀ p ∈ b.players, b.killLeader = some p ↔ (b.playerObject p).isKillLeader = true

instance (b : PlayerBarn) : Decidable b.Bookkept :=
  decidable_of_iff
    (((∀ p ∈ b.livingPlayers, p ∈ b.players) ∧ ∀ p ∈ b.players, p ∈ b.livingPlayers ↔ b.dead p = false) ∧
      (∀ p ∈ b.players, ∀ group ∈ b.group p, p ∈ (b.groupObject group).livingPlayers ↔ b.dead p = false) ∧
      (∀ p ∈ b.players, ∀ team ∈ b.team p, p ∈ (b.teamObject team).livingPlayers ↔ b.dead p = false) ∧
      (∀ p ∈ b.players, b.dead p = true → 0 ≤ (b.playerObject p).opsiaRespawnTicker) ∧
      (∀ p ∈ b.killLeader, p ∈ b.players) ∧
        ∀ p ∈ b.players, b.killLeader = some p ↔ (b.playerObject p).isKillLeader = true)
    ⟨fun h => ⟨h.1, h.2.1, h.2.2.1, h.2.2.2.1, h.2.2.2.2⟩, fun h => ⟨h.1, h.2, h.3, h.4, h.5⟩⟩

/-- Each group tracks those members of the barn that say they are in it. -/
def GroupsTrack (b : PlayerBarn) (member : Nat → Prop) : Prop :=
  FamilyTracks (fun group => (b.groupObject group).players) (fun group => (b.groupObject group).livingPlayers) b.group
    member b.dead

/-- Each team tracks those members of the barn that say they are in it. -/
def TeamsTrack (b : PlayerBarn) (member : Nat → Prop) : Prop :=
  FamilyTracks (fun team => (b.teamObject team).players) (fun team => (b.teamObject team).livingPlayers) b.team
    member b.dead

theorem GroupsTrack.of_eq {b b' : PlayerBarn} {member member' : Nat → Prop} (h : b.GroupsTrack member)
    (hplayers : ∀ group, (b'.groupObject group).players = (b.groupObject group).players)
    (hliving : ∀ group, (b'.groupObject group).livingPlayers = (b.groupObject group).livingPlayers)
    (hmember : ∀ q k, member q ∧ b.group q = some k ↔ member' q ∧ b'.group q = some k)
    (hdead : ∀ q, b.dead q = b'.dead q) : b'.GroupsTrack member' := by
  unfold GroupsTrack
  rw [funext hplayers, funext hliving]
  exact FamilyTracks.congr h hmember hdead

theorem TeamsTrack.of_eq {b b' : PlayerBarn} {member member' : Nat → Prop} (h : b.TeamsTrack member)
    (hplayers : ∀ team, (b'.teamObject team).players = (b.teamObject team).players)
    (hliving : ∀ team, (b'.teamObject team).livingPlayers = (b.teamObject team).livingPlayers)
    (hmember : ∀ q k, member q ∧ b.team q = some k ↔ member' q ∧ b'.team q = some k)
    (hdead : ∀ q, b.dead q = b'.dead q) : b'.TeamsTrack member' := by
  unfold TeamsTrack
  rw [funext hplayers, funext hliving]
  exact FamilyTracks.congr h hmember hdead

/-- The barn has the group, or a hash that leads to it. -/
def Known (b : PlayerBarn) (group : Nat) : Prop := group ∈ b.groups ∨ ∃ hash, b.groupsByHash hash = some group

/-- Every list tracks its members. -/
structure Rosters (b : PlayerBarn) : Prop where
  fresh : ∀ p ∈ b.players, p < b.nextPlayer
  barn : Tracks b.players b.livingPlayers (· ∈ b.players) b.dead
  group : b.GroupsTrack (· ∈ b.players)
  team : b.TeamsTrack (· ∈ b.players)
  freshGroup : ∀ group, b.nextGroupId ≤ group → (b.groupObject group).players = []
  known : ∀ group, b.Known group → group < b.nextGroupId
  countdown : ∀ p ∈ b.players, b.dead p = true → 0 ≤ (b.playerObject p).opsiaRespawnTicker

/-- The kill leader is the flagged player. -/
structure Led (b : PlayerBarn) : Prop where
  member : ∀ p ∈ b.killLeader, p ∈ b.players
  flagged : ∀ p ∈ b.players, b.killLeader = some p ↔ (b.playerObject p).isKillLeader = true

/-- `Rosters` and `Led` of a barn. -/
structure Kept (b : PlayerBarn) : Prop extends Rosters b, Led b

theorem Kept.bookkept {b : PlayerBarn} (h : b.Kept) : b.Bookkept where
  living := ⟨fun p hp => ((h.barn.living p).1 hp).1,
    fun p hp => (h.barn.living p).trans ⟨fun hl => hl.2, fun hl => ⟨hp, hl⟩⟩⟩
  group := fun p hp group hg =>
    ((h.group group).living p).trans ⟨fun hl => hl.2, fun hl => ⟨⟨hp, hg⟩, hl⟩⟩
  team := fun p hp team ht =>
    ((h.team team).living p).trans ⟨fun hl => hl.2, fun hl => ⟨⟨hp, ht⟩, hl⟩⟩
  countdown := h.countdown
  killLeader := ⟨h.member, h.flagged⟩

theorem kept_new (rules : BarnRules) : (new rules).Kept := by
  refine { fresh := ?_, barn := ?_, group := ?_, team := ?_, freshGroup := ?_, known := ?_, countdown := ?_,
           member := ?_, flagged := ?_ }
  · exact fun p hp => absurd hp List.not_mem_nil
  · exact tracks_nil fun p => List.not_mem_nil
  · exact fun group => tracks_nil fun p hp => absurd hp.1 List.not_mem_nil
  · exact fun team => tracks_nil fun p hp => absurd hp.1 List.not_mem_nil
  · exact fun _ _ => rfl
  · rintro group (hg | ⟨hash, hg⟩)
    · exact absurd hg List.not_mem_nil
    · exact absurd hg (Option.some_ne_none group).symm
  · exact fun p hp => absurd hp List.not_mem_nil
  · exact fun p hp => absurd hp (Option.not_mem_none p)
  · exact fun p hp => absurd hp List.not_mem_nil

/-! ### Frames -/

theorem playerObject_setPlayer (b : PlayerBarn) (p q : Nat) (f : Player → Player) :
    (b.setPlayer p f).playerObject q = if q = p then f (b.playerObject p) else b.playerObject q :=
  Function.update_apply _ _ _ _

/-- The lists of the barns and what the players say of them are the same. -/
structure SameLists (b b' : PlayerBarn) : Prop where
  players : b'.players = b.players
  livingPlayers : b'.livingPlayers = b.livingPlayers
  nextPlayer : b'.nextPlayer = b.nextPlayer
  nextGroupId : b.nextGroupId ≤ b'.nextGroupId
  known : ∀ group, b'.Known group → b.Known group
  groupPlayers : ∀ group, (b'.groupObject group).players = (b.groupObject group).players
  groupLiving : ∀ group, (b'.groupObject group).livingPlayers = (b.groupObject group).livingPlayers
  teamPlayers : ∀ team, (b'.teamObject team).players = (b.teamObject team).players
  teamLiving : ∀ team, (b'.teamObject team).livingPlayers = (b.teamObject team).livingPlayers
  dead : ∀ p, b'.dead p = b.dead p
  group : ∀ p, b'.group p = b.group p
  team : ∀ p, b'.team p = b.team p
  countdown : ∀ p, 0 ≤ (b.playerObject p).opsiaRespawnTicker → 0 ≤ (b'.playerObject p).opsiaRespawnTicker

theorem SameLists.refl (b : PlayerBarn) : SameLists b b :=
  ⟨rfl, rfl, rfl, le_refl _, fun _ h => h, fun _ => rfl, fun _ => rfl, fun _ => rfl, fun _ => rfl, fun _ => rfl,
    fun _ => rfl, fun _ => rfl, fun _ h => h⟩

theorem SameLists.trans {b b' b'' : PlayerBarn} (h : SameLists b b') (h' : SameLists b' b'') : SameLists b b'' where
  players := h'.players.trans h.players
  livingPlayers := h'.livingPlayers.trans h.livingPlayers
  nextPlayer := h'.nextPlayer.trans h.nextPlayer
  nextGroupId := h.nextGroupId.trans h'.nextGroupId
  known := fun group hg => h.known group (h'.known group hg)
  groupPlayers := fun group => (h'.groupPlayers group).trans (h.groupPlayers group)
  groupLiving := fun group => (h'.groupLiving group).trans (h.groupLiving group)
  teamPlayers := fun team => (h'.teamPlayers team).trans (h.teamPlayers team)
  teamLiving := fun team => (h'.teamLiving team).trans (h.teamLiving team)
  dead := fun p => (h'.dead p).trans (h.dead p)
  group := fun p => (h'.group p).trans (h.group p)
  team := fun p => (h'.team p).trans (h.team p)
  countdown := fun p hp => h'.countdown p (h.countdown p hp)

theorem SameLists.rosters {b b' : PlayerBarn} (hs : SameLists b b') (h : b.Rosters) : b'.Rosters := by
  have hdead : b'.dead = b.dead := funext hs.dead
  refine ⟨fun p hp => ?_, ?_, ?_, ?_, fun group hgroup => ?_, fun group hg => ?_, fun p hp hd => ?_⟩
  · rw [hs.nextPlayer]
    exact h.fresh p (hs.players ▸ hp)
  · rw [hs.players, hs.livingPlayers, hdead]
    exact h.barn
  · exact h.group.of_eq hs.groupPlayers hs.groupLiving (fun q k => by rw [hs.players, hs.group q]) fun q =>
      (hs.dead q).symm
  · exact h.team.of_eq hs.teamPlayers hs.teamLiving (fun q k => by rw [hs.players, hs.team q]) fun q =>
      (hs.dead q).symm
  · rw [hs.groupPlayers]
    exact h.freshGroup group (hs.nextGroupId.trans hgroup)
  · exact (h.known group (hs.known group hg)).trans_le hs.nextGroupId
  · exact hs.countdown p (h.countdown p (hs.players ▸ hp) ((hs.dead p) ▸ hd))

theorem sameLists_setPlayer {b : PlayerBarn} {p : Nat} {f : Player → Player}
    (hdead : (f (b.playerObject p)).dead = b.dead p) (hgroup : (f (b.playerObject p)).group = b.group p)
    (hteam : (f (b.playerObject p)).team = b.team p)
    (hticker : 0 ≤ (b.playerObject p).opsiaRespawnTicker → 0 ≤ (f (b.playerObject p)).opsiaRespawnTicker) :
    SameLists b (b.setPlayer p f) := by
  refine
    { SameLists.refl b with
      dead := fun q => ?_
      group := fun q => ?_
      team := fun q => ?_
      countdown := fun q hq => ?_ }
  · unfold dead at hdead ⊢
    rw [playerObject_setPlayer]
    split
    · rename_i hq
      rw [hq, hdead]
    · rfl
  · unfold PlayerBarn.group at hgroup ⊢
    rw [playerObject_setPlayer]
    split
    · rename_i hq
      rw [hq, hgroup]
    · rfl
  · unfold PlayerBarn.team at hteam ⊢
    rw [playerObject_setPlayer]
    split
    · rename_i hq
      rw [hq, hteam]
    · rfl
  · rw [playerObject_setPlayer]
    split
    · rename_i hqp
      exact hticker (hqp ▸ hq)
    · exact hq

/-- The kill leader and the flags are the same. -/
theorem Led.of_same {b b' : PlayerBarn} (h : b.Led) (hplayers : b'.players = b.players)
    (hleader : b'.killLeader = b.killLeader)
    (hflag : ∀ p, (b'.playerObject p).isKillLeader = (b.playerObject p).isKillLeader) : b'.Led := by
  refine ⟨fun p hp => ?_, fun p hp => ?_⟩
  · rw [hplayers]
    exact h.member p (hleader ▸ hp)
  · rw [hleader, hflag]
    exact h.flagged p (hplayers ▸ hp)

theorem isKillLeader_setPlayer {b : PlayerBarn} {p : Nat} {f : Player → Player}
    (hf : (f (b.playerObject p)).isKillLeader = (b.playerObject p).isKillLeader) (q : Nat) :
    ((b.setPlayer p f).playerObject q).isKillLeader = (b.playerObject q).isKillLeader := by
  rw [playerObject_setPlayer]
  split
  · rename_i hq
    rw [hq, hf]
  · rfl

/-! ### Groups and teams -/

private theorem update_some {β : Type} (f : Nat → β) (key : Nat) (g : Nat → β) :
    Function.update f key (g key) = fun other => if some key = some other then g other else f other := by
  funext other
  rw [Function.update_apply]
  by_cases ho : other = key
  · subst ho
    simp only [if_true]
  · rw [if_neg ho, if_neg fun hc => ho (Option.some.inj hc).symm]

theorem checkGroup_eq (b : PlayerBarn) (p : Nat) :
    b.checkGroup p =
      { b with
        groupObject := fun group =>
          if b.group p = some group then
            { b.groupObject group with toPlayerGroup := PlayerGroup.checkPlayers b (b.groupObject group).toPlayerGroup }
          else b.groupObject group } := by
  unfold checkGroup
  cases hg : b.group p with
  | none => simp only [reduceCtorEq, if_false]
  | some group =>
    simp only [setGroup]
    congr 1
    exact update_some _ _ fun group =>
      { b.groupObject group with toPlayerGroup := PlayerGroup.checkPlayers b (b.groupObject group).toPlayerGroup }

theorem leaveLiving_eq (b : PlayerBarn) (p : Nat) :
    b.leaveLiving p =
      { b with
        teamObject := fun team =>
          if b.team p = some team then
            { b.teamObject team with livingPlayers := (b.teamObject team).livingPlayers.erase p }
          else b.teamObject team } := by
  unfold leaveLiving
  cases ht : b.team p with
  | none => simp only [reduceCtorEq, if_false]
  | some team =>
    simp only [setTeam]
    congr 1
    exact update_some _ _ fun team =>
      { b.teamObject team with livingPlayers := (b.teamObject team).livingPlayers.erase p }

theorem leaveTeam_eq (b : PlayerBarn) (p : Nat) :
    b.leaveTeam p =
      { b with
        teamObject := fun team =>
          if b.team p = some team then PlayerGroup.removePlayer b (b.teamObject team) p else b.teamObject team } := by
  unfold leaveTeam
  cases ht : b.team p with
  | none => simp only [reduceCtorEq, if_false]
  | some team =>
    simp only [setTeam]
    congr 1
    exact update_some _ _ fun team => PlayerGroup.removePlayer b (b.teamObject team) p

theorem enterLiving_eq (b : PlayerBarn) (p : Nat) :
    b.enterLiving p =
      { b with
        teamObject := fun team =>
          if b.team p = some team then
            { b.teamObject team with
              livingPlayers :=
                if p ∈ (b.teamObject team).livingPlayers then (b.teamObject team).livingPlayers
                else (b.teamObject team).livingPlayers ++ [p] }
          else b.teamObject team } := by
  unfold enterLiving
  cases ht : b.team p with
  | none => simp only [reduceCtorEq, if_false]
  | some team =>
    simp only [setTeam]
    congr 1
    exact update_some _ _ fun team =>
      { b.teamObject team with
        livingPlayers :=
          if p ∈ (b.teamObject team).livingPlayers then (b.teamObject team).livingPlayers
          else (b.teamObject team).livingPlayers ++ [p] }

/-- A check of a group keeps what is right. -/
theorem Rosters.checkGroup {b : PlayerBarn} (h : b.Rosters) (p : Nat) : (b.checkGroup p).Rosters := by
  rw [checkGroup_eq]
  refine ⟨h.fresh, h.barn, fun group => ?_, h.team, fun group hgroup => ?_, h.known, h.countdown⟩
  · dsimp only
    split
    · exact tracks_filter (h.group group).nodup (h.group group).mem
    · exact h.group group
  · dsimp only
    split
    · exact h.freshGroup group hgroup
    · exact h.freshGroup group hgroup

theorem Led.checkGroup {b : PlayerBarn} (h : b.Led) (p : Nat) : (b.checkGroup p).Led := by
  rw [checkGroup_eq]
  exact ⟨h.member, h.flagged⟩

/-! ### Kills -/

theorem dead_setPlayer (b : PlayerBarn) (p q : Nat) (f : Player → Player) :
    (b.setPlayer p f).dead q = if q = p then (f (b.playerObject p)).dead else b.dead q := by
  unfold dead
  rw [playerObject_setPlayer]
  split <;> rfl

/-- What a kill does to the lists, as `die` leaves them. -/
structure Died (b b' : PlayerBarn) (p : Nat) : Prop where
  players : b'.players = b.players
  livingPlayers : b'.livingPlayers = b.livingPlayers.erase p
  killLeader : b'.killLeader = b.killLeader
  nextPlayer : b'.nextPlayer = b.nextPlayer
  nextGroupId : b'.nextGroupId = b.nextGroupId
  known : ∀ group, b'.Known group → b.Known group
  groupPlayers : ∀ group, (b'.groupObject group).players = (b.groupObject group).players
  groupLiving : ∀ group, (b'.groupObject group).livingPlayers =
    if b.group p = some group then (b.groupObject group).players.filter fun q => !b'.dead q
    else (b.groupObject group).livingPlayers
  teamPlayers : ∀ team, (b'.teamObject team).players = (b.teamObject team).players
  teamLiving : ∀ team, (b'.teamObject team).livingPlayers =
    if b.team p = some team then (b.teamObject team).livingPlayers.erase p else (b.teamObject team).livingPlayers
  self : b'.dead p = true
  other : ∀ q, q ≠ p → b'.dead q = b.dead q
  group : ∀ q, b'.group q = b.group q
  team : ∀ q, b'.team q = b.team q
  ticker : ∀ q, (b'.playerObject q).opsiaRespawnTicker = if q = p then 3 else (b.playerObject q).opsiaRespawnTicker
  flag : ∀ q, (b'.playerObject q).isKillLeader = (b.playerObject q).isKillLeader

theorem died {b : PlayerBarn} (hinfinite : rules.opsiaInfinite = true) (p : Nat) : Died b (b.die rules p) p := by
  let f : Player → Player := fun player =>
    { player with
      dead := true
      downed := false
      opsiaRespawnTicker := if rules.opsiaInfinite then 3 else player.opsiaRespawnTicker }
  let b₁ : PlayerBarn := { b.setPlayer p f with livingPlayers := b.livingPlayers.erase p }
  have hobject : ∀ q, b₁.playerObject q = if q = p then f (b.playerObject p) else b.playerObject q :=
    fun q => playerObject_setPlayer b p q f
  have hgroup : ∀ q, b₁.group q = b.group q := by
    intro q
    unfold PlayerBarn.group
    rw [hobject]
    split
    · rename_i hq
      rw [hq]
    · rfl
  have hteam : ∀ q, b₁.team q = b.team q := by
    intro q
    unfold PlayerBarn.team
    rw [hobject]
    split
    · rename_i hq
      rw [hq]
    · rfl
  have hdie : b.die rules p = (b₁.checkGroup p).leaveLiving p := rfl
  rw [hdie, leaveLiving_eq, checkGroup_eq]
  refine ⟨rfl, rfl, rfl, rfl, rfl, fun _ h => h, fun group => ?_, fun group => ?_, fun team => ?_, fun team => ?_, ?_,
    fun q hq => ?_, hgroup, hteam, fun q => ?_, fun q => ?_⟩
  · dsimp only
    split <;> rfl
  · dsimp only
    rw [hgroup]
    split <;> rfl
  · dsimp only
    split <;> rfl
  · have ht : ∀ g : Nat → Group, ({ b₁ with groupObject := g } : PlayerBarn).team p = b.team p := fun _ => hteam p
    dsimp only
    rw [ht]
    split <;> rfl
  · have hself := hobject p
    rw [if_pos rfl] at hself
    exact congrArg Player.dead hself
  · have hother := hobject q
    rw [if_neg hq] at hother
    exact congrArg Player.dead hother
  · have hq := congrArg Player.opsiaRespawnTicker (hobject q)
    refine hq.trans ?_
    split
    · exact if_pos hinfinite
    · rfl
  · have hq := congrArg Player.isKillLeader (hobject q)
    refine hq.trans ?_
    split
    · rename_i hqp
      rw [hqp]
    · rfl

theorem Died.rosters {b b' : PlayerBarn} {p : Nat} (hd : Died b b' p) (h : b.Rosters) : b'.Rosters := by
  have hgroup : FamilyTracks (fun group => (b.groupObject group).players)
      (fun group => (b'.groupObject group).livingPlayers) b.group (· ∈ b.players) b'.dead :=
    FamilyTracks.check h.group hd.other hd.groupLiving
  have hteam : FamilyTracks (fun team => (b.teamObject team).players) (fun team => (b'.teamObject team).livingPlayers)
      b.team (· ∈ b.players) b'.dead :=
    FamilyTracks.die h.team hd.self hd.other hd.teamLiving
  refine ⟨fun q hq => ?_, ?_, ?_, ?_, fun group hg => ?_, fun group hg => ?_, fun q hq hdead => ?_⟩
  · rw [hd.nextPlayer]
    exact h.fresh q (hd.players ▸ hq)
  · rw [hd.players, hd.livingPlayers]
    exact h.barn.die hd.self hd.other
  · unfold GroupsTrack
    rw [funext hd.groupPlayers]
    exact hgroup.congr (fun q k => by rw [hd.players, hd.group]) fun _ => rfl
  · unfold TeamsTrack
    rw [funext hd.teamPlayers]
    exact hteam.congr (fun q k => by rw [hd.players, hd.team]) fun _ => rfl
  · rw [hd.groupPlayers]
    exact h.freshGroup group (hd.nextGroupId ▸ hg)
  · rw [hd.nextGroupId]
    exact h.known group (hd.known group hg)
  · rw [hd.ticker]
    by_cases hq' : q = p
    · rw [if_pos hq']
      decide
    · rw [if_neg hq']
      exact h.countdown q (hd.players ▸ hq) ((hd.other q hq') ▸ hdead)

theorem Died.led {b b' : PlayerBarn} {p : Nat} (hd : Died b b' p) (h : b.Led) : b'.Led :=
  h.of_same hd.players hd.killLeader hd.flag

theorem sameLists_credit (b : PlayerBarn) (p : Nat) (source : Option Nat) : SameLists b (b.credit p source) := by
  unfold credit
  cases source with
  | none => exact SameLists.refl b
  | some source =>
    dsimp only
    split
    · exact sameLists_setPlayer rfl rfl rfl id
    · exact SameLists.refl b

theorem Led.credit {b : PlayerBarn} (h : b.Led) (p : Nat) (source : Option Nat) : (b.credit p source).Led := by
  unfold PlayerBarn.credit
  cases source with
  | none => exact h
  | some source =>
    dsimp only
    split
    · exact h.of_same rfl rfl (isKillLeader_setPlayer rfl)
    · exact h

theorem mem_of_highestKills {b : PlayerBarn} {p : Nat} (h : b.getPlayerWithHighestKills = some p) :
    p ∈ b.livingPlayers := by
  unfold getPlayerWithHighestKills at h
  have hmem := (List.perm_insertionSort _ _).mem_iff.1 (List.mem_of_head? h)
  exact (List.mem_filter.1 hmem).1

theorem sameLists_unflag (b : PlayerBarn) (leader : Option Nat) : SameLists b (b.unflag leader) := by
  unfold unflag
  cases leader with
  | none => exact SameLists.refl b
  | some leader => exact sameLists_setPlayer rfl rfl rfl id

theorem isKillLeader_unflag (b : PlayerBarn) (leader : Option Nat) (q : Nat) :
    ((b.unflag leader).playerObject q).isKillLeader =
      if leader = some q then false else (b.playerObject q).isKillLeader := by
  unfold unflag
  cases leader with
  | none => rw [if_neg (Option.some_ne_none q).symm]
  | some leader =>
    dsimp only
    rw [playerObject_setPlayer]
    by_cases hq : q = leader
    · rw [if_pos hq, if_pos (congrArg some hq.symm)]
    · rw [if_neg hq, if_neg fun hc => hq (Option.some.inj hc).symm]

theorem sameLists_promote (b : PlayerBarn) (p : Nat) : SameLists b (b.promoteToKillLeader p) := by
  unfold promoteToKillLeader
  split
  · exact SameLists.refl b
  · have hself : SameLists b (b.setPlayer p fun player => { player with isKillLeader := true }) :=
      sameLists_setPlayer rfl rfl rfl id
    exact { hself.trans (sameLists_unflag _ b.killLeader) with }

/-- A player of the barn that is promoted is the one that is flagged. -/
theorem Led.promote {b : PlayerBarn} (h : b.Led) {p : Nat} (hp : p ∈ b.players) : (b.promoteToKillLeader p).Led := by
  have hplayers : (b.promoteToKillLeader p).players = b.players := (sameLists_promote b p).players
  by_cases hflag : (b.playerObject p).isKillLeader = true
  · have hsame : b.promoteToKillLeader p = b := if_pos hflag
    rwa [hsame]
  · have hnot : b.killLeader ≠ some p := fun hleader => hflag ((h.flagged p hp).1 hleader)
    refine ⟨fun q hq => ?_, fun q hq => ?_⟩
    · rw [hplayers]
      unfold promoteToKillLeader at hq
      rw [if_neg hflag] at hq
      cases Option.mem_some.1 hq
      exact hp
    · rw [hplayers] at hq
      unfold promoteToKillLeader
      rw [if_neg hflag]
      dsimp only
      rw [isKillLeader_unflag, playerObject_setPlayer]
      by_cases hqp : q = p
      · subst hqp
        rw [if_neg hnot, if_pos rfl]
        exact ⟨fun _ => rfl, fun _ => rfl⟩
      · rw [if_neg hqp]
        have hne : some p ≠ some q := fun heq => hqp (Option.some.inj heq).symm
        have hfalse : (if b.killLeader = some q then false else (b.playerObject q).isKillLeader) = false := by
          split
          · rfl
          · rename_i hleader
            exact Bool.eq_false_iff.2 fun hf => hleader ((h.flagged q hq).2 hf)
        rw [hfalse]
        exact ⟨fun heq => absurd heq hne, fun hf => absurd hf Bool.false_ne_true⟩

theorem sameLists_elect (rules : BarnRules) (b : PlayerBarn) (source : Option Nat) :
    SameLists b (b.electKillLeader rules source) := by
  unfold electKillLeader
  cases source with
  | none => exact SameLists.refl b
  | some source =>
    dsimp only
    split
    · exact sameLists_promote b source
    · exact SameLists.refl b

theorem Kept.elect {b : PlayerBarn} (h : b.Kept) (source : Option Nat) : (b.electKillLeader rules source).Led := by
  unfold electKillLeader
  cases source with
  | none => exact h.toLed
  | some source =>
    dsimp only
    split
    · rename_i hahead
      exact h.toLed.promote ((h.barn.living source).1 (mem_of_highestKills hahead.2.2.1)).1
    · exact h.toLed

theorem sameLists_drop (b : PlayerBarn) (p : Nat) : SameLists b (b.dropKillLeader p) := by
  unfold dropKillLeader
  split
  · exact { sameLists_unflag b (some p) with }
  · exact SameLists.refl b

theorem Led.drop {b : PlayerBarn} (h : b.Led) {p : Nat} (hp : p ∈ b.players) : (b.dropKillLeader p).Led := by
  unfold dropKillLeader
  split
  · rename_i hflag
    have hleader : b.killLeader = some p := (h.flagged p hp).2 hflag
    refine ⟨fun q hq => absurd hq (Option.not_mem_none q), fun q hq => ?_⟩
    have hq : q ∈ b.players := hq
    dsimp only
    rw [isKillLeader_unflag]
    have hfalse : (if some p = some q then false else (b.playerObject q).isKillLeader) = false := by
      split
      · rfl
      · rename_i hne
        exact Bool.eq_false_iff.2 fun hf => hne (hleader.symm.trans ((h.flagged q hq).2 hf))
    rw [hfalse]
    exact ⟨fun heq => absurd heq (Option.some_ne_none q).symm, fun hf => absurd hf Bool.false_ne_true⟩
  · exact h

/-- A kill keeps the books. -/
theorem Kept.kill {b : PlayerBarn} (h : b.Kept) (hinfinite : rules.opsiaInfinite = true) {p : Nat} (hp : p ∈ b.players)
    (source : Option Nat) : (b.kill rules p source).Kept := by
  unfold PlayerBarn.kill
  split
  · exact h
  · have hdied := died (b := b) hinfinite p
    have hcredit := sameLists_credit (b.die rules p) p source
    have helect := sameLists_elect rules ((b.die rules p).credit p source) source
    have hdrop := sameLists_drop (((b.die rules p).credit p source).electKillLeader rules source) p
    have hcredited : ((b.die rules p).credit p source).Kept :=
      { hcredit.rosters (hdied.rosters h.toRosters), (hdied.led h.toLed).credit p source with }
    have helected : (((b.die rules p).credit p source).electKillLeader rules source).Kept :=
      { helect.rosters hcredited.toRosters, hcredited.elect source with }
    have hmem : p ∈ (((b.die rules p).credit p source).electKillLeader rules source).players := by
      rw [helect.players, hcredit.players, hdied.players]
      exact hp
    exact { hdrop.rosters helected.toRosters, helected.toLed.drop hmem with }

/-! ### Ticks -/

/-- The countdown of the player runs out. -/
def Respawns (b : PlayerBarn) (p : Nat) (dt : Rat) : Prop :=
  b.dead p = true ∧ 0 ≤ (b.playerObject p).opsiaRespawnTicker ∧ (b.playerObject p).opsiaRespawnTicker ≤ dt

instance (b : PlayerBarn) (p : Nat) (dt : Rat) : Decidable (b.Respawns p dt) :=
  inferInstanceAs (Decidable (_ ∧ _))

/-- What the end of a countdown does to the lists. -/
structure Respawned (b b' : PlayerBarn) (p : Nat) : Prop where
  players : b'.players = b.players
  livingPlayers : b'.livingPlayers = if p ∈ b.livingPlayers then b.livingPlayers else b.livingPlayers ++ [p]
  killLeader : b'.killLeader = b.killLeader
  nextPlayer : b'.nextPlayer = b.nextPlayer
  nextGroupId : b'.nextGroupId = b.nextGroupId
  known : ∀ group, b'.Known group → b.Known group
  groupObject : b'.groupObject = b.groupObject
  teamPlayers : ∀ team, (b'.teamObject team).players = (b.teamObject team).players
  teamLiving : ∀ team, (b'.teamObject team).livingPlayers =
    if b.team p = some team then
      if p ∈ (b.teamObject team).livingPlayers then (b.teamObject team).livingPlayers
      else (b.teamObject team).livingPlayers ++ [p]
    else (b.teamObject team).livingPlayers
  self : b'.dead p = false
  other : ∀ q, q ≠ p → b'.playerObject q = b.playerObject q
  group : ∀ q, b'.group q = b.group q
  team : ∀ q, b'.team q = b.team q
  flag : ∀ q, (b'.playerObject q).isKillLeader = (b.playerObject q).isKillLeader

theorem respawned {b : PlayerBarn} {p : Nat} {dt : Rat} (hinfinite : rules.opsiaInfinite = true)
    (hr : b.Respawns p dt) : Respawned b (b.update rules p dt) p := by
  obtain ⟨hdead, hticker, hover⟩ := hr
  let tick : Player → Player := fun player => { player with opsiaRespawnTicker := player.opsiaRespawnTicker - dt }
  let back : Player → Player := fun player => { player with dead := false, downed := false, timeAlive := 0 }
  let age : Player → Player := fun player => { player with timeAlive := player.timeAlive + dt }
  let b₁ : PlayerBarn :=
    { (b.setPlayer p tick).setPlayer p back with
      livingPlayers := if p ∈ b.livingPlayers then b.livingPlayers else b.livingPlayers ++ [p] }
  have hobject : ∀ q, (b₁.setPlayer p age).playerObject q =
      if q = p then age (back (tick (b.playerObject p))) else b.playerObject q := by
    intro q
    rw [playerObject_setPlayer]
    by_cases hq : q = p
    · rw [if_pos hq, if_pos hq]
      change age (((b.setPlayer p tick).setPlayer p back).playerObject p) = _
      rw [playerObject_setPlayer, if_pos rfl, playerObject_setPlayer, if_pos rfl]
    · rw [if_neg hq, if_neg hq]
      change ((b.setPlayer p tick).setPlayer p back).playerObject q = _
      rw [playerObject_setPlayer, if_neg hq, playerObject_setPlayer, if_neg hq]
  have hteam₁ : b₁.team p = b.team p := by
    change (((b.setPlayer p tick).setPlayer p back).playerObject p).team = _
    rw [playerObject_setPlayer, if_pos rfl, playerObject_setPlayer, if_pos rfl]
    rfl
  have hupdate : b.update rules p dt = (b₁.enterLiving p).setPlayer p age := by
    have hzero : ((b.setPlayer p tick).playerObject p).opsiaRespawnTicker ≤ 0 := by
      rw [playerObject_setPlayer, if_pos rfl]
      exact sub_nonpos.2 hover
    unfold update
    rw [if_pos hdead, if_pos ⟨hinfinite, hticker⟩]
    exact if_pos hzero
  rw [hupdate, enterLiving_eq]
  refine ⟨rfl, rfl, rfl, rfl, rfl, fun _ h => h, rfl, fun team => ?_, fun team => ?_, ?_, fun q hq => ?_,
    fun q => ?_, fun q => ?_, fun q => ?_⟩
  · change (if b₁.team p = some team then _ else _ : PlayerGroup).players = _
    split <;> rfl
  · change (if b₁.team p = some team then _ else _ : PlayerGroup).livingPlayers = _
    rw [hteam₁]
    split <;> rfl
  · have hself := hobject p
    rw [if_pos rfl] at hself
    exact congrArg Player.dead hself
  · have hother := hobject q
    rw [if_neg hq] at hother
    exact hother
  · refine (congrArg Player.group (hobject q)).trans ?_
    split
    · rename_i hq
      rw [hq]
      rfl
    · rfl
  · refine (congrArg Player.team (hobject q)).trans ?_
    split
    · rename_i hq
      rw [hq]
      rfl
    · rfl
  · refine (congrArg Player.isKillLeader (hobject q)).trans ?_
    split
    · rename_i hq
      rw [hq]
    · rfl

/-- A player without a group comes back onto all its lists. -/
theorem Respawned.rosters {b b' : PlayerBarn} {p : Nat} (hr : Respawned b b' p) (h : b.Rosters) (hp : p ∈ b.players)
    (hgroup : b.group p = none) : b'.Rosters := by
  have hdead : ∀ q, q ≠ p → b'.dead q = b.dead q := fun q hq => congrArg Player.dead (hr.other q hq)
  have hteam : FamilyTracks (fun team => (b.teamObject team).players) (fun team => (b'.teamObject team).livingPlayers)
      b.team (· ∈ b.players) b'.dead :=
    FamilyTracks.comeBack h.team hp hr.self hdead hr.teamLiving
  refine ⟨fun q hq => ?_, ?_, fun group => ?_, ?_, fun group hg => ?_, fun group hg => ?_, fun q hq hd => ?_⟩
  · rw [hr.nextPlayer]
    exact h.fresh q (hr.players ▸ hq)
  · rw [hr.players, hr.livingPlayers]
    exact h.barn.comeBack hp hr.self hdead
  · rw [hr.groupObject]
    refine (h.group group).congr (fun q => by rw [hr.players, hr.group]) fun q hq => (hdead q ?_).symm
    rintro rfl
    exact absurd (hgroup.symm.trans hq.2) (Option.some_ne_none group).symm
  · unfold TeamsTrack
    rw [funext hr.teamPlayers]
    exact hteam.congr (fun q k => by rw [hr.players, hr.team]) fun _ => rfl
  · rw [hr.groupObject]
    exact h.freshGroup group (hr.nextGroupId ▸ hg)
  · rw [hr.nextGroupId]
    exact h.known group (hr.known group hg)
  · have hne : q ≠ p := by
      rintro rfl
      exact absurd (hr.self.symm.trans hd) Bool.false_ne_true
    rw [hr.other q hne]
    exact h.countdown q (hr.players ▸ hq) ((hdead q hne) ▸ hd)

/-- A player that comes back is not put on the living players of its group. -/
theorem Respawned.unkept {b b' : PlayerBarn} {p : Nat} (hr : Respawned b b' p) (h : b.Rosters) (hp : p ∈ b.players)
    (hdead : b.dead p = true) {group : Nat} (hgroup : b.group p = some group) : ¬b'.Bookkept := by
  intro hb
  have hin : p ∈ (b'.groupObject group).livingPlayers :=
    (hb.group p (hr.players ▸ hp) group ((hr.group p).trans hgroup)).2 hr.self
  rw [hr.groupObject] at hin
  have hlive := ((h.group group).living p).1 hin
  exact absurd (hdead.symm.trans hlive.2) (by decide)

/-- A tick that brings nobody back changes no list and no flag. -/
theorem update_same {b : PlayerBarn} {p : Nat} {dt : Rat} (hr : ¬b.Respawns p dt) :
    SameLists b (b.update rules p dt) ∧ (b.update rules p dt).killLeader = b.killLeader ∧
      ∀ q, ((b.update rules p dt).playerObject q).isKillLeader = (b.playerObject q).isKillLeader := by
  unfold update
  dsimp only
  split
  · rename_i hdead
    split
    · rename_i hticker
      have hover : dt < (b.playerObject p).opsiaRespawnTicker := not_le.1 fun hle => hr ⟨hdead, hticker.2, hle⟩
      rw [if_neg]
      · exact ⟨sameLists_setPlayer rfl rfl rfl fun _ => sub_nonneg.2 hover.le, rfl, isKillLeader_setPlayer rfl⟩
      · rw [playerObject_setPlayer, if_pos rfl]
        exact not_le.2 (sub_pos.2 hover)
    · exact ⟨SameLists.refl b, rfl, fun _ => rfl⟩
  · exact ⟨sameLists_setPlayer rfl rfl rfl id, rfl, isKillLeader_setPlayer rfl⟩

/-- A tick keeps the books, unless it brings a player of a group back. -/
theorem Kept.update {b : PlayerBarn} (h : b.Kept) (hinfinite : rules.opsiaInfinite = true) {p : Nat}
    (hp : p ∈ b.players) {dt : Rat} (hback : b.Respawns p dt → b.group p = none) : (b.update rules p dt).Kept := by
  by_cases hr : b.Respawns p dt
  · have hrespawned := respawned hinfinite hr
    exact
      { hrespawned.rosters h.toRosters hp (hback hr),
        h.toLed.of_same hrespawned.players hrespawned.killLeader hrespawned.flag with }
  · obtain ⟨hs, hleader, hflag⟩ := @update_same rules b p dt hr
    exact { hs.rosters h.toRosters, h.toLed.of_same hs.players hleader hflag with }

/-! ### Closes -/

theorem TeamsTrack.leaveTeam {b : PlayerBarn} {member : Nat → Prop} (h : b.TeamsTrack member) (p : Nat) :
    (b.leaveTeam p).TeamsTrack fun q => member q ∧ q ≠ p := by
  rw [leaveTeam_eq]
  refine FamilyTracks.leave (p := p) h (fun team => ?_) fun team => ?_
  · change (if b.team p = some team then PlayerGroup.removePlayer b (b.teamObject team) p
      else b.teamObject team).players = if b.team p = some team then _ else _
    split <;> rfl
  · change (if b.team p = some team then PlayerGroup.removePlayer b (b.teamObject team) p
      else b.teamObject team).livingPlayers = if b.team p = some team then _ else _
    split <;> rfl

theorem groupObject_setGroup (b : PlayerBarn) (group other : Nat) (f : PlayerGroup → PlayerGroup) :
    (b.setGroup group f).groupObject other =
      if other = group then { b.groupObject group with toPlayerGroup := f (b.groupObject group).toPlayerGroup }
      else b.groupObject other :=
  Function.update_apply _ _ _ _

theorem teamObject_setTeam (b : PlayerBarn) (team other : Nat) (f : PlayerGroup → PlayerGroup) :
    (b.setTeam team f).teamObject other = if other = team then f (b.teamObject team) else b.teamObject other :=
  Function.update_apply _ _ _ _

/-- What a player that leaves its group leaves behind. -/
structure GroupLeft (b b' : PlayerBarn) (p : Nat) : Prop where
  playerObject : b'.playerObject = b.playerObject
  players : b'.players = b.players
  livingPlayers : b'.livingPlayers = b.livingPlayers
  killLeader : b'.killLeader = b.killLeader
  nextPlayer : b'.nextPlayer = b.nextPlayer
  nextGroupId : b'.nextGroupId = b.nextGroupId
  known : ∀ group, b'.Known group → b.Known group
  teamObject : b'.teamObject = b.teamObject
  groupPlayers : ∀ group, (b'.groupObject group).players =
    if b.group p = some group then (b.groupObject group).players.erase p else (b.groupObject group).players
  groupLiving : ∀ group, (b'.groupObject group).livingPlayers =
    if b.group p = some group then ((b.groupObject group).players.erase p).filter fun q => !b.dead q
    else (b.groupObject group).livingPlayers

theorem groupLeft (b : PlayerBarn) (p : Nat) : GroupLeft b (b.leaveGroup p) p := by
  unfold leaveGroup
  cases hg : b.group p with
  | none =>
    refine ⟨rfl, rfl, rfl, rfl, rfl, rfl, fun _ h => h, rfl, fun group => ?_, fun group => ?_⟩
    · rw [hg, if_neg (Option.some_ne_none group).symm]
    · rw [hg, if_neg (Option.some_ne_none group).symm]
  | some group =>
    have hleft : GroupLeft b (b.setGroup group fun g => PlayerGroup.removePlayer b g p) p := by
      refine ⟨rfl, rfl, rfl, rfl, rfl, rfl, fun _ h => h, rfl, fun other => ?_, fun other => ?_⟩
      · rw [hg, groupObject_setGroup]
        by_cases ho : other = group
        · subst ho
          rw [if_pos rfl, if_pos rfl]
          rfl
        · rw [if_neg ho, if_neg fun hc => ho (Option.some.inj hc).symm]
      · rw [hg, groupObject_setGroup]
        by_cases ho : other = group
        · subst ho
          rw [if_pos rfl, if_pos rfl]
          rfl
        · rw [if_neg ho, if_neg fun hc => ho (Option.some.inj hc).symm]
    dsimp only
    split
    · refine { hleft with known := fun other hk => ?_ }
      rcases hk with hk | ⟨hash, hk⟩
      · exact Or.inl (List.mem_of_mem_erase hk)
      · refine Or.inr ⟨hash, ?_⟩
        dsimp only at hk
        rw [Function.update_apply] at hk
        split at hk
        · exact absurd hk (Option.some_ne_none other).symm
        · exact hk
    · exact hleft

theorem GroupLeft.groupsTrack {b b' : PlayerBarn} {member : Nat → Prop} {p : Nat} (hl : GroupLeft b b' p)
    (h : b.GroupsTrack member) : b'.GroupsTrack fun q => member q ∧ q ≠ p := by
  have hdead : b'.dead = b.dead := by
    unfold dead
    rw [hl.playerObject]
  have hgroup : b'.group = b.group := by
    unfold PlayerBarn.group
    rw [hl.playerObject]
  unfold GroupsTrack
  rw [hdead, hgroup]
  exact FamilyTracks.leave h hl.groupPlayers hl.groupLiving

/-- What a removal leaves. -/
structure Removed (b b' : PlayerBarn) (p : Nat) : Prop where
  playerObject : b'.playerObject = b.playerObject
  players : b'.players = b.players.erase p
  killLeader : b'.killLeader = b.killLeader
  rosters : b'.Rosters

/-- A removal takes the player off every list. -/
theorem Rosters.removePlayer {b : PlayerBarn} (h : b.Rosters) (p : Nat) : Removed b (b.removePlayer rules p) p := by
  let b₁ : PlayerBarn := { b with players := b.players.erase p, livingPlayers := b.livingPlayers.erase p }
  let b₂ : PlayerBarn := (b₁.leaveTeam p).leaveGroup p
  have hleft : GroupLeft (b₁.leaveTeam p) b₂ p := groupLeft (b₁.leaveTeam p) p
  rw [leaveTeam_eq] at hleft
  have hobject : b₂.playerObject = b.playerObject := hleft.playerObject
  have hplayers : b₂.players = b.players.erase p := hleft.players
  have hdead : b₂.dead = b.dead := by
    unfold dead
    rw [hobject]
  have hmember : ∀ q, (q ∈ b.players ∧ q ≠ p) ↔ q ∈ b₂.players := by
    intro q
    rw [hplayers, h.barn.nodup.mem_erase_iff, and_comm]
  have hbarn : Tracks b₂.players b₂.livingPlayers (· ∈ b₂.players) b₂.dead := by
    rw [hplayers, hdead, hleft.livingPlayers]
    refine h.barn.remove (fun q => ?_) fun _ _ => rfl
    rw [h.barn.nodup.mem_erase_iff, and_comm]
  have hgroup : b₂.GroupsTrack (· ∈ b₂.players) := by
    have hleftGroup : b₂.GroupsTrack fun q => q ∈ b.players ∧ q ≠ p := hleft.groupsTrack h.group
    exact FamilyTracks.congr hleftGroup (fun q k => and_congr_left' (hmember q)) fun _ => rfl
  have hteam : b₂.TeamsTrack (· ∈ b₂.players) := by
    have hleftTeam : (b.leaveTeam p).TeamsTrack fun q => q ∈ b.players ∧ q ≠ p := TeamsTrack.leaveTeam h.team p
    rw [leaveTeam_eq] at hleftTeam
    refine hleftTeam.of_eq (fun team => ?_) (fun team => ?_) (fun q k => ?_) fun q => ?_
    · rw [hleft.teamObject]
      rfl
    · rw [hleft.teamObject]
      rfl
    · unfold PlayerBarn.team
      rw [hobject]
      exact and_congr_left' (hmember q)
    · rw [hdead]
      rfl
  have hrosters : b₂.Rosters := by
    refine ⟨fun q hq => ?_, hbarn, hgroup, hteam, fun group hg => ?_, fun group hg => ?_, fun q hq hd => ?_⟩
    · rw [hleft.nextPlayer]
      exact h.fresh q ((hmember q).2 hq).1
    · rw [hleft.nextGroupId] at hg
      have hempty : (b.groupObject group).players = [] := h.freshGroup group hg
      rw [hleft.groupPlayers]
      dsimp only
      rw [hempty]
      split <;> rfl
    · rw [hleft.nextGroupId]
      exact h.known group (hleft.known group hg)
    · rw [hobject]
      rw [hdead] at hd
      exact h.countdown q ((hmember q).2 hq).1 hd
  unfold PlayerBarn.removePlayer
  dsimp only
  split
  · refine ⟨hobject, hplayers, hleft.killLeader, ?_⟩
    exact { hrosters with barn := hbarn.perm (List.perm_insertionSort _ _) }
  · exact ⟨hobject, hplayers, hleft.killLeader, hrosters⟩

/-- The removal of a player that is not the kill leader keeps the books. -/
theorem Kept.removePlayer {b : PlayerBarn} (h : b.Kept) {p : Nat} (hleader : b.killLeader ≠ some p) :
    (b.removePlayer rules p).Kept := by
  have hr : Removed b (b.removePlayer rules p) p := h.toRosters.removePlayer p
  have hmem : ∀ q, q ∈ (b.removePlayer rules p).players ↔ q ≠ p ∧ q ∈ b.players := by
    intro q
    rw [hr.players, h.barn.nodup.mem_erase_iff]
  refine { hr.rosters with member := fun q hq => ?_, flagged := fun q hq => ?_ }
  · rw [hr.killLeader] at hq
    refine (hmem q).2 ⟨?_, h.member q hq⟩
    rintro rfl
    exact hleader hq
  · rw [hr.killLeader, hr.playerObject]
    exact h.flagged q ((hmem q).1 hq).2

/-- A removal of the kill leader leaves it the kill leader. -/
theorem Kept.removePlayer_unkept {b : PlayerBarn} (h : b.Kept) {p : Nat} (hleader : b.killLeader = some p) :
    ¬(b.removePlayer rules p).Bookkept := by
  have hr : Removed b (b.removePlayer rules p) p := h.toRosters.removePlayer p
  intro hb
  have hmem := hb.killLeader.1 p (hr.killLeader.trans hleader)
  rw [hr.players, h.barn.nodup.mem_erase_iff] at hmem
  exact hmem.1 rfl

theorem Kept.setPlayer {b : PlayerBarn} (h : b.Kept) {p : Nat} {f : Player → Player}
    (hsame : SameLists b (b.setPlayer p f))
    (hflag : (f (b.playerObject p)).isKillLeader = (b.playerObject p).isKillLeader) : (b.setPlayer p f).Kept := by
  have hled : (b.setPlayer p f).Led := h.toLed.of_same rfl rfl (isKillLeader_setPlayer hflag)
  exact { hsame.rosters h.toRosters, hled with }

theorem Kept.checkGroup {b : PlayerBarn} (h : b.Kept) (p : Nat) : (b.checkGroup p).Kept :=
  { h.toRosters.checkGroup p, h.toLed.checkGroup p with }

theorem leavesAtClose_disconnect (b : PlayerBarn) (p : Nat) :
    ((b.setPlayer p fun player => { player with disconnected := true }).checkGroup p).leavesAtClose rules p =
      b.leavesAtClose rules p := by
  unfold leavesAtClose canDespawn dead
  rw [checkGroup_eq]
  dsimp only
  rw [playerObject_setPlayer, if_pos rfl]

/-- A close keeps the books just when it does not remove the kill leader. -/
theorem Kept.handleSocketClose {b : PlayerBarn} (h : b.Kept) (p : Nat) :
    ((b.leavesAtClose rules p = true → b.killLeader ≠ some p) → (b.handleSocketClose rules p).Kept) ∧
      (¬(b.leavesAtClose rules p = true → b.killLeader ≠ some p) → ¬(b.handleSocketClose rules p).Bookkept) := by
  have hclosed : ((b.setPlayer p fun player => { player with disconnected := true }).checkGroup p).Kept :=
    (h.setPlayer (sameLists_setPlayer rfl rfl rfl id) rfl).checkGroup p
  have hleader : ((b.setPlayer p fun player => { player with disconnected := true }).checkGroup p).killLeader =
      b.killLeader := by
    rw [checkGroup_eq]
    rfl
  unfold PlayerBarn.handleSocketClose
  dsimp only
  rw [leavesAtClose_disconnect]
  by_cases hleaves : b.leavesAtClose rules p = true
  · rw [if_pos hleaves]
    constructor
    · exact fun hno => hclosed.removePlayer (hleader ▸ hno hleaves)
    · intro hyes
      refine hclosed.removePlayer_unkept (hleader.trans ?_)
      by_contra hne
      exact hyes fun _ => hne
  · rw [if_neg hleaves]
    exact ⟨fun _ => hclosed, fun hyes => absurd (fun hl => absurd hl hleaves) hyes⟩

theorem Kept.cleanupRetained {b : PlayerBarn} (h : b.Kept) (p : Nat) :
    ((b.leavesAtCleanup rules p = true → b.killLeader ≠ some p) → (b.cleanupRetained rules p).Kept) ∧
      (¬(b.leavesAtCleanup rules p = true → b.killLeader ≠ some p) → ¬(b.cleanupRetained rules p).Bookkept) := by
  unfold PlayerBarn.cleanupRetained
  by_cases hleaves : b.leavesAtCleanup rules p = true
  · rw [if_pos hleaves]
    constructor
    · exact fun hno => h.removePlayer (hno hleaves)
    · intro hyes
      refine h.removePlayer_unkept ?_
      by_contra hne
      exact hyes fun _ => hne
  · rw [if_neg hleaves]
    exact ⟨fun _ => h, fun hyes => absurd (fun hl => absurd hl hleaves) hyes⟩

/-! ### Joins -/

/-- A group that is found or made is one of the barn's, and the books are kept. -/
structure Found (b b' : PlayerBarn) (group : Option Nat) : Prop where
  kept : b'.Kept
  nextPlayer : b'.nextPlayer = b.nextPlayer
  restoredPlayers : b'.restoredPlayers = b.restoredPlayers
  group : ∀ g ∈ group, g < b'.nextGroupId

theorem Kept.addGroup {b b' : PlayerBarn} (h : b.Kept) {hash : String} {autoFill : Bool} {group : Nat}
    (hadd : b.addGroup rules hash autoFill = some (group, b')) : Found b b' (some group) := by
  unfold PlayerBarn.addGroup getNextId at hadd
  split at hadd
  · simp only [Option.map_some, Option.some.injEq, Prod.mk.injEq] at hadd
    obtain ⟨rfl, rfl⟩ := hadd
    have hnone : ∀ p, ¬(p ∈ b.players ∧ b.group p = some b.nextGroupId) := by
      intro p hp
      have hmem := ((h.group b.nextGroupId).mem p).2 hp
      dsimp only at hmem
      rw [h.freshGroup b.nextGroupId (le_refl _)] at hmem
      exact absurd hmem List.not_mem_nil
    refine ⟨?_, rfl, rfl, fun g hg => ?_⟩
    · refine { h with group := fun other => ?_, freshGroup := fun other ho => ?_, known := fun other ho => ?_ }
      · dsimp only
        rw [Function.update_apply]
        by_cases hother : other = b.nextGroupId
        · subst hother
          rw [if_pos rfl]
          exact tracks_nil hnone
        · rw [if_neg hother]
          exact h.group other
      · dsimp only at ho ⊢
        rw [Function.update_of_ne (by omega)]
        exact h.freshGroup other (by omega)
      · dsimp only
        rcases ho with ho | ⟨hash', ho⟩
        · rcases List.mem_append.1 ho with ho | ho
          · have := h.known other (Or.inl ho)
            omega
          · rw [List.mem_singleton.1 ho]
            omega
        · dsimp only at ho
          rw [Function.update_apply] at ho
          split at ho
          · cases ho
            omega
          · have := h.known other (Or.inr ⟨hash', ho⟩)
            omega
    · cases Option.mem_some.1 hg
      exact Nat.lt_succ_self _
  · exact absurd hadd (Option.some_ne_none _).symm

theorem known_of_findGroup {b : PlayerBarn} {join : JoinData} {team : Option Nat} {group : Nat}
    (hfound : b.findGroup join team = some group) : b.Known group := by
  unfold findGroup at hfound
  rcases Option.or_eq_some_iff.1 hfound with hhash | ⟨-, hfill⟩
  · exact Or.inr ⟨_, hhash⟩
  · left
    split at hfill
    · have hmem := List.mem_of_find?_eq_some hfill
      cases team with
      | none => exact hmem
      | some team => exact List.mem_of_mem_filter hmem
    · exact absurd hfill (Option.some_ne_none _).symm

theorem sameLists_reserveSlots (b : PlayerBarn) (join : JoinData) (group : Nat) :
    SameLists b (b.reserveSlots join group) := by
  unfold reserveSlots
  split
  · exact SameLists.refl b
  · refine { SameLists.refl b with groupPlayers := fun other => ?_, groupLiving := fun other => ?_ }
    · dsimp only
      rw [Function.update_apply]
      split
      · rename_i ho
        rw [ho]
      · rfl
    · dsimp only
      rw [Function.update_apply]
      split
      · rename_i ho
        rw [ho]
      · rfl

theorem Found.reserveSlots {b b' : PlayerBarn} {group : Nat} (h : Found b b' (some group)) (join : JoinData) :
    Found b (b'.reserveSlots join group) (some group) := by
  have hsame := sameLists_reserveSlots b' join group
  have hrest : (b'.reserveSlots join group).killLeader = b'.killLeader ∧
      (b'.reserveSlots join group).playerObject = b'.playerObject ∧
      (b'.reserveSlots join group).restoredPlayers = b'.restoredPlayers := by
    unfold PlayerBarn.reserveSlots
    split
    · exact ⟨rfl, rfl, rfl⟩
    · exact ⟨rfl, rfl, rfl⟩
  have hled : (b'.reserveSlots join group).Led :=
    h.kept.toLed.of_same hsame.players hrest.1 fun p => by rw [hrest.2.1]
  exact ⟨{ hsame.rosters h.kept.toRosters, hled with }, hsame.nextPlayer.trans h.nextPlayer,
    hrest.2.2.trans h.restoredPlayers, fun g hg => (h.group g hg).trans_le hsame.nextGroupId⟩

theorem Kept.getGroupAndTeam {b b' : PlayerBarn} (h : b.Kept) {join : JoinData} {group team : Option Nat}
    (hget : b.getGroupAndTeam rules join = some (group, team, b')) : Found b b' group := by
  unfold PlayerBarn.getGroupAndTeam at hget
  split at hget
  · obtain ⟨⟨g, b₁⟩, htake, heq⟩ := Option.map_eq_some_iff.1 hget
    simp only [Prod.mk.injEq] at heq
    obtain ⟨rfl, rfl, rfl⟩ := heq
    have hfound : Found b b₁ (some g) := by
      unfold takeGroup at htake
      split at htake
      · rename_i found hfilter
        cases htake
        refine ⟨h, rfl, rfl, fun g hg => ?_⟩
        cases Option.mem_some.1 hg
        exact h.known _ (known_of_findGroup (Option.filter_eq_some_iff.1 hfilter).1)
      · exact h.addGroup htake
    exact hfound.reserveSlots join
  · cases hget
    exact ⟨h, rfl, rfl, fun g hg => absurd hg (Option.not_mem_none g)⟩

/-- What putting a player that is not yet in the barn into its group and team does not touch. -/
structure Placed (b b' : PlayerBarn) (p : Nat) : Prop where
  players : b'.players = b.players
  livingPlayers : b'.livingPlayers = b.livingPlayers
  killLeader : b'.killLeader = b.killLeader
  nextPlayer : b'.nextPlayer = b.nextPlayer
  restoredPlayers : b'.restoredPlayers = b.restoredPlayers
  nextGroupId : b.nextGroupId ≤ b'.nextGroupId
  known : ∀ group, b'.Known group → b.Known group
  freshGroup : (∀ group, b.nextGroupId ≤ group → (b.groupObject group).players = []) →
    ∀ group, b'.nextGroupId ≤ group → (b'.groupObject group).players = []
  dead : ∀ q, b'.dead q = b.dead q
  ticker : ∀ q, (b'.playerObject q).opsiaRespawnTicker = (b.playerObject q).opsiaRespawnTicker
  flag : ∀ q, (b'.playerObject q).isKillLeader = (b.playerObject q).isKillLeader
  group : ∀ q, q ≠ p → b'.group q = b.group q
  team : ∀ q, q ≠ p → b'.team q = b.team q

theorem Placed.trans {b b' b'' : PlayerBarn} {p : Nat} (h : Placed b b' p) (h' : Placed b' b'' p) : Placed b b'' p where
  players := h'.players.trans h.players
  livingPlayers := h'.livingPlayers.trans h.livingPlayers
  killLeader := h'.killLeader.trans h.killLeader
  nextPlayer := h'.nextPlayer.trans h.nextPlayer
  restoredPlayers := h'.restoredPlayers.trans h.restoredPlayers
  nextGroupId := h.nextGroupId.trans h'.nextGroupId
  known := fun group hg => h.known group (h'.known group hg)
  freshGroup := fun hfresh => h'.freshGroup (h.freshGroup hfresh)
  dead := fun q => (h'.dead q).trans (h.dead q)
  ticker := fun q => (h'.ticker q).trans (h.ticker q)
  flag := fun q => (h'.flag q).trans (h.flag q)
  group := fun q hq => (h'.group q hq).trans (h.group q hq)
  team := fun q hq => (h'.team q hq).trans (h.team q hq)

theorem placed_setPlayer {b : PlayerBarn} {p : Nat} {f : Player → Player}
    (hdead : (f (b.playerObject p)).dead = b.dead p)
    (hticker : (f (b.playerObject p)).opsiaRespawnTicker = (b.playerObject p).opsiaRespawnTicker)
    (hflag : (f (b.playerObject p)).isKillLeader = (b.playerObject p).isKillLeader) : Placed b (b.setPlayer p f) p := by
  refine ⟨rfl, rfl, rfl, rfl, rfl, le_refl _, fun _ h => h, fun h => h, fun q => ?_, fun q => ?_,
    isKillLeader_setPlayer hflag, fun q hq => ?_, fun q hq => ?_⟩
  · rw [dead_setPlayer]
    split
    · rename_i hq
      rw [hdead, hq]
    · rfl
  · rw [playerObject_setPlayer]
    split
    · rename_i hq
      rw [hticker, hq]
    · rfl
  · unfold PlayerBarn.group
    rw [playerObject_setPlayer, if_neg hq]
  · unfold PlayerBarn.team
    rw [playerObject_setPlayer, if_neg hq]

theorem placed_joinGroup {b : PlayerBarn} {p group : Nat} (hgroup : group < b.nextGroupId) :
    Placed b (b.joinGroup p group) p := by
  have hset : Placed b (b.setPlayer p fun player => { player with groupId := group, group := some group }) p :=
    placed_setPlayer rfl rfl rfl
  refine { hset with freshGroup := fun hfresh other ho => ?_ }
  have hne : other ≠ group := by
    rintro rfl
    exact absurd hgroup (not_lt.2 ho)
  unfold joinGroup
  rw [groupObject_setGroup, if_neg hne]
  exact hfresh other ho

theorem placed_joinTeam (b : PlayerBarn) (p team : Nat) : Placed b (b.joinTeam p team) p := by
  have hset : Placed b (b.setPlayer p fun player => { player with teamId := team, team := some team }) p :=
    placed_setPlayer rfl rfl rfl
  exact { hset with }

theorem placed_getNextId {b b' : PlayerBarn} {id : Nat} (hnext : b.getNextId = some (id, b')) (p : Nat) :
    Placed b b' p := by
  unfold getNextId at hnext
  split at hnext
  · cases hnext
    refine ⟨rfl, rfl, rfl, rfl, rfl, Nat.le_succ _, fun _ h => h, fun hfresh group hg => ?_, fun _ => rfl, fun _ => rfl,
      fun _ => rfl, fun _ _ => rfl, fun _ _ => rfl⟩
    exact hfresh group ((Nat.le_succ _).trans hg)
  · exact absurd hnext (Option.some_ne_none _).symm

theorem dead_joinGroup (b : PlayerBarn) (p group : Nat) : (b.joinGroup p group).dead = b.dead := by
  funext q
  have hset : (b.setPlayer p fun player => { player with groupId := group, group := some group }).dead q = b.dead q :=
    (placed_setPlayer rfl rfl rfl).dead q
  exact hset

theorem dead_joinTeam (b : PlayerBarn) (p team : Nat) : (b.joinTeam p team).dead = b.dead :=
  funext (placed_joinTeam b p team).dead

theorem playerObject_joinGroup (b : PlayerBarn) (p group q : Nat) :
    (b.joinGroup p group).playerObject q =
      if q = p then { b.playerObject p with groupId := group, group := some group } else b.playerObject q :=
  playerObject_setPlayer b p q fun player => { player with groupId := group, group := some group }

theorem playerObject_joinTeam (b : PlayerBarn) (p team q : Nat) :
    (b.joinTeam p team).playerObject q =
      if q = p then { b.playerObject p with teamId := team, team := some team } else b.playerObject q :=
  playerObject_setPlayer b p q fun player => { player with teamId := team, team := some team }

theorem group_joinGroup (b : PlayerBarn) (p group : Nat) : (b.joinGroup p group).group p = some group := by
  unfold PlayerBarn.group
  rw [playerObject_joinGroup, if_pos rfl]

theorem team_joinTeam (b : PlayerBarn) (p team : Nat) : (b.joinTeam p team).team p = some team := by
  unfold PlayerBarn.team
  rw [playerObject_joinTeam, if_pos rfl]

/-- A player that is on no group's list comes onto one. -/
theorem GroupsTrack.joinGroup {b : PlayerBarn} {member : Nat → Prop} {p : Nat}
    (h : b.GroupsTrack fun q => member q ∧ q ≠ p) (hp : member p) (group : Nat) :
    (b.joinGroup p group).GroupsTrack member := by
  unfold GroupsTrack
  rw [dead_joinGroup]
  refine FamilyTracks.enter h hp (group_joinGroup b p group) (fun q hq => ?_) (fun other => ?_) fun other => ?_
  · unfold PlayerBarn.group
    rw [playerObject_joinGroup, if_neg hq]
  · unfold PlayerBarn.joinGroup
    rw [groupObject_setGroup]
    split
    · rename_i ho
      rw [ho]
      rfl
    · rfl
  · unfold PlayerBarn.joinGroup
    rw [groupObject_setGroup]
    split
    · rename_i ho
      rw [ho, ← dead_joinGroup b p group]
      rfl
    · rfl

theorem TeamsTrack.joinTeam {b : PlayerBarn} {member : Nat → Prop} {p : Nat}
    (h : b.TeamsTrack fun q => member q ∧ q ≠ p) (hp : member p) (team : Nat) :
    (b.joinTeam p team).TeamsTrack member := by
  unfold TeamsTrack
  rw [dead_joinTeam]
  refine FamilyTracks.enter h hp (team_joinTeam b p team) (fun q hq => (placed_joinTeam b p team).team q hq)
    (fun other => ?_) fun other => ?_
  · unfold PlayerBarn.joinTeam
    rw [teamObject_setTeam]
    split
    · rename_i ho
      rw [ho]
      rfl
    · rfl
  · unfold PlayerBarn.joinTeam
    rw [teamObject_setTeam]
    split
    · rename_i ho
      rw [ho, ← dead_joinTeam b p team]
      rfl
    · rfl

theorem TeamsTrack.joinGroup {b : PlayerBarn} {member : Nat → Prop} (h : b.TeamsTrack member) (p group : Nat) :
    (b.joinGroup p group).TeamsTrack member := by
  refine h.of_eq (fun _ => rfl) (fun _ => rfl) (fun q k => ?_) fun q => congrFun (dead_joinGroup b p group).symm q
  have hteam : (b.joinGroup p group).team q = b.team q := by
    unfold PlayerBarn.team
    rw [playerObject_joinGroup]
    split
    · rename_i hq
      rw [hq]
    · rfl
  rw [hteam]

theorem GroupsTrack.joinTeam {b : PlayerBarn} {member : Nat → Prop} (h : b.GroupsTrack member) (p team : Nat) :
    (b.joinTeam p team).GroupsTrack member := by
  refine h.of_eq (fun _ => rfl) (fun _ => rfl) (fun q k => ?_) fun q => congrFun (dead_joinTeam b p team).symm q
  have hgroup : (b.joinTeam p team).group q = b.group q := by
    unfold PlayerBarn.group
    rw [playerObject_joinTeam]
    split
    · rename_i hq
      rw [hq]
    · rfl
  rw [hgroup]

theorem tracks_getNextId {b b' : PlayerBarn} {id : Nat} {member : Nat → Prop} (hnext : b.getNextId = some (id, b'))
    (hgroups : b.GroupsTrack member) (hteams : b.TeamsTrack member) : b'.GroupsTrack member ∧ b'.TeamsTrack member := by
  unfold getNextId at hnext
  split at hnext
  · cases hnext
    exact ⟨hgroups, hteams⟩
  · exact absurd hnext (Option.some_ne_none _).symm

theorem GroupsTrack.setPlayer {b : PlayerBarn} {member : Nat → Prop} (h : b.GroupsTrack member) {p : Nat}
    {f : Player → Player} (hs : SameLists b (b.setPlayer p f)) : (b.setPlayer p f).GroupsTrack member :=
  h.of_eq hs.groupPlayers hs.groupLiving (fun q k => by rw [hs.group]) fun q => (hs.dead q).symm

theorem TeamsTrack.setPlayer {b : PlayerBarn} {member : Nat → Prop} (h : b.TeamsTrack member) {p : Nat}
    {f : Player → Player} (hs : SameLists b (b.setPlayer p f)) : (b.setPlayer p f).TeamsTrack member :=
  h.of_eq hs.teamPlayers hs.teamLiving (fun q k => by rw [hs.team]) fun q => (hs.dead q).symm

/-- The player has its place in the groups and teams. -/
structure Entered (b b' : PlayerBarn) (p : Nat) : Prop extends Placed b b' p where
  groups : b'.GroupsTrack fun q => q ∈ b.players ∨ q = p
  teams : b'.TeamsTrack fun q => q ∈ b.players ∨ q = p

/-- A player without group and team is given them. -/
theorem Kept.enterGroups {b b' : PlayerBarn} {p : Nat} {group team : Option Nat} (h : b.Kept) (hp : p ∉ b.players)
    (hnogroup : b.group p = none) (hnoteam : b.team p = none) (hgroup : ∀ g ∈ group, g < b.nextGroupId)
    (henter : b.enterGroups p group team = some b') : Entered b b' p := by
  have hothers : ∀ q, ((q ∈ b.players ∨ q = p) ∧ q ≠ p) ↔ q ∈ b.players := by
    intro q
    constructor
    · exact fun hq => hq.1.resolve_right hq.2
    · intro hq
      refine ⟨Or.inl hq, ?_⟩
      rintro rfl
      exact hp hq
  have hgroups : b.GroupsTrack fun q => q ∈ b.players ∨ q = p := by
    refine h.group.of_eq (fun _ => rfl) (fun _ => rfl) (fun q k => ?_) fun _ => rfl
    constructor
    · exact fun hq => ⟨Or.inl hq.1, hq.2⟩
    · rintro ⟨hq | rfl, hk⟩
      · exact ⟨hq, hk⟩
      · exact absurd (hnogroup.symm.trans hk) (Option.some_ne_none k).symm
  have hteams : b.TeamsTrack fun q => q ∈ b.players ∨ q = p := by
    refine h.team.of_eq (fun _ => rfl) (fun _ => rfl) (fun q k => ?_) fun _ => rfl
    constructor
    · exact fun hq => ⟨Or.inl hq.1, hq.2⟩
    · rintro ⟨hq | rfl, hk⟩
      · exact ⟨hq, hk⟩
      · exact absurd (hnoteam.symm.trans hk) (Option.some_ne_none k).symm
  have hgroups' : b.GroupsTrack fun q => (q ∈ b.players ∨ q = p) ∧ q ≠ p :=
    h.group.of_eq (fun _ => rfl) (fun _ => rfl) (fun q k => and_congr_left' (hothers q).symm) fun _ => rfl
  have hteams' : b.TeamsTrack fun q => (q ∈ b.players ∨ q = p) ∧ q ≠ p :=
    h.team.of_eq (fun _ => rfl) (fun _ => rfl) (fun q k => and_congr_left' (hothers q).symm) fun _ => rfl
  unfold PlayerBarn.enterGroups at henter
  cases team with
  | some team =>
    have hteam := placed_joinTeam b p team
    cases group with
    | some group =>
      cases henter
      have hjoin : Placed (b.joinTeam p team) ((b.joinTeam p team).joinGroup p group) p :=
        placed_joinGroup ((hgroup group rfl).trans_le hteam.nextGroupId)
      refine { hteam.trans hjoin with groups := ?_, teams := ?_ }
      · exact (hgroups'.joinTeam p team).joinGroup (Or.inr rfl) group
      · exact (hteams'.joinTeam (Or.inr rfl) team).joinGroup p group
    | none =>
      obtain ⟨⟨id, b₁⟩, hnext, rfl⟩ := Option.map_eq_some_iff.1 henter
      have hid := placed_getNextId hnext p
      have hset : Placed b₁ (b₁.setPlayer p fun player => { player with groupId := id }) p :=
        placed_setPlayer rfl rfl rfl
      have hsame : SameLists b₁ (b₁.setPlayer p fun player => { player with groupId := id }) :=
        sameLists_setPlayer rfl rfl rfl fun h => h
      obtain ⟨hgroups₁, hteams₁⟩ := tracks_getNextId hnext (hgroups.joinTeam p team)
        (hteams'.joinTeam (Or.inr rfl) team)
      exact { (hteam.trans hid).trans hset with
              groups := hgroups₁.setPlayer hsame
              teams := hteams₁.setPlayer hsame }
  | none =>
    cases group with
    | some group =>
      cases henter
      have hjoin := placed_joinGroup (p := p) (hgroup group rfl)
      have hset : Placed (b.joinGroup p group)
          ((b.joinGroup p group).setPlayer p fun player => { player with teamId := player.groupId }) p :=
        placed_setPlayer rfl rfl rfl
      have hsame : SameLists (b.joinGroup p group)
          ((b.joinGroup p group).setPlayer p fun player => { player with teamId := player.groupId }) :=
        sameLists_setPlayer rfl rfl rfl fun h => h
      exact { hjoin.trans hset with
              groups := (hgroups'.joinGroup (Or.inr rfl) group).setPlayer hsame
              teams := (hteams.joinGroup p group).setPlayer hsame }
    | none =>
      obtain ⟨⟨id, b₁⟩, hnext, rfl⟩ := Option.map_eq_some_iff.1 henter
      have hid := placed_getNextId hnext p
      have hset : Placed b₁ (b₁.setPlayer p fun player => { player with groupId := id, teamId := id }) p :=
        placed_setPlayer rfl rfl rfl
      have hsame : SameLists b₁ (b₁.setPlayer p fun player => { player with groupId := id, teamId := id }) :=
        sameLists_setPlayer rfl rfl rfl fun h => h
      obtain ⟨hgroups₁, hteams₁⟩ := tracks_getNextId hnext hgroups hteams
      exact { hid.trans hset with
              groups := hgroups₁.setPlayer hsame
              teams := hteams₁.setPlayer hsame }

/-- The player is on the lists of the barn as well, alive. -/
theorem Entered.activated {b b' : PlayerBarn} {p : Nat} {livingPlayers : List Nat} (he : Entered b b' p) (h : b.Kept)
    (hp : p ∉ b.players) (hfresh : p < b.nextPlayer) (hdead : b.dead p = false)
    (hflag : (b.playerObject p).isKillLeader = false) (hliving : livingPlayers.Perm (b'.livingPlayers ++ [p])) :
    { b' with players := b'.players ++ [p], livingPlayers := livingPlayers }.Kept := by
  have hdead' : b'.dead = b.dead := funext he.dead
  have hmember : ∀ q, (q ∈ b.players ∨ q = p) ↔ q ∈ b'.players ++ [p] := by
    intro q
    rw [he.players, List.mem_append, List.mem_singleton]
  have hbarn : Tracks (b'.players ++ [p]) (b'.livingPlayers ++ [p]) (· ∈ b'.players ++ [p]) b'.dead := by
    rw [he.players, he.livingPlayers, hdead']
    refine h.barn.add hp (fun q => ?_) (fun _ _ => rfl) hdead
    rw [List.mem_append, List.mem_singleton]
  refine { fresh := ?_, barn := hbarn.perm hliving, group := ?_, team := ?_, freshGroup := he.freshGroup h.freshGroup,
           known := ?_, countdown := ?_, member := ?_, flagged := ?_ }
  · intro q hq
    dsimp only
    rw [he.nextPlayer]
    rcases (hmember q).2 hq with hq | rfl
    · exact h.fresh q hq
    · exact hfresh
  · exact he.groups.of_eq (fun _ => rfl) (fun _ => rfl) (fun q k => and_congr_left' (hmember q)) fun _ => rfl
  · exact he.teams.of_eq (fun _ => rfl) (fun _ => rfl) (fun q k => and_congr_left' (hmember q)) fun _ => rfl
  · exact fun group hg => (h.known group (he.known group hg)).trans_le he.nextGroupId
  · intro q hq hd
    have halive : b.dead q = true := (he.dead q).symm.trans hd
    change 0 ≤ (b'.playerObject q).opsiaRespawnTicker
    rw [he.ticker]
    rcases (hmember q).2 hq with hq | rfl
    · exact h.countdown q hq halive
    · exact absurd (hdead.symm.trans halive) Bool.false_ne_true
  · intro q hq
    have hq : q ∈ b'.killLeader := hq
    rw [he.killLeader] at hq
    exact (hmember q).1 (Or.inl (h.member q hq))
  · intro q hq
    change b'.killLeader = some q ↔ (b'.playerObject q).isKillLeader = true
    rw [he.killLeader, he.flag]
    rcases (hmember q).2 hq with hq | rfl
    · exact h.flagged q hq
    · rw [hflag]
      exact ⟨fun hleader => absurd (h.member q hleader) hp, fun hf => absurd hf Bool.false_ne_true⟩

/-- A new object is no player of the barn, of no group or team, alive and not the kill leader. -/
theorem Kept.newPlayer {b : PlayerBarn} (h : b.Kept) (join : JoinData) :
    (b.newPlayer join).Kept ∧ b.nextPlayer ∉ b.players ∧ (b.newPlayer join).group b.nextPlayer = none ∧
      (b.newPlayer join).team b.nextPlayer = none ∧ (b.newPlayer join).dead b.nextPlayer = false ∧
      ((b.newPlayer join).playerObject b.nextPlayer).isKillLeader = false := by
  have hself : (b.newPlayer join).playerObject b.nextPlayer = { findGameIp := join.findGameIp, bot := join.bot } :=
    Function.update_self _ _ _
  have hother : ∀ q ∈ b.players, (b.newPlayer join).playerObject q = b.playerObject q := fun q hq =>
    Function.update_of_ne (h.fresh q hq).ne _ _
  have hdead : ∀ q ∈ b.players, b.dead q = (b.newPlayer join).dead q := fun q hq =>
    (congrArg Player.dead (hother q hq)).symm
  refine ⟨?_, fun hmem => absurd (h.fresh _ hmem) (lt_irrefl _), congrArg Player.group hself,
    congrArg Player.team hself, congrArg Player.dead hself, congrArg Player.isKillLeader hself⟩
  refine { h with fresh := fun q hq => ?_, barn := ?_, group := fun g => ?_, team := fun t => ?_,
                  countdown := fun q hq hd => ?_, flagged := fun q hq => ?_ }
  · exact (h.fresh q hq).trans (Nat.lt_succ_self _)
  · exact h.barn.congr (fun _ => Iff.rfl) hdead
  · refine (h.group g).congr (fun q => and_congr_right fun hq => ?_) fun q hq => hdead q hq.1
    unfold PlayerBarn.group
    rw [hother q hq]
  · refine (h.team t).congr (fun q => and_congr_right fun hq => ?_) fun q hq => hdead q hq.1
    unfold PlayerBarn.team
    rw [hother q hq]
  · rw [hother q hq]
    exact h.countdown q hq ((hdead q hq).trans hd)
  · rw [hother q hq]
    exact h.flagged q hq

/-- A player of the barn is moved to the team of its snapshot. -/
theorem Kept.restoreTeam {b : PlayerBarn} (h : b.Kept) {p : Nat} (hp : p ∈ b.players) (state : LoosePlayerState) :
    (b.restoreTeam p state).Kept ∧ Placed b (b.restoreTeam p state) p := by
  have hleave : Placed b (b.leaveTeam p) p := by
    rw [leaveTeam_eq]
    exact ⟨rfl, rfl, rfl, rfl, rfl, le_refl _, fun _ h => h, fun h => h, fun _ => rfl, fun _ => rfl, fun _ => rfl,
      fun _ _ => rfl, fun _ _ => rfl⟩
  have hplaced : Placed b ((b.leaveTeam p).joinTeam p state.teamId) p := hleave.trans (placed_joinTeam _ p state.teamId)
  have hteams : ((b.leaveTeam p).joinTeam p state.teamId).TeamsTrack (· ∈ b.players) :=
    TeamsTrack.joinTeam (h.team.leaveTeam p) hp state.teamId
  have hgroups : ((b.leaveTeam p).joinTeam p state.teamId).GroupsTrack (· ∈ b.players) := by
    refine GroupsTrack.joinTeam ?_ p state.teamId
    rw [leaveTeam_eq]
    exact h.group
  have hmoved : ((b.leaveTeam p).joinTeam p state.teamId).Kept := by
    have hled : ((b.leaveTeam p).joinTeam p state.teamId).Led :=
      h.toLed.of_same hplaced.players hplaced.killLeader hplaced.flag
    refine { hled with fresh := fun q hq => ?_, barn := ?_, group := ?_, team := ?_,
                       freshGroup := hplaced.freshGroup h.freshGroup, known := ?_, countdown := fun q hq hd => ?_ }
    · rw [hplaced.nextPlayer]
      exact h.fresh q (hplaced.players ▸ hq)
    · rw [hplaced.players, hplaced.livingPlayers]
      exact h.barn.congr (fun _ => Iff.rfl) fun q _ => (hplaced.dead q).symm
    · rw [hplaced.players]
      exact hgroups
    · rw [hplaced.players]
      exact hteams
    · exact fun g hg => (h.known g (hplaced.known g hg)).trans_le hplaced.nextGroupId
    · rw [hplaced.ticker]
      exact h.countdown q (hplaced.players ▸ hq) ((hplaced.dead q) ▸ hd)
  unfold PlayerBarn.restoreTeam
  split
  · exact ⟨hmoved, hplaced⟩
  · refine ⟨h, ?_⟩
    exact ⟨rfl, rfl, rfl, rfl, rfl, le_refl _, fun _ h => h, fun h => h, fun _ => rfl, fun _ => rfl, fun _ => rfl,
      fun _ _ => rfl, fun _ _ => rfl⟩

/-- A snapshot's player that is restored to a living player that is not flagged keeps the books just when it is alive
and not the kill leader. -/
theorem Kept.restore {b : PlayerBarn} (h : b.Kept) {p : Nat} (hp : p ∈ b.players) (hdead : b.dead p = false)
    (hflag : (b.playerObject p).isKillLeader = false) (state : LoosePlayerState) :
    (state.dead ≠ some true ∧ state.isKillLeader ≠ some true → (b.setPlayer p state.restore).Kept) ∧
      (¬(state.dead ≠ some true ∧ state.isKillLeader ≠ some true) → ¬(b.setPlayer p state.restore).Bookkept) := by
  have hobject : (b.setPlayer p state.restore).playerObject p = state.restore (b.playerObject p) := by
    rw [playerObject_setPlayer, if_pos rfl]
  constructor
  · rintro ⟨halive, hnoleader⟩
    have hrestored : (state.restore (b.playerObject p)).isKillLeader = (b.playerObject p).isKillLeader := by
      unfold LoosePlayerState.restore
      dsimp only
      cases hs : state.isKillLeader with
      | none => rfl
      | some flag =>
        cases flag with
        | true => exact absurd hs hnoleader
        | false => exact hflag.symm
    refine h.setPlayer (sameLists_setPlayer ?_ rfl rfl id) hrestored
    rw [hdead]
    exact decide_eq_false halive
  · intro hnot hb
    by_cases hstate : state.dead = some true
    · have hliving : p ∈ b.livingPlayers := (h.barn.living p).2 ⟨hp, hdead⟩
      have halive := (hb.living.2 p hp).1 hliving
      unfold dead at halive
      rw [hobject] at halive
      exact absurd (halive.symm.trans (decide_eq_true hstate)) Bool.false_ne_true
    · have hleader : state.isKillLeader = some true := by
        by_contra hne
        exact hnot ⟨hstate, hne⟩
      have hflagged : ((b.setPlayer p state.restore).playerObject p).isKillLeader = true := by
        rw [hobject]
        unfold LoosePlayerState.restore
        rw [hleader]
        rfl
      have hled : b.killLeader = some p := (hb.killLeader.2 p hp).2 hflagged
      exact absurd (((h.flagged p hp).1 hled).symm.trans hflag) (by decide)

/-- The join makes no player that its snapshot has as dead or as kill leader. -/
def JoinKeeps (b : PlayerBarn) (join : JoinData) : Prop :=
  ∀ id ∈ join.session, b.sessionPlayer id = none →
    ∀ state ∈ b.restoredState id, state.dead ≠ some true ∧ state.isKillLeader ≠ some true

instance (b : PlayerBarn) (join : JoinData) : Decidable (b.JoinKeeps join) := by
  unfold JoinKeeps
  infer_instance

/-- `restorePlayer` of a living player that is not flagged. -/
theorem Kept.restorePlayer {b : PlayerBarn} (h : b.Kept) {p : Nat} (hp : p ∈ b.players) (hdead : b.dead p = false)
    (hflag : (b.playerObject p).isKillLeader = false) (join : JoinData) :
    ((∀ id ∈ join.session, ∀ state ∈ b.restoredState id, state.dead ≠ some true ∧ state.isKillLeader ≠ some true) →
      (b.restorePlayer p join).Kept) ∧
    (¬(∀ id ∈ join.session, ∀ state ∈ b.restoredState id, state.dead ≠ some true ∧ state.isKillLeader ≠ some true) →
      ¬(b.restorePlayer p join).Bookkept) := by
  unfold PlayerBarn.restorePlayer
  cases hsession : join.session with
  | none => exact ⟨fun _ => h, fun hnot => absurd (fun id hid => absurd hid (Option.not_mem_none id)) hnot⟩
  | some id =>
    have hnamed : (b.setPlayer p fun player => { player with opsiaSessionId := id }).Kept :=
      h.setPlayer (sameLists_setPlayer rfl rfl rfl fun h => h) rfl
    have hstate : (b.setPlayer p fun player => { player with opsiaSessionId := id }).restoredState id =
        b.restoredState id := rfl
    dsimp only
    rw [hstate]
    cases hs : b.restoredState id with
    | none =>
      refine ⟨fun _ => hnamed, fun hnot => absurd (fun id' hid state hmem => ?_) hnot⟩
      cases Option.mem_some.1 hid
      rw [hs] at hmem
      exact absurd hmem (Option.not_mem_none state)
    | some state =>
      obtain ⟨hmoved, hplaced⟩ := hnamed.restoreTeam hp state
      have hmem :
          p ∈ ((b.setPlayer p fun player => { player with opsiaSessionId := id }).restoreTeam p state).players := by
        rw [hplaced.players]
        exact hp
      have hdead' : ((b.setPlayer p fun player => { player with opsiaSessionId := id }).restoreTeam p state).dead p =
          false := by
        rw [hplaced.dead, dead_setPlayer, if_pos rfl]
        exact hdead
      have hflag' : (((b.setPlayer p fun player =>
          { player with opsiaSessionId := id }).restoreTeam p state).playerObject p).isKillLeader = false := by
        rw [hplaced.flag, playerObject_setPlayer, if_pos rfl]
        exact hflag
      have hiff : (∀ id' ∈ some id, ∀ state' ∈ b.restoredState id', state'.dead ≠ some true ∧
          state'.isKillLeader ≠ some true) ↔ state.dead ≠ some true ∧ state.isKillLeader ≠ some true := by
        constructor
        · exact fun hall => hall id rfl state hs
        · intro hone id' hid state' hstate'
          cases Option.mem_some.1 hid
          rw [hs] at hstate'
          cases Option.mem_some.1 hstate'
          exact hone
      obtain ⟨hgood, hbad⟩ := hmoved.restore hmem hdead' hflag' state
      dsimp only
      rw [hiff]
      exact ⟨fun hone => { hgood hone with }, fun hnot hb => hbad hnot { hb with }⟩

/-- A join keeps the books just when it makes no player that its snapshot has as dead or as kill leader. -/
theorem Kept.addPlayer {b b' : PlayerBarn} {join : JoinData} (h : b.Kept) (hadd : b.addPlayer rules join = some b') :
    ((∀ id ∈ join.session, ∀ state ∈ b.restoredState id, state.dead ≠ some true ∧ state.isKillLeader ≠ some true) →
      b'.Kept) ∧
    (¬(∀ id ∈ join.session, ∀ state ∈ b.restoredState id, state.dead ≠ some true ∧ state.isKillLeader ≠ some true) →
      ¬b'.Bookkept) := by
  unfold PlayerBarn.addPlayer at hadd
  obtain ⟨⟨group, team, b₁⟩, hget, hadd⟩ := Option.bind_eq_some_iff.1 hadd
  obtain ⟨b₂, hactivate, rfl⟩ := Option.map_eq_some_iff.1 hadd
  have hfound := h.getGroupAndTeam hget
  obtain ⟨hnew, hmem, hnogroup, hnoteam, hdead, hflag⟩ := hfound.kept.newPlayer join
  unfold activatePlayer at hactivate
  obtain ⟨b₃, henter, rfl⟩ := Option.map_eq_some_iff.1 hactivate
  have hentered := hnew.enterGroups hmem hnogroup hnoteam hfound.group henter
  have hkept := hentered.activated hnew hmem (Nat.lt_succ_self _) hdead hflag (List.perm_insertionSort
    (fun p q => (b₃.playerObject p).teamId ≤ (b₃.playerObject q).teamId) (b₃.livingPlayers ++ [b₁.nextPlayer]))
  have hrestored : b₃.restoredPlayers = b.restoredPlayers := hentered.restoredPlayers.trans hfound.restoredPlayers
  have hresult := hkept.restorePlayer (p := b₁.nextPlayer) (List.mem_append_right _ (List.mem_singleton_self _))
    ((hentered.dead _).trans hdead) ((hentered.flag _).trans hflag) join
  have hstate : ∀ players livingPlayers id,
      ({ b₃ with players := players, livingPlayers := livingPlayers } : PlayerBarn).restoredState id =
        b.restoredState id := by
    intro players livingPlayers id
    unfold restoredState
    rw [hrestored]
  simpa only [hstate] using hresult

theorem Kept.reattach {b : PlayerBarn} (h : b.Kept) (p : Nat) : (b.reattach p).Kept :=
  (h.setPlayer (sameLists_setPlayer rfl rfl rfl fun h => h) rfl).checkGroup p

theorem Kept.addClient {b b' : PlayerBarn} {join : JoinData} (h : b.Kept) (hadd : b.addClient rules join = some b') :
    (b.JoinKeeps join → b'.Kept) ∧ (¬b.JoinKeeps join → ¬b'.Bookkept) := by
  unfold PlayerBarn.addClient at hadd
  unfold JoinKeeps
  cases hp : join.session.bind b.sessionPlayer with
  | some p =>
    rw [hp] at hadd
    obtain ⟨id, hid, hplayer⟩ := Option.bind_eq_some_iff.1 hp
    have hkeeps : b.JoinKeeps join := by
      intro id' hid' hnone
      rw [Option.mem_def, hid] at hid'
      cases hid'
      exact absurd (hnone.symm.trans hplayer) (Option.some_ne_none p).symm
    refine ⟨fun _ => ?_, fun hnot => absurd hkeeps hnot⟩
    cases hadd
    split
    · exact h.reattach p
    · exact h
  | none =>
    rw [hp] at hadd
    have hnone : ∀ id ∈ join.session, b.sessionPlayer id = none := fun id hid => Option.bind_eq_none_iff.1 hp id hid
    obtain ⟨hgood, hbad⟩ := h.addPlayer hadd
    refine ⟨fun hkeeps => hgood fun id hid => hkeeps id hid (hnone id hid), fun hnot => hbad fun hall => hnot ?_⟩
    exact fun id hid _ => hall id hid

/-! ### Runs -/

/-- The event brings back no player of a group, restores no dead player and no kill leader, and removes no kill
leader. -/
def Keeps (rules : BarnRules) (b : PlayerBarn) : BarnEvent → Prop
  | .join join => b.JoinKeeps join
  | .update p dt => b.Respawns p dt → b.group p = none
  | .socketClose p => b.leavesAtClose rules p = true → b.killLeader ≠ some p
  | .cleanup p => b.leavesAtCleanup rules p = true → b.killLeader ≠ some p
  | .kill _ _ | .play _ _ _ => True

instance (b : PlayerBarn) (event : BarnEvent) : Decidable (Keeps rules b event) := by
  cases event <;> unfold Keeps <;> infer_instance

theorem Kept.step {b b' : PlayerBarn} {event : BarnEvent} (h : b.Kept) (hinfinite : rules.opsiaInfinite = true)
    (hs : b.step rules event = some b') :
    (Keeps rules b event → b'.Kept) ∧ (¬Keeps rules b event → ¬b'.Bookkept) := by
  cases event with
  | join join => exact h.addClient hs
  | kill p source =>
    simp only [PlayerBarn.step, Option.ite_none_right_eq_some, Option.some.injEq] at hs
    obtain ⟨hp, rfl⟩ := hs
    exact ⟨fun _ => h.kill hinfinite hp source, fun hnot => absurd trivial hnot⟩
  | update p dt =>
    simp only [PlayerBarn.step, Option.ite_none_right_eq_some, Option.some.injEq] at hs
    obtain ⟨hp, rfl⟩ := hs
    refine ⟨fun hkeeps => h.update hinfinite hp hkeeps, fun hnot => ?_⟩
    have hr : b.Respawns p dt := by
      by_contra hno
      exact hnot fun hyes => absurd hyes hno
    cases hgroup : b.group p with
    | none => exact absurd (fun _ => hgroup) hnot
    | some group => exact (respawned hinfinite hr).unkept h.toRosters hp hr.1 hgroup
  | play p downed role =>
    simp only [PlayerBarn.step, Option.ite_none_right_eq_some, Option.some.injEq] at hs
    obtain ⟨-, rfl⟩ := hs
    exact ⟨fun _ => h.setPlayer (sameLists_setPlayer rfl rfl rfl fun h => h) rfl, fun hnot => absurd trivial hnot⟩
  | socketClose p =>
    simp only [PlayerBarn.step, Option.ite_none_right_eq_some, Option.some.injEq] at hs
    obtain ⟨-, rfl⟩ := hs
    exact h.handleSocketClose p
  | cleanup p =>
    simp only [PlayerBarn.step, Option.ite_none_right_eq_some, Option.some.injEq] at hs
    obtain ⟨-, rfl⟩ := hs
    exact h.cleanupRetained p

end PlayerBarn

namespace PlayerBarns

open PlayerBarn (BarnEvent)

variable {rules : BarnRules}

/-- The books of every process are kept. -/
def Bookkept (s : PlayerBarns) : Prop := ∀ b ∈ s.barns, b.Bookkept

instance : DecidablePred Bookkept := fun s => inferInstanceAs (Decidable (∀ b ∈ s.barns, b.Bookkept))

/-- `PlayerBarn.Keeps` of the process the event is at. -/
def Keeps (rules : BarnRules) (s : PlayerBarns) : HandoffEvent → Prop
  | .barn i event => ∀ b ∈ s.barns[i]?, PlayerBarn.Keeps rules b event
  | .start | .snapshot _ | .restore _ _ => True

instance (s : PlayerBarns) (event : HandoffEvent) : Decidable (Keeps rules s event) := by
  cases event <;> unfold Keeps <;> infer_instance

private theorem kept_set {barns : List PlayerBarn} (h : ∀ b ∈ barns, b.Kept) {i : Nat} {b' : PlayerBarn}
    (hb : b'.Kept) : ∀ b ∈ barns.set i b', b.Kept := by
  intro b hmem
  rcases List.mem_or_eq_of_mem_set hmem with hold | rfl
  · exact h b hold
  · exact hb

theorem kept_step {s s' : PlayerBarns} {event : HandoffEvent} (h : ∀ b ∈ s.barns, b.Kept)
    (hinfinite : rules.opsiaInfinite = true) (hs : s.step rules event = some s') :
    (Keeps rules s event → ∀ b ∈ s'.barns, b.Kept) ∧ (¬Keeps rules s event → ¬s'.Bookkept) := by
  cases event with
  | start =>
    cases hs
    refine ⟨fun _ b hb => ?_, fun hnot => absurd trivial hnot⟩
    rcases List.mem_append.1 hb with hb | hb
    · exact h b hb
    · rw [List.mem_singleton.1 hb]
      exact PlayerBarn.kept_new rules
  | barn i event =>
    obtain ⟨b, hi, hs⟩ := Option.bind_eq_some_iff.1 hs
    obtain ⟨b', hstep, rfl⟩ := Option.map_eq_some_iff.1 hs
    obtain ⟨hgood, hbad⟩ := (h b (List.mem_of_getElem? hi)).step hinfinite hstep
    have hkeeps : Keeps rules s (.barn i event) ↔ PlayerBarn.Keeps rules b event := by
      constructor
      · exact fun hall => hall b hi
      · intro hone b₁ hb₁
        rw [Option.mem_def, hi] at hb₁
        cases hb₁
        exact hone
    rw [hkeeps]
    refine ⟨fun hone => kept_set h (hgood hone), fun hnot hbooks => hbad hnot (hbooks b' ?_)⟩
    exact List.mem_set (List.getElem?_eq_some_iff.1 hi).1 b'
  | snapshot i =>
    obtain ⟨b, -, rfl⟩ := Option.map_eq_some_iff.1 hs
    exact ⟨fun _ => h, fun hnot => absurd trivial hnot⟩
  | restore i k =>
    obtain ⟨b, hi, hs⟩ := Option.bind_eq_some_iff.1 hs
    obtain ⟨snapshot, -, hs⟩ := Option.bind_eq_some_iff.1 hs
    simp only [Option.ite_none_right_eq_some, Option.some.injEq] at hs
    obtain ⟨-, rfl⟩ := hs
    have hb := h b (List.mem_of_getElem? hi)
    exact ⟨fun _ => kept_set h { hb with }, fun hnot => absurd trivial hnot⟩

/-- In every run of the processes of an infinite room the lists, the countdowns and the kill leader agree with the
players throughout, just when no event brings back a player of a group, makes a player that its snapshot has as dead or
as kill leader, or removes the kill leader. -/
theorem bookkeeping_iff (hinfinite : rules.opsiaInfinite = true) (events : List HandoffEvent) :
    Throughout (step rules) Bookkept init events ↔ EachStep (step rules) (Keeps rules) init events := by
  have hinit : ∀ b ∈ init.barns, b.Kept := fun b hb => absurd hb List.not_mem_nil
  have hQ : ∀ s : PlayerBarns, (∀ b ∈ s.barns, b.Kept) → s.Bookkept := fun s h b hb => (h b hb).bookkept
  exact throughout_iff_eachStep hQ (fun s event s' h hk hs => (kept_step h hinfinite hs).1 hk)
    (fun s event s' h hk hs => (kept_step h hinfinite hs).2 hk) hinit events

namespace Sample

def infinite : BarnRules := ⟨true, true, false, 1, 0, true⟩

def token (id : String) : PlayerBarn.JoinData := ⟨some id, "10.0.0.1", false, "", false, 1, "", false⟩

/-- A player is killed, waits for a while, and goes over to a second process with the snapshot. -/
def handedOver (wait : Rat) : List HandoffEvent :=
  [.start, .barn 0 (.join (token "session-00000001")), .barn 0 (.kill 0 none), .barn 0 (.update 0 wait), .snapshot 0,
    .start, .restore 1 0, .barn 1 (.join (token "session-00000001"))]

end Sample

open Sample in
/-- A player that is handed over while it is dead is on the living players, without a countdown. -/
theorem dead_handed_over : ¬Throughout (step infinite) Bookkept init (handedOver 1) := by decide +kernel

open Sample in
/-- A player that has come back before is handed over alive. -/
theorem alive_handed_over : Throughout (step infinite) Bookkept init (handedOver 3) :=
  (bookkeeping_iff rfl _).2 (by decide +kernel)

end PlayerBarns

end Opsia
