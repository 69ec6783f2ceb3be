import Mathlib.Data.List.AList
import Mathlib.NumberTheory.Zsqrtd.Basic
import Opsia.BotBrain.OpenList
import Opsia.BotBrain.SpatialIndex

/-!
# The path search

A path leads over the cells of a grid from the open cell nearest to the start to the one nearest to the goal, and on to
the goal itself.  The search adds costs exactly (`PathCost`); its maps are keyed by the texts of the cells.  A query
along a segment may have no answer (`navigationEntriesAlongSegment`), and what needs it then has none either.  The
length of a line, `Math.hypot`, is any function of its sides.
-/

namespace Opsia

/-- `a + b * Math.SQRT2` in exact arithmetic. -/
abbrev PathCost := Zsqrtd ((2 : ℕ) : ℤ)

instance nonsquare_two : Zsqrtd.Nonsquare 2 := ⟨fun n h => by
  obtain rfl | rfl | hn : n = 0 ∨ n = 1 ∨ 2 ≤ n := by omega
  · cases h
  · cases h
  · have := Nat.mul_le_mul hn hn
    rw [← h] at this
    exact absurd this (by decide)⟩

instance : Comparisons PathCost := ⟨fun a b => decide (a < b), fun a b => decide (a ≤ b)⟩

def sqrt2 : PathCost := Zsqrtd.sqrtd

structure NavigationPoint where
  x : ℚ
  y : ℚ
deriving DecidableEq

@[ext] structure PathCell where
  x : ℤ
  y : ℤ
deriving DecidableEq

def pathCellSize : ℚ := 10

def maxPathExpansions : ℕ := 7500

def PathCell.point (cell : PathCell) : NavigationPoint := ⟨cell.x * pathCellSize, cell.y * pathCellSize⟩

def pathCellKey (x y : ℤ) : String := toString x ++ ":" ++ toString y

def PathCell.key (cell : PathCell) : String := pathCellKey cell.x cell.y

/-- `Math.floor` -/
def ExactNumber.floor : ExactNumber → ExactNumber
  | .finite q => .finite ⌊q⌋
  | v => v

/-- `Math.round` -/
def roundHalfUp (q : ℚ) : ℤ := ⌊q + 1 / 2⌋

/-- A snapshot with the size of its map. -/
structure PathSnapshot extends BotBrainSnapshot where
  width : ExactNumber
  height : ExactNumber

namespace PathSnapshot

def pointBlocked (snapshot : PathSnapshot) (p : NavigationPoint) : Bool :=
  pathPointBlocked snapshot.toBotBrainSnapshot (.finite p.x) (.finite p.y)

def navigable (snapshot : PathSnapshot) (a b : NavigationPoint) : Option Bool :=
  segmentIsNavigable snapshot.toBotBrainSnapshot (.finite a.x) (.finite a.y) (.finite b.x) (.finite b.y)

end PathSnapshot

section

variable (hypot : ℚ → ℚ → ℚ)

def distance (a b : NavigationPoint) : ℚ := hypot (b.x - a.x) (b.y - a.y)

/-! ### The cells at the ends -/

/-- `-radius … radius` -/
def offsets (radius : ℕ) : List ℤ := (List.range (2 * radius + 1)).map fun (i : ℕ) => (i : ℤ) - radius

/-- The cells at this distance around the center that are on the map and not blocked. -/
def openCellsAt (snapshot : PathSnapshot) (centerX centerY : ℤ) (radius : ℕ) : List PathCell :=
  (offsets radius).flatMap fun xOffset => (offsets radius).filterMap fun yOffset =>
    if 0 < radius ∧ xOffset.natAbs ≠ radius ∧ yOffset.natAbs ≠ radius then none
    else
      let cell : PathCell := ⟨centerX + xOffset, centerY + yOffset⟩
      let point := cell.point
      if point.x < 5 ∨ point.y < 5 ∨ (snapshot.width.sub (.finite 5)).lt (.finite point.x) ∨
          (snapshot.height.sub (.finite 5)).lt (.finite point.y) ∨ snapshot.pointBlocked point then none
      else some cell

def nearestOpenPathCell (snapshot : PathSnapshot) (world : NavigationPoint) : Option PathCell :=
  let centerX := roundHalfUp (world.x / pathCellSize)
  let centerY := roundHalfUp (world.y / pathCellSize)
  [0, 1, 2, 3, 4].findSome? fun radius =>
    let candidates := openCellsAt snapshot centerX centerY radius
    (candidates.mergeSort fun left right =>
      decide (distance hypot left.point world - distance hypot right.point world ≤ 0)).head?

/-! ### The search -/

/-- The cells that a path may go through. -/
structure PathWindow where
  minCellX : ℤ
  maxCellX : ExactNumber
  minCellY : ℤ
  maxCellY : ExactNumber

namespace PathWindow

def around (snapshot : PathSnapshot) (start goal : NavigationPoint) : PathWindow :=
  let directDistance := distance hypot start goal
  let margin := min 220 (max 80 (directDistance * (24 / 100)))
  { minCellX := max 1 ⌊(min start.x goal.x - margin) / pathCellSize⌋
    maxCellX := ((snapshot.width.div (.finite pathCellSize)).floor.sub (.finite 1)).min
      (.finite ⌈(max start.x goal.x + margin) / pathCellSize⌉)
    minCellY := max 1 ⌊(min start.y goal.y - margin) / pathCellSize⌋
    maxCellY := ((snapshot.height.div (.finite pathCellSize)).floor.sub (.finite 1)).min
      (.finite ⌈(max start.y goal.y + margin) / pathCellSize⌉) }

def contains (window : PathWindow) (cell : PathCell) : Bool :=
  !(decide (cell.x < window.minCellX) || window.maxCellX.lt (.finite cell.x) || decide (cell.y < window.minCellY) ||
    window.maxCellY.lt (.finite cell.y))

end PathWindow

structure PathDirection where
  x : ℤ
  y : ℤ
  cost : PathCost

def directions : List PathDirection :=
  [⟨1, 0, 1⟩, ⟨-1, 0, 1⟩, ⟨0, 1, 1⟩, ⟨0, -1, 1⟩, ⟨1, 1, sqrt2⟩, ⟨1, -1, sqrt2⟩, ⟨-1, 1, sqrt2⟩, ⟨-1, -1, sqrt2⟩]

def heuristic (goal : PathCell) (x y : ℤ) : PathCost :=
  let dx := |goal.x - x|
  let dy := |goal.y - y|
  ((max dx dy : ℤ) : PathCost) + (sqrt2 - 1) * ((min dx dy : ℤ) : PathCost)

/-- The maps of the search and its open list. -/
structure PathSearch where
  costs : AList fun _ : String => PathCost
  parents : AList fun _ : String => String
  cells : AList fun _ : String => PathCell
  openNodes : List (OpenPathNode PathCost)

/-- Why the loop ended. -/
inductive PathEnd
  | goal
  | dry
  | limit
deriving DecidableEq

namespace PathDirection

def next (d : PathDirection) (cell : PathCell) : PathCell := ⟨cell.x + d.x, cell.y + d.y⟩

/-- A step in this direction is in the window, to a cell that is not blocked, along a navigable segment, and cuts no
corner. -/
def allowed (snapshot : PathSnapshot) (window : PathWindow) (cell : PathCell) (d : PathDirection) : Option Bool := do
  if !window.contains (d.next cell) then return false
  if snapshot.pointBlocked (d.next cell).point then return false
  if !(← snapshot.navigable cell.point (d.next cell).point) then return false
  return !(decide (d.x ≠ 0 ∧ d.y ≠ 0) && (snapshot.pointBlocked (PathCell.mk (cell.x + d.x) cell.y).point ||
    snapshot.pointBlocked (PathCell.mk cell.x (cell.y + d.y)).point))

end PathDirection

namespace PathSearch

def start (start goal : PathCell) : PathSearch where
  costs := (∅ : AList _).insert start.key 0
  parents := ∅
  cells := (∅ : AList _).insert start.key start
  openNodes := pushOpenNode [] ⟨start.x, start.y, start.key, 0, heuristic goal start.x start.y⟩

/-- `cost >= (costs.get(key) ?? Number.POSITIVE_INFINITY)` -/
def atLeast (s : PathSearch) (key : String) (cost : PathCost) : Bool :=
  match s.costs.lookup key with
  | some known => decide (known ≤ cost)
  | none => false

/-- The body of the loop over the directions. -/
def visit (snapshot : PathSnapshot) (window : PathWindow) (goal : PathCell) (current : OpenPathNode PathCost)
    (s : PathSearch) (d : PathDirection) : Option PathSearch := do
  if !(← d.allowed snapshot window ⟨current.x, current.y⟩) then return s
  let cell := d.next ⟨current.x, current.y⟩
  let key := cell.key
  let nextCost := current.g + d.cost
  if s.atLeast key nextCost then return s
  return {
    costs := s.costs.insert key nextCost
    parents := s.parents.insert key current.key
    cells := s.cells.insert key cell
    openNodes := pushOpenNode s.openNodes
      ⟨cell.x, cell.y, key, nextCost, nextCost + heuristic goal cell.x cell.y⟩ }

/-- `current.g > (costs.get(current.key) ?? Number.POSITIVE_INFINITY)` -/
def stale (s : PathSearch) (current : OpenPathNode PathCost) : Bool :=
  match s.costs.lookup current.key with
  | some known => decide (known < current.g)
  | none => false

/-- The loop, for a number of expansions at most. -/
def run (snapshot : PathSnapshot) (window : PathWindow) (goal : PathCell) (expansions : ℕ) (s : PathSearch) :
    Option (PathEnd × PathSearch) :=
  match popOpenNode s.openNodes with
  | (none, _) => some (.dry, s)
  | (some current, rest) =>
    match expansions with
    | 0 => some (.limit, s)
    | expansions + 1 =>
      let s := { s with openNodes := rest }
      if s.stale current then s.run snapshot window goal expansions
      else if current.key = goal.key then some (.goal, s)
      else do (← directions.foldlM (visit snapshot window goal current) s).run snapshot window goal expansions

/-- The cells that lead to a cell, which comes first: `none` after this many rounds of the loop, and nothing where the
function returns without a path. -/
def backtrack (s : PathSearch) (startKey : String) : ℕ → String → Option (Option (List PathCell))
  | rounds, key =>
    if key = startKey then some (some [])
    else
      match rounds with
      | 0 => none
      | rounds + 1 =>
        match s.cells.lookup key with
        | none => some none
        | some cell =>
          match s.parents.lookup key with
          | none => some none
          | some parent =>
            if parent = "" then some none
            else (s.backtrack startKey rounds parent).map fun before => before.map (cell :: ·)

/-- The cells of the path, after the start. -/
def cellPath (s : PathSearch) (start goal : PathCell) : Option (Option (List PathCell)) :=
  (s.backtrack start.key s.parents.keys.length goal.key).map fun path => path.map List.reverse

end PathSearch

/-- The search from the cell of the start to that of the goal. -/
def searchPath (snapshot : PathSnapshot) (window : PathWindow) (start goal : PathCell) :
    Option (PathEnd × PathSearch) :=
  (PathSearch.start start goal).run snapshot window goal maxPathExpansions

/-! ### The waypoints -/

/-- The waypoints from an anchor on, with the furthest point seen from it so far and the points after that one. -/
def simplify (snapshot : PathSnapshot) (anchor furthest : NavigationPoint) :
    List NavigationPoint → Option (List NavigationPoint)
  | [] => some [furthest]
  | candidate :: rest => do
    if ← snapshot.navigable anchor candidate then simplify snapshot anchor candidate rest
    else return furthest :: (← simplify snapshot furthest candidate rest)

/-- What is made of a search that ended. -/
def PathSearch.waypoints (snapshot : PathSnapshot) (startPoint goalPoint : NavigationPoint) (start goal : PathCell)
    (s : PathSearch) : Option (List NavigationPoint) := do
  if s.costs.lookup goal.key = none then return []
  match ← s.cellPath start goal with
  | none => return []
  | some path =>
    match path.map PathCell.point ++ [goalPoint] with
    | [] => return []
    | first :: rest => simplify snapshot startPoint first rest

def planNavigationPath (snapshot : PathSnapshot) (startPoint goalPoint : NavigationPoint) :
    Option (List NavigationPoint) := do
  if ← snapshot.navigable startPoint goalPoint then return [goalPoint]
  match nearestOpenPathCell hypot snapshot startPoint, nearestOpenPathCell hypot snapshot goalPoint with
  | some start, some goal =>
    let (_, search) ← searchPath snapshot (.around hypot snapshot startPoint goalPoint) start goal
    search.waypoints snapshot startPoint goalPoint start goal
  | _, _ => return []

end

end Opsia
