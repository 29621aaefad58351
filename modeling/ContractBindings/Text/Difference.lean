/-!
# Differences

Which lines of two texts are not shared. The lines that are shared form a longest common part, found
by searching from both ends at once for the middle of a shortest way through the grid of all pairs
of lines; where several parts are as long, changes are moved as far down as they can be, and to
where the other text has a change too.

* `changes`: the runs of lines that were taken away or put in.
-/

namespace ContractBindings.Text

/-- A run of lines of the first text in the place of which are others in the second one. -/
structure Change where
  /-- Where it begins in the first text. -/
  first : Nat
  deleted : Nat
  /-- Where it begins in the second text. -/
  second : Nat
  inserted : Nat
  deriving DecidableEq, Repr

namespace Difference

/-- A part of the grid: from and to a line in each text. -/
structure Part where
  xlow : Nat
  xhigh : Nat
  ylow : Nat
  yhigh : Nat

/-- Numbers for the diagonals of a grid, of which the one in the middle is zero. -/
structure Diagonals where
  offset : Int
  values : Array Int

/-- The number of a diagonal. -/
def Diagonals.get (d : Diagonals) (k : Int) : Int := d.values[(k + d.offset).toNat]?.getD 0

/-- Another number for a diagonal. -/
def Diagonals.set (d : Diagonals) (k n : Int) : Diagonals :=
  { d with values := d.values.setIfInBounds (k + d.offset).toNat n }

variable {α : Type} [BEq α]

/-- The lines at two places are there and the same. -/
def sameAt (xs ys : Array α) (x y : Int) : Bool :=
  match xs[x.toNat]?, ys[y.toNat]? with
  | some a, some b => 0 ≤ x && 0 ≤ y && a == b
  | _, _ => false

/-- Goes down as long as lines are the same. -/
def slideDown (xs ys : Array α) (xhigh yhigh : Int) : Nat → Int → Int → Int
  | 0, x, _ => x
  | fuel + 1, x, y =>
    if x < xhigh && y < yhigh && sameAt xs ys x y then
      slideDown xs ys xhigh yhigh fuel (x + 1) (y + 1)
    else x

/-- Goes up as long as lines are the same. -/
def slideUp (xs ys : Array α) (xlow ylow : Int) : Nat → Int → Int → Int
  | 0, x, _ => x
  | fuel + 1, x, y =>
    if xlow < x && ylow < y && sameAt xs ys (x - 1) (y - 1) then
      slideUp xs ys xlow ylow fuel (x - 1) (y - 1)
    else x

/-- How far the search has come from both ends: what it has reached on each diagonal, and the
diagonals that are looked at. -/
structure Search where
  down : Diagonals
  up : Diagonals
  downLow : Int
  downHigh : Int
  upLow : Int
  upHigh : Int

/-- One step of the search from the start, on every second diagonal from the highest. The result is
a place where both searches meet. -/
def stepDown (xs ys : Array α) (p : Part) (odd : Bool) (s : Search) :
    Nat → Int → Diagonals → Diagonals × Option (Int × Int)
  | 0, _, down => (down, none)
  | fuel + 1, d, down =>
    if d < s.downLow then (down, none)
    else
      let low := down.get (d - 1)
      let high := down.get (d + 1)
      let start := if low < high then high else low + 1
      let x := slideDown xs ys p.xhigh p.yhigh (xs.size + 1) start (start - d)
      let down := down.set d x
      if odd && s.upLow ≤ d && d ≤ s.upHigh && s.up.get d ≤ x then (down, some (x, x - d))
      else stepDown xs ys p odd s fuel (d - 2) down

/-- One step of the search from the end. -/
def stepUp (xs ys : Array α) (p : Part) (odd : Bool) (s : Search) :
    Nat → Int → Diagonals → Diagonals × Option (Int × Int)
  | 0, _, up => (up, none)
  | fuel + 1, d, up =>
    if d < s.upLow then (up, none)
    else
      let low := up.get (d - 1)
      let high := up.get (d + 1)
      let start := if low < high then low else high - 1
      let x := slideUp xs ys p.xlow p.ylow (xs.size + 1) start (start - d)
      let up := up.set d x
      if !odd && s.downLow ≤ d && d ≤ s.downHigh && x ≤ s.down.get d then (up, some (x, x - d))
      else stepUp xs ys p odd s fuel (d - 2) up

/-- More than any place. -/
def beyond : Int := 1000000000000

/-- Widens the diagonals of the search from the start. -/
def widenDown (lowest highest : Int) (s : Search) : Search :=
  let s :=
    if lowest < s.downLow then
      { s with down := s.down.set (s.downLow - 2) (-1), downLow := s.downLow - 1 }
    else { s with downLow := s.downLow + 1 }
  if s.downHigh < highest then
    { s with down := s.down.set (s.downHigh + 2) (-1), downHigh := s.downHigh + 1 }
  else { s with downHigh := s.downHigh - 1 }

/-- Widens the diagonals of the search from the end. -/
def widenUp (lowest highest : Int) (s : Search) : Search :=
  let s :=
    if lowest < s.upLow then
      { s with up := s.up.set (s.upLow - 2) beyond, upLow := s.upLow - 1 }
    else { s with upLow := s.upLow + 1 }
  if s.upHigh < highest then
    { s with up := s.up.set (s.upHigh + 2) beyond, upHigh := s.upHigh + 1 }
  else { s with upHigh := s.upHigh - 1 }

/-- Searches from both ends until the searches meet. -/
def meet (xs ys : Array α) (p : Part) (odd : Bool) (lowest highest : Int) :
    Nat → Search → Int × Int
  | 0, _ => (p.xhigh, p.ylow)
  | fuel + 1, s =>
    let s := widenDown lowest highest s
    let steps := xs.size + ys.size + 3
    match stepDown xs ys p odd s steps s.downHigh s.down with
    | (_, some found) => found
    | (down, none) =>
      let s := widenUp lowest highest { s with down }
      match stepUp xs ys p odd s steps s.upHigh s.up with
      | (_, some found) => found
      | (up, none) => meet xs ys p odd lowest highest fuel { s with up }

/-- The middle of a shortest way through a part. -/
def middle (xs ys : Array α) (p : Part) : Nat × Nat :=
  let start : Int := (p.xlow : Int) - p.ylow
  let last : Int := (p.xhigh : Int) - p.yhigh
  let blank : Diagonals :=
    { offset := ys.size + 2, values := Array.replicate (xs.size + ys.size + 6) 0 }
  let s : Search :=
    { down := blank.set start p.xlow, up := blank.set last p.xhigh,
      downLow := start, downHigh := start, upLow := last, upHigh := last }
  let (x, y) := meet xs ys p ((start - last) % 2 ≠ 0) ((p.xlow : Int) - p.yhigh)
    ((p.xhigh : Int) - p.ylow) (xs.size + ys.size + 3) s
  (x.toNat, y.toNat)

/-- Marks the lines of a part that are not shared. -/
def compare (xs ys : Array α) : Nat → Part → Array Bool × Array Bool → Array Bool × Array Bool
  | 0, _, marks => marks
  | fuel + 1, p, (deleted, inserted) =>
    let xlow := (slideDown xs ys p.xhigh p.yhigh (xs.size + 1) p.xlow p.ylow).toNat
    let ylow := p.ylow + (xlow - p.xlow)
    let xhigh := (slideUp xs ys xlow ylow (xs.size + 1) p.xhigh p.yhigh).toNat
    let yhigh := p.yhigh - (p.xhigh - xhigh)
    let range (low high : Nat) : List Nat := (List.range (high - low)).map (· + low)
    let mark (marks : Array Bool) (places : List Nat) : Array Bool :=
      places.foldl (fun marks i => marks.setIfInBounds i true) marks
    if xlow = xhigh then (deleted, mark inserted (range ylow yhigh))
    else if ylow = yhigh then (mark deleted (range xlow xhigh), inserted)
    else
      let (x, y) := middle xs ys { xlow, xhigh, ylow, yhigh }
      compare xs ys fuel { xlow := x, xhigh, ylow := y, yhigh }
        (compare xs ys fuel { xlow, xhigh := x, ylow, yhigh := y } (deleted, inserted))

/-- The mark at a place. -/
def marked (marks : Array Bool) (i : Int) : Bool := 0 ≤ i && (marks[i.toNat]?).getD false

/-- The first place from some place on that is not marked. -/
def skipMarked (marks : Array Bool) : Nat → Int → Int
  | 0, i => i
  | fuel + 1, i => if marked marks i then skipMarked marks fuel (i + 1) else i

/-- The last place up to some place that is not marked. -/
def skipBack (marks : Array Bool) : Nat → Int → Int
  | 0, i => i
  | fuel + 1, i => if marked marks i then skipBack marks fuel (i - 1) else i

/-- A run of marks, with the place in the other text that belongs to its end. -/
structure Run where
  marks : Array Bool
  start : Int
  stop : Int
  other : Int
  /-- The end of the run where the other text has a run too. -/
  twin : Int

/-- Moves a run up by a line. -/
def Run.up (others : Array Bool) (r : Run) : Run :=
  let marks := r.marks.setIfInBounds (r.start - 1).toNat true
  let marks := marks.setIfInBounds (r.stop - 1).toNat false
  { r with marks, start := r.start - 1, stop := r.stop - 1,
           other := skipBack others others.size (r.other - 1) }

/-- Moves a run up as long as the line before it is the same as its last one. -/
def Run.raise (lines : Array α) (others : Array Bool) : Nat → Run → Run
  | 0, r => r
  | fuel + 1, r =>
    if 0 < r.start && sameAt lines lines (r.start - 1) (r.stop - 1) then
      let r := r.up others
      let start := skipBack r.marks r.marks.size (r.start - 1) + 1
      Run.raise lines others fuel { r with start }
    else r

/-- Moves a run down as long as the line after it is the same as its first one. -/
def Run.lower (lines : Array α) (others : Array Bool) : Nat → Run → Run
  | 0, r => r
  | fuel + 1, r =>
    if r.stop < lines.size && sameAt lines lines r.start r.stop then
      let marks := (r.marks.setIfInBounds r.start.toNat false).setIfInBounds r.stop.toNat true
      let stop := skipMarked marks marks.size (r.stop + 1)
      let other := skipMarked others others.size (r.other + 1)
      let twin := if other ≠ r.other + 1 then stop else r.twin
      Run.lower lines others fuel { marks, start := r.start + 1, stop, other, twin }
    else r

/-- Moves a run up and down until it does not grow any more. -/
def Run.settle (lines : Array α) (others : Array Bool) : Nat → Run → Run
  | 0, r => r
  | fuel + 1, r =>
    let length := r.stop - r.start
    let r := r.raise lines others (lines.size + 1)
    let r := { r with twin := if marked others (r.other - 1) then r.stop else lines.size }
    let r := r.lower lines others (lines.size + 1)
    if r.stop - r.start = length then r else Run.settle lines others fuel r

/-- Moves a run up to where the other text has one too. -/
def Run.pair (others : Array Bool) : Nat → Run → Run
  | 0, r => r
  | fuel + 1, r => if r.twin < r.stop then Run.pair others fuel (r.up others) else r

/-- Moves the runs of marks from a place on. -/
def settleFrom (lines : Array α) (others : Array Bool) : Nat → Array Bool → Int → Int → Array Bool
  | 0, marks, _, _ => marks
  | fuel + 1, marks, i, j =>
    if lines.size ≤ i then marks
    else if !marked marks i then
      settleFrom lines others fuel marks (i + 1) (skipMarked others others.size j + 1)
    else
      let stop := skipMarked marks marks.size i
      let other := skipMarked others others.size j
      let r : Run := { marks, start := i, stop, other, twin := lines.size }
      let r := (r.settle lines others (lines.size + 1)).pair others (lines.size + 1)
      settleFrom lines others fuel r.marks r.stop r.other

/-- The runs in marks on both texts. -/
def runs (deleted inserted : Array Bool) : Nat → Int → Int → List Change
  | 0, _, _ => []
  | fuel + 1, x, y =>
    if deleted.size ≤ x && inserted.size ≤ y then []
    else
      let x' := skipMarked deleted deleted.size x
      let y' := skipMarked inserted inserted.size y
      let rest := runs deleted inserted fuel (x' + 1) (y' + 1)
      if x' = x && y' = y then rest
      else
        { first := x.toNat, deleted := (x' - x).toNat, second := y.toNat,
          inserted := (y' - y).toNat } :: rest

end Difference

open Difference in
/-- The changes between two texts, line by line, where no lines at their starts and ends are the
same. Lines that the other text has nowhere are not looked at when the lines that both share are
found. -/
def changesBetween {α : Type} [BEq α] (first second : Array α) : List Change :=
  let shared (lines others : Array α) : List Nat :=
    (List.range lines.size).filter fun i => (lines[i]?).any others.contains
  let pick (lines : Array α) (places : List Nat) : Array α := (places.filterMap (lines[·]?)).toArray
  let xs := shared first second
  let ys := shared second first
  let kept := pick first xs
  let others := pick second ys
  let blank (n : Nat) : Array Bool := Array.replicate n false
  let (deleted, inserted) := compare kept others (kept.size + others.size + 2)
    { xlow := 0, xhigh := kept.size, ylow := 0, yhigh := others.size }
    (blank kept.size, blank others.size)
  let spread (size : Nat) (places : List Nat) (marks : Array Bool) : Array Bool :=
    (places.zip marks.toList).foldl (fun all p => all.setIfInBounds p.1 p.2)
      (Array.replicate size true)
  let deleted := spread first.size xs deleted
  let inserted := spread second.size ys inserted
  let fuel := first.size + second.size + 2
  let deleted := settleFrom first inserted fuel deleted 0 0
  let inserted := settleFrom second deleted fuel inserted 0 0
  runs deleted inserted fuel 0 0

/-- How many lines two texts begin with in common. -/
def sharedStart {α : Type} [BEq α] : List α → List α → Nat
  | a :: as, b :: bs => if a == b then sharedStart as bs + 1 else 0
  | _, _ => 0

/-- The changes between two texts, line by line. What both begin and end with is left out, but for a
number of lines next to what differs. -/
def changes {α : Type} [BEq α] (margin : Nat) (first second : Array α) : List Change :=
  let start := sharedStart first.toList second.toList
  let ends := sharedStart (first.toList.drop start).reverse (second.toList.drop start).reverse
  let start := start - margin
  let ends := ends - margin
  (changesBetween (first.extract start (first.size - ends))
    (second.extract start (second.size - ends))).map fun c =>
    { c with first := c.first + start, second := c.second + start }

end ContractBindings.Text
