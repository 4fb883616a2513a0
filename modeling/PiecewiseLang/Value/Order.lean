import PiecewiseLang.Value

/-! The canonical order of values: by kind, then by content. Numbers go by their exact
value, `false` before `true`, and sets by their members from the least one on. -/
namespace PiecewiseLang

def orderInts (a b : Int) : Ordering :=
  if a < b then .lt else if a = b then .eq else .gt

namespace Double

/-- The place of a datum among the infinities, the finite numbers and the rest. -/
def band : Double → Int
  | .infinite true => 0
  | .finite _ => 1
  | .infinite false => 2
  | .notANumber => 3

def order : Double → Double → Ordering
  | .finite x, .finite y => orderInts x.units y.units
  | x, y => orderInts x.band y.band

end Double

namespace Value

mutual

def order : Value → Value → Ordering
  | .boolean a, .boolean b => orderInts a.toInt b.toInt
  | .integer a, .integer b => orderInts a b
  | .real a, .real b => a.order b
  | .set _ as, .set _ bs => orderAll as bs
  | a, b => orderInts a.kind.rank b.kind.rank

/-- Lists by their first difference; a list comes before its extensions. -/
def orderAll : List Value → List Value → Ordering
  | [], [] => .eq
  | [], _ :: _ => .lt
  | _ :: _, [] => .gt
  | a :: as, b :: bs => (a.order b).then (orderAll as bs)

end

mutual

/-- Whether a value has a place among the members of sets, and so have the members in it. -/
def isRanked : Value → Bool
  | .set _ members => allRanked members
  | value => value.kind.canBeMember

def allRanked : List Value → Bool
  | [] => true
  | value :: rest => value.isRanked && allRanked rest

end

/-- Puts a value in its place of an ascending list, unless it is there already. -/
def insert (x : Value) : List Value → List Value
  | [] => [x]
  | y :: ys =>
    match x.order y with
    | .lt => x :: y :: ys
    | .eq => y :: ys
    | .gt => y :: insert x ys

end Value

end PiecewiseLang
