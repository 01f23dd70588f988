import QueryCache.Decimal.Number

/-! Points in time, in seconds, and spans between them. -/

set_option autoImplicit false

namespace QueryCache

abbrev Time := Binary64

namespace Time

/-- Whether one point is no later than another; what is no number stands in no order. -/
def le (a b : Time) : Bool :=
  match Binary64.extent? a, Binary64.extent? b with
  | some x, some y => x.le y
  | _, _ => false

/-- Whether one point is before another. -/
def lt (a b : Time) : Bool :=
  match Binary64.extent? a, Binary64.extent? b with
  | some x, some y => x.lt y
  | _, _ => false

/-- The point so many seconds later; there is none where the seconds are too many. -/
def after? (now : Time) (seconds : Number) : Option Time :=
  seconds.toBinary?.map (Binary64.add now)

/-- The seconds that are left until a point, none once it is past. -/
def left (now expiry : Time) : Binary64 :=
  let span := Binary64.sub expiry now
  if lt span Binary64.zero then Binary64.zero else span

end Time

end QueryCache
