namespace Signoff

/-! The wall clock, in milliseconds since the start of 1970. -/

structure Clock where
  reading : Int64
deriving DecidableEq, Repr

namespace Clock

/-- The present time; a clock set before 1970 counts as standing at its start. -/
def now (clock : Clock) : Int64 :=
  if clock.reading < 0 then 0 else clock.reading

end Clock

end Signoff
