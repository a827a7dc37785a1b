import ODataBrowser.Calendar.Timestamp
import ODataBrowser.Number.Binary64

/-!
# Epoch time

Instants counted in milliseconds from 1970-01-01T00:00:00Z. The count is divided by a thousand in
double precision and its fraction rounded to whole microseconds, a half to the even neighbour.
-/

namespace ODataBrowser.Epoch

/-- Microseconds from 0001-01-01T00:00:00Z to 1970-01-01T00:00:00Z. -/
def origin : Int := 719162 * microsPerDay

/-- The whole microseconds of a number of seconds, or `none` where it is not finite. -/
def microsOfSeconds? : Binary64 → Option Int
  | .finite negative m e =>
    let (n, d) := Binary64.magnitude m e
    let fraction :=
      match Binary64.ofRatio false (n % d * 1000000) d with
      | .finite _ m' e' =>
        let (n', d') := Binary64.magnitude m' e'
        roundHalfEven n' d'
      | _ => 0
    let micros : Int := (n / d * 1000000 + fraction : Nat)
    some (if negative then -micros else micros)
  | _ => none

/-- The instant a number of milliseconds after the epoch, in universal time, if it is within the
calendar. -/
def ofMillis? (millis : Binary64) : Option Timestamp := do
  let micros ← microsOfSeconds? (millis.divNat 1000)
  Timestamp.ofLocalMicros? (origin + micros) (some 0)

/-- The instant an integral number of milliseconds after the epoch. -/
def ofIntMillis? (millis : Int) : Option Timestamp := do
  ofMillis? (← Binary64.ofInt? millis)

end ODataBrowser.Epoch
