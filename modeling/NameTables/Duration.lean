import NameTables.Text.Basic

/-!
# Durations

The limits set on external tools.  A duration is shown in the largest unit of seconds,
milliseconds, microseconds and nanoseconds of which it has at least one, with no more decimals
than it needs.

## Main definitions

* `Duration` — a number of nanoseconds.
* `Duration.text` — its text.
-/

namespace NameTables

/-- A length of time in nanoseconds. -/
structure Duration where
  /-- The number of nanoseconds. -/
  nanoseconds : Nat
  deriving DecidableEq, Repr

namespace Duration

/-- The nanoseconds of a second. -/
def perSecond : Nat := 1000000000

/-- So many seconds. -/
def ofSeconds (n : Nat) : Duration := ⟨n * perSecond⟩

/-- So many milliseconds. -/
def ofMilliseconds (n : Nat) : Duration := ⟨n * 1000000⟩

/-- The decimals of `part` parts out of `10 ^ places`, without trailing zeros and with the point
in front. -/
def decimals (places part : Nat) : Text :=
  if part = 0 then []
  else
    let digits := Text.ofNat part
    let padded := List.replicate (places - digits.length) '0' ++ digits
    '.' :: (padded.reverse.dropWhile (· == '0')).reverse

/-- So many units of `10 ^ places` nanoseconds, with the unit's name. -/
def inUnit (places : Nat) (unit : String) (d : Duration) : Text :=
  Text.ofNat (d.nanoseconds / Nat.pow 10 places) ++ decimals places (d.nanoseconds % Nat.pow 10 places)
    ++ unit.toList

/-- The text of a duration. -/
def text (d : Duration) : Text :=
  if perSecond ≤ d.nanoseconds then d.inUnit 9 "s"
  else if 1000000 ≤ d.nanoseconds then d.inUnit 6 "ms"
  else if 1000 ≤ d.nanoseconds then d.inUnit 3 "µs"
  else d.inUnit 0 "ns"

end Duration

end NameTables
