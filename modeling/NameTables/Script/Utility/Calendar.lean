import NameTables.Script.Utility.Basic

/-!
# Dates

Days as numbers, and times by a format.  All of them are in universal time.

## Main definitions

* `daysTo`, `dayOf` — days as numbers, and the other way round.
* `dateText` — a time by a format.
-/

namespace NameTables.Script.Utility

/-- The number of days from the beginning of 1970 to a day. -/
def daysTo (year month day : Int) : Int :=
  let y := if month ≤ 2 then year - 1 else year
  let era := y.fdiv 400
  let inEra := y - era * 400
  let inYear := (153 * ((month + 9) % 12) + 2) / 5 + day - 1
  era * 146097 + (inEra * 365 + inEra / 4 - inEra / 100 + inYear) - 719468

/-- The year, month and day of a number of days from the beginning of 1970. -/
def dayOf (days : Int) : Int × Int × Int :=
  let shifted := days + 719468
  let era := shifted.fdiv 146097
  let inEra := shifted - era * 146097
  let year := (inEra - inEra / 1460 + inEra / 36524 - inEra / 146096) / 365
  let inYear := inEra - (365 * year + year / 4 - year / 100)
  let month := (5 * inYear + 2) / 153
  let day := inYear - (153 * month + 2) / 5 + 1
  let month := if month < 10 then month + 3 else month - 9
  (year + era * 400 + if month ≤ 2 then 1 else 0, month, day)

/-- The names of the days of the week. -/
def dayNames : List String :=
  ["Sunday", "Monday", "Tuesday", "Wednesday", "Thursday", "Friday", "Saturday"]

/-- The names of the months. -/
def monthNames : List String :=
  ["January", "February", "March", "April", "May", "June", "July", "August", "September",
    "October", "November", "December"]

/-- A number in so many digits at least, filled up with a character. -/
def filled (fill : Char) (width : Nat) (n : Int) : Text :=
  let digits := Text.ofNat n.natAbs
  (if n < 0 then ['-'] else []) ++ List.replicate (width - digits.length) fill ++ digits

/-- What a letter in a format stands for, of a time in nanoseconds; nothing for most letters. -/
def datePart? (time : Int) : (fuel : Nat) → Char → Option Text
  | 0, _ => none
  | fuel + 1, c =>
    let seconds := time.fdiv Duration.perSecond
    let days := seconds.fdiv 86400
    let inDay := seconds - days * 86400
    let (year, month, day) := dayOf days
    let (hour, minute, second) := (inDay / 3600, inDay / 60 % 60, inDay % 60)
    let weekday := (days + 4) % 7
    let yearDay := days - daysTo year 1 1
    let two := fun n : Int => some (filled '0' 2 n)
    let name := fun (names : List String) (n : Int) => ((names[n.toNat]?).getD "").toList
    let all := fun (letters : String) =>
      letters.toList.foldl (fun found d =>
        found.bind fun text =>
          if d.isAlpha then (datePart? time fuel d).map (text ++ ·) else some (text ++ [d])) (some [])
    match c with
    | '%' => some ['%']
    | 'n' => some ['\n']
    | 't' => some ['\t']
    | 'Y' => some (filled '0' 4 year)
    | 'C' => two (year / 100)
    | 'y' => two (year % 100)
    | 'm' => two month
    | 'd' => two day
    | 'e' => some (filled ' ' 2 day)
    | 'H' => two hour
    | 'k' => some (filled ' ' 2 hour)
    | 'I' => two ((hour + 11) % 12 + 1)
    | 'l' => some (filled ' ' 2 ((hour + 11) % 12 + 1))
    | 'M' => two minute
    | 'S' => two second
    | 'N' => some (filled '0' 9 (time - seconds * Duration.perSecond))
    | 's' => some (Text.ofInt seconds)
    | 'j' => some (filled '0' 3 (yearDay + 1))
    | 'u' => some (Text.ofInt ((weekday + 6) % 7 + 1))
    | 'w' => some (Text.ofInt weekday)
    | 'U' => two ((yearDay + 7 - weekday) / 7)
    | 'W' => two ((yearDay + 7 - (weekday + 6) % 7) / 7)
    | 'a' => some ((name dayNames weekday).take 3)
    | 'A' => some (name dayNames weekday)
    | 'b' => some ((name monthNames (month - 1)).take 3)
    | 'h' => some ((name monthNames (month - 1)).take 3)
    | 'B' => some (name monthNames (month - 1))
    | 'p' => some (if hour < 12 then "AM".toList else "PM".toList)
    | 'P' => some (if hour < 12 then "am".toList else "pm".toList)
    | 'Z' => some "UTC".toList
    | 'z' => some "+0000".toList
    | 'F' => all "Y-m-d"
    | 'T' => all "H:M:S"
    | 'R' => all "H:M"
    | 'D' => all "m/d/y"
    | 'x' => all "m/d/y"
    | 'X' => all "H:M:S"
    | 'r' => all "I:M:S p"
    | 'c' => all "a b e H:M:S Y"
    | _ => none

/-- A time, in nanoseconds, by a format. -/
def dateText (time : Int) : Text → Text
  | '%' :: '-' :: c :: rest =>
    let found := (datePart? time 3 c).getD ['%', '-', c]
    let trimmed := found.dropWhile fun d => d = '0' || d = ' '
    (if trimmed.isEmpty then ['0'] else trimmed) ++ dateText time rest
  | '%' :: c :: rest =>
    match datePart? time 3 c with
    | some found => found ++ dateText time rest
    | none => '%' :: c :: dateText time rest
  | c :: rest => c :: dateText time rest
  | [] => []

end NameTables.Script.Utility
