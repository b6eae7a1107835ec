import NameTables.Script.Utility.Calendar

/-!
# Dates in words

A date is told by parts in any order: a day, a time, a zone, the name of a day, and how far to go from
there, in years or in smaller units.  What is not told is taken from the time at which it is read.

## Main definitions

* `DateToken`, `dateTokens` — what a date is written with.
* `DateParts` — what is told.
* `DateParts.time?` — the time that is meant.
* `dateIn?` — the time that a text tells.
* `tellDate` — the program that prints the time.
-/

namespace NameTables.Script.Utility

/-! ### Tokens -/

/-- What a date is written with. -/
inductive DateToken
  /-- A number, as it is written, with the digits behind a point. -/
  | number (digits places : Text)
  /-- A word, in lower case. -/
  | word (s : Text)
  /-- Any other character. -/
  | sign (c : Char)

/-- What a text is written with; blanks and what is between parentheses do not count. -/
def dateTokens : (fuel : Nat) → Text → List DateToken
  | 0, _ => []
  | _, [] => []
  | fuel + 1, c :: rest =>
    if c.isDigit then
      let digits := c :: rest.takeWhile Char.isDigit
      let rest := rest.dropWhile Char.isDigit
      match rest with
      | '.' :: d :: more =>
        if d.isDigit then
          .number digits (d :: more.takeWhile Char.isDigit)
            :: dateTokens fuel (more.dropWhile Char.isDigit)
        else .number digits [] :: dateTokens fuel rest
      | _ => .number digits [] :: dateTokens fuel rest
    else if c.isAlpha then
      let isPart := fun c : Char => c.isAlpha || c = '.'
      let word := (c :: rest.takeWhile isPart).map Char.toLower
      .word (word.filter (· ≠ '.')) :: dateTokens fuel (rest.dropWhile isPart)
    else if c = ' ' || c = '\t' || c = '\n' || c = ',' then dateTokens fuel rest
    else if c = '(' then dateTokens fuel ((rest.dropWhile (· ≠ ')')).drop 1)
    else .sign c :: dateTokens fuel rest

/-! ### Parts -/

/-- What is told of a date. -/
structure DateParts where
  /-- The year, if it is told, the month and the day. -/
  day : Option (Option Int × Int × Int) := none
  /-- The time in the day, in nanoseconds. -/
  time : Option Int := none
  /-- How far local time is ahead, in seconds. -/
  zone : Option Int := none
  /-- The name of a day, from Sunday on, with the week that is meant. -/
  weekday : Option (Int × Int) := none
  /-- The months to go from there. -/
  months : Int := 0
  /-- The days to go from there. -/
  days : Int := 0
  /-- The seconds to go from there. -/
  seconds : Int := 0
  /-- Is told how far to go? -/
  isRelative : Bool := false

/-- The zones that have a name, with how far they are ahead in hours. -/
def zoneHours : List (String × Int) :=
  [("utc", 0), ("gmt", 0), ("z", 0), ("ut", 0), ("wet", 0), ("est", -5), ("edt", -4), ("cst", -6),
    ("cdt", -5), ("mst", -7), ("mdt", -6), ("pst", -8), ("pdt", -7), ("cet", 1), ("cest", 2),
    ("bst", 1), ("eet", 2), ("eest", 3), ("jst", 9), ("msk", 3), ("ist", 5)]

/-- How far the zone of a letter is ahead in hours. -/
def letterHours? (c : Char) : Option Int :=
  let n : Int := c.toNat - 'a'.toNat
  if c < 'a' || 'z' < c || c = 'j' then none
  else if c < 'j' then some (n + 1)
  else if c < 'n' then some n
  else if c = 'z' then some 0
  else some (12 - n)

/-- The numbers that are told by words. -/
def ordinalWords : List (String × Int) :=
  [("last", -1), ("this", 0), ("next", 1), ("first", 1), ("third", 3), ("fourth", 4), ("fifth", 5),
    ("sixth", 6), ("seventh", 7), ("eighth", 8), ("ninth", 9), ("tenth", 10), ("eleventh", 11),
    ("twelfth", 12)]

namespace DateParts

/-- The number among names of which a word is one, or short for one. -/
def named? (names : List String) (word : Text) : Option Int :=
  (names.findIdx? fun name =>
    let name := (name.toList).map Char.toLower
    word = name || (word.length = 3 && Text.beginsWith word name)).map fun n => (n : Int)

/-- The month of a name, from one on. -/
def month? (word : Text) : Option Int :=
  if word = "sept".toList then some 9 else (named? monthNames word).map (· + 1)

/-- The number of a day with a name, from Sunday on. -/
def weekday? (word : Text) : Option Int :=
  match String.ofList word with
  | "tues" => some 2
  | "wednes" => some 3
  | "thur" | "thurs" => some 4
  | _ => named? dayNames word

/-- So many units of time more; or nothing when the word is no unit. -/
def going? (p : DateParts) (n : Int) (word : Text) : Option DateParts :=
  let word := if word.length > 3 && word.getLast? = some 's' then word.dropLast else word
  let p := { p with isRelative := true }
  match String.ofList word with
  | "year" => some { p with months := p.months + 12 * n }
  | "month" => some { p with months := p.months + n }
  | "fortnight" => some { p with days := p.days + 14 * n }
  | "week" => some { p with days := p.days + 7 * n }
  | "day" => some { p with days := p.days + n }
  | "hour" => some { p with seconds := p.seconds + 3600 * n }
  | "min" | "minute" => some { p with seconds := p.seconds + 60 * n }
  | "sec" | "second" => some { p with seconds := p.seconds + n }
  | _ => none

/-- The number that digits tell. -/
def value (digits : Text) : Int := ((digitsValue? 10 digits).getD 0 : Nat)

/-- A year as it is written, which may have two digits only. -/
def year (digits : Text) : Int :=
  let n := value digits
  if digits.length ≤ 2 then (if n < 69 then n + 2000 else n + 1900) else n

/-- The parts with a day, if there is none yet. -/
def withDay? (p : DateParts) (year : Option Int) (month day : Int) : Option DateParts :=
  if p.day.isSome then none else some { p with day := some (year, month, day) }

/-- The parts with a time of the day, if there is none yet; `half` is 0 in front of noon and 12
behind it. -/
def withTime? (p : DateParts) (hour minute : Int) (second : Text × Text) (half : Option Int) :
    Option DateParts :=
  let (s, places) := second
  let fraction := value ((places ++ List.replicate (9 - places.length) '0').take 9)
  let hour :=
    match half with
    | none => if hour < 24 then some hour else none
    | some half => if 1 ≤ hour && hour ≤ 12 then some (hour % 12 + half) else none
  match hour with
  | some hour =>
    if p.time.isSome || 60 ≤ minute || 60 ≤ value s then none
    else some { p with time := some ((hour * 3600 + minute * 60 + value s) * Duration.perSecond + fraction) }
  | none => none

/-- The half of the day that a word tells, if it does. -/
def half? (word : Text) : Option Int :=
  match String.ofList word with
  | "am" => some 0
  | "pm" => some 12
  | _ => none

/-- The half of the day, or the zone, behind a time, and what follows. -/
def afterTime (p : DateParts) (hour minute : Int) (second : Text × Text) (rest : List DateToken) :
    Option (DateParts × List DateToken) :=
  let plain := p.withTime? hour minute second none
  let zoned := fun (negative : Bool) (hours minutes : Int) (rest : List DateToken) =>
    let ahead := hours * 3600 + minutes * 60
    plain.map fun p => ({ p with zone := some (if negative then -ahead else ahead) }, rest)
  match rest with
  | .word w :: more =>
    match half? w with
    | some half => (p.withTime? hour minute second (some half)).map (·, more)
    | none => plain.map (·, rest)
  | .sign c :: .number n [] :: .sign ':' :: .number m [] :: more =>
    if c = '+' || c = '-' then zoned (c = '-') (value n) (value m) more else plain.map (·, rest)
  | .sign c :: .number n [] :: more =>
    if c = '+' || c = '-' then
      if n.length ≤ 2 then zoned (c = '-') (value n) 0 more
      else zoned (c = '-') (value n / 100) (value n % 100) more
    else plain.map (·, rest)
  | _ => plain.map (·, rest)

/-- So many units of time more, or less when they are told to be ago. -/
def goingOrBack? (p : DateParts) (n : Int) (unit : Text) (rest : List DateToken) :
    Option (DateParts × List DateToken) :=
  match rest with
  | .word ['a', 'g', 'o'] :: rest => (p.going? (-n) unit).map (·, rest)
  | _ => (p.going? n unit).map (·, rest)

/-- The parts with what a number that stands alone tells. -/
def withNumber? (p : DateParts) (digits : Text) : Option DateParts :=
  let n := value digits
  match p.day with
  | some (none, month, day) =>
    if !p.isRelative && (p.time.isSome || 2 < digits.length) then
      some { p with day := some (some (year digits), month, day) }
    else p.withTime? n 0 ([], []) none
  | _ =>
    if 4 < digits.length then
      if p.day.isSome then none
      else
        let early := digits.take (digits.length - 4)
        p.withDay? (some (year early)) (n / 100 % 100) (n % 100)
    else if digits.length ≤ 2 then p.withTime? n 0 ([], []) none
    else p.withTime? (n / 100) (n % 100) ([], []) none

/-- The parts with what comes next, and what follows. -/
def step (p : DateParts) : List DateToken → Option (DateParts × List DateToken)
  | .number h [] :: .sign ':' :: .number m [] :: .sign ':' :: .number s places :: rest =>
    p.afterTime (value h) (value m) (s, places) rest
  | .number h [] :: .sign ':' :: .number m [] :: rest => p.afterTime (value h) (value m) ([], []) rest
  | .number y [] :: .sign '-' :: .number m [] :: .sign '-' :: .number d [] :: rest =>
    let rest := match rest with
      -- a letter may stand between a day and a time
      | .word ['t'] :: .number n f :: more => .number n f :: more
      | _ => rest
    (p.withDay? (some (year y)) (value m) (value d)).map (·, rest)
  | .number a [] :: .sign '/' :: .number b [] :: .sign '/' :: .number c [] :: rest =>
    if 4 ≤ a.length then (p.withDay? (some (year a)) (value b) (value c)).map (·, rest)
    else (p.withDay? (some (year c)) (value a) (value b)).map (·, rest)
  | .number m [] :: .sign '/' :: .number d [] :: rest =>
    (p.withDay? none (value m) (value d)).map (·, rest)
  | .number d [] :: .sign '-' :: .word m :: .sign '-' :: .number y [] :: rest =>
    (month? m).bind fun m => (p.withDay? (some (year y)) m (value d)).map (·, rest)
  | .number n [] :: .word w :: rest =>
    match month? w, half? w with
    | some m, _ => (p.withDay? none m (value n)).map (·, rest)
    | none, some half => (p.withTime? (value n) 0 ([], []) (some half)).map (·, rest)
    | none, none =>
      (p.goingOrBack? (value n) w rest).or ((p.withNumber? n).map (·, .word w :: rest))
  | .number n [] :: rest => (p.withNumber? n).map (·, rest)
  | .sign c :: .number n [] :: .word w :: rest =>
    if c = '+' then p.goingOrBack? (value n) w rest
    else if c = '-' then p.goingOrBack? (-value n) w rest
    else none
  | .word w :: rest =>
    let at_ := fun (table : List (String × Int)) =>
      (table.find? (·.1.toList == w)).map Prod.snd
    let letter := match w with | [c] => letterHours? c | _ => none
    match month? w, weekday? w, rest with
    | some m, _, .number d [] :: rest => (p.withDay? none m (value d)).map (·, rest)
    | none, some n, rest =>
      if p.weekday.isSome then none else some ({ p with weekday := some (0, n) }, rest)
    | none, none, rest =>
      match at_ ordinalWords, (at_ zoneHours).or letter, rest with
      | some n, _, .word unit :: rest =>
        match weekday? unit with
        | some day =>
          if p.weekday.isSome then none else some ({ p with weekday := some (n, day) }, rest)
        | none => p.goingOrBack? n unit rest
      | none, some hours, rest =>
        if p.zone.isSome then none else some ({ p with zone := some (hours * 3600) }, rest)
      | none, none, rest =>
        match String.ofList w with
        | "now" | "today" => some ({ p with isRelative := true }, rest)
        | "yesterday" => (p.going? (-1) "day".toList).map (·, rest)
        | "tomorrow" => (p.going? 1 "day".toList).map (·, rest)
        | _ => p.goingOrBack? 1 w rest
      | _, _, _ => none
    | _, _, _ => none
  | _ => none

/-- The parts with all that is told. -/
def read? : (fuel : Nat) → DateParts → List DateToken → Option DateParts
  | _, p, [] => some p
  | 0, _, _ => none
  | fuel + 1, p, tokens => (p.step tokens).bind fun (p, rest) => read? fuel p rest

/-- How many days a month has. -/
def monthDays (year month : Int) : Int :=
  daysTo (if month = 12 then year + 1 else year) (month % 12 + 1) 1 - daysTo year month 1

/-- The time that is meant, when it is so late now; both are in nanoseconds. -/
def time? (p : DateParts) (now : Int) : Option Int :=
  let today := (now.fdiv Duration.perSecond).fdiv 86400
  let (thisYear, thisMonth, thisDay) := dayOf today
  let (year, month, day) :=
    match p.day with
    | some (year, month, day) => (year.getD thisYear, month, day)
    | none => (thisYear, thisMonth, thisDay)
  if month < 1 || 12 < month || day < 1 || monthDays year month < day then none
  else
    let isOnlyRelative := p.isRelative && p.day.isNone && p.weekday.isNone
    let inDay :=
      match p.time with
      | some time => time
      | none => if isOnlyRelative then now - today * 86400 * Duration.perSecond else 0
    -- months are counted first, and a day that a month does not have is one of the next
    let months := year * 12 + (month - 1) + p.months
    let days := daysTo (months.fdiv 12) (months.fmod 12 + 1) 1 + (day - 1) + p.days
    let days :=
      match p.day, p.weekday with
      | none, some (week, n) =>
        let ahead := (n - (days + 4)).fmod 7
        days + ahead + 7 * (week - if 0 < week && ahead ≠ 0 then 1 else 0)
      | _, _ => days
    some ((days * 86400 + p.seconds - p.zone.getD 0) * Duration.perSecond + inDay)

end DateParts

/-- The time, in nanoseconds, that a text tells when it is so late now. -/
def dateIn? (now : Int) (text : Text) : Option Int :=
  match text with
  | '@' :: rest =>
    let (whole, places) := (rest.takeWhile (· ≠ '.'), (rest.dropWhile (· ≠ '.')).drop 1)
    if !places.all Char.isDigit then none
    else
      (numberIn? true whole).map fun n =>
        n * Duration.perSecond + DateParts.value ((places ++ List.replicate (9 - places.length) '0').take 9)
  | text =>
    let tokens := dateTokens (text.length + 1) text
    (DateParts.read? (tokens.length + 1) {} tokens).bind (·.time? now)

/-- The time, in nanoseconds, that digits tell: month, day, hour and minute, behind a year that may
have four digits, two or none, and in front of a point and seconds if there are any. -/
def stampIn? (now : Int) (text : Text) : Option Int :=
  let main := text.takeWhile (· ≠ '.')
  let seconds := text.dropWhile (· ≠ '.')
  let late := main.drop (main.length - 8)
  let early := main.take (main.length - 8)
  let pair := fun (i : Nat) => DateParts.value ((late.drop (2 * i)).take 2)
  let (thisYear, _, _) := dayOf ((now.fdiv Duration.perSecond).fdiv 86400)
  let isRight := main.all Char.isDigit && main.length ∈ [8, 10, 12]
    && (seconds.isEmpty || (seconds.length = 3 && (seconds.drop 1).all Char.isDigit))
  if !isRight then none
  else
    let year := if early.isEmpty then thisYear else DateParts.year early
    let parts : DateParts := { day := some (some year, pair 0, pair 1) }
    (parts.withTime? (pair 2) (pair 3) (seconds.drop 1, []) none).bind (·.time? now)

/-- Print the time, by a format if there is one. -/
def tellDate : Utility :=
  Usage.program ⟨"uRI", "drf", [("utc", 'u'), ("universal", 'u'), ("date", 'd'), ("reference", 'r'),
    ("rfc-email", 'R'), ("iso-8601", 'I')]⟩ fun options words => do
    let s ← get
    let usual : Text :=
      if isGiven 'R' options then "%a, %d %b %Y %T %z".toList
      else if isGiven 'I' options then "%F".toList
      else "%a %b %e %T %Z %Y".toList
    let time :=
      match wordOf? 'd' options, (wordOf? 'r' options).bind s.fileAt? with
      | some date, _ => dateIn? s.files.now date
      | none, some file => some file.changed
      | none, none => some s.files.now
    match time, words with
    | none, _ =>
      Run.fail ("invalid date ".toList ++ inCurlyQuotes ((wordOf? 'd' options).getD []))
    | some time, [] => Run.print (dateText time usual ++ ['\n'])
    | some time, ['+' :: format] => Run.print (dateText time format ++ ['\n'])
    | _, [word] => Run.fail ("invalid date ".toList ++ inCurlyQuotes word)
    | _, _ :: extra :: _ => modify (·.misuse ("extra operand ".toList ++ inCurlyQuotes extra))

end NameTables.Script.Utility
