import BuildRunner.Sandbox.Number

/-! Dates: how the seconds since the epoch fall into days of months of years, and how moments are
written and read. All clocks show universal time. -/
namespace BuildRunner.Sandbox.Calendar

structure Date where
  year : Int
  month : Nat
  day : Nat
deriving DecidableEq, Repr

/-- A date with the seconds since its midnight. -/
structure Time where
  date : Date
  seconds : Nat

def secondsPerDay : Int := 86400

/-- Days from the epoch to a date. Years begin in March here, so that the day that is put in comes
last. -/
def daysTo (d : Date) : Int :=
  let year := if d.month ≤ 2 then d.year - 1 else d.year
  let era := year / 400
  let yearOfEra := year - era * 400
  let month : Int := (d.month + 9) % 12
  let dayOfYear := (153 * month + 2) / 5 + d.day - 1
  era * 146097 + (yearOfEra * 365 + yearOfEra / 4 - yearOfEra / 100 + dayOfYear) - 719468

def ofDays (days : Int) : Date :=
  let days := days + 719468
  let era := days / 146097
  let dayOfEra := days - era * 146097
  let yearOfEra := (dayOfEra - dayOfEra / 1460 + dayOfEra / 36524 - dayOfEra / 146096) / 365
  let dayOfYear := dayOfEra - (365 * yearOfEra + yearOfEra / 4 - yearOfEra / 100)
  let month := (5 * dayOfYear + 2) / 153
  let day := (dayOfYear - (153 * month + 2) / 5 + 1).toNat
  let number := (if month < 10 then month + 3 else month - 9).toNat
  ⟨yearOfEra + era * 400 + (if number ≤ 2 then 1 else 0), number, day⟩

def ofSeconds (seconds : Int) : Time := ⟨ofDays (seconds / secondsPerDay), (seconds % secondsPerDay).toNat⟩

def Time.toSeconds (t : Time) : Int := daysTo t.date * secondsPerDay + t.seconds

def weekday (d : Date) : Nat := ((daysTo d + 4) % 7).toNat

def dayOfYear (d : Date) : Nat := (daysTo d - daysTo ⟨d.year, 1, 1⟩).toNat

def monthNames : List String :=
  ["January", "February", "March", "April", "May", "June", "July", "August", "September", "October",
   "November", "December"]

def dayNames : List String :=
  ["Sunday", "Monday", "Tuesday", "Wednesday", "Thursday", "Friday", "Saturday"]

/-- The week that holds the Thursday next to a date, and the year of that Thursday. -/
def week (d : Date) : Int × Nat :=
  let fromMonday := (weekday d + 6) % 7
  let thursday := ofDays (daysTo d + 3 - fromMonday)
  (thursday.year, dayOfYear thursday / 7 + 1)

/-! Writing -/

/-- How a number of a date is filled up: with what, and to which width. -/
structure Fill where
  flag : Option Char
  width : Option Nat

def Fill.text (f : Fill) (upper : Bool) (s : String) : String :=
  let s := if upper || f.flag == some '^' then s.map Char.toUpper else s
  let fill := if f.flag == some '0' then '0' else ' '
  String.ofList (List.replicate (f.width.getD 0 - s.length) fill) ++ s

def Fill.number (f : Fill) (standard : Char) (width : Nat) (n : Int) : String :=
  let digits := toString n.natAbs
  let digits := if n < 0 then "-" ++ digits else digits
  let fill := match f.flag with
    | some '-' => none
    | some '_' => some ' '
    | some '0' => some '0'
    | _ => some standard
  match fill, f.width with
  | none, none => digits
  | none, some w => String.ofList (List.replicate (w - digits.length) ' ') ++ digits
  | some c, w => String.ofList (List.replicate (w.getD width - digits.length) c) ++ digits

/-- What a letter of a format stands for. -/
def piece (nanoseconds : Nat) (t : Time) (f : Fill) (letter : Char) : Option String :=
  let d := t.date
  let hour := t.seconds / 3600
  let minute := t.seconds / 60 % 60
  let second := t.seconds % 60
  let twelve := if hour % 12 == 0 then 12 else hour % 12
  let two (n : Int) : String := f.number '0' 2 n
  let plain (n : Nat) : String := Fill.number ⟨none, none⟩ '0' 2 n
  let clock := plain hour ++ ":" ++ plain minute
  let short (s : String) : String := (s.take 3).toString
  let monthName := monthNames.getD (d.month - 1) ""
  let dayName := dayNames.getD (weekday d) ""
  let half := if hour < 12 then "AM" else "PM"
  let isUpper := f.flag == some '#'
  let american := plain d.month ++ "/" ++ plain d.day ++ "/" ++ plain ((d.year % 100).toNat)
  match letter with
  | '%' => some "%"
  | 'n' => some "\n"
  | 't' => some "\t"
  | 'a' => some (f.text isUpper (short dayName))
  | 'A' => some (f.text isUpper dayName)
  | 'b' | 'h' => some (f.text isUpper (short monthName))
  | 'B' => some (f.text isUpper monthName)
  | 'c' =>
    some (f.text false (short dayName ++ " " ++ short monthName ++ " " ++ Fill.number ⟨none, none⟩ ' ' 2 d.day ++
      " " ++ clock ++ ":" ++ plain second ++ " " ++ toString d.year))
  | 'C' => some (two (d.year / 100))
  | 'd' => some (two d.day)
  | 'D' | 'x' => some (f.text false american)
  | 'e' => some (f.number ' ' 2 d.day)
  | 'F' => some (f.text false (Fill.number ⟨none, none⟩ '0' 4 d.year ++ "-" ++ plain d.month ++ "-" ++ plain d.day))
  | 'g' => some (two ((week d).1 % 100))
  | 'G' => some (f.number '0' 4 (week d).1)
  | 'H' => some (two hour)
  | 'I' => some (two twelve)
  | 'j' => some (f.number '0' 3 (dayOfYear d + 1))
  | 'k' => some (f.number ' ' 2 hour)
  | 'l' => some (f.number ' ' 2 twelve)
  | 'm' => some (two d.month)
  | 'M' => some (two minute)
  | 'N' =>
    let digits := Fill.number ⟨none, none⟩ '0' 9 nanoseconds
    some (match f.width with
      | some w => (digits.take w).toString ++ String.ofList (List.replicate (w - 9) '0')
      | none => digits)
  | 'p' => some (f.text false (if isUpper then half.map Char.toLower else half))
  | 'P' => some (f.text false (half.map Char.toLower))
  | 'q' => some (f.number '0' 1 ((d.month + 2) / 3 : Nat))
  | 'r' => some (f.text false (plain twelve ++ ":" ++ plain minute ++ ":" ++ plain second ++ " " ++ half))
  | 'R' => some (f.text false clock)
  | 's' => some (f.number '0' 1 t.toSeconds)
  | 'S' => some (two second)
  | 'T' | 'X' => some (f.text false (clock ++ ":" ++ plain second))
  | 'u' => some (f.number '0' 1 (if weekday d == 0 then 7 else weekday d : Nat))
  | 'U' => some (two ((dayOfYear d + 7 - weekday d) / 7 : Nat))
  | 'V' => some (two (week d).2)
  | 'w' => some (f.number '0' 1 (weekday d))
  | 'W' => some (two ((dayOfYear d + 7 - (weekday d + 6) % 7) / 7 : Nat))
  | 'y' => some (two (d.year % 100))
  | 'Y' => some (f.number '0' 4 d.year)
  | 'z' => some "+0000"
  | 'Z' => some (f.text false (if isUpper then "utc" else "UTC"))
  | _ => none

/-- A moment by a format. What is no conversion stays as it is. -/
def format (nanoseconds : Nat) (t : Time) : Nat → List Char → String
  | 0, _ => ""
  | _, [] => ""
  | fuel + 1, '%' :: rest =>
    let flags := rest.takeWhile "-_0^#".toList.contains
    let after := rest.drop flags.length
    let width := after.takeWhile Char.isDigit
    let after := after.drop width.length
    let f : Fill := ⟨flags.getLast?, if width.isEmpty then none else some (Numeral.valueOf 10 width)⟩
    let colons := after.takeWhile (· == ':')
    let after := after.drop colons.length
    match colons.length, after with
    | 0, letter :: more =>
      let letter' := if (letter == 'E' || letter == 'O') && !more.isEmpty then more.headD letter else letter
      let more' := if (letter == 'E' || letter == 'O') && !more.isEmpty then more.tail else more
      match piece nanoseconds t f letter' with
      | some s => s ++ format nanoseconds t fuel more'
      | none => "%" ++ format nanoseconds t fuel rest
    | 1, 'z' :: more => "+00:00" ++ format nanoseconds t fuel more
    | 2, 'z' :: more => "+00:00:00" ++ format nanoseconds t fuel more
    | 3, 'z' :: more => "+00" ++ format nanoseconds t fuel more
    | _, _ => "%" ++ format nanoseconds t fuel rest
  | fuel + 1, c :: rest => c.toString ++ format nanoseconds t fuel rest

/-! Reading -/

def isLeap (year : Int) : Bool := (year % 4 == 0 && year % 100 != 0) || year % 400 == 0

def monthLength (year : Int) (month : Nat) : Nat :=
  match month with
  | 2 => if isLeap year then 29 else 28
  | 4 | 6 | 9 | 11 => 30
  | _ => 31

def date? (year : Int) (month day : Nat) : Option Date :=
  if 1 ≤ month && month ≤ 12 && 1 ≤ day && day ≤ monthLength year month then some ⟨year, month, day⟩ else none

def clock? (hour minute second : Nat) : Option Nat :=
  if hour < 24 && minute < 60 && second ≤ 60 then some (hour * 3600 + minute * 60 + second) else none

/-- A stamp of digits in pairs, seconds after a point: month, day, hour and minute, after a year that
may be short or missing. -/
def ofStamp? (now : Int) (text : String) : Option Int := do
  let (digits, second) ← match text.splitOn "." with
    | [digits] => some (digits, 0)
    | [digits, seconds] => if seconds.length == 2 then (Numeral.natural? seconds).map (digits, ·) else none
    | _ => none
  if (Numeral.natural? digits).isNone then none
  let chars := digits.toList
  let pair (i : Nat) : Nat := Numeral.valueOf 10 ((chars.drop i).take 2)
  let (year, start) ← match chars.length with
    | 8 => some ((ofSeconds now).date.year, 0)
    | 10 => some ((if pair 0 < 69 then 2000 + (pair 0 : Int) else 1900 + (pair 0 : Int)), 2)
    | 12 => some (((pair 0 * 100 + pair 2 : Nat) : Int), 4)
    | _ => none
  let d ← date? year (pair start) (pair (start + 2))
  let seconds ← clock? (pair (start + 4)) (pair (start + 6)) second
  return daysTo d * secondsPerDay + seconds

/-- What was found in the words of a date so far. -/
structure Draft where
  date : Option Date
  clock : Option Nat
  nanoseconds : Nat
  /-- Seconds by which the clock is ahead of universal time. -/
  zone : Int
  months : Int
  days : Int
  seconds : Int

def lowered (s : String) : String := s.map Char.toLower

def monthOf? (word : String) : Option Nat :=
  ((monthNames.map lowered).findIdx? fun n => n == word || (n.take 3).toString == word).map (· + 1)

def numbers? (parts : List String) : Option (List Nat) := parts.mapM Numeral.natural?

/-- A distance in one unit: months, days and seconds of it. -/
def unit? (word : String) : Option (Int × Int × Int) :=
  match if word.length > 3 && word.endsWith "s" then (word.dropEnd 1).toString else word with
  | "year" => some (12, 0, 0)
  | "month" => some (1, 0, 0)
  | "fortnight" => some (0, 14, 0)
  | "week" => some (0, 7, 0)
  | "day" => some (0, 1, 0)
  | "hour" => some (0, 0, 3600)
  | "minute" | "min" => some (0, 0, 60)
  | "second" | "sec" => some (0, 0, 1)
  | _ => none

def Draft.move (d : Draft) (count : Int) (unit : Int × Int × Int) : Draft :=
  { d with
    months := d.months + count * unit.1, days := d.days + count * unit.2.1
    seconds := d.seconds + count * unit.2.2 }

/-- A time of day with its nanoseconds and a zone behind it. -/
def clockWord? (word : String) : Option (Nat × Nat × Int) := do
  let (text, zone) ←
    if word.endsWith "z" then some ((word.dropEnd 1).toString, 0)
    else
      let chars := word.toList
      let clock := chars.takeWhile fun c => c != '+' && c != '-'
      let after := chars.drop clock.length
      match after with
      | [] => some (word, 0)
      | sign :: rest =>
        let digits := rest.filter Char.isDigit
        if digits.length != 2 && digits.length != 4 then none
        else
          let hours := Numeral.valueOf 10 (digits.take 2)
          let minutes := Numeral.valueOf 10 (digits.drop 2)
          some (String.ofList clock, Real.signed (sign == '-') (hours * 3600 + minutes * 60))
  let pieces := text.splitOn "."
  let part := ((pieces.getD 1 "").toList ++ List.replicate 9 '0').take 9
  let nanoseconds := if part.all Char.isDigit then Numeral.valueOf 10 part else 0
  match numbers? ((pieces.headD "").splitOn ":") with
  | some [h, m] => (clock? h m 0).map (·, 0, zone)
  | some [h, m, s] => (clock? h m s).map (·, nanoseconds, zone)
  | _ => none

def dateWord? (word : String) : Option Date :=
  match numbers? (word.splitOn "-"), numbers? (word.splitOn "/") with
  | some [y, m, d], _ => date? y m d
  | _, some [a, b, c] => if a > 31 then date? a b c else date? c a b
  | _, _ => if word.length == 8 then (Numeral.natural? word).bind fun n => date? (n / 10000 : Nat) (n / 100 % 100) (n % 100) else none

/-- The seconds of a zone that is given by its distance, a sign and four digits. -/
def zone? (word : String) : Option Int :=
  match word.toList with
  | sign :: digits =>
    if (sign == '+' || sign == '-') && digits.length == 4 && digits.all Char.isDigit then
      some (Real.signed (sign == '-')
        (Numeral.valueOf 10 (digits.take 2) * 3600 + Numeral.valueOf 10 (digits.drop 2) * 60))
    else none
  | [] => none

def readWords (today : Date) : Nat → List String → Draft → Option Draft
  | 0, _, _ => none
  | _, [], d => some d
  | fuel + 1, word :: rest, d =>
    let next (d : Draft) : Option Draft := readWords today fuel rest d
    match if d.clock.isSome then zone? word else none with
    | some zone => next { d with zone }
    | none =>
    match word, rest with
    | "now", _ | "today", _ => next d
    | "tomorrow", _ => next (d.move 1 (0, 1, 0))
    | "yesterday", _ => next (d.move (-1) (0, 1, 0))
    | "utc", _ | "gmt", _ | "z", _ => next d
    | "+", n :: more => readWords today fuel (("+" ++ n) :: more) d
    | "-", n :: more => readWords today fuel (("-" ++ n) :: more) d
    | "ago", _ => next { d with months := -d.months, days := -d.days, seconds := -d.seconds }
    | "next", unit :: more => (unit? unit).bind fun u => readWords today fuel more (d.move 1 u)
    | "last", unit :: more => (unit? unit).bind fun u => readWords today fuel more (d.move (-1) u)
    | _, _ =>
      match dateWord? word, clockWord? word, unit? word, Numeral.decimal? word.toList, monthOf? word with
      | some date, _, _, _, _ => next { d with date := some date }
      | _, some (clock, nanoseconds, zone), _, _, _ => next { d with clock := some clock, nanoseconds, zone }
      | _, _, some unit, _, _ => next (d.move 1 unit)
      | _, _, _, some (n, tail), _ =>
        let after := if tail.isEmpty then rest else String.ofList tail :: rest
        match after with
        | unit :: more =>
          match unit? unit, monthOf? unit with
          | some u, _ => readWords today fuel more (d.move n u)
          | _, some month =>
            match more.head?.bind Numeral.natural? with
            | some year =>
              (date? year month n.toNat).bind fun date => readWords today fuel more.tail { d with date := some date }
            | none => (date? today.year month n.toNat).bind fun date => readWords today fuel more { d with date := some date }
          | _, _ => none
        | [] => none
      | _, _, _, _, some month =>
        let number (word : String) : Option Nat :=
          Numeral.natural? (if word.endsWith "," then (word.dropEnd 1).toString else word)
        match rest with
        | day :: year :: more =>
          match number day, number year with
          | some day, some year =>
            (date? year month day).bind fun date => readWords today fuel more { d with date := some date }
          | some day, none =>
            (date? today.year month day).bind fun date =>
              readWords today fuel (year :: more) { d with date := some date }
          | _, _ => none
        | [day] => (number day).bind fun day => (date? today.year month day).map fun date => { d with date := some date }
        | [] => none
      | _, _, _, _, _ => none

def ofText? (now : Nat) (text : String) : Option Int := do
  let giga : Int := 1000000000
  let chars := (text.toList.dropWhile Numeral.isSpace)
  match chars with
  | '@' :: rest =>
    let (n, after) ← Numeral.decimal? rest
    match after with
    | [] => return n * giga
    | '.' :: digits =>
      let part := (digits ++ List.replicate 9 '0').take 9
      if !digits.all Char.isDigit then none
      return n * giga + Numeral.valueOf 10 part
    | _ => none
  | _ =>
    -- a letter between a date and a time of day parts them as a blank does
    let split := fun c : Char => c.isWhitespace
    let words := (chars.splitOnP split).filter (!·.isEmpty)
    let words := words.flatMap fun w =>
      match w.splitOnP (fun c => c == 'T' || c == 't') with
      | [a, b] => if a.head?.any Char.isDigit && b.head?.any Char.isDigit then [a, b] else [w]
      | _ => [w]
    let today := ofSeconds (now / giga)
    let d ← readWords today.date (2 * words.length + 2) (words.map fun w => lowered (String.ofList w)) ⟨none, none, 0, 0, 0, 0, 0⟩
    let given := d.date.getD today.date
    let months := given.year * 12 + (given.month : Int) - 1 + d.months
    let moved : Date := ⟨months / 12, (months % 12).toNat + 1, 1⟩
    let days := daysTo moved + (given.day : Int) - 1 + d.days
    let clock : Int := match d.clock, d.date with
      | some c, _ => c
      | none, some _ => 0
      | none, none => if words.isEmpty then 0 else today.seconds
    let rest : Int := if d.clock.isSome || d.date.isSome || words.isEmpty then 0 else (now : Int) % giga
    return (days * secondsPerDay + clock - d.zone + d.seconds) * giga + rest + d.nanoseconds

end BuildRunner.Sandbox.Calendar
