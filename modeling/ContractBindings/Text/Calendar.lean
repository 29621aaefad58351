/-!
# The calendar

Dates and times of day of the universal time. A time is a number of thousandths of a second since
the start of 1970; the calendar is that of today for all years.

* `dayNumber`, `Date.ofDay`: dates as numbers of days, and back.
* `Moment.read?`: the time that a text tells, such as `2020-01-31 12:00 +1 day`.
* `Moment.format`: a time as a text.
-/

namespace ContractBindings.Text

/-- A day of the calendar. -/
structure Date where
  year : Int
  month : Nat
  day : Nat
  deriving DecidableEq, Repr

/-- The days from the start of 1970 to a date. The month and the day may lie outside the calendar:
the day after the last one of a month is the first one of the next. -/
def dayNumber (year month day : Int) : Int :=
  -- Years begin in March here, so that the odd day of a leap year is the last one.
  let months := year * 12 + (month - 1) - 2
  let year := months.fdiv 12
  let month := months.fmod 12
  year * 365 + year.fdiv 4 - year.fdiv 100 + year.fdiv 400 + (153 * month + 2).fdiv 5 + day - 1 -
    719468

/-- The date of a day. -/
def Date.ofDay (days : Int) : Date :=
  let days := days + 719468
  let era := days.fdiv 146097
  let inEra := days.fmod 146097
  let yearInEra := (inEra - inEra / 1460 + inEra / 36524 - inEra / 146096) / 365
  let inYear := inEra - (365 * yearInEra + yearInEra / 4 - yearInEra / 100)
  let month := (5 * inYear + 2) / 153
  let day := inYear - (153 * month + 2) / 5 + 1
  let month' := if month < 10 then month + 3 else month - 9
  { year := yearInEra + era * 400 + (if month' ≤ 2 then 1 else 0),
    month := month'.toNat, day := day.toNat }

/-- The number of days of a month. -/
def monthDays (year : Int) (month : Nat) : Int :=
  dayNumber year (month + 1) 1 - dayNumber year month 1

/-- The names of the months. -/
def monthNames : List String :=
  ["January", "February", "March", "April", "May", "June", "July", "August", "September",
    "October", "November", "December"]

/-- The names of the days of a week, from Sunday on. -/
def weekdayNames : List String :=
  ["Sunday", "Monday", "Tuesday", "Wednesday", "Thursday", "Friday", "Saturday"]

/-- The thousandths of a second in a day. -/
def dayLength : Int := 86400000

namespace Moment

/-- The day of a time. -/
def dayOf (time : Int) : Int := time.fdiv dayLength

/-- The day of the week of a day, from Sunday on. -/
def weekdayOf (day : Int) : Nat := ((day + 4).fmod 7).toNat

/-! ## Reading -/

/-- What a text has told so far. -/
structure Reading where
  date : Option (Int × Int × Int) := none
  /-- The time of day. -/
  clock : Option Int := none
  /-- What is added to universal time where the time of day is told. -/
  zone : Option Int := none
  weekday : Option Nat := none
  /-- What is added in the end: months, and thousandths of a second. -/
  months : Int := 0
  added : Int := 0
  dates : Nat := 0
  clocks : Nat := 0

/-- A part of a text that tells a time. -/
inductive Token where
  /-- A number, with the sign before it, if there is one. -/
  | number (sign : Option Char) (digits : List Char)
  | word (letters : String)
  | mark (c : Char)
  deriving DecidableEq

/-- Cuts a text into parts. Blanks and commas part them, and what is in brackets is no part. -/
def tokens : Nat → List Char → List Token
  | 0, _ => []
  | _ + 1, [] => []
  | fuel + 1, c :: rest =>
    if c = ' ' || c = ',' || ('\t' ≤ c && c ≤ '\r') then tokens fuel rest
    else if c.isDigit then
      let digits := (c :: rest).takeWhile Char.isDigit
      .number none digits :: tokens fuel ((c :: rest).drop digits.length)
    else if c = '+' || c = '-' then
      let rest' := rest.dropWhile (· = ' ')
      let digits := rest'.takeWhile Char.isDigit
      if digits.isEmpty then .mark c :: tokens fuel rest
      else .number (some c) digits :: tokens fuel (rest'.drop digits.length)
    else if c.isAlpha then
      let letters := (c :: rest).takeWhile fun d => d.isAlpha || d = '.'
      let word := String.ofList ((letters.map Char.toLower).filter (· ≠ '.'))
      .word word :: tokens fuel ((c :: rest).drop letters.length)
    else .mark c :: tokens fuel rest

/-- The value of digits. -/
def valueOf (digits : List Char) : Int :=
  digits.foldl (fun n c => n * 10 + (c.toNat - '0'.toNat : Nat)) (0 : Int)

/-- A year of two digits is one of the years around 2000. -/
def fullYear (digits : List Char) : Int :=
  let n := valueOf digits
  if digits.length ≤ 2 then (if n < 69 then n + 2000 else n + 1900) else n

/-- The number of a month by the start of its name. -/
def month? (word : String) : Option Nat :=
  let found := monthNames.findIdx? fun name =>
    let name := name.toLower
    word = name || word = String.ofList (name.toList.take 3) ||
      (word = "sept" && name = "september")
  found.map (· + 1)

/-- The day of the week by the start of its name. -/
def weekday? (word : String) : Option Nat :=
  weekdayNames.findIdx? fun name =>
    let name := name.toLower
    word = name || word = String.ofList (name.toList.take 3) ||
      (word ∈ ["tues", "wednes", "thur", "thurs"] && name.startsWith word)

/-- A unit of time: in months, or in thousandths of a second. -/
inductive Span where
  | months (n : Int)
  | moments (n : Int)

/-- The unit with a name. -/
def span? (word : String) : Option Span :=
  let name :=
    if 1 < word.length && word.endsWith "s" then String.ofList word.toList.dropLast else word
  match name with
  | "year" => some (.months 12)
  | "month" => some (.months 1)
  | "fortnight" => some (.moments (14 * dayLength))
  | "week" => some (.moments (7 * dayLength))
  | "day" => some (.moments dayLength)
  | "hour" => some (.moments 3600000)
  | "minute" | "min" => some (.moments 60000)
  | "second" | "sec" => some (.moments 1000)
  | _ => none

/-- The zone with a name, in thousandths of a second. -/
def zone? (word : String) : Option Int :=
  let hour : Int := 3600000
  match word with
  | "utc" | "gmt" | "z" | "ut" | "uct" | "wet" => some 0
  | "est" => some (-5 * hour)
  | "edt" => some (-4 * hour)
  | "cst" => some (-6 * hour)
  | "cdt" => some (-5 * hour)
  | "mst" => some (-7 * hour)
  | "mdt" => some (-6 * hour)
  | "pst" => some (-8 * hour)
  | "pdt" => some (-7 * hour)
  | "bst" | "cet" | "met" => some hour
  | "cest" | "eet" => some (2 * hour)
  | "msk" => some (3 * hour)
  | "jst" => some (9 * hour)
  | word =>
    match word.toList with
    | [c] =>
      if 'a' ≤ c && c ≤ 'i' then some ((c.toNat - 'a'.toNat + 1 : Nat) * hour)
      else if 'k' ≤ c && c ≤ 'm' then some ((c.toNat - 'k'.toNat + 10 : Nat) * hour)
      else if 'n' ≤ c && c ≤ 'y' && c ≠ 't' then some (-((c.toNat - 'n'.toNat + 1 : Nat) * hour))
      else none
    | _ => none

/-- Adds a number of units. -/
def Reading.add (r : Reading) (n : Int) : Span → Reading
  | .months m => { r with months := r.months + n * m }
  | .moments m => { r with added := r.added + n * m }

/-- Notes a date. -/
def Reading.onDate (r : Reading) (year month day : Int) : Reading :=
  { r with date := some (year, month, day), dates := r.dates + 1 }

/-- Notes a time of day. Nothing comes of one that no clock shows. -/
def Reading.atTime? (r : Reading) (hour minute second fraction : Int) (half : Option Bool) :
    Option Reading :=
  let hour? : Option Int :=
    match half with
    | none => if hour ≤ 23 then some hour else none
    | some afternoon =>
      if hour < 1 || 12 < hour then none
      else some (hour % 12 + if afternoon then 12 else 0)
  match hour? with
  | some hour =>
    if minute ≤ 59 && second ≤ 60 then
      some { r with
        clock := some (((hour * 60 + minute) * 60 + second) * 1000 + fraction)
        clocks := r.clocks + 1 }
    else none
  | none => none

/-- The thousandths that digits after a point tell. -/
def thousandths (digits : List Char) : Int := valueOf ((digits ++ ['0', '0', '0']).take 3)

/-- The half of the day with a name. -/
def half? : String → Option Bool
  | "am" => some false
  | "pm" => some true
  | _ => none

/-- Reads what may stand after a time of day: the half of the day, or a zone in digits. -/
def afterClock (r : Reading) (hour minute second fraction : Int) (rest : List Token) :
    Option (Reading × List Token) :=
  let zoned (sign : Char) (digits : List Char) (minutes : Int) : Int :=
    let n := valueOf digits
    let whole := if digits.length ≤ 2 then n * 60 + minutes else n / 100 * 60 + n % 100
    (if sign = '-' then -whole else whole) * 60000
  match rest with
  | .word w :: rest =>
    match half? w with
    | some afternoon =>
      (r.atTime? hour minute second fraction (some afternoon)).map fun r => (r, rest)
    | none => (r.atTime? hour minute second fraction none).map fun r => (r, .word w :: rest)
  | .number (some sign) digits :: .mark ':' :: .number none more :: rest =>
    (r.atTime? hour minute second fraction none).map fun r =>
      ({ r with zone := some (zoned sign digits (valueOf more)) }, rest)
  | .number (some sign) digits :: .word w :: rest =>
    (r.atTime? hour minute second fraction none).map fun r =>
      if (span? w).isSome then (r, .number (some sign) digits :: .word w :: rest)
      else ({ r with zone := some (zoned sign digits 0) }, .word w :: rest)
  | .number (some sign) digits :: rest =>
    (r.atTime? hour minute second fraction none).map fun r =>
      ({ r with zone := some (zoned sign digits 0) }, rest)
  | rest => (r.atTime? hour minute second fraction none).map fun r => (r, rest)

/-- A number without a unit: a date, a time of day, or the year of a date. -/
def bareNumber (r : Reading) (digits : List Char) : Option Reading :=
  let n := valueOf digits
  if r.date.isSome && r.dates = 1 && r.clock.isSome && digits.length ≤ 4 && 2 < digits.length then
    r.date.map fun (_, month, day) => { r with date := some (fullYear digits, month, day) }
  else if 4 < digits.length then
    some (r.onDate (n / 10000) (n / 100 % 100) (n % 100))
  else if digits.length ≤ 2 then r.atTime? n 0 0 0 none
  else r.atTime? (n / 100) (n % 100) 0 0 none

/-- Reads parts one after the other. -/
def readTokens : Nat → Reading → List Token → Option Reading
  | 0, _, _ => none
  | _ + 1, r, [] => some r
  | fuel + 1, r, ts =>
    match ts with
    | .number none y :: .number (some '-') m :: .number (some '-') d :: .word "t" :: rest =>
      readTokens fuel (r.onDate (fullYear y) (valueOf m) (valueOf d)) rest
    | .number none y :: .number (some '-') m :: .number (some '-') d :: rest =>
      readTokens fuel (r.onDate (fullYear y) (valueOf m) (valueOf d)) rest
    | .number none a :: .mark '/' :: .number none b :: .mark '/' :: .number none c :: rest =>
      if 4 ≤ a.length then readTokens fuel (r.onDate (valueOf a) (valueOf b) (valueOf c)) rest
      else readTokens fuel (r.onDate (fullYear c) (valueOf a) (valueOf b)) rest
    | .number none h :: .mark ':' :: .number none m :: .mark ':' :: .number none s :: .mark '.' ::
        .number none f :: rest =>
      match afterClock r (valueOf h) (valueOf m) (valueOf s) (thousandths f) rest with
      | some (r, rest) => readTokens fuel r rest
      | none => none
    | .number none h :: .mark ':' :: .number none m :: .mark ':' :: .number none s :: rest =>
      match afterClock r (valueOf h) (valueOf m) (valueOf s) 0 rest with
      | some (r, rest) => readTokens fuel r rest
      | none => none
    | .number none h :: .mark ':' :: .number none m :: rest =>
      match afterClock r (valueOf h) (valueOf m) 0 0 rest with
      | some (r, rest) => readTokens fuel r rest
      | none => none
    | .number sign n :: .word w :: rest =>
      let value := if sign = some '-' then -valueOf n else valueOf n
      match span? w, half? w, month? w, rest with
      | some span, _, _, .word "ago" :: rest => readTokens fuel (r.add (-value) span) rest
      | some span, _, _, rest => readTokens fuel (r.add value span) rest
      | none, some afternoon, _, rest =>
        match r.atTime? value 0 0 0 (some afternoon) with
        | some r => readTokens fuel r rest
        | none => none
      | none, none, some month, .number none y :: rest =>
        readTokens fuel (r.onDate (fullYear y) month value) rest
      | none, none, some month, rest => readTokens fuel (r.onDate 0 month value) rest
      | none, none, none, rest =>
        match sign, bareNumber r n with
        | none, some r => readTokens fuel r (.word w :: rest)
        | _, _ => none
    | .number none n :: rest =>
      match bareNumber r n with
      | some r => readTokens fuel r rest
      | none => none
    | .word w :: rest =>
      let direction? : Option Int :=
        match w with
        | "next" => some 1
        | "last" => some (-1)
        | "this" => some 0
        | _ => none
      match direction?, rest with
      | some n, .word unit :: rest =>
        match span? unit with
        | some span => readTokens fuel (r.add n span) rest
        | none => none
      | some _, _ => none
      | none, rest =>
        match w with
        | "now" | "today" => readTokens fuel r rest
        | "tomorrow" => readTokens fuel { r with added := r.added + dayLength } rest
        | "yesterday" => readTokens fuel { r with added := r.added - dayLength } rest
        | w =>
          match span? w, month? w, weekday? w, zone? w with
          | some span, _, _, _ =>
            match rest with
            | .word "ago" :: rest => readTokens fuel (r.add (-1) span) rest
            | rest => readTokens fuel (r.add 1 span) rest
          | none, some month, _, _ =>
            match rest with
            | .number none d :: .number none y :: .mark ':' :: rest =>
              readTokens fuel (r.onDate 0 month (valueOf d)) (.number none y :: .mark ':' :: rest)
            | .number none d :: .number none y :: rest =>
              readTokens fuel (r.onDate (fullYear y) month (valueOf d)) rest
            | .number none d :: rest => readTokens fuel (r.onDate 0 month (valueOf d)) rest
            | _ => none
          | none, none, some weekday, _ =>
            if r.weekday.isSome then none
            else readTokens fuel { r with weekday := some weekday } rest
          | none, none, none, some zone =>
            if r.zone.isSome then none else readTokens fuel { r with zone := some zone } rest
          | none, none, none, none => none
    | _ => none

/-- The time that was told, where it is now another time. -/
def Reading.time? (now : Int) (r : Reading) : Option Int :=
  if 1 < r.dates || 1 < r.clocks then none
  else
    let today := Date.ofDay (dayOf now)
    let (year, month, day) := r.date.getD (today.year, today.month, today.day)
    let year := if year = 0 && r.date.isSome then today.year else year
    if month < 1 || 12 < month || day < 1 || monthDays year month.toNat < day then none
    else
      let told := r.date.isSome || r.clock.isSome || r.weekday.isSome || r.zone.isSome
      let clock := r.clock.getD (if told then 0 else now.fmod dayLength)
      let number := dayNumber year (month + r.months) day
      -- A day of the week is the next one, unless a date was told.
      let ahead : Int :=
        match r.weekday, r.date with
        | some w, none => (w - weekdayOf number : Int).fmod 7
        | _, _ => 0
      some ((number + ahead) * dayLength + clock + r.added - r.zone.getD 0)

/-- The time that a text tells, where it is now another time. -/
def read? (now : Int) (text : String) : Option Int :=
  match text.toList with
  | '@' :: rest =>
    let (negative, digits) : Bool × List Char :=
      match rest with
      | '-' :: digits => (true, digits)
      | '+' :: digits => (false, digits)
      | digits => (false, digits)
    let whole := digits.takeWhile Char.isDigit
    let fraction? : Option (List Char) :=
      match digits.drop whole.length with
      | [] => some []
      | '.' :: fraction => if fraction.all Char.isDigit then some fraction else none
      | _ => none
    match whole, fraction? with
    | [], _ | _, none => none
    | whole, some fraction =>
      let time := valueOf whole * 1000 + thousandths fraction
      some (if negative then -time else time)
  | cs =>
    let cs := if cs.all (· = ' ') then "00:00".toList else cs
    (readTokens (2 * cs.length + 2) {} (tokens (cs.length + 1) cs)).bind (Reading.time? now)

/-! ## Writing -/

/-- Digits up to a width, after a character that fills it. -/
def filled (fill : Char) (width : Nat) (n : Int) : String :=
  let digits := (toString n.natAbs).toList
  let room := List.replicate (width - digits.length - (if n < 0 then 1 else 0)) fill
  String.ofList (if n < 0 then '-' :: room ++ digits else room ++ digits)

/-- The week of a day in its year by the rule that the first week has the first Thursday, with the
year to which it belongs. -/
def weekOf (day : Int) : Int × Int :=
  let thursday := day - ((day + 3).fmod 7) + 3
  let year := (Date.ofDay thursday).year
  (year, (thursday - dayNumber year 1 1) / 7 + 1)

/-- What a letter after a percent sign stands for: a text, or a number with its usual fill and
width. -/
inductive Item where
  | text (s : String)
  | number (n : Int) (fill : Char) (width : Nat)

/-- The start of a name. -/
def short (name : String) : String := String.ofList (name.toList.take 3)

/-- What a letter stands for at a time. -/
def item? (time : Int) (letter : Char) : Option Item :=
  let day := dayOf time
  let date := Date.ofDay day
  let seconds := (time.fmod dayLength) / 1000
  let hour := seconds / 3600
  let minute := seconds / 60 % 60
  let second := seconds % 60
  let two (n : Int) : String := filled '0' 2 n
  let twelve := if hour % 12 = 0 then 12 else hour % 12
  let inYear := day - dayNumber date.year 1 1
  let weekday := weekdayOf day
  let weekdayName := (weekdayNames[weekday]?).getD ""
  let monthName := (monthNames[date.month - 1]?).getD ""
  let year := date.year
  let clock := two hour ++ ":" ++ two minute ++ ":" ++ two second
  let american := two date.month ++ "/" ++ two date.day ++ "/" ++ two (year.fmod 100)
  match letter with
  | 'a' => some (.text (short weekdayName))
  | 'A' => some (.text weekdayName)
  | 'b' | 'h' => some (.text (short monthName))
  | 'B' => some (.text monthName)
  | 'c' =>
    some (.text (short weekdayName ++ " " ++ short monthName ++ " " ++ filled ' ' 2 date.day ++
      " " ++ clock ++ " " ++ toString year))
  | 'C' => some (.number (year.fdiv 100) '0' 2)
  | 'd' => some (.number date.day '0' 2)
  | 'D' | 'x' => some (.text american)
  | 'e' => some (.number date.day ' ' 2)
  | 'F' => some (.text (filled '0' 4 year ++ "-" ++ two date.month ++ "-" ++ two date.day))
  | 'g' => some (.number ((weekOf day).1.fmod 100) '0' 2)
  | 'G' => some (.number (weekOf day).1 '0' 4)
  | 'H' => some (.number hour '0' 2)
  | 'I' => some (.number twelve '0' 2)
  | 'j' => some (.number (inYear + 1) '0' 3)
  | 'k' => some (.number hour ' ' 2)
  | 'l' => some (.number twelve ' ' 2)
  | 'm' => some (.number date.month '0' 2)
  | 'M' => some (.number minute '0' 2)
  | 'n' => some (.text "\n")
  | 'N' => some (.text (filled '0' 3 (time.fmod 1000) ++ "000000"))
  | 'p' => some (.text (if hour < 12 then "AM" else "PM"))
  | 'P' => some (.text (if hour < 12 then "am" else "pm"))
  | 'q' => some (.number ((date.month - 1) / 3 + 1) '0' 1)
  | 'r' =>
    some (.text (two twelve ++ ":" ++ two minute ++ ":" ++ two second ++
      if hour < 12 then " AM" else " PM"))
  | 'R' => some (.text (two hour ++ ":" ++ two minute))
  | 's' => some (.number (time.fdiv 1000) '0' 1)
  | 'S' => some (.number second '0' 2)
  | 't' => some (.text "\t")
  | 'T' | 'X' => some (.text clock)
  | 'u' => some (.number (if weekday = 0 then 7 else weekday) '0' 1)
  | 'U' => some (.number ((inYear + 7 - weekday) / 7) '0' 2)
  | 'V' => some (.number (weekOf day).2 '0' 2)
  | 'w' => some (.number weekday '0' 1)
  | 'W' => some (.number ((inYear + 7 - (weekday + 6) % 7) / 7) '0' 2)
  | 'y' => some (.number (year.fmod 100) '0' 2)
  | 'Y' => some (.number year '0' 4)
  | 'z' => some (.text "+0000")
  | 'Z' => some (.text "UTC")
  | '%' => some (.text "%")
  | _ => none

/-- What flags and a width make of an item. -/
def Item.render (flags : List Char) (width : Option Nat) : Item → String
  | .number n fill usual =>
    let fill :=
      flags.foldl (fun fill c => if c = '_' then ' ' else if c = '0' then '0' else fill) fill
    if flags.contains '-' then toString n else filled fill (width.getD usual) n
  | .text s =>
    let s := if flags.contains '^' || flags.contains '#' then s.toUpper else s
    let fill := if flags.contains '0' then '0' else ' '
    String.ofList (List.replicate (width.getD 0 - s.length) fill) ++ s

/-- A time as a text says that has letters after percent signs. -/
def formatFrom (time : Int) : Nat → List Char → List Char
  | 0, _ => []
  | _ + 1, [] => []
  | fuel + 1, '%' :: rest =>
    let flags := rest.takeWhile (· ∈ ['-', '_', '0', '^', '#', '+'])
    let after := rest.drop flags.length
    let digits := after.takeWhile Char.isDigit
    let after := after.drop digits.length
    let width := if digits.isEmpty then none else some (valueOf digits).toNat
    match after with
    | ':' :: 'z' :: rest => "+00:00".toList ++ formatFrom time fuel rest
    | ':' :: ':' :: 'z' :: rest => "+00:00:00".toList ++ formatFrom time fuel rest
    | 'N' :: rest =>
      let all := (filled '0' 3 (time.fmod 1000) ++ "000000").toList
      all.take (width.getD 9) ++ formatFrom time fuel rest
    | letter :: rest =>
      match item? time letter with
      | some item => (item.render flags width).toList ++ formatFrom time fuel rest
      | none => '%' :: flags ++ digits ++ letter :: formatFrom time fuel rest
    | [] => '%' :: flags ++ digits
  | fuel + 1, c :: rest => c :: formatFrom time fuel rest

/-- A time as a text says that has letters after percent signs. -/
def format (pattern : String) (time : Int) : String :=
  String.ofList (formatFrom time (pattern.length + 1) pattern.toList)

end Moment

end ContractBindings.Text
