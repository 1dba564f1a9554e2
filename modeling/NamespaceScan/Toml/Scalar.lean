import NamespaceScan.Toml.Reader

/-!
# Numbers, dates and times

Plain values that are recognised by their form: dates with or without a time,
times, and numbers. A date has to exist; the rest of a form decides what kind
of value it is.
-/

namespace NamespaceScan.Toml

/-- Digits with single underscores between them, and the rest. The underscores
are dropped. -/
def moreDigits (isDigit : CodePoint → Bool) : Text → Text × Text
  | [] => ([], [])
  | [c] => if isDigit c then ([c], []) else ([], [c])
  | c :: d :: rest =>
    if isDigit c then
      let (digits, after) := moreDigits isDigit (d :: rest)
      (c :: digits, after)
    else if c = 0x5F && isDigit d then
      let (digits, after) := moreDigits isDigit rest
      (d :: digits, after)
    else ([], c :: d :: rest)

/-- At least one digit, with single underscores between digits. -/
def digits? (isDigit : CodePoint → Bool) : Text → Option (Text × Text)
  | [] => none
  | c :: rest =>
    if isDigit c then
      let (digits, after) := moreDigits isDigit rest
      some (c :: digits, after)
    else none

/-- The number that digits spell in a base. -/
def numberOf (base : Nat) (digits : Text) : Nat :=
  digits.foldl (fun n c => base * n + c.hexValue?.getD 0) 0

/-- A number in a base given by a letter. -/
def based? : Text → Option (Value × Text)
  | zero :: letter :: rest =>
    let read (base : Nat) (isDigit : CodePoint → Bool) : Option (Value × Text) :=
      (digits? isDigit rest).map fun (digits, after) => (.int (numberOf base digits), after)
    if zero ≠ 0x30 then none
    else if letter = 0x78 then read 16 (·.hexValue?.isSome)
    else if letter = 0x62 then read 2 fun c => c = 0x30 || c = 0x31
    else if letter = 0x6F then read 8 (·.octalValue?.isSome)
    else none
  | _ => none

/-- A sign: whether it is a minus, and the rest. -/
def sign : Text → Bool × Text
  | c :: rest =>
    if c = 0x2D then (true, rest)
    else if c = 0x2B then (false, rest)
    else (false, c :: rest)
  | [] => (false, [])

/-- The part before the point: a zero, or digits that do not begin with one. -/
def wholePart? : Text → Option (Text × Text)
  | [] => none
  | c :: rest => if c = 0x30 then some ([c], rest) else digits? CodePoint.isDigit (c :: rest)

/-- The digits behind a point, if there are any. -/
def fraction? : Text → Option (Text × Text)
  | c :: rest => if c = 0x2E then digits? CodePoint.isDigit rest else none
  | [] => none

/-- The power of ten behind a number, if there is one. -/
def power? : Text → Option (Int × Text)
  | c :: rest =>
    if c = 0x65 || c = 0x45 then
      let (negative, unsigned) := sign rest
      (digits? CodePoint.isDigit unsigned).map fun (digits, after) =>
        let n : Int := numberOf 10 digits
        (if negative then -n else n, after)
    else none
  | [] => none

/-- A decimal number; a fraction or a power of ten makes it a real one. -/
def decimal? (t : Text) : Option (Value × Text) :=
  let (negative, unsigned) := sign t
  (wholePart? unsigned).map fun (whole, afterWhole) =>
    let fraction := fraction? afterWhole
    let afterFraction := (fraction.map (·.2)).getD afterWhole
    let power := power? afterFraction
    let after := (power.map (·.2)).getD afterFraction
    let n : Int := numberOf 10 whole
    if fraction.isNone && power.isNone then (.int (if negative then -n else n), after)
    else
      let places := (fraction.map (·.1)).getD []
      let exponent := (power.map (·.1)).getD 0
      (.real (.finite negative (numberOf 10 (whole ++ places)) (exponent - places.length)), after)

/-- Infinities and what is no number. -/
def special? (t : Text) : Option (Value × Text) :=
  let (negative, unsigned) := sign t
  if unsigned.startsWith "inf" then some (.real (.infinite negative), unsigned.drop 3)
  else if unsigned.startsWith "nan" then some (.real .undefined, unsigned.drop 3)
  else none

/-- Two digits within bounds. -/
def pair? (low high : Nat) : Text → Option (Nat × Text)
  | c :: d :: rest =>
    let n := numberOf 10 [c, d]
    if c.isDigit && d.isDigit && low ≤ n && n ≤ high then some (n, rest) else none
  | _ => none

/-- A mark and what follows it. -/
def mark? (mark : CodePoint) : Text → Option Text
  | c :: rest => if c = mark then some rest else none
  | [] => none

/-- The text behind the seconds of a time, with their decimals. -/
def afterSeconds (t : Text) : Text :=
  match (mark? 0x3A t).bind (pair? 0 59) with
  | none => t
  | some (_, rest) =>
    match mark? 0x2E rest with
    | some decimals =>
      if decimals.head?.any CodePoint.isDigit then decimals.dropWhile CodePoint.isDigit else rest
    | none => rest

/-- The text behind a time: hours and minutes, and seconds if there are any. -/
def afterTime? (t : Text) : Option Text := do
  let (_, rest) ← pair? 0 23 t
  let minutes ← mark? 0x3A rest
  let (_, rest) ← pair? 0 59 minutes
  return afterSeconds rest

/-- The text behind an offset from universal time. -/
def afterOffset? : Text → Option Text
  | c :: rest =>
    if c = 0x5A || c = 0x7A then some rest
    else if c = 0x2B || c = 0x2D then do
      let (_, rest) ← pair? 0 23 rest
      let minutes ← mark? 0x3A rest
      let (_, rest) ← pair? 0 59 minutes
      return rest
    else none
  | [] => none

/-- The number of days of a month. -/
def daysOf (year month : Nat) : Nat :=
  if month = 2 then
    if year % 4 = 0 ∧ (year % 100 ≠ 0 ∨ year % 400 = 0) then 29 else 28
  else if month ∈ [4, 6, 9, 11] then 30
  else 31

/-- The form of a date: year, month and day. -/
def dateForm? (t : Text) : Option ((Nat × Nat × Nat) × Text) := do
  let (century, rest) ← pair? 0 99 t
  let (years, rest) ← pair? 0 99 rest
  let rest ← mark? 0x2D rest
  let (month, rest) ← pair? 1 12 rest
  let rest ← mark? 0x2D rest
  let (day, rest) ← pair? 1 31 rest
  return ((100 * century + years, month, day), rest)

/-- The text behind the time of a date, if a time follows. -/
def afterDateTime? : Text → Option Text
  | c :: rest =>
    if c = 0x54 || c = 0x74 || c = 0x20 then
      (afterTime? rest).map fun after => (afterOffset? after).getD after
    else none
  | [] => none

/-- A date, with or without a time. -/
def date? : Reader (Option Value) := do
  let t ← get
  match dateForm? t with
  | none => return none
  | some ((year, month, day), rest) =>
    if year = 0 || daysOf year month < day then fail "Invalid date or datetime"
    match afterDateTime? rest with
    | some after =>
      set after
      return some .moment
    | none =>
      set rest
      return some .date

/-- The digits that a whole number may have. -/
def digitLimit : Nat := 4300

/-- The digits of a whole number in decimal, if there are too many of them. -/
def excessDigits? (t : Text) : Option Nat :=
  match decimal? t with
  | some (.int _, _) =>
    let digits := ((wholePart? (sign t).2).map (·.1.length)).getD 0
    if digitLimit < digits then some digits else none
  | _ => none

/-- A plain value that is no text and no truth value. -/
def scalar : Reader Value := do
  if let some value ← date? then return value
  let t ← get
  match afterTime? t with
  | some after =>
    set after
    return .time
  | none =>
    if let some (value, after) := based? t then
      set after
      return value
    if let some digits := excessDigits? t then throw (.beyond (.longNumber digitLimit digits))
    match (decimal? t).or (special? t) with
    | some (value, after) =>
      set after
      return value
    | none => fail "Invalid value"

end NamespaceScan.Toml
