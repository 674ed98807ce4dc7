import ModelGateway.Time.Calendar

namespace ModelGateway

namespace Date

def write (t : Instant) : Bytes :=
  (Calendar.short Calendar.weekdayNames).getD
    (Calendar.weekday t.year t.month t.day) [] ++ utf8 ", " ++
    Bytes.padded 2 t.day ++ utf8 " " ++
    (Calendar.short Calendar.monthNames).getD (t.month - 1) [] ++ utf8 " " ++
    Bytes.padded 4 t.year ++ utf8 " " ++ Bytes.padded 2 t.hour ++ utf8 ":" ++
    Bytes.padded 2 t.minute ++ utf8 ":" ++
    Bytes.padded 2 t.second ++ utf8 " GMT"

def name? (names : List Bytes) (s : Bytes) : Option (Nat × Bytes) := do
  let place ← names.findIdx? fun name =>
    Bytes.startsWith (Bytes.lower name) (Bytes.lower s)
  return (place, s.drop (names.getD place []).length)

def isSpace (b : UInt8) : Bool := b == 0x20

/-- The rest after a mark. A space stands for any number of spaces, or for none
at the end. -/
def mark? : (mark : Bytes) → Bytes → Option Bytes
  | [], s => some s
  | m :: mark, s =>
      if isSpace m then
        if s.isEmpty || Bytes.startsWith " " s then
          mark? mark (s.dropWhile isSpace) else none
      else
        match s with
        | [] => none
        | b :: rest => if b == m then mark? mark rest else none

private def shortNumber? (s : Bytes) : Option (Nat × Bytes) :=
  let digits := (s.take 2).takeWhile Bytes.isDigit
  if digits.isEmpty then none
  else some (Bytes.digitsValue digits, s.drop digits.length)

def fraction (s : Bytes) : Nat × Bytes :=
  match s with
  | b :: rest =>
      let digits := rest.takeWhile Bytes.isDigit
      if (b == 0x2e || b == 0x2c) && !digits.isEmpty then
        (Bytes.digitsValue ((digits ++ List.replicate 9 0x30).take 9),
          rest.drop digits.length)
      else (0, s)
  | [] => (0, s)

structure Clock where
  hour : Nat
  minute : Nat
  second : Nat
  nanosecond : Nat

private def clock? (s : Bytes) : Option (Clock × Bytes) := do
  let (hour, s) ← shortNumber? s
  let s ← mark? ":" s
  let (minute, s) ← Instant.number? 2 s
  let s ← mark? ":" s
  let (second, s) ← Instant.number? 2 s
  let (nanosecond, s) := fraction s
  if hour < 24 && minute < 60 && second < 60 then
    some (⟨hour, minute, second, nanosecond⟩, s) else none

private def moment? (year month day : Nat) (clock : Clock) : Option Instant :=
  if 1 ≤ day && day ≤ Calendar.daysIn year (month + 1) then
    some ⟨year, month + 1, day, clock.hour, clock.minute, clock.second,
      clock.nanosecond, 0⟩
  else none

private def current? (s : Bytes) : Option Instant := do
  let (_, s) ← name? (Calendar.short Calendar.weekdayNames) s
  let s ← mark? ", " s
  let (day, s) ← Instant.number? 2 s
  let s ← mark? " " s
  let (month, s) ← name? (Calendar.short Calendar.monthNames) s
  let s ← mark? " " s
  let (year, s) ← Instant.number? 4 s
  let s ← mark? " " s
  let (clock, s) ← clock? s
  let s ← mark? " GMT" s
  if s.isEmpty then moment? year month day clock else none

private def isZone (s : Bytes) : Bool :=
  s.all Bytes.isUpper &&
    (s.length == 3 || ((s.length == 4 || s.length == 5) &&
      Bytes.endsWith "T" s))

/-- The form with the whole name of the day and two digits for the year. -/
def older? (s : Bytes) : Option Instant := do
  let (_, s) ← name? Calendar.weekdayNames s
  let s ← mark? ", " s
  let (day, s) ← Instant.number? 2 s
  let s ← mark? "-" s
  let (month, s) ← name? (Calendar.short Calendar.monthNames) s
  let s ← mark? "-" s
  let (year, s) ← Instant.number? 2 s
  let s ← mark? " " s
  let (clock, s) ← clock? s
  let s ← mark? " " s
  if isZone s then
    moment? (if 69 ≤ year then 1900 + year else 2000 + year) month day clock
  else none

private def oldest? (s : Bytes) : Option Instant := do
  let (_, s) ← name? (Calendar.short Calendar.weekdayNames) s
  let s ← mark? " " s
  let (month, s) ← name? (Calendar.short Calendar.monthNames) s
  let s ← mark? " " s
  let (day, s) ← shortNumber? s
  let s ← mark? " " s
  let (clock, s) ← clock? s
  let s ← mark? " " s
  let (year, s) ← Instant.number? 4 s
  if s.isEmpty then moment? year month day clock else none

def read? (s : Bytes) : Option Instant :=
  (current? s).or ((older? s).or (oldest? s))

end Date

end ModelGateway
