import ModelGateway.Time.Instant

namespace ModelGateway

namespace Calendar

private def isLeap (year : Nat) : Bool :=
  year % 4 == 0 && (year % 100 != 0 || year % 400 == 0)

def daysIn (year month : Nat) : Nat :=
  if month == 2 then if isLeap year then 29 else 28
  else if month == 4 || month == 6 || month == 9 || month == 11 then 30
  else 31

private def daysBeforeYear (year : Nat) : Nat :=
  365 * year + (year + 3) / 4 - (year + 99) / 100 + (year + 399) / 400

private def daysBeforeMonth (year month : Nat) : Nat :=
  (List.range (month - 1)).foldl (fun days before =>
    days + daysIn year (before + 1)) 0

private def dayNumber (year month day : Nat) : Nat :=
  daysBeforeYear year + daysBeforeMonth year month + (day - 1)

/-- The day of the week, from Sunday on. The year zero starts on a Saturday. -/
def weekday (year month day : Nat) : Nat :=
  (dayNumber year month day + 6) % 7

def weekdayNames : List Bytes :=
  ["Sunday", "Monday", "Tuesday", "Wednesday", "Thursday", "Friday", "Saturday"]

def monthNames : List Bytes :=
  ["January", "February", "March", "April", "May", "June", "July", "August",
    "September", "October", "November", "December"]

def short (names : List Bytes) : List Bytes :=
  names.map (·.take 3)

end Calendar

namespace Instant

def seconds (t : Instant) : Int :=
  Calendar.dayNumber t.year t.month t.day * 86400 + t.hour * 3600 + t.minute *
    60 + t.second - t.offset * 60

def le (t u : Instant) : Bool :=
  t.seconds < u.seconds ||
    (t.seconds == u.seconds && t.nanosecond ≤ u.nanosecond)

end Instant

end ModelGateway
