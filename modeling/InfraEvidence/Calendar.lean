/-
  InfraEvidence — points in time and their written form.

  * `Date`, `Date.ofDays`: the day of the Gregorian calendar that is so many
    days after 1 January 1970, or before it;
  * `Timestamp`: a second in the years -262143 to 262142;
  * `Timestamp.render`: its written form `2024-01-02T03:04:05Z`; a year
    outside 0 to 9999 has a sign and at least five characters.
-/
namespace InfraEvidence

/-- A day of the Gregorian calendar. -/
structure Date where
  year : Int
  month : Nat
  day : Nat
deriving DecidableEq

namespace Date

/-- The number of days from 1 March of the year 0 to 1 January 1970. -/
def epochShift : Int := 719468

/-- The number of days in 400 years. -/
def cycleDays : Int := 146097

/-- The day that is so many days after 1 January 1970.  The years are counted
    from March on, so that a leap day is the last day of its year. -/
def ofDays (days : Int) : Date :=
  let shifted := days + epochShift
  let cycle := shifted.fdiv cycleDays
  let inCycle := (shifted.fmod cycleDays).toNat
  let yearInCycle := (inCycle - inCycle / 1460 + inCycle / 36524 - inCycle / 146096) / 365
  let inYear := inCycle - (365 * yearInCycle + yearInCycle / 4 - yearInCycle / 100)
  let monthFromMarch := (5 * inYear + 2) / 153
  let month := if monthFromMarch < 10 then monthFromMarch + 3 else monthFromMarch - 9
  { year := cycle * 400 + yearInCycle + (if month ≤ 2 then 1 else 0)
    month := month
    day := inYear - (153 * monthFromMarch + 2) / 5 + 1 }

end Date

/-- The first second of the year -262143, counted from 1970. -/
def Timestamp.lowest : Int := -8334601228800

/-- The last second of the year 262142. -/
def Timestamp.highest : Int := 8210266876799

/-- A point in time. -/
structure Timestamp where
  /-- The seconds since the beginning of 1970, negative before -/
  seconds : Int
  inRange : Timestamp.lowest ≤ seconds ∧ seconds ≤ Timestamp.highest

namespace Timestamp

/-- The beginning of 1970. -/
def epoch : Timestamp := ⟨0, by decide⟩

/-- The point in time so many seconds after the beginning of 1970. -/
def ofSeconds? (seconds : Int) : Option Timestamp :=
  if h : lowest ≤ seconds ∧ seconds ≤ highest then some ⟨seconds, h⟩ else none

/-- A number with zeros before it up to so many digits. -/
def padded (digits n : Nat) : String :=
  "".pushn '0' (digits - (toString n).length) ++ toString n

/-- A year as it is written. -/
def yearText (year : Int) : String :=
  if 0 ≤ year ∧ year ≤ 9999 then padded 4 year.natAbs
  else if year < 0 then "-" ++ padded 4 year.natAbs
  else "+" ++ padded 4 year.natAbs

/-- The written form of a point in time. -/
def render (t : Timestamp) : String :=
  let date := Date.ofDays (t.seconds.fdiv 86400)
  let inDay := (t.seconds.fmod 86400).toNat
  yearText date.year ++ "-" ++ padded 2 date.month ++ "-" ++ padded 2 date.day ++ "T" ++
    padded 2 (inDay / 3600) ++ ":" ++ padded 2 (inDay / 60 % 60) ++ ":" ++
    padded 2 (inDay % 60) ++ "Z"

end Timestamp

end InfraEvidence
