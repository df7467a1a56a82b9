import MediaQuery.Format.Json
import MediaQuery.Log.Record

/-!
# Times of log records

The time that stands on a record when it is written: a moment of universal time, counted in seconds
and microseconds since the start of 1970.
-/

namespace MediaQuery.Log

/-- Days from the first of March of the year zero to the first of January 1970. -/
def epochDays : Nat := 719468

/-- Days in four centuries. -/
def daysPerEra : Nat := 146097

/-- The day that comes some days after the first of January 1970. -/
def dayAfterEpoch (days : Nat) : Day :=
  let z := days + epochDays
  let era := z / daysPerEra
  let dayOfEra := z % daysPerEra
  let yearOfEra := (dayOfEra - dayOfEra / 1460 + dayOfEra / 36524 - dayOfEra / 146096) / 365
  let dayOfYear := dayOfEra - (365 * yearOfEra + yearOfEra / 4 - yearOfEra / 100)
  let shifted := (5 * dayOfYear + 2) / 153
  let month := if shifted < 10 then shifted + 3 else shifted - 9
  ⟨yearOfEra + 400 * era + (if month ≤ 2 then 1 else 0), month,
    dayOfYear - (153 * shifted + 2) / 5 + 1⟩

/-- A moment as records show it. -/
def stamp (seconds micros : Nat) : String :=
  let ofDay := seconds % 86400
  let clock : Clock := ⟨ofDay / 3600, ofDay / 60 % 60, ofDay % 60, micros, none⟩
  (dayAfterEpoch (seconds / 86400)).text ++ "T" ++ clock.text ++ "Z"

/-- A record as a line with its time. -/
def Record.text (r : Record) (time : String) : String :=
  match r with
  | .line text => time ++ " " ++ text
  | .object entries => Json.write (.map (entries ++ [(.text "timestamp", .ofString time)]))

end MediaQuery.Log
