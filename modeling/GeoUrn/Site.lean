import GeoUrn.Files.Tree

/-!
What a run finds around it: the time, the files, random digits and the installed version.
-/
namespace GeoUrn

open CodePoint (char)

structure Instant where
  year : Nat
  month : Nat
  day : Nat
  hour : Nat
  minute : Nat
  second : Nat
  microsecond : Nat
  deriving DecidableEq, Repr

/-- The date of a day by its number since the first of January 1970. The reckoning counts years from
March on, so that the day that some years have more is the last of its year, and takes four hundred
years at a time. -/
def dateOfDay (days : Nat) : Nat × Nat × Nat :=
  let shifted := days + 719468
  let era := shifted / 146097
  let dayOfEra := shifted % 146097
  let yearOfEra := (dayOfEra - dayOfEra / 1460 + dayOfEra / 36524 - dayOfEra / 146096) / 365
  let dayOfYear := dayOfEra - (365 * yearOfEra + yearOfEra / 4 - yearOfEra / 100)
  let marchMonth := (5 * dayOfYear + 2) / 153
  let day := dayOfYear - (153 * marchMonth + 2) / 5 + 1
  let month := if marchMonth < 10 then marchMonth + 3 else marchMonth - 9
  (era * 400 + yearOfEra + (if month ≤ 2 then 1 else 0), month, day)

/-- The reading so many microseconds after the beginning of 1970. -/
def Instant.ofMicroseconds (n : Nat) : Instant :=
  let seconds := n / 1000000
  let (year, month, day) := dateOfDay (seconds / 86400)
  ⟨year, month, day, seconds / 3600 % 24, seconds / 60 % 60, seconds % 60, n % 1000000⟩

/-- Date and time with the letter that stands for universal time. The fraction of a second has six
digits and is left out if it is zero. -/
def Instant.timestamp (t : Instant) : Text :=
  Decimal.padded 4 t.year ++ char '-' :: Decimal.padded 2 t.month ++
    char '-' :: Decimal.padded 2 t.day ++ char 'T' :: Decimal.padded 2 t.hour ++
    char ':' :: Decimal.padded 2 t.minute ++ char ':' :: Decimal.padded 2 t.second ++
    (if t.microsecond = 0 then [] else char '.' :: Decimal.padded 6 t.microsecond) ++ [char 'Z']

/-- The name of a run: when it began, and eight random digits. -/
def runId (t : Instant) (random : Chars) : Text :=
  t.timestamp ++ char '_' :: char '_' :: Text.ofChars (random.take 8)

/-- The clock stands still while a run works, and `duration` is the time in seconds that the run
reports to have taken. -/
structure Site where
  files : FileTree
  clock : Instant
  random : Chars
  installed : Option Chars
  duration : Decimal.Binary64
  deriving DecidableEq, Repr

namespace Site

def runId (site : Site) : Text := GeoUrn.runId site.clock site.random

def version (site : Site) : Text := Text.ofChars (site.installed.getD "unknown")

end Site

def programVersion : Chars := "0.4.0"

end GeoUrn
