/-! The words of a free date text, in any mixture of capital and small letters. -/
namespace RoutineVisibility.DateText

/-- Where a word stands in a list of groups of synonyms. -/
def groupOf? (groups : List (List String)) (word : String) : Option Nat :=
  groups.findIdx? (·.contains word.toLower)

/-- The day of the week, 0 for Monday. -/
def weekday? : String → Option Nat :=
  groupOf? [["mon", "monday"], ["tue", "tuesday"], ["wed", "wednesday"], ["thu", "thursday"],
    ["fri", "friday"], ["sat", "saturday"], ["sun", "sunday"]]

/-- The month, counted from 1. -/
def month? (word : String) : Option Nat :=
  (groupOf? [["jan", "january"], ["feb", "february"], ["mar", "march"], ["apr", "april"], ["may"],
    ["jun", "june"], ["jul", "july"], ["aug", "august"], ["sep", "sept", "september"],
    ["oct", "october"], ["nov", "november"], ["dec", "december"]] word).map (· + 1)

/-- The unit of a time: 0 for hours, 1 for minutes, 2 for seconds. -/
def unit? : String → Option Nat :=
  groupOf? [["h", "hour", "hours"], ["m", "minute", "minutes"], ["s", "second", "seconds"]]

/-- The half of the day: 0 before noon, 1 after it. -/
def half? : String → Option Nat :=
  groupOf? [["am", "a"], ["pm", "p"]]

/-- Words and marks that say nothing. -/
def isFiller (word : String) : Bool :=
  [" ", ".", ",", ";", "-", "/", "'", "at", "on", "and", "ad", "m", "t", "of",
    "st", "nd", "rd", "th"].contains word.toLower

def isOf (word : String) : Bool :=
  word.toLower == "of"

/-- The names of Universal Time, as they are written. -/
def isUtcName (word : String) : Bool :=
  ["UTC", "GMT", "Z", "z"].contains word

/-- The names of Universal Time, however they are written. -/
def isUtcWord (word : String) : Bool :=
  ["utc", "gmt", "z"].contains word.toLower

/-- A word that could name a zone: up to five capitals, or a name of Universal Time. -/
def isZoneName (word : String) : Bool :=
  word.length ≤ 5 && (word.toList.all (fun c => 'A' ≤ c && c ≤ 'Z') || isUtcName word)

end RoutineVisibility.DateText
