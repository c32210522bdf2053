import TransitDwell.Time.ZoneEra

/-!
# Written zones

The time zone database is kept as text. A text is a row of entries, each of which ends with a full
stop: a name, an equals sign, and parts with semicolons between them.

* An entry of yearly changes has a part for each of them: the years as `1918`, `1918-1919` or
  `1918-`, the month, the day as `9`, `lastSun`, `Sun>=8` or `Sun<=25`, the time of day, and the
  saving.
* An entry of a zone has a part for each of its eras: the standard offset, the name of the yearly
  changes or a saving or `-`, and the year, month, day and time of day at which the era ends. The
  last of these may be left out, and the last era has none of them.
* An entry of aliases has a part for each other name of a zone.

Offsets, savings and times of day are written `2`, `2:30` or `2:30:15`, also with a minus sign. An
`s` after a time of day tells that it is standard time, and a `u` that it is UTC. Weekdays and
months are written with three letters.
-/

namespace TransitDwell

namespace ZoneText

/-! ### Entries -/

/-- The words of a text. -/
def words (text : String) : List String :=
  ((text.map fun c => if c = '\n' then ' ' else c).splitOn " ").filter (· ≠ "")

/-- The entries of a text: the name of each and its parts. -/
def entries (text : String) : List (String × String) :=
  (text.splitOn ".").filterMap fun entry =>
    match entry.splitOn " = " with
    | [name, parts] => some (String.join (words name), parts)
    | _ => none

/-- The words of the parts of an entry. -/
def parts (text : String) : List (List String) := (text.splitOn ";").map words

/-! ### Words -/

/-- Reads a number. -/
def number? (word : String) : Option Nat := Digits.toNat? 10 word.toList

/-- Reads hours, minutes and seconds. -/
def clock? (cs : List Char) : Option Int :=
  match ((String.ofList cs).splitOn ":").map number? with
  | [some h] => some (h * 3600 : Nat)
  | [some h, some m] => some (h * 3600 + m * 60 : Nat)
  | [some h, some m, some s] => some (h * 3600 + m * 60 + s : Nat)
  | _ => none

/-- Reads hours, minutes and seconds, with or without a minus sign. -/
def seconds? (cs : List Char) : Option Int :=
  match cs with
  | '-' :: cs => (clock? cs).map fun n => -n
  | cs => clock? cs

/-- Reads a time of day. -/
def time? (word : String) : Option DialTime :=
  match word.toList.reverse with
  | 's' :: cs => (seconds? cs.reverse).map fun n => ⟨n, .standard⟩
  | 'u' :: cs => (seconds? cs.reverse).map fun n => ⟨n, .universal⟩
  | cs => (seconds? cs.reverse).map fun n => ⟨n, .shown⟩

/-- The months in their order. -/
def months : List String :=
  ["Jan", "Feb", "Mar", "Apr", "May", "Jun", "Jul", "Aug", "Sep", "Oct", "Nov", "Dec"]

/-- Reads a month. -/
def month? (word : String) : Option Nat := (months.idxOf? word).map (· + 1)

/-- The weekdays in their order. -/
def weekdays : List String := ["Sun", "Mon", "Tue", "Wed", "Thu", "Fri", "Sat"]

/-- Reads a weekday. -/
def weekday? (word : String) : Option Nat := weekdays.idxOf? word

/-- Reads a day of a month. -/
def day? (word : String) : Option MonthDay :=
  match word.splitOn "last", word.splitOn ">=", word.splitOn "<=" with
  | ["", w], _, _ => (weekday? w).map .last
  | _, [w, n], _ => do return .onOrAfter (← weekday? w) (← number? n)
  | _, _, [w, n] => do return .onOrBefore (← weekday? w) (← number? n)
  | _, _, _ => (number? word).map .day

/-- Reads the first and the last of some years. -/
def years? (word : String) : Option (Nat × Nat) :=
  match word.splitOn "-" with
  | [first] => (number? first).map fun n => (n, n)
  | [first, ""] => (number? first).map fun n => (n, lastRuledYear)
  | [first, last] => do return (← number? first, ← number? last)
  | _ => none

/-! ### Changes and eras -/

/-- Reads a yearly change. -/
def change? : List String → Option YearlyChange
  | [years, month, day, time, saving] => do
    let (firstYear, lastYear) ← years? years
    return ⟨firstYear, lastYear, ← month? month, ← day? day, ← time? time,
      ← seconds? saving.toList⟩
  | _ => none

/-- Reads a date and a time of day. The month, the day and the time may be left out. -/
def moment? (words : List String) : Option (CivilDate × DialTime) :=
  match words ++ ["Jan", "1", "0"].drop (words.length - 1) with
  | [year, month, day, time] => do
    let year ← number? year
    return ((← day? day).date year (← month? month), ← time? time)
  | _ => none

/-- Reads an era, given the yearly changes of a name. -/
def era? (changesOf : String → List YearlyChange) : List String → Option ZoneEra
  | offset :: saving :: stop => do
    let standard ← seconds? offset.toList
    let stop ← if stop.isEmpty then some none else (moment? stop).map some
    match saving, seconds? saving.toList with
    | "-", _ => return ⟨standard, 0, [], stop⟩
    | _, some fixed => return ⟨standard, fixed, [], stop⟩
    | name, none => return ⟨standard, 0, changesOf name, stop⟩
  | _ => none

end ZoneText

end TransitDwell
