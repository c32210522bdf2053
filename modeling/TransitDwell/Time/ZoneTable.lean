import TransitDwell.Time.ZoneData.Africa
import TransitDwell.Time.ZoneData.Aliases
import TransitDwell.Time.ZoneData.Asia
import TransitDwell.Time.ZoneData.Europe
import TransitDwell.Time.ZoneData.NorthAmerica
import TransitDwell.Time.ZoneData.Oceans
import TransitDwell.Time.ZoneData.SouthAmerica
import TransitDwell.Time.ZoneText

/-!
# Named zones

The zones of the time zone database by name. Names are matched letter by letter, and an alias is a
name in its own right.
-/

namespace TransitDwell

namespace ZoneTable

/-- The entries of yearly changes. -/
def changeEntries : List (String × String) :=
  [ZoneData.africaChanges, ZoneData.asiaChanges, ZoneData.europeChanges,
    ZoneData.northAmericaChanges, ZoneData.southAmericaChanges,
    ZoneData.oceansChanges].flatMap ZoneText.entries

/-- The entries of zones. -/
def zoneEntries : List (String × String) :=
  [ZoneData.africaZones, ZoneData.asiaZones, ZoneData.europeZones, ZoneData.northAmericaZones,
    ZoneData.southAmericaZones, ZoneData.oceansZones, ZoneData.fixedZones].flatMap ZoneText.entries

/-- The aliases with the names of the zones that they stand for. -/
def aliases : List (String × String) :=
  (ZoneText.entries ZoneData.aliases).flatMap fun (name, others) =>
    (ZoneText.parts others).map fun words => (String.join words, name)

/-- The yearly changes of a name. -/
def changesOf (name : String) : List YearlyChange :=
  match changeEntries.lookup name with
  | some text => (ZoneText.parts text).filterMap ZoneText.change?
  | none => []

/-- The eras of a zone. -/
def eras? (name : String) : Option (List ZoneEra) :=
  (zoneEntries.lookup ((aliases.lookup name).getD name)).map fun text =>
    (ZoneText.parts text).filterMap (ZoneText.era? changesOf)

/-- The history of the clocks of a zone. -/
def history? (name : String) : Option ClockHistory := (eras? name).map ClockHistory.ofEras

end ZoneTable

namespace Zone

/-- The zone of a name. -/
def named? (name : String) : Option Zone :=
  (ZoneTable.history? name).map fun history => history.zone name

/-- Los Angeles, where no zone is given. -/
def losAngeles : Zone :=
  ((ZoneTable.history? "America/Los_Angeles").getD ⟨0, []⟩).zone "America/Los_Angeles"

end Zone

end TransitDwell
