-- Zones of Asia and Africa, with all changes of their clocks.
import MailSearch.Zone.Basic

namespace MailSearch

namespace OffsetTable

def kolkataChanges : List (Stamp × Int) :=
  [(-3645237208, 21200), (-3155694800, 19270), (-2019705670, 19800), (-891581400, 23400),
    (-872058600, 19800), (-862637400, 23400), (-764145000, 19800)]

/-- The time of Kolkata. -/
def kolkata : OffsetTable :=
  ⟨21208, kolkataChanges, none⟩

def kathmanduChanges : List (Stamp × Int) :=
  [(-1577943676, 19800), (504901800, 20700)]

/-- The time of Kathmandu. -/
def kathmandu : OffsetTable :=
  ⟨20476, kathmanduChanges, none⟩

def tokyoChanges : List (Stamp × Int) :=
  [(-2587712400, 32400), (-683802000, 36000), (-672310800, 32400), (-654771600, 36000),
    (-640861200, 32400), (-620298000, 36000), (-609411600, 32400), (-588848400, 36000),
    (-577962000, 32400)]

/-- The time of Tokyo. -/
def tokyo : OffsetTable :=
  ⟨33539, tokyoChanges, none⟩

def monroviaChanges : List (Stamp × Int) :=
  [(-1604359012, -2670), (63593070, 0)]

/-- The time of Monrovia. -/
def monrovia : OffsetTable :=
  ⟨-2588, monroviaChanges, none⟩

end OffsetTable

end MailSearch
