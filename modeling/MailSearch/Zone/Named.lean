-- A list of zones with their names. Names are case-sensitive and belong to one zone each. A builder
-- may as well be made with any other list.
import MailSearch.Zone.America
import MailSearch.Zone.Asia
import MailSearch.Zone.Europe
import MailSearch.Zone.Pacific

namespace MailSearch

namespace NamedZone

def listed : List NamedZone :=
  [⟨"UTC", .fixed 0⟩,
    ⟨"US/Pacific", OffsetTable.pacific.zone⟩,
    ⟨"US/Hawaii", OffsetTable.hawaii.zone⟩,
    ⟨"America/Sao_Paulo", OffsetTable.saoPaulo.zone⟩,
    ⟨"Europe/London", OffsetTable.london.zone⟩,
    ⟨"Europe/Paris", OffsetTable.paris.zone⟩,
    ⟨"Asia/Kolkata", OffsetTable.kolkata.zone⟩,
    ⟨"Asia/Kathmandu", OffsetTable.kathmandu.zone⟩,
    ⟨"Asia/Tokyo", OffsetTable.tokyo.zone⟩,
    ⟨"Australia/Lord_Howe", OffsetTable.lordHowe.zone⟩,
    ⟨"Pacific/Apia", OffsetTable.apia.zone⟩,
    ⟨"Pacific/Kiritimati", OffsetTable.kiritimati.zone⟩,
    ⟨"Pacific/Chatham", OffsetTable.chatham.zone⟩,
    ⟨"Pacific/Kwajalein", OffsetTable.kwajalein.zone⟩,
    ⟨"Etc/GMT+12", .fixed (-43200)⟩,
    ⟨"Etc/GMT-14", .fixed 50400⟩,
    ⟨"Africa/Monrovia", OffsetTable.monrovia.zone⟩,
    ⟨"EST5EDT", OffsetTable.eastern.zone⟩]

/-- The listed zone of a name. -/
def find? (name : String) : Option NamedZone := listed.find? (·.name = name)

end NamedZone

end MailSearch
