import MailSearch.About
import MailSearch.Message
import MailSearch.Proofs.Interchange
import MailSearch.Proofs.ReadingBack
import MailSearch.Proofs.SourceLanguage
import MailSearch.Proofs.FirstOffence
import MailSearch.Proofs.Standalone
import MailSearch.Proofs.Frames
import MailSearch.Proofs.NegatedMatches
import MailSearch.Proofs.HeaderSets
import MailSearch.Proofs.Payloads
import MailSearch.Proofs.FirstFailure
import MailSearch.Proofs.RecordOutcomes
import MailSearch.Proofs.DayNumbers
import MailSearch.Proofs.SteadyClock
import MailSearch.Proofs.DayRange
import MailSearch.Proofs.FreshBuilder
import MailSearch.Proofs.SearchParts
import MailSearch.Proofs.CalendarDays
import MailSearch.Proofs.LocalDays
import MailSearch.Proofs.CalendarLimits
import MailSearch.Proofs.DayTiles
import MailSearch.Proofs.WalkTurns
import MailSearch.Proofs.ProgressMessages
import MailSearch.Proofs.BuildTrace
import MailSearch.Proofs.RefusalTexts
import MailSearch.Proofs.ReadingTurns
