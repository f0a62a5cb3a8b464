-- What the library says about itself: its version and the names it offers.
import MailSearch.Expression.Basic

namespace MailSearch

def version : String := "0.1.0"

/-- The names that the library offers, in the order in which they are listed. -/
def offeredNames : List String :=
  ["SUPPORTED_HEADERS", "GmailFilterCompiler", "compile_filter", "FilterNode", "parse_filter",
    "SearchQueryBuilder", "build_search_query", "GmailQueryError", "CompileError", "ErrorKind",
    "UnsupportedOperatorError", "UnsupportedHeaderError", "UnsupportedLiteralError"]

end MailSearch
