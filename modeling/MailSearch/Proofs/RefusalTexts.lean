-- The texts of refusals. The text names what is at fault and quotes it, and both can be read off
-- the text again. So no two refusals for different parts of a filter are told alike, whatever
-- characters stand in the operator or the header.
import MailSearch.Message
import MailSearch.Proofs.QuotedReading
import MailSearch.Proofs.Spelling

namespace MailSearch

/-! ## The name -/

namespace RefusalKind

theorem equals_notMem_tokenName (kind : RefusalKind) : '=' ∉ kind.tokenName.toList := by
  cases kind <;> decide

/-- Each kind of refusal has a name of its own for the part at fault. -/
theorem find?_tokenName (kind : RefusalKind) :
    all.find? (·.tokenName.toList = kind.tokenName.toList) = some kind := by
  cases kind <;> rfl

end RefusalKind

/-! ## One text -/

namespace Report

/-- The kind and the part of a filter that the text of a refusal tells. The name goes up to the
first equals sign, and the rest is the part in quotes. -/
def kindAndToken? (text : String) : Option (RefusalKind × String) := do
  let name := text.toList.takeWhile (· ≠ '=')
  let kind ← RefusalKind.all.find? (·.tokenName.toList = name)
  let token ← unquoted? (String.ofList (text.toList.drop (name.length + 1)))
  return (kind, token)

theorem text_aboutToken (kind : RefusalKind) (token : String) :
    (aboutToken kind (.text token)).text = kind.tokenName ++ "=" ++ quoted token := by
  have hempty : (Value.text "").isTruthy = false := rfl
  simp [text, aboutToken, writtenDetails, hempty, Value.written]

theorem kindAndToken?_text (kind : RefusalKind) (token : String) :
    kindAndToken? (aboutToken kind (.text token)).text = some (kind, token) := by
  have hchars : (aboutToken kind (.text token)).text.toList =
      kind.tokenName.toList ++ '=' :: (quoted token).toList := by
    rw [text_aboutToken, String.toList_append, String.toList_append, List.append_assoc]
    rfl
  have hname : (kind.tokenName.toList ++ '=' :: (quoted token).toList).takeWhile (· ≠ '=') =
      kind.tokenName.toList := by
    rw [List.takeWhile_append_of_pos, List.takeWhile_cons_of_neg (by simp), List.append_nil]
    intro c hc
    exact decide_eq_true fun h => kind.equals_notMem_tokenName (h ▸ hc)
  have hrest : (kind.tokenName.toList ++ '=' :: (quoted token).toList).drop
      (kind.tokenName.toList.length + 1) = (quoted token).toList := by
    rw [List.drop_append]
    simp
  simp only [kindAndToken?, hchars, hname, hrest, RefusalKind.find?_tokenName, String.ofList_toList,
    unquoted?_quoted, Option.bind_eq_bind, Option.bind_some, Option.pure_def]

end Report

/-! ## The law -/

/-- The compiler refuses the value with this report and tells it by this text. -/
def Compiler.Refuses (c : Compiler) (v : Value) (report : Report) (text : String) : Prop :=
  ∃ refusal, c.compile v = .error (.inexpressible (.refused refusal)) ∧
    report = refusal.report ∧ text = CompileFault.message (.inexpressible (.refused refusal))

/-- The text with which a compiler refuses tells all of the report. -/
theorem Compiler.Refuses.told {c : Compiler} {v : Value} {report : Report} {text : String}
    (h : c.Refuses v report text) :
    ∃ kind token, report = .aboutToken kind (.text token) ∧
      Report.kindAndToken? text = some (kind, token) := by
  obtain ⟨refusal, -, rfl, rfl⟩ := h
  exact ⟨refusal.kind, refusal.token, rfl, Report.kindAndToken?_text refusal.kind refusal.token⟩

/-- The text of a refusal is the name of the part at fault, an equals sign and the part in quotes.
The kind and the part can be read off that text, whichever compiler refuses whatever value. So two
refusals that are told by one text are of one family and of one kind, and about one part. -/
theorem a_refusal_is_told_by_its_text :
    (∀ (kind : RefusalKind) (token : String),
        (Report.aboutToken kind (.text token)).text = kind.tokenName ++ "=" ++ quoted token ∧
          Report.kindAndToken? (Report.aboutToken kind (.text token)).text =
            some (kind, token)) ∧
      (∀ (c : Compiler) (v : Value) (report : Report) (text : String), c.Refuses v report text →
        ∃ kind token, report = .aboutToken kind (.text token) ∧
          Report.kindAndToken? text = some (kind, token)) ∧
      ∀ (c d : Compiler) (v w : Value) (a b : Report) (text : String),
        c.Refuses v a text → d.Refuses w b text →
          a.family = b.family ∧ a.kind? = b.kind? ∧ a.token = b.token := by
  refine ⟨fun kind token => ⟨Report.text_aboutToken kind token,
    Report.kindAndToken?_text kind token⟩, fun c v report text h => h.told, ?_⟩
  intro c d v w a b text ha hb
  obtain ⟨kind, token, rfl, hread⟩ := ha.told
  obtain ⟨kind', token', rfl, hread'⟩ := hb.told
  obtain ⟨rfl, rfl⟩ : kind = kind' ∧ token = token' := by
    rw [hread] at hread'
    simpa using hread'
  exact ⟨rfl, rfl, rfl⟩

/-- An operator with both marks, a backslash, a line end and a character that does not print. -/
def oddOperator : String := "it's \"a\\b\"\n\u0080"

def oddOperatorText : String := "operator='it\\'s \"a\\\\b\"\\n\\x80'"

theorem an_odd_operator_is_told :
    Compiler.standard.Refuses (.node (.unary oddOperator (.phrase "a")))
        (.aboutToken .operator (.text oddOperator)) oddOperatorText ∧
      (Compiler.ofHeaders "plain" []).Refuses (.node (.binary oddOperator (.string "") .null))
        (Refusal.operator oddOperator).report oddOperatorText ∧
      (∃ kind token, Report.aboutToken .operator (.text oddOperator) =
          .aboutToken kind (.text token) ∧
        Report.kindAndToken? oddOperatorText = some (kind, token)) ∧
      (Report.aboutToken .operator (.text oddOperator)).token =
        (Refusal.operator oddOperator).report.token := by
  obtain ⟨-, htold, hsame⟩ := a_refusal_is_told_by_its_text
  have hunary : Compiler.standard.Refuses (.node (.unary oddOperator (.phrase "a")))
      (.aboutToken .operator (.text oddOperator)) oddOperatorText :=
    ⟨.operator oddOperator,
      (Refused.negation (by decide)).compile "GmailFilterCompiler", rfl, by decide +kernel⟩
  have hbinary : (Compiler.ofHeaders "plain" []).Refuses
      (.node (.binary oddOperator (.string "") .null))
      (Refusal.operator oddOperator).report oddOperatorText :=
    ⟨.operator oddOperator, (Refused.joint (by decide)).compile "plain", rfl, by decide +kernel⟩
  have hone := hsame _ _ _ _ _ _ _ hunary hbinary
  exact ⟨hunary, hbinary, htold _ _ _ _ hunary, hone.2.2⟩

end MailSearch
