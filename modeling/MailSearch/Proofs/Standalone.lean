-- Which expressions stand by themselves. An expression is read from left to right: a double quote
-- opens or closes a quotation, and a bracket outside quotations goes one level deeper or back. It
-- stands by itself if a sign before it applies to the whole of it. Groups, phrases and negations
-- never break that; only a text that stands as a term can, or a match whose value has quotes.
import MailSearch.Proofs.ReadingBack
import MailSearch.Proofs.Spelling

namespace MailSearch

/-! ## Reading an expression -/

/-- A place in an expression: in a quotation or not, and how many brackets are open. -/
structure Place where
  quoted : Bool
  depth : Nat
deriving DecidableEq

namespace Place

def start : Place := ⟨false, 0⟩

/-- Reads one character. A bracket that closes nothing ends the reading, and so does a blank that
no bracket and no quotation holds. -/
def step (p : Place) (c : Char) : Option Place :=
  if c = '"' then some ⟨!p.quoted, p.depth⟩
  else if p.quoted then some p
  else if c = '(' then some ⟨false, p.depth + 1⟩
  else if c = ')' then if p.depth = 0 then none else some ⟨false, p.depth - 1⟩
  else if c = ' ' ∧ p.depth = 0 then none
  else some p

def scan (p : Place) : List Char → Option Place
  | [] => some p
  | c :: rest => (p.step c).bind fun q => q.scan rest

/-- The same place with more brackets around it. -/
def deeper (p : Place) (k : Nat) : Place := ⟨p.quoted, p.depth + k⟩

theorem scan_append (p : Place) (s t : List Char) :
    p.scan (s ++ t) = (p.scan s).bind fun q => q.scan t := by
  induction s generalizing p with
  | nil => rfl
  | cons c s ih =>
    rw [List.cons_append, scan, scan]
    rcases p.step c with _ | q
    · rfl
    · exact ih q

theorem step_deeper {p q : Place} {c : Char} (k : Nat) (h : p.step c = some q) :
    (p.deeper k).step c = some (q.deeper k) := by
  grind [step, deeper]

/-- What is read at some depth is read in the same way at a greater depth. -/
theorem scan_deeper {p q : Place} {s : List Char} (k : Nat) (h : p.scan s = some q) :
    (p.deeper k).scan s = some (q.deeper k) := by
  induction s generalizing p with
  | nil =>
    cases h
    rfl
  | cons c s ih =>
    rw [scan] at h ⊢
    rcases hstep : p.step c with _ | r
    · simp [hstep] at h
    · rw [hstep] at h
      rw [step_deeper k hstep]
      exact ih h

theorem scan_quoted {s : List Char} (depth : Nat) (h : '"' ∉ s) :
    scan ⟨true, depth⟩ s = some ⟨true, depth⟩ := by
  induction s with
  | nil => rfl
  | cons c s ih =>
    simp only [List.mem_cons, not_or] at h
    rw [scan, step, if_neg (Ne.symm h.1), if_pos rfl]
    exact ih h.2

theorem scan_plain {s : List Char} (p : Place) (h : ∀ c ∈ s, isPlain c = true) :
    p.scan s = some p := by
  induction s with
  | nil => rfl
  | cons c s ih =>
    have hc : ¬ (c = ' ' ∨ c = '"' ∨ c = '(' ∨ c = ')' ∨ c = ':') := by
      simpa [isPlain] using h c List.mem_cons_self
    simp only [not_or] at hc
    have hstep : p.step c = some p := by simp [step, hc]
    rw [scan, hstep]
    exact ih fun d hd => h d (List.mem_cons_of_mem c hd)

end Place

/-! ## Texts that stand by themselves -/

/-- Read from its start, the text opens what it closes, closes what it opens, and has no blank
outside. -/
def Standalone (s : String) : Prop := Place.start.scan s.toList = some Place.start

/-- Read inside a quotation, the text comes back into one. -/
def Enclosed (s : String) : Prop := Place.scan ⟨true, 0⟩ s.toList = some ⟨true, 0⟩

theorem enclosed_of_unquoted {s : String} (h : Unquoted s) : Enclosed s := Place.scan_quoted 0 h

theorem standalone_phrase {text : String} (h : Unquoted text) :
    Standalone ("\"" ++ text ++ "\"") := by
  have hlist : ("\"" ++ text ++ "\"").toList = '"' :: (text.toList ++ ['"']) := by simp
  unfold Standalone
  rw [hlist, Place.scan, show Place.start.step '"' = some ⟨true, 0⟩ from rfl, Option.bind_some,
    Place.scan_append, Place.scan_quoted 0 h]
  rfl

theorem standalone_minus_iff {s : String} : Standalone ("-" ++ s) ↔ Standalone s := by
  have hlist : ("-" ++ s).toList = '-' :: s.toList := by simp
  unfold Standalone
  rw [hlist, Place.scan, show Place.start.step '-' = some Place.start from rfl, Option.bind_some]

/-- Two texts that stand by themselves make a group that does, whatever plain word is between. -/
theorem standalone_group {a b s : String} (between : List Char) (ha : Standalone a)
    (hb : Standalone b) (hs : s.toList = '(' :: (a.toList ++ (between ++ (b.toList ++ [')']))))
    (hbetween : Place.scan ⟨false, 1⟩ between = some ⟨false, 1⟩) : Standalone s := by
  have ha : Place.scan ⟨false, 1⟩ a.toList = some ⟨false, 1⟩ := Place.scan_deeper 1 ha
  have hb : Place.scan ⟨false, 1⟩ b.toList = some ⟨false, 1⟩ := Place.scan_deeper 1 hb
  unfold Standalone
  rw [hs, Place.scan, show Place.start.step '(' = some ⟨false, 1⟩ from rfl, Option.bind_some,
    Place.scan_append, ha, Option.bind_some, Place.scan_append, hbetween, Option.bind_some,
    Place.scan_append, hb]
  rfl

/-- A directive stands by itself exactly if its value is enclosed. -/
theorem standalone_directive_iff {header value : String} (h : header ∈ standardHeaders) :
    Standalone (header ++ ":\"" ++ value ++ "\"") ↔ Enclosed value := by
  have hlist : (header ++ ":\"" ++ value ++ "\"").toList =
      header.toList ++ ':' :: '"' :: (value.toList ++ ['"']) := by simp
  have hplain := (Decode.isWord_of_mem_standardHeaders h).plain
  unfold Standalone Enclosed
  rw [hlist, Place.scan_append, Place.scan_plain _ hplain, Option.bind_some, Place.scan,
    show Place.start.step ':' = some Place.start from rfl, Option.bind_some, Place.scan,
    show Place.start.step '"' = some ⟨true, 0⟩ from rfl, Option.bind_some, Place.scan_append]
  rcases Place.scan ⟨true, 0⟩ value.toList with _ | ⟨quoted, depth⟩
  · simp
  · cases quoted <;> simp [Place.scan, Place.step, Place.start]

theorem standalone_negated_directive_iff {header value : String} (h : header ∈ standardHeaders) :
    Standalone ("-" ++ header ++ ":\"" ++ value ++ "\"") ↔ Enclosed value := by
  have hminus : "-" ++ header ++ ":\"" ++ value ++ "\"" =
      "-" ++ (header ++ ":\"" ++ value ++ "\"") := by simp only [String.append_assoc]
  rw [hminus, standalone_minus_iff, standalone_directive_iff h]

/-! ## Terms -/

/-- The second filter stands as a term in the first one. The sides of a match are no terms. -/
inductive Filter.HasTerm : Filter → Filter → Prop
  | self (f : Filter) : HasTerm f f
  | operand {op : String} {x g : Filter} : HasTerm x g → HasTerm (.unary op x) g
  | left {op : String} {l r g : Filter} : op = "AND" ∨ op = "OR" → HasTerm l g →
      HasTerm (.binary op l r) g
  | right {op : String} {l r g : Filter} : op = "AND" ∨ op = "OR" → HasTerm r g →
      HasTerm (.binary op l r) g

/-- All texts in a tree are without double quotes. -/
def Filter.Unquoted : Filter → Prop
  | .string s | .field s | .phrase s => MailSearch.Unquoted s
  | .unary _ x => x.Unquoted
  | .binary _ l r => l.Unquoted ∧ r.Unquoted
  | _ => True

/-- A term keeps itself together: a text stands by itself as it is, and the value of a match is
enclosed. All other terms do so if their operands do. -/
def Filter.Contained : Filter → Prop
  | .string s | .field s => Standalone s
  | .binary op _ r => op = "=~" ∨ op = "!~" → ∀ b, Spelled standardHeaders r b → Enclosed b
  | _ => True

namespace Filter.HasTerm

theorem trans {f g h : Filter} (hfg : f.HasTerm g) (hgh : g.HasTerm h) : f.HasTerm h := by
  induction hfg with
  | self => exact hgh
  | operand _ ih => exact .operand (ih hgh)
  | left hop _ ih => exact .left hop (ih hgh)
  | right hop _ ih => exact .right hop (ih hgh)

theorem unquoted {f g : Filter} (h : f.HasTerm g) (hquotes : f.Unquoted) : g.Unquoted := by
  induction h with
  | self => exact hquotes
  | operand _ ih => exact ih hquotes
  | left _ _ ih => exact ih hquotes.1
  | right _ _ ih => exact ih hquotes.2

/-- The terms of a tree that has a spelling have one. -/
theorem spelled {f g : Filter} {headers : List String} {s : String} (h : f.HasTerm g)
    (hs : Spelled headers f s) : ∃ t, Spelled headers g t := by
  induction h generalizing s with
  | self => exact ⟨s, hs⟩
  | operand _ ih =>
    cases hs with
    | negated hx _ => exact ih hx
  | left hop _ ih =>
    cases hs with
    | both hl _ _ _ | either hl _ _ _ => exact ih hl
    | has | hasNot => simp at hop
  | right hop _ ih =>
    cases hs with
    | both _ hr _ _ | either _ hr _ _ => exact ih hr
    | has | hasNot => simp at hop

end Filter.HasTerm

/-! ## Expressions stand by themselves -/

/-- If every term of a tree keeps itself together, the spelling of the tree stands by itself. -/
theorem Spelled.standalone {f : Filter} {s : String} (h : Spelled standardHeaders f s)
    (hquotes : f.Unquoted) (hcontained : ∀ g, f.HasTerm g → g.Contained) : Standalone s := by
  induction h with
  | string value => exact hcontained _ (.self _)
  | field name => exact hcontained _ (.self _)
  | phrase text => exact standalone_phrase hquotes
  | negated _ _ ih =>
    exact standalone_minus_iff.mpr (ih hquotes fun g hg => hcontained g (.operand hg))
  | both _ _ _ _ ihl ihr =>
    have ha := ihl hquotes.1 fun g hg => hcontained g (.left (.inl rfl) hg)
    have hb := ihr hquotes.2 fun g hg => hcontained g (.right (.inl rfl) hg)
    exact standalone_group [' '] ha hb (by simp) rfl
  | either _ _ _ _ ihl ihr =>
    have ha := ihl hquotes.1 fun g hg => hcontained g (.left (.inr rfl) hg)
    have hb := ihr hquotes.2 fun g hg => hcontained g (.right (.inr rfl) hg)
    exact standalone_group [' ', 'O', 'R', ' '] ha hb (by simp) rfl
  | has _ hr hheader =>
    exact (standalone_directive_iff hheader).mpr (hcontained _ (.self _) (.inl rfl) _ hr)
  | hasNot _ hr hheader =>
    exact (standalone_negated_directive_iff hheader).mpr (hcontained _ (.self _) (.inr rfl) _ hr)

/-- A term that stands by itself keeps itself together. -/
theorem Spelled.contained {f : Filter} {s : String} (h : Spelled standardHeaders f s)
    (hs : Standalone s) : f.Contained := by
  cases h with
  | string | field => exact hs
  | phrase | negated => trivial
  | both | either =>
    intro hop
    simp at hop
  | has _ hr hheader =>
    intro _ b hb
    rw [hb.eq hr]
    exact (standalone_directive_iff hheader).mp hs
  | hasNot _ hr hheader =>
    intro _ b hb
    rw [hb.eq hr]
    exact (standalone_negated_directive_iff hheader).mp hs

/-! ## The law -/

/-- In a tree without double quotes that compiles, all terms stand by themselves exactly if every
text among them does as it is and every match has an enclosed value, such as a plain text. Then the
whole expression stands by itself. -/
theorem an_expression_stands_by_itself_if_its_texts_do {f : Filter} {s : String}
    (hquotes : f.Unquoted) (h : Node.express standardHeaders (.known f) = .ok s) :
    ((∀ g, f.HasTerm g → ∃ t, Spelled standardHeaders g t ∧ Standalone t) ↔
        ∀ g, f.HasTerm g → g.Contained) ∧
      ((∀ g, f.HasTerm g → g.Contained) → Standalone s) := by
  have hs : Spelled standardHeaders f s := (express_eq_ok_iff.mp h).1
  refine ⟨⟨fun hall g hg => ?_, fun hall g hg => ?_⟩, hs.standalone hquotes⟩
  · obtain ⟨t, ht, hstands⟩ := hall g hg
    exact ht.contained hstands
  · obtain ⟨t, ht⟩ := hg.spelled hs
    exact ⟨t, ht, ht.standalone (hg.unquoted hquotes) fun k hk => hall k (hg.trans hk)⟩

/-- A bracketed text beside a match whose value holds a bracket and a blank. -/
def bracketedFilter : Filter :=
  .binary "AND" (.string "(a b)") (.unary "NOT" (.binary "=~" (.field "subject") (.string "a ) b")))

theorem contained_of_bracketedFilter {g : Filter} (h : bracketedFilter.HasTerm g) :
    g.Contained := by
  have hvalue : Unquoted "a ) b" := by unfold Unquoted; decide
  cases h with
  | self => rintro (h | h) <;> simp at h
  | left _ h =>
    cases h
    unfold Filter.Contained Standalone
    decide
  | right _ h =>
    cases h with
    | self => trivial
    | operand h =>
      cases h with
      | self =>
        rintro _ b hb
        cases hb
        exact enclosed_of_unquoted hvalue
      | left hop | right hop => simp at hop

theorem a_bracketed_filter_stands_by_itself :
    bracketedFilter.Unquoted ∧
      Node.express standardHeaders (.known bracketedFilter) = .ok "((a b) -subject:\"a ) b\")" ∧
      (∀ g, bracketedFilter.HasTerm g → g.Contained) ∧
      Standalone "((a b) -subject:\"a ) b\")" := by
  have hquotes : bracketedFilter.Unquoted := by
    simp [bracketedFilter, Filter.Unquoted, Unquoted]
  have hexpress : Node.express standardHeaders (.known bracketedFilter) =
      .ok "((a b) -subject:\"a ) b\")" := by
    rw [express_known]
    rfl
  have hcontained : ∀ g, bracketedFilter.HasTerm g → g.Contained := fun g =>
    contained_of_bracketedFilter
  have hlaw := an_expression_stands_by_itself_if_its_texts_do hquotes hexpress
  exact ⟨hquotes, hexpress, hcontained, hlaw.2 hcontained⟩

/-- A minus before a text of two words applies to the first word only, and a phrase as the value of
a match stands outside the quotes of the match. -/
theorem a_text_of_two_words_is_torn :
    (Filter.unary "NOT" (.string "a b")).Unquoted ∧
      Node.express standardHeaders (.known (.unary "NOT" (.string "a b"))) = .ok "-a b" ∧
      ¬ Standalone "-a b" ∧
      (Filter.binary "=~" (.field "subject") (.phrase "a b")).Unquoted ∧
      Node.express standardHeaders (.known (.binary "=~" (.field "subject") (.phrase "a b"))) =
        .ok "subject:\"\"a b\"\"" ∧
      ¬ Standalone "subject:\"\"a b\"\"" := by
  refine ⟨?_, ?_, ?_, ?_, ?_, ?_⟩
  · simp [Filter.Unquoted, Unquoted]
  · rw [express_known]
    rfl
  · unfold Standalone
    decide
  · simp [Filter.Unquoted, Unquoted]
  · rw [express_known]
    rfl
  · unfold Standalone
    decide

end MailSearch
