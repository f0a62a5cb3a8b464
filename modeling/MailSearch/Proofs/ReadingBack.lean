-- A search expression says which tree it was made of. A decoder of the search language reads the
-- expression of every clean tree back, up to the two spellings that the language gives to one
-- thing: a match that is to fail is a negated match, and a field name that stands as a term is
-- plain text.
import Mathlib.Data.Nat.Init
import MailSearch.Proofs.WalkMeaning

namespace MailSearch

/-! ## Clean trees -/

/-- A character that may stand in a word. Blanks, quotes, brackets and colons have a meaning of
their own. -/
def isPlain (c : Char) : Bool := !(c = ' ' ∨ c = '"' ∨ c = '(' ∨ c = ')' ∨ c = ':')

/-- A text that stands as a term by itself, and is neither a sign nor the word between two
alternatives. -/
structure IsWord (s : String) : Prop where
  ne_empty : s ≠ ""
  plain : ∀ c ∈ s.toList, isPlain c = true
  noMinus : s.toList.head? ≠ some '-'
  noOr : s ≠ "OR"

/-- A text without a double quote in it. -/
def Unquoted (s : String) : Prop := '"' ∉ s.toList

/-- A tree that the search language can express without a clash. -/
inductive Clean : Filter → Prop
  | string {value : String} : IsWord value → Clean (.string value)
  | field {name : String} : IsWord name → Clean (.field name)
  | phrase {text : String} : Unquoted text → Clean (.phrase text)
  | negated {x : Filter} : Clean x → Clean (.unary "NOT" x)
  | both {l r : Filter} : Clean l → Clean r → Clean (.binary "AND" l r)
  | either {l r : Filter} : Clean l → Clean r → Clean (.binary "OR" l r)
  | has {header value : String} : header ∈ standardHeaders → Unquoted value →
      Clean (.binary "=~" (.field header) (.string value))
  | hasNot {header value : String} : header ∈ standardHeaders → Unquoted value →
      Clean (.binary "!~" (.field header) (.string value))

/-! ## One spelling for one thing -/

namespace Filter

/-- Every match that is to fail becomes a negated match. -/
def affirmed : Filter → Filter
  | .unary op x => .unary op x.affirmed
  | .binary op l r =>
    if op = "!~" then .unary "NOT" (.binary "=~" l.affirmed r.affirmed)
    else .binary op l.affirmed r.affirmed
  | f => f

/-- Every field name that stands as a term becomes plain text. The sides of a match are no
terms. -/
def worded : Filter → Filter
  | .field name => .string name
  | .unary op x => .unary op x.worded
  | .binary op l r =>
    if op = "AND" ∨ op = "OR" then .binary op l.worded r.worded else .binary op l r
  | f => f

/-- A match that is to fail is spelled, and refused, as the negated match. -/
theorem spelling_hasNot (headers : List String) (l r : Filter) :
    (Filter.binary "!~" l r).spelling headers =
      (Filter.unary "NOT" (.binary "=~" l r)).spelling headers := by
  unfold spelling
  rcases hl : l.spelling headers with refusal | a
  · simp [spelling, hl]
  rcases hr : r.spelling headers with refusal | b
  · simp [spelling, hl, hr]
  by_cases ha : a ∈ headers <;> simp [spelling, hl, hr, ha, String.append_assoc]

def normal (f : Filter) : Filter := f.affirmed.worded

theorem normal_unary (op : String) (x : Filter) :
    (Filter.unary op x).normal = .unary op x.normal := rfl

theorem normal_both (l r : Filter) :
    (Filter.binary "AND" l r).normal = .binary "AND" l.normal r.normal := by
  simp [normal, affirmed, worded]

theorem normal_either (l r : Filter) :
    (Filter.binary "OR" l r).normal = .binary "OR" l.normal r.normal := by
  simp [normal, affirmed, worded]

theorem normal_has (header value : String) :
    (Filter.binary "=~" (.field header) (.string value)).normal =
      .binary "=~" (.field header) (.string value) := by
  simp [normal, affirmed, worded]

theorem normal_hasNot (header value : String) :
    (Filter.binary "!~" (.field header) (.string value)).normal =
      .unary "NOT" (.binary "=~" (.field header) (.string value)) := by
  simp [normal, affirmed, worded]

end Filter

/-! ## The decoder -/

namespace Decode

/-- Reads up to the next double quote, and gives what follows it. -/
def untilQuote? : List Char → Option (List Char × List Char)
  | [] => none
  | '"' :: rest => some ([], rest)
  | c :: rest => (untilQuote? rest).map fun (text, behind) => (c :: text, behind)

theorem length_untilQuote? {s text rest : List Char} (h : untilQuote? s = some (text, rest)) :
    rest.length < s.length := by
  fun_induction untilQuote? s generalizing text with
  | case1 => simp at h
  | case2 more =>
    cases h
    simp
  | case3 c more hc ih =>
    obtain ⟨⟨inner, behind⟩, hinner, hpair⟩ := Option.map_eq_some_iff.mp h
    cases hpair
    have := ih hinner
    simp only [List.length_cons]
    omega

/-- Reads a phrase behind its first double quote. -/
def phrase? (s : List Char) : Option (Filter × List Char) :=
  (untilQuote? s).map fun (text, rest) => (.phrase (String.ofList text), rest)

/-- Reads a word, and if a colon and a quoted text follow, a match of the header of that name. -/
def word? (s : List Char) : Option (Filter × List Char) :=
  let word := s.takeWhile isPlain
  if word.isEmpty then none
  else
    match s.drop word.length with
    | ':' :: '"' :: rest =>
      (untilQuote? rest).map fun (value, behind) =>
        (.binary "=~" (.field (String.ofList word)) (.string (String.ofList value)), behind)
    | rest => some (.string (String.ofList word), rest)

/-- Reads what stands between the two terms of a group. -/
def joint? : List Char → Option (String × List Char)
  | ' ' :: 'O' :: 'R' :: ' ' :: rest => some ("OR", rest)
  | ' ' :: rest => some ("AND", rest)
  | _ => none

theorem length_phrase? {s rest : List Char} {f : Filter} (h : phrase? s = some (f, rest)) :
    rest.length < s.length := by
  obtain ⟨⟨text, behind⟩, htext, hpair⟩ := Option.map_eq_some_iff.mp h
  cases hpair
  exact length_untilQuote? htext

theorem length_word? {s rest : List Char} {f : Filter} (h : word? s = some (f, rest)) :
    rest.length < s.length := by
  unfold word? at h
  simp only at h
  split at h
  · simp at h
  · rename_i hword
    have hpos : 0 < (s.takeWhile isPlain).length := by
      simpa [List.length_pos_iff] using hword
    have hle : (s.takeWhile isPlain).length ≤ s.length := (List.takeWhile_prefix _).length_le
    split at h
    · rename_i more hdrop
      obtain ⟨⟨value, behind⟩, hvalue, hpair⟩ := Option.map_eq_some_iff.mp h
      simp only [Prod.mk.injEq] at hpair
      obtain ⟨-, rfl⟩ := hpair
      have hbehind := length_untilQuote? hvalue
      have hmore := congrArg List.length hdrop
      simp only [List.length_drop, List.length_cons] at hmore
      omega
    · cases h
      simp only [List.length_drop]
      omega

theorem length_joint? {s rest : List Char} {op : String} (h : joint? s = some (op, rest)) :
    rest.length < s.length := by
  unfold joint? at h
  split at h
  · cases h
    simp only [List.length_cons]
    omega
  · cases h
    simp
  · simp at h

/-- What follows a group is shorter than the group. -/
theorem length_group {s rest s' behind : List Char} {c d : Char} (hl : rest.length < s.length)
    (hjoint : s'.length < rest.length) (hr : (c :: behind).length < s'.length) :
    behind.length < (d :: s).length := by
  simp only [List.length_cons] at hr ⊢
  omega

/-- Reads a term, and gives what follows it. A minus negates the term behind it, and a bracket
opens a group of two terms. -/
def term (s : List Char) : Option (Filter × { rest : List Char // rest.length < s.length }) :=
  match s with
  | '-' :: s =>
    match term s with
    | some (x, rest) => some (.unary "NOT" x, ⟨rest, Nat.lt_succ_of_lt rest.property⟩)
    | none => none
  | '(' :: s =>
    match term s with
    | some (l, rest) =>
      match hjoint : joint? rest.val with
      | some (op, s') =>
        have := length_joint? hjoint
        match term s' with
        | some (r, ⟨')' :: behind, hr⟩) =>
          some (.binary op l r, ⟨behind, length_group rest.property (length_joint? hjoint) hr⟩)
        | _ => none
      | none => none
    | none => none
  | '"' :: s =>
    match hphrase : phrase? s with
    | some (x, rest) => some (x, ⟨rest, Nat.lt_succ_of_lt (length_phrase? hphrase)⟩)
    | none => none
  | s =>
    match hword : word? s with
    | some (x, rest) => some (x, ⟨rest, length_word? hword⟩)
    | none => none
termination_by s.length
decreasing_by all_goals simp only [List.length_cons]; omega

/-- Reads a term, and gives what follows it as a plain text. -/
def term? (s : List Char) : Option (Filter × List Char) :=
  (term s).map fun out => (out.1, out.2.val)

theorem term?_eq_some_iff {s rest : List Char} {x : Filter} :
    term? s = some (x, rest) ↔ ∃ h, term s = some (x, ⟨rest, h⟩) := by
  rw [term?, Option.map_eq_some_iff]
  constructor
  · rintro ⟨⟨y, ⟨behind, h⟩⟩, hterm, hpair⟩
    cases hpair
    exact ⟨h, hterm⟩
  · rintro ⟨h, hterm⟩
    exact ⟨_, hterm, rfl⟩

theorem term?_minus (s : List Char) :
    term? ('-' :: s) = (term? s).map fun out => (.unary "NOT" out.1, out.2) := by
  rw [term?, term?, term]
  rcases term s with _ | ⟨x, rest⟩ <;> rfl

theorem term?_quote (s : List Char) : term? ('"' :: s) = phrase? s := by
  rw [term?, term]
  split
  · rename_i x rest hphrase
    exact hphrase.symm
  · rename_i hphrase
    exact hphrase.symm

theorem term?_word {s : List Char} (hminus : s.head? ≠ some '-') (hopen : s.head? ≠ some '(')
    (hquote : s.head? ≠ some '"') : term? s = word? s := by
  rw [term?, term.eq_def]
  split
  · simp at hminus
  · simp at hopen
  · simp at hquote
  · split
    · rename_i x rest hword
      exact hword.symm
    · rename_i hword
      exact hword.symm

theorem term?_group {s s' rest behind : List Char} {l r : Filter} {op : String}
    (hl : term? s = some (l, rest)) (hjoint : joint? rest = some (op, s'))
    (hr : term? s' = some (r, ')' :: behind)) :
    term? ('(' :: s) = some (.binary op l r, behind) := by
  obtain ⟨hrest, hl⟩ := term?_eq_some_iff.mp hl
  obtain ⟨hbehind, hr⟩ := term?_eq_some_iff.mp hr
  rw [term?, term]
  simp only [hl]
  split
  · rename_i other more hother
    cases hother.symm.trans hjoint
    simp [hr]
  · rename_i hnone
    cases hnone.symm.trans hjoint

/-! ## Pieces that read back -/

theorem untilQuote?_append {s rest : List Char} (h : '"' ∉ s) :
    untilQuote? (s ++ '"' :: rest) = some (s, rest) := by
  induction s with
  | nil => rfl
  | cons c s ih =>
    simp only [List.mem_cons, not_or] at h
    rw [List.cons_append, untilQuote?, ih h.2]
    · rfl
    · exact fun hc => h.1 hc.symm

theorem takeWhile_plain {w rest : List Char} (hw : ∀ c ∈ w, isPlain c = true)
    (hrest : ∀ c ∈ rest.head?, isPlain c = false) : (w ++ rest).takeWhile isPlain = w := by
  rw [List.takeWhile_append_of_pos hw]
  cases rest with
  | nil => simp
  | cons c rest => simp [hrest c rfl]

/-- A term ends before a blank, before a bracket that closes, or with the text. -/
def Ends (rest : List Char) : Prop := ∀ c ∈ rest.head?, c = ' ' ∨ c = ')'

theorem Ends.notPlain {rest : List Char} (h : Ends rest) : ∀ c ∈ rest.head?, isPlain c = false := by
  intro c hc
  rcases h c hc with rfl | rfl <;> rfl

theorem word?_word {w : String} {rest : List Char} (hw : IsWord w) (hrest : Ends rest) :
    word? (w.toList ++ rest) = some (.string w, rest) := by
  have htake := takeWhile_plain hw.plain hrest.notPlain
  have hne : w.toList.isEmpty = false := by simpa using hw.ne_empty
  rw [word?, htake]
  simp only [hne, Bool.false_eq_true, ite_false, List.drop_left]
  split
  · rename_i more
    simpa using hrest ':' rfl
  · simp

theorem word?_match {header value : String} (rest : List Char) (hheader : IsWord header)
    (hvalue : Unquoted value) :
    word? (header.toList ++ ':' :: '"' :: (value.toList ++ '"' :: rest)) =
      some (.binary "=~" (.field header) (.string value), rest) := by
  have htake : (header.toList ++ ':' :: '"' :: (value.toList ++ '"' :: rest)).takeWhile isPlain =
      header.toList := takeWhile_plain hheader.plain (by simp [isPlain])
  have hne : header.toList.isEmpty = false := by simpa using hheader.ne_empty
  rw [word?, htake]
  simp [hne, untilQuote?_append hvalue]

/-- A text is the expression of a tree: it is read as that tree, whatever follows the term. -/
def ReadsBack (s : String) (f : Filter) : Prop :=
  ∀ rest, Ends rest → term? (s.toList ++ rest) = some (f, rest)

theorem ReadsBack.ne_empty {s : String} {f : Filter} (h : ReadsBack s f) : s ≠ "" := by
  rintro rfl
  have hnil := h [] (by simp [Ends])
  rw [String.toList_empty, List.append_nil, term?_word (by simp) (by simp) (by simp)] at hnil
  simp [word?] at hnil

theorem head?_append_word {w : String} (rest : List Char) (hw : IsWord w) (c : Char)
    (hc : isPlain c = false ∨ c = '-') : (w.toList ++ rest).head? ≠ some c := by
  intro hhead
  rcases hlist : w.toList with _ | ⟨d, ds⟩
  · exact hw.ne_empty (by simpa using hlist)
  · obtain rfl : d = c := by simpa [hlist] using hhead
    rcases hc with hc | rfl
    · simpa [hc] using hw.plain d (by simp [hlist])
    · exact hw.noMinus (by simp [hlist])

theorem term?_eq_word? {w : String} (rest : List Char) (hw : IsWord w) :
    term? (w.toList ++ rest) = word? (w.toList ++ rest) :=
  term?_word (head?_append_word rest hw '-' (.inr rfl)) (head?_append_word rest hw '(' (.inl rfl))
    (head?_append_word rest hw '"' (.inl rfl))

theorem readsBack_word {w : String} (hw : IsWord w) : ReadsBack w (.string w) := by
  intro rest hrest
  rw [term?_eq_word? rest hw, word?_word hw hrest]

theorem readsBack_phrase {text : String} (h : Unquoted text) :
    ReadsBack ("\"" ++ text ++ "\"") (.phrase text) := by
  intro rest _
  have hlist : ("\"" ++ text ++ "\"").toList ++ rest = '"' :: (text.toList ++ '"' :: rest) := by
    simp
  rw [hlist, term?_quote, phrase?, untilQuote?_append h]
  simp

theorem isWord_of_mem_standardHeaders {header : String} (h : header ∈ standardHeaders) :
    IsWord header := by
  simp only [standardHeaders, List.mem_cons, List.not_mem_nil, or_false] at h
  rcases h with rfl | rfl | rfl | rfl | rfl <;>
    exact ⟨by decide, List.all_eq_true.mp (by decide), by decide, by decide⟩

theorem readsBack_has {header value : String} (hheader : header ∈ standardHeaders)
    (hvalue : Unquoted value) :
    ReadsBack (header ++ ":\"" ++ value ++ "\"")
      (.binary "=~" (.field header) (.string value)) := by
  intro rest _
  have hword := isWord_of_mem_standardHeaders hheader
  have hlist : (header ++ ":\"" ++ value ++ "\"").toList ++ rest =
      header.toList ++ ':' :: '"' :: (value.toList ++ '"' :: rest) := by
    simp
  rw [hlist, term?_eq_word? _ hword, word?_match rest hword hvalue]

theorem ReadsBack.minus {s : String} {x : Filter} (h : ReadsBack s x) :
    ReadsBack ("-" ++ s) (.unary "NOT" x) := by
  intro rest hrest
  have hlist : ("-" ++ s).toList ++ rest = '-' :: (s.toList ++ rest) := by simp
  rw [hlist, term?_minus, h rest hrest]
  rfl

/-- The second term of a pair never looks like the word between two alternatives: that word, read
as a term, ends before a blank and not before the bracket. -/
theorem ReadsBack.joint?_eq {s : String} {x : Filter} (h : ReadsBack s x) (rest : List Char) :
    joint? (' ' :: (s.toList ++ ')' :: rest)) = some ("AND", s.toList ++ ')' :: rest) := by
  have hread := h (')' :: rest) (by simp [Ends])
  generalize s.toList ++ ')' :: rest = t at hread
  unfold joint?
  split
  · rename_i more heq
    cases heq
    rw [term?_word (by simp) (by simp) (by simp)] at hread
    simp [word?, isPlain] at hread
  · rename_i heq
    cases heq
    rfl
  · rename_i hno
    exact absurd rfl (hno _)

theorem ReadsBack.both {l r : String} {x y : Filter} (hl : ReadsBack l x) (hr : ReadsBack r y) :
    ReadsBack ("(" ++ l ++ " " ++ r ++ ")") (.binary "AND" x y) := by
  intro rest _
  have hlist : ("(" ++ l ++ " " ++ r ++ ")").toList ++ rest =
      '(' :: (l.toList ++ ' ' :: (r.toList ++ ')' :: rest)) := by
    simp
  rw [hlist]
  exact term?_group (hl _ (by simp [Ends])) (hr.joint?_eq rest) (hr _ (by simp [Ends]))

theorem ReadsBack.either {l r : String} {x y : Filter} (hl : ReadsBack l x) (hr : ReadsBack r y) :
    ReadsBack ("(" ++ l ++ " OR " ++ r ++ ")") (.binary "OR" x y) := by
  intro rest _
  have hlist : ("(" ++ l ++ " OR " ++ r ++ ")").toList ++ rest =
      '(' :: (l.toList ++ ' ' :: 'O' :: 'R' :: ' ' :: (r.toList ++ ')' :: rest)) := by
    simp
  rw [hlist]
  exact term?_group (hl _ (by simp [Ends])) rfl (hr _ (by simp [Ends]))

/-! ## Clean trees read back -/

/-- A clean tree has a spelling, and the spelling is read as the tree in its normal form. -/
theorem readsBack_of_clean {f : Filter} (h : Clean f) :
    ∃ s, f.spelling standardHeaders = .ok s ∧ ReadsBack s f.normal := by
  induction h with
  | string hw => exact ⟨_, rfl, readsBack_word hw⟩
  | field hw => exact ⟨_, rfl, readsBack_word hw⟩
  | phrase ht => exact ⟨_, rfl, readsBack_phrase ht⟩
  | negated _ ih =>
    obtain ⟨s, hs, hread⟩ := ih
    refine ⟨_, ?_, Filter.normal_unary _ _ ▸ hread.minus⟩
    simp [Filter.spelling, hs, hread.ne_empty]
  | both _ _ ihl ihr =>
    obtain ⟨l, hl, hreadl⟩ := ihl
    obtain ⟨r, hr, hreadr⟩ := ihr
    refine ⟨_, ?_, Filter.normal_both _ _ ▸ hreadl.both hreadr⟩
    simp [Filter.spelling, hl, hr, hreadl.ne_empty, hreadr.ne_empty]
  | either _ _ ihl ihr =>
    obtain ⟨l, hl, hreadl⟩ := ihl
    obtain ⟨r, hr, hreadr⟩ := ihr
    refine ⟨_, ?_, Filter.normal_either _ _ ▸ hreadl.either hreadr⟩
    simp [Filter.spelling, hl, hr, hreadl.ne_empty, hreadr.ne_empty]
  | has hheader hvalue =>
    refine ⟨_, ?_, Filter.normal_has _ _ ▸ readsBack_has hheader hvalue⟩
    simp [Filter.spelling, hheader]
  | hasNot hheader hvalue =>
    refine ⟨_, ?_, Filter.normal_hasNot _ _ ▸ (readsBack_has hheader hvalue).minus⟩
    simp [Filter.spelling, hheader, String.append_assoc]

end Decode

/-- The tree that an expression says. -/
def decode? (s : String) : Option Filter :=
  match Decode.term? s.toList with
  | some (f, []) => some f
  | _ => none

theorem decode?_of_readsBack {s : String} {f : Filter} (h : Decode.ReadsBack s f) :
    decode? s = some f := by
  have hread := h [] (by simp [Decode.Ends])
  rw [List.append_nil] at hread
  rw [decode?, hread]

/-- The normal form of a tree is spelled as the tree itself. -/
theorem spelling_normal {f : Filter} (h : Clean f) :
    f.normal.spelling standardHeaders = f.spelling standardHeaders := by
  induction h with
  | negated _ ih => simp only [Filter.normal_unary, Filter.spelling, ih]
  | both _ _ ihl ihr => simp only [Filter.normal_both, Filter.spelling, ihl, ihr]
  | either _ _ ihl ihr => simp only [Filter.normal_either, Filter.spelling, ihl, ihr]
  | has => rw [Filter.normal_has]
  | hasNot => rw [Filter.normal_hasNot, Filter.spelling_hasNot]
  | _ => rfl

theorem compile_of_readsBack {s : String} {f g : Filter}
    (hs : f.spelling standardHeaders = .ok s) (h : Decode.ReadsBack s g) :
    Compiler.standard.compile (.node f) = .ok s := by
  simp [compile_node, Filter.answer, hs, h.ne_empty]

/-- A clean tree compiles, and its expression is decoded as the tree in its normal form. So two
clean trees have one expression exactly if they have one normal form. -/
theorem an_expression_says_its_tree {f g : Filter} (hf : Clean f) (hg : Clean g) :
    (∃ s, Compiler.standard.compile (.node f) = .ok s ∧ decode? s = some f.normal) ∧
      (Compiler.standard.compile (.node f) = Compiler.standard.compile (.node g) ↔
        f.normal = g.normal) := by
  obtain ⟨s, hs, hreads⟩ := Decode.readsBack_of_clean hf
  obtain ⟨t, ht, hreadt⟩ := Decode.readsBack_of_clean hg
  have hcf := compile_of_readsBack hs hreads
  have hcg := compile_of_readsBack ht hreadt
  refine ⟨⟨s, hcf, decode?_of_readsBack hreads⟩, fun h => ?_, fun h => ?_⟩
  · rw [hcf, hcg] at h
    cases h
    have hsame := (decode?_of_readsBack hreads).symm.trans (decode?_of_readsBack hreadt)
    exact Option.some.inj hsame
  · have hsame := (spelling_normal hf).symm.trans (h ▸ spelling_normal hg)
    rw [hs, ht] at hsame
    cases hsame
    rw [hcf, hcg]

/-- A match that is to fail, with a bracket and the word between two alternatives in its text, and
no term of two. -/
def crowdedFilter : Filter :=
  .binary "AND" (.binary "!~" (.field "from") (.string "a) OR (b"))
    (.unary "NOT" (.binary "OR" (.field "urgent") (.phrase "to:me")))

theorem a_crowded_expression_says_its_tree :
    Clean crowdedFilter ∧ Clean crowdedFilter.normal ∧
      (∃ s, Compiler.standard.compile (.node crowdedFilter) = .ok s ∧
        decode? s = some crowdedFilter.normal) ∧
      (Compiler.standard.compile (.node crowdedFilter) =
          Compiler.standard.compile (.node crowdedFilter.normal) ↔
        crowdedFilter.normal = crowdedFilter.normal.normal) := by
  have hfrom : "from" ∈ standardHeaders := by decide
  have htext : '"' ∉ "a) OR (b".toList := by decide
  have hurgent : IsWord "urgent" :=
    ⟨by decide, List.all_eq_true.mp (by decide), by decide, by decide⟩
  have hphrase : '"' ∉ "to:me".toList := by decide
  have hf : Clean crowdedFilter :=
    .both (.hasNot hfrom htext) (.negated (.either (.field hurgent) (.phrase hphrase)))
  have hg : Clean crowdedFilter.normal :=
    .both (.negated (.has hfrom htext)) (.negated (.either (.string hurgent) (.phrase hphrase)))
  exact ⟨hf, hg, an_expression_says_its_tree hf hg⟩

end MailSearch
