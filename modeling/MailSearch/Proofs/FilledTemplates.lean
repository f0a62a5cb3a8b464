-- Templates that are filled in. A label with a place behind it shows its value as it is, and a message
-- is too deep only if one of its values is.
import MailSearch.Log.Template
import MailSearch.Proofs.Outcome

namespace MailSearch

/-! ## A label with a value -/

namespace Template

theorem pieces_plain {c : Char} (h : c ≠ '%') (rest : List Char) :
    pieces (c :: rest) = .plain c :: pieces rest := by
  rw [pieces]
  · intro s hc
    exact absurd hc h
  · intro hc
    exact absurd hc h

theorem pieces_append {label : List Char} (h : '%' ∉ label) (rest : List Char) :
    pieces (label ++ rest) = label.map .plain ++ pieces rest := by
  induction label with
  | nil => rfl
  | cons c label ih =>
    have hc : c ≠ '%' := fun hc => h (hc ▸ List.mem_cons_self)
    rw [List.cons_append, pieces_plain hc, ih fun hrest => h (List.mem_cons_of_mem _ hrest)]
    rfl

/-- The directive that asks for a value as it is shown. -/
def showing : Directive := ⟨none, [], none, none, 's'⟩

theorem pieces_showing : pieces ['%', 's'] = [.directive showing] := by
  rw [pieces_of_read? (by decide) (show Directive.read? ['s'] = some (showing, []) from rfl), pieces]

theorem fillIn_append (room : Room) (arguments : Arguments) (values : List Value)
    (label : List Char) (rest : List Piece) :
    fillIn room arguments values (label.map .plain ++ rest) =
      (fillIn room arguments values rest).map (label ++ ·) := by
  induction label with
  | nil => rcases h : fillIn room arguments values rest <;> simp [h]
  | cons c label ih =>
    rw [List.map_cons, List.cons_append, fillIn, ih]
    rcases fillIn room arguments values rest <;> rfl

theorem fillIn_showing (room : Room) (arguments : Arguments) (v : Value) :
    fillIn room arguments [v] [.directive showing] =
      (room.allow v).map fun _ => v.shown.toList := by
  have hvalues : (valuesFor? showing arguments [v]).bind showing.form? =
      some (⟨[], 0, none, 's'⟩, [v]) := by
    cases arguments <;> rfl
  have hwrite : Form.write? ⟨[], 0, none, 's'⟩ v = some v.shown.toList := by
    simp [Form.write?, Form.writeText, Form.fill, Form.marked]
  rw [fillIn, hvalues]
  simp only [Form.write, hwrite]
  rcases hallow : room.allow v <;> simp [Form.needsRoom, fillIn]

/-- A label with a place for a value behind it shows both, if there is room for the value. -/
theorem render_label (room : Room) (label : String) (h : '%' ∉ label.toList) (v : Value) :
    render room (label ++ "%s") [v] = (room.allow v).map fun _ => label ++ v.shown := by
  have hfilled : ∀ arguments,
      (fillIn room arguments [v] (pieces (label ++ "%s").toList)).map String.ofList =
        (room.allow v).map fun _ => label ++ v.shown := by
    intro arguments
    have hpieces : pieces (label ++ "%s").toList =
        label.toList.map .plain ++ [.directive showing] := by
      rw [String.toList_append, pieces_append h]
      exact congrArg _ pieces_showing
    rw [hpieces, fillIn_append, fillIn_showing]
    rcases room.allow v with unwritten | _
    · rfl
    · simp only [map_ok, ← String.toList_append, String.ofList_toList]
  have hofList : Arguments.ofList [v] = .inOrder [v] ∨
      ∃ fields, v = .record fields ∧ Arguments.ofList [v] = .named fields := by
    unfold Arguments.ofList
    split
    · rename_i hnil
      cases hnil
    · rename_i field fields hrecord
      cases hrecord
      exact .inr ⟨_, rfl, rfl⟩
    · exact .inl rfl
  unfold render
  rcases hofList with horder | ⟨fields, rfl, hnamed⟩
  · simp only [horder, hfilled]
  · simp only [hnamed, hfilled]

end Template

/-! ## Messages of what there is room for -/

namespace Directive

theorem mem_of_sizeFrom? {size : Option Size} {values left : List Value} {n : Option Int}
    (h : sizeFrom? size values = some (n, left)) {v : Value} (hv : v ∈ left) : v ∈ values := by
  unfold sizeFrom? at h
  split at h
  · cases h
    exact hv
  · split at h
    · cases h
      exact hv
    · cases h
  · obtain ⟨m, -, h⟩ := Option.bind_eq_some_iff.mp h
    split at h
    · cases h
      exact List.mem_cons_of_mem _ hv
    · cases h
  · cases h

/-- What is left for a directive was there before. -/
theorem mem_of_form? {d : Directive} {values left : List Value} {form : Form}
    (h : d.form? values = some (form, left)) {v : Value} (hv : v ∈ left) : v ∈ values := by
  unfold form? at h
  obtain ⟨⟨width, between⟩, hwidth, h⟩ := Option.bind_eq_some_iff.mp h
  obtain ⟨⟨precision, rest⟩, hprecision, h⟩ := Option.bind_eq_some_iff.mp h
  cases h
  exact mem_of_sizeFrom? hwidth (mem_of_sizeFrom? hprecision hv)

end Directive

theorem Form.write_ne_tooDeep {room : Room} {v : Value} (form : Form)
    (h : room.allow v ≠ .error .tooDeep) : form.write room v ≠ .error .tooDeep := by
  unfold Form.write
  split
  · simp
  · split
    · rwa [ne_eq, map_eq_error_iff]
    · simp

namespace Template

/-- Values in order are used up from the front, each of them once. -/
theorem mem_of_valuesFor? {d : Directive} {all values left : List Value} {form : Form}
    (h : (valuesFor? d (.inOrder all) values).bind d.form? = some (form, left)) {v : Value}
    (hv : v ∈ left) : v ∈ values := by
  obtain ⟨chosen, hchosen, hform⟩ := Option.bind_eq_some_iff.mp h
  unfold valuesFor? at hchosen
  split at hchosen
  · cases hchosen
    exact Directive.mem_of_form? hform hv
  · rename_i hnamed
    cases hnamed
  · cases hchosen

/-- Values in order that there is room for do not make a message too deep. The induction is on the
pieces of the template, with fewer values at each directive. -/
theorem fillIn_ne_tooDeep {room : Room} {all values : List Value} (pieces : List Piece)
    (h : ∀ v ∈ values, room.allow v ≠ .error .tooDeep) :
    fillIn room (.inOrder all) values pieces ≠ .error .tooDeep := by
  induction pieces generalizing values with
  | nil =>
    rw [fillIn]
    split <;> simp
  | cons piece rest ih =>
    cases piece with
    | plain c =>
      rw [fillIn, ne_eq, map_eq_error_iff]
      exact ih h
    | broken => simp [fillIn]
    | directive d =>
      rw [fillIn]
      split
      · rename_i form v left hform
        have hmem : ∀ w ∈ v :: left, w ∈ values := fun w hw => mem_of_valuesFor? hform hw
        have hrest := ih fun w hw => h w (hmem w (List.mem_cons_of_mem _ hw))
        have hwrite := Form.write_ne_tooDeep form (h v (hmem v List.mem_cons_self))
        intro htooDeep
        rcases bind_eq_error_iff.mp htooDeep with htext | ⟨text, -, htooDeep⟩
        · exact hwrite htext
        rcases bind_eq_error_iff.mp htooDeep with hmore | ⟨more, -, hnone⟩
        · exact hrest hmore
        · cases hnone
      · simp

/-- Several texts can always be put into a message, if they fit its template. -/
theorem render_ne_tooDeep (room : Room) (template first second : String) (rest : List String) :
    render room template ((first :: second :: rest).map .text) ≠ .error .tooDeep := by
  have hroom : ∀ v ∈ (first :: second :: rest).map Value.text, room.allow v ≠ .error .tooDeep := by
    intro v hv
    obtain ⟨text, -, rfl⟩ := List.mem_map.mp hv
    rw [room.allow_text]
    simp
  have harguments : Arguments.ofList ((first :: second :: rest).map .text) =
      .inOrder ((first :: second :: rest).map .text) := rfl
  unfold render
  rw [harguments]
  dsimp only
  rw [ne_eq, map_eq_error_iff]
  exact fillIn_ne_tooDeep (pieces template.toList) hroom

end Template

end MailSearch
