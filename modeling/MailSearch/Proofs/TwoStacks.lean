-- Work on two stacks. One holds tasks, the other values. A turn does the task on top: it takes
-- values, leaves values, and puts new tasks in its own place. Work that goes on above what both
-- stacks held before can be cut into pieces that each go on above what they found.
import MailSearch.Proofs.Outcome

namespace MailSearch

namespace TwoStacks

variable {τ α ε : Type} (step : τ → List α → Except ε (List τ × List α))

/-! ## Turns -/

/-- Does the task on top. Without a task there is nothing to do. -/
def turn : List τ × List α → Except ε (List τ × List α)
  | ([], values) => .ok ([], values)
  | (task :: tasks, values) => (step task values).map fun after => (after.1 ++ tasks, after.2)

/-- Some turns, up to the first one that fails. -/
def turns : Nat → List τ × List α → Except ε (List τ × List α)
  | 0, state => .ok state
  | n + 1, state => turn step state >>= turns n

theorem turns_add (m n : Nat) (state : List τ × List α) :
    turns step (m + n) state = turns step m state >>= turns step n := by
  induction m generalizing state with
  | zero => rw [Nat.zero_add, turns, ok_bind]
  | succ m ih =>
    rw [Nat.succ_add, turns, turns]
    rcases turn step state with fault | next
    · rfl
    · exact ih next

/-- Nothing happens once no task is left. -/
theorem turns_nil (n : Nat) (values : List α) : turns step n ([], values) = .ok ([], values) := by
  induction n with
  | zero => rfl
  | succ n ih => rw [turns, turn, ok_bind, ih]

/-! ## Work above what was there -/

/-- The values on top are enough for a task: it does the same with them whatever lies below, and
leaves that as it is. -/
def Suffices (task : τ) (top : List α) : Prop :=
  ∀ below, step task (top ++ below) = (step task top).map fun after => (after.1, after.2 ++ below)

/-- There is a task above `rest`, and the values above `base` are enough for it. -/
def Above (rest : List τ) (base : List α) (state : List τ × List α) : Prop :=
  ∃ task more top, state = (task :: (more ++ rest), top ++ base) ∧ Suffices step task top

/-- The work ends within a number of turns, each of them above `rest` and `base`. It fails, or
leaves both as they were and one value on top. -/
def Settles (rest : List τ) (base : List α) (bound : Nat) (start : List τ × List α)
    (outcome : Except ε α) : Prop :=
  ∃ k ≤ bound,
    (∀ j < k, ∃ state, turns step j start = .ok state ∧ Above step rest base state) ∧
      turns step k start = outcome.map fun value => (rest, value :: base)

/-- The work settles, and every turn of it starts in a state with a property. -/
def SettlesWith (property : List τ × List α → Prop) (rest : List τ) (base : List α) (bound : Nat)
    (start : List τ × List α) (outcome : Except ε α) : Prop :=
  ∃ k ≤ bound,
    (∀ j < k, ∃ state, turns step j start = .ok state ∧ Above step rest base state ∧
      property state) ∧
      turns step k start = outcome.map fun value => (rest, value :: base)

/-- The states of some work on its way to an outcome. A turn that fails gives the failure of the
outcome. Any other turn leads to such a state again, with less to do, or to the value. -/
structure OnTheWay (inside : List τ × List α → Prop) (measure : List τ × List α → Nat)
    (rest : List τ) (base : List α) (outcome : Except ε α) : Prop where
  above {state : List τ × List α} : inside state → Above step rest base state
  pos {state : List τ × List α} : inside state → 0 < measure state
  fails {state : List τ × List α} {fault : ε} :
    inside state → turn step state = .error fault → outcome = .error fault
  goesOn {state next : List τ × List α} : inside state → turn step state = .ok next →
    (inside next ∧ measure next < measure state) ∨
      ∃ value, outcome = .ok value ∧ next = (rest, value :: base)

variable {step}

theorem Suffices.append {task : τ} {top : List α} (h : Suffices step task top) (more : List α) :
    Suffices step task (top ++ more) := by
  intro below
  rw [List.append_assoc, h, h]
  rcases step task top with fault | after
  · rfl
  · simp only [map_ok, List.append_assoc]

/-- What is above more is above less. -/
theorem Above.lower {rest more : List τ} {base top : List α} {state : List τ × List α}
    (h : Above step (more ++ rest) (top ++ base) state) : Above step rest base state := by
  obtain ⟨task, others, values, rfl, henough⟩ := h
  refine ⟨task, others ++ more, values ++ top, ?_, henough.append top⟩
  rw [List.append_assoc, List.append_assoc]

/-! ## Pieces of work -/

section Pieces

variable {rest : List τ} {base : List α} {start : List τ × List α}

/-- A single turn ends the work. -/
theorem Settles.of_turn {outcome : Except ε α} (hstart : Above step rest base start)
    (hturn : turn step start = outcome.map fun value => (rest, value :: base)) :
    Settles step rest base 1 start outcome := by
  refine ⟨1, Nat.le_refl 1, ?_, ?_⟩
  · intro j hj
    obtain rfl : j = 0 := by omega
    exact ⟨start, rfl, hstart⟩
  · rw [turns, hturn]
    cases outcome <;> rfl

/-- A turn, and what comes after it. -/
theorem Settles.after_turn {bound : Nat} {next : List τ × List α} {outcome : Except ε α}
    (hstart : Above step rest base start) (hturn : turn step start = .ok next)
    (h : Settles step rest base bound next outcome) :
    Settles step rest base (bound + 1) start outcome := by
  obtain ⟨k, hk, hbefore, hend⟩ := h
  refine ⟨k + 1, by omega, ?_, ?_⟩
  · intro j hj
    cases j with
    | zero => exact ⟨start, rfl, hstart⟩
    | succ j =>
      rw [turns, hturn, ok_bind]
      exact hbefore j (by omega)
  · rw [turns, hturn, ok_bind]
    exact hend

/-- Two pieces of work, the second one with the value that the first one left. The first piece may
go on above more than the two together. -/
theorem Settles.bind (more : List τ) (top : List α) {m n : Nat} {first : Except ε α}
    {second : α → Except ε α}
    (hfirst : Settles step (more ++ rest) (top ++ base) m start first)
    (hsecond : ∀ value, Settles step rest base n (more ++ rest, value :: (top ++ base))
      (second value)) :
    Settles step rest base (m + n) start (first >>= second) := by
  obtain ⟨k, hk, hbefore, hend⟩ := hfirst
  have hlower : ∀ j < k, ∃ state, turns step j start = .ok state ∧
      Above step rest base state := by
    intro j hj
    obtain ⟨state, hstate, habove⟩ := hbefore j hj
    exact ⟨state, hstate, habove.lower⟩
  rcases first with fault | value
  · exact ⟨k, by omega, hlower, hend⟩
  · obtain ⟨l, hl, hafter, hfinish⟩ := hsecond value
    refine ⟨k + l, by omega, ?_, ?_⟩
    · intro j hj
      by_cases hjk : j < k
      · exact hlower j hjk
      · obtain ⟨i, rfl⟩ := Nat.exists_eq_add_of_le (Nat.le_of_not_lt hjk)
        rw [turns_add, hend, map_ok, ok_bind]
        exact hafter i (by omega)
    · rw [turns_add, hend, map_ok, ok_bind]
      exact hfinish

theorem Settles.mono {m n : Nat} {outcome : Except ε α} (h : Settles step rest base m start outcome)
    (hle : m ≤ n) : Settles step rest base n start outcome := by
  obtain ⟨k, hk, hturns⟩ := h
  exact ⟨k, Nat.le_trans hk hle, hturns⟩

end Pieces

/-- Work that starts with no task below comes to its end, and more turns change nothing. -/
theorem Settles.turns_eq {bound n : Nat} {base : List α} {start : List τ × List α}
    {outcome : Except ε α} (h : Settles step [] base bound start outcome) (hn : bound ≤ n) :
    turns step n start = outcome.map fun value => ([], value :: base) := by
  obtain ⟨k, hk, -, hend⟩ := h
  obtain ⟨i, rfl⟩ := Nat.exists_eq_add_of_le (Nat.le_trans hk hn)
  rw [turns_add, hend]
  rcases outcome with fault | value
  · rfl
  · exact turns_nil step i (value :: base)

/-! ## Work that keeps an invariant -/

section Invariants

variable {rest : List τ} {base : List α} {outcome : Except ε α}
variable {inside : List τ × List α → Prop} {measure : List τ × List α → Nat}

theorem SettlesWith.settles {property : List τ × List α → Prop} {bound : Nat}
    {start : List τ × List α} (h : SettlesWith step property rest base bound start outcome) :
    Settles step rest base bound start outcome := by
  obtain ⟨k, hk, hbefore, hend⟩ := h
  refine ⟨k, hk, ?_, hend⟩
  intro j hj
  obtain ⟨state, hstate, habove, -⟩ := hbefore j hj
  exact ⟨state, hstate, habove⟩

theorem SettlesWith.imp {property other : List τ × List α → Prop} {bound : Nat}
    {start : List τ × List α} (h : SettlesWith step property rest base bound start outcome)
    (himp : ∀ state, property state → other state) :
    SettlesWith step other rest base bound start outcome := by
  obtain ⟨k, hk, hbefore, hend⟩ := h
  refine ⟨k, hk, ?_, hend⟩
  intro j hj
  obtain ⟨state, hstate, habove, hproperty⟩ := hbefore j hj
  exact ⟨state, hstate, habove, himp state hproperty⟩

/-- The induction is on what is left to do. -/
theorem OnTheWay.settlesWith (h : OnTheWay step inside measure rest base outcome)
    {start : List τ × List α} (hstart : inside start) :
    SettlesWith step inside rest base (measure start) start outcome := by
  induction hn : measure start using Nat.strongRecOn generalizing start with
  | ind n ih =>
    subst hn
    have hfirst : ∀ j < 1, ∃ state, turns step j start = .ok state ∧
        Above step rest base state ∧ inside state := by
      intro j hj
      obtain rfl : j = 0 := by omega
      exact ⟨start, rfl, h.above hstart, hstart⟩
    have hpos := h.pos hstart
    rcases hturn : turn step start with fault | next
    · refine ⟨1, hpos, hfirst, ?_⟩
      rw [turns, hturn, h.fails hstart hturn]
      rfl
    · rcases h.goesOn hstart hturn with ⟨hnext, hless⟩ | ⟨value, hvalue, rfl⟩
      · obtain ⟨k, hk, hbefore, hend⟩ := ih _ hless hnext rfl
        refine ⟨k + 1, by omega, ?_, ?_⟩
        · intro j hj
          cases j with
          | zero => exact hfirst 0 (by omega)
          | succ j =>
            rw [turns, hturn, ok_bind]
            exact hbefore j (by omega)
        · rw [turns, hturn, ok_bind]
          exact hend
      · refine ⟨1, hpos, hfirst, ?_⟩
        rw [turns, hturn, hvalue]
        rfl

end Invariants

end TwoStacks

end MailSearch
