-- Work as steps in a row: it does not matter how they are put together. Some work leaves the session
-- as it was, whatever comes of it. All steps of such work are done in one session, so its result comes
-- of theirs.
import MailSearch.Log.Operation
import MailSearch.Proofs.Outcome

namespace MailSearch

namespace Work

/-! ## Steps in a row -/

theorem bind_assoc_run (work : Work ε α) (next : α → Work ε β) (last : β → Work ε γ)
    (s : Session) : (work >>= next >>= last) s = (work >>= fun a => next a >>= last) s := by
  simp only [bind_run]
  rcases work s with ⟨fault | a, logged, t⟩
  · rfl
  · dsimp only
    rcases next a t with ⟨fault | b, more, u⟩
    · rfl
    · simp only [List.append_assoc]

theorem map_id_run (work : Work ε α) (s : Session) : (id <$> work) s = work s := by
  change (work >>= fun a => pure a) s = work s
  rw [bind_run]
  rcases work s with ⟨fault | a, logged, t⟩ <;> simp

instance : LawfulMonad (Work ε) := LawfulMonad.mk' _
  (fun work => funext (map_id_run work))
  (fun _ _ => rfl)
  (fun work next last => funext (bind_assoc_run work next last))

@[simp]
theorem ofExcept_ok_bind (a : α) (next : α → Work ε β) : (ofExcept (.ok a) >>= next) = next a := rfl

@[simp]
theorem ofExcept_error_bind (fault : ε) (next : α → Work ε β) :
    (ofExcept (.error fault) >>= next) = ofExcept (.error fault) := rfl

/-! ## Work that keeps the session -/

def Steady (work : Work ε α) : Prop := ∀ s, (work s).session = s

namespace Steady

theorem pure (a : α) : (Pure.pure a : Work ε α).Steady := fun _ => rfl

theorem ofExcept (result : Except ε α) : (Work.ofExcept result).Steady := fun _ => rfl

theorem session : (Work.session : Work ε Session).Steady := fun _ => rfl

theorem mapFault {work : Work ε α} (h : work.Steady) (f : ε → ε') : (work.mapFault f).Steady := h

theorem bind {work : Work ε α} {next : α → Work ε β} (h : work.Steady)
    (hnext : ∀ a, (next a).Steady) : (work >>= next).Steady := by
  intro s
  rw [bind_run]
  split
  · exact (hnext _ _).trans (h s)
  · exact h s

theorem result_bind {work : Work ε α} (h : work.Steady) (next : α → Work ε β) (s : Session) :
    ((work >>= next) s).result = (work s).result >>= fun a => (next a s).result := by
  rw [bind_run, h s]
  rcases (work s).result with fault | a <;> rfl

end Steady

end Work

namespace Session

/-! ## Messages -/

theorem steady_emit (logger : Logger) (level : Level) (template : String)
    (arguments : List Value) : (emit logger level template arguments).Steady := by
  intro s
  rw [emit_run]
  split
  · split <;> rfl
  · rfl

theorem steady_message (logger : Logger) (template : String) (arguments : List Value) :
    (message logger template arguments).Steady := by
  intro s
  rw [message_run]
  split
  · exact steady_emit _ _ _ _ s
  · rfl

theorem steady_loggerAt (n : Nat) : (loggerAt n).Steady := by
  refine .bind .session fun s => ?_
  split
  · exact .pure _
  · exact .ofExcept _

/-- An operation that sends a message leaves the session as it was. -/
theorem steady_debug_work (n : Nat) (template : String) (arguments : List Value) :
    (Operation.debug n template arguments).work.Steady :=
  .bind (steady_loggerAt n) fun logger =>
    .bind (steady_emit logger .debug template arguments) fun _ => .pure _

theorem steady_message_work (n : Nat) (template : String) (arguments : List Value) :
    (Operation.message n template arguments).work.Steady :=
  .bind (steady_loggerAt n) fun logger =>
    .bind (steady_message logger template arguments) fun _ => .pure _

end Session

end MailSearch
