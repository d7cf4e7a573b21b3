import PhoneVerification.Action
import PhoneVerification.Http.Message
import PhoneVerification.Issuance.Session
import PhoneVerification.Log

/-!
# Effects

What happens outside of the forms.
-/

namespace PhoneVerification

/-- A record for the log, a request that is tried, or a session that is offered to a wallet. -/
inductive Effect
  | log (record : Log.Record)
  | attempt (draft : Http.Draft)
  | presented (pointer : SessionPointer) (locale : Locale)
  deriving DecidableEq, Repr

namespace Effect

/-- Leaves a record of this library in the log. -/
def note {σ : Type} (level : Log.Level) (message : String) : Action Effect σ Unit :=
  .emit (.log (.own level message))

@[simp] theorem run_note {σ : Type} (level : Log.Level) (message : String) (w : σ) :
    (note level message).run w = ⟨(), [.log (.own level message)], w⟩ :=
  rfl

end Effect

end PhoneVerification
