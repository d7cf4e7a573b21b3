import PhoneVerification.Flow.Operation

/-!
# Runs of a verification

A run is a list of operations on a flow, each with its reply.
-/

namespace PhoneVerification

/-- What a user or a host does with a flow. -/
inductive Operation
  | submitPhone (raw : String)
  | confirm
  | submitCode (raw : String)
  | openLink (text : String)
  | back
  | restart
  | observe (name : String)
  deriving DecidableEq, Repr

/-- The answer to an operation. -/
inductive Reply
  | done
  | linkOpened (accepted : Bool)
  | wentBack (action : BackAction)
  | refused (fault : Fault)
  deriving DecidableEq, Repr

namespace Reply

/-- The reply for the result of an operation that may be refused. -/
def of {α : Type} (reply : α → Reply) : Except Fault α → Reply
  | .ok a => reply a
  | .error fault => refused fault

end Reply

namespace Flow

variable {σ : Type}

/-- Carries out an operation. -/
def perform (s : Services σ) : Operation → Act σ Reply
  | .submitPhone raw => return Reply.of (fun _ => .done) (← submitPhone s raw)
  | .confirm => return Reply.of (fun _ => .done) (← confirm s)
  | .submitCode raw => return Reply.of (fun _ => .done) (← submitCode s raw)
  | .openLink text => return Reply.of .linkOpened (← openLink s text)
  | .back => return .wentBack (← back)
  | .restart => do
    restart
    return .done
  | .observe name => do
    observe name
    return .done

/-- Carries out operations one after the other. -/
def performAll (s : Services σ) : List Operation → Act σ (List Reply)
  | [] => return []
  | op :: ops => do
    let reply ← perform s op
    let replies ← performAll s ops
    return reply :: replies

end Flow

end PhoneVerification
