import Ssoossh.Server.Issuance

/-!
# The sweep of stranded requests

A request that has been approved but was never signed is failed by a periodic pass.
Nothing records when signing began, so the pass goes by the age of the request: what
is left of the global budget after its last tenth.  This is meant to be later than
any approval can be, plus the time signing may take.

Both shares are integer quotients of a budget, and a console request may have a
budget of its own.  `approvalTTLFor` is not monotone, which is where the pass and the
approval can miss each other by a nanosecond.
-/

namespace Ssoossh

open Interleaving Relational GoTime List

/-! ## Shares of a budget -/

section Passing

open Prog

variable {server : Server} {row : CertificateRequest} {time : Int} {past now : History}

end Passing

/-! ## What a pass fails -/

section Sweeping

open Prog

variable {server : Server} {db : Database} {time : Int} {past now : History} {id : RequestID}

section

variable (budgeted : 0 < server.certOptions.approvalTTL)
include budgeted

end

end Sweeping

/-! ## In flight and stranded -/

section InFlight

variable {server : Server}

end InFlight

namespace Sample

end Sample

end Ssoossh
