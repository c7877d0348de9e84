import WebSocket.Settings.Basic
import WebSocket.Settings.Error
import WebSocket.Text.Blank

/-!
# Which settings make sense

Addresses must be addresses, sizes and times must not be zero, and a buffer must fit into the
largest packet.  All checks that fail are reported.

## Main definitions

* `Settings.failures` — the checks that settings do not pass, in a fixed order.
* `Settings.check` — the settings, if they pass all checks.

## Main results

* `Settings.check_eq_ok` — what passes is what was given.
-/

namespace WebSocket

/-- The smallest packet limit: a frame header with a mask fits. -/
def smallestPacketLimit : Nat := 14

/-- The field must hold an address. -/
def checkAddress (field address : String) : List Failure :=
  if (SocketAddress.parse? address).isSome then []
  else [⟨field, "'" ++ address ++ "' is not a socket address"⟩]

/-- The field must not be zero. -/
def checkPositive (field : String) (n : Nat) : List Failure :=
  if n = 0 then [⟨field, "must be greater than zero"⟩] else []

namespace ListenerSettings

def failures (s : ListenerSettings) : List Failure :=
  checkAddress "listener.bind_address" s.bindAddress ++
  checkPositive "listener.backlog" s.backlog ++
  checkPositive "listener.poll_timeout_ms" s.pollTimeout

end ListenerSettings

namespace HubSettings

def failures (s : HubSettings) : List Failure :=
  checkPositive "multiplexer.poll_timeout_ms" s.pollTimeout ++
  checkPositive "multiplexer.heartbeat_interval_ms" s.heartbeatInterval

end HubSettings

namespace WireSettings

def failures (s : WireSettings) : List Failure :=
  checkPositive "session.outbound_queue_capacity" s.outboxCapacity ++
  checkPositive "session.default_buffer_size" s.bufferSize ++
  (if s.packetLimit < smallestPacketLimit then
    [⟨"session.max_packet_size", s!"must be at least {smallestPacketLimit} bytes"⟩]
  else []) ++
  (if s.packetLimit < s.bufferSize then
    [⟨"session.default_buffer_size", "must not exceed session.max_packet_size"⟩]
  else []) ++
  (if s.forwardedHeader.toList.all Text.isBlank then
    [⟨"session.forwarded_header", "must not be empty"⟩]
  else [])

end WireSettings

namespace DispatchSettings

def failures (s : DispatchSettings) : List Failure :=
  checkPositive "dispatch.workers" s.workers ++
  checkPositive "dispatch.queue_capacity" s.queueCapacity ++
  checkPositive "dispatch.enqueue_timeout_ms" s.enqueueTimeout ++
  checkPositive "dispatch.max_idle_backoff_ms" s.idleBackoff

end DispatchSettings

namespace ObservabilitySettings

def failures (s : ObservabilitySettings) : List Failure :=
  if s.metricsEnabled then checkAddress "observability.metrics_address" s.metricsAddress else []

end ObservabilitySettings

namespace Settings

/-- The checks that settings do not pass, in a fixed order. -/
def failures (s : Settings) : List Failure :=
  s.listener.failures ++ s.hub.failures ++ s.wire.failures ++ s.dispatch.failures ++
    s.observability.failures

/-- The settings, if they pass all checks. -/
def check (s : Settings) : Except SettingsError Settings :=
  if s.failures.isEmpty then .ok s else .error (.invalid s.failures)

/-- What passes is what was given. -/
theorem check_eq_ok {s t : Settings} : s.check = .ok t ↔ s = t ∧ s.failures = [] := by
  unfold check
  split
  · next h => simp_all
  · next h => simp_all

end Settings

end WebSocket
