import WorkloadNet.Address.Host
import WorkloadNet.Failure
import WorkloadNet.Text.Blank

/-!
# Settings of a name forwarder

A forwarder listens on a host or an endpoint; the port is 53 when none is given, and blanks around the
address do not count. `ForwarderSettings.check` reports the first setting that does not do.
-/

namespace WorkloadNet.Dns

/-- What a forwarder is to do. -/
structure ForwarderSettings where
  /-- Where it listens. -/
  address : String := ""
  /-- How long a server may take to answer, in milliseconds. -/
  timeoutMs : Nat := 120000
  /-- The path of the resolver file that it follows. Only paths that are text are covered, not those that
  can be displayed only with replacement characters. -/
  resolvConf : String := "/etc/resolv.conf"
  /-- The zone that it serves. -/
  zone : String := "."
  deriving DecidableEq, Repr

/-- Why settings do not do. -/
inductive ForwarderFault where
  /-- There is no listen address. -/
  | noAddress
  /-- The listen address is neither a host nor an endpoint. -/
  | badAddress (text : String)
  /-- Servers get no time to answer. -/
  | noTime
  /-- There is no zone. -/
  | noZone
  deriving DecidableEq, Repr

/-- The wording of a fault. -/
def ForwarderFault.message : ForwarderFault → String
  | noAddress => "listen address is required"
  | badAddress text => s!"invalid listen address {text}"
  | noTime => "upstream timeout must be positive"
  | noZone => "zone is required"

namespace ForwarderSettings

/-- The endpoint that a text gives: an endpoint as written, or a host with port 53. -/
def endpointOf? (text : String) : Option Endpoint :=
  (Endpoint.ofText? text).or ((Host.ofText? text).map fun host => ⟨host, 0, 53⟩)

/-- The endpoint to listen on. -/
def listen (s : ForwarderSettings) : Except ForwarderFault Endpoint :=
  let text := Text.trimmed s.address
  if text = "" then .error .noAddress
  else
    match endpointOf? text with
    | some endpoint => .ok endpoint
    | none => .error (.badAddress text)

/-- The endpoint to listen on, when every setting does. -/
def check (s : ForwarderSettings) : Except ForwarderFault Endpoint :=
  match s.listen with
  | .error fault => .error fault
  | .ok endpoint =>
    if s.timeoutMs = 0 then .error .noTime
    else if s.zone = "" then .error .noZone
    else .ok endpoint

/-- A fault as a failure. -/
def refused {α : Type} : Except ForwarderFault α → Except Failure α
  | .ok a => .ok a
  | .error fault => .error (.config fault.message)

end ForwarderSettings

end WorkloadNet.Dns
