import WorkloadNet.Dns.Exchange
import WorkloadNet.Dns.ForwarderSettings
import WorkloadNet.Dns.Watch

/-!
# Name forwarders

A forwarder answers queries at an endpoint by asking the servers that a resolver file names. It follows
the file until it is stopped; the servers in use then stay as they are.
-/

namespace WorkloadNet.Dns

/-- A forwarder that has been started. -/
structure Forwarder where
  /-- Where it listens. -/
  endpoint : Endpoint
  /-- The servers in use. -/
  servers : List Endpoint
  /-- Whether it has been stopped. -/
  stopped : Bool := false

namespace Forwarder

/-- Starts a forwarder among files. -/
def start (files : Text.FileTree) (s : ForwarderSettings) : Except Failure Forwarder := do
  let endpoint ← ForwarderSettings.refused s.check
  let _ ← Watch.begin files s.resolvConf
  let first := ServerSet.ofFile s.resolvConf (files.read s.resolvConf)
  return ⟨endpoint, Watch.installed [] first, false⟩

/-- The forwarder after its resolver file came to read as given. -/
def refresh (now : ServerSet) (f : Forwarder) : Forwarder :=
  if f.stopped || sameMembers f.servers now.endpoints then f
  else { f with servers := Watch.installed f.servers now }

/-- Stops a forwarder. -/
def stop (f : Forwarder) : Forwarder := { f with stopped := true }

end Forwarder

/-- The datagram that answers a datagram. -/
def Client.answerDatagram [Codec] {σ : Type} (c : Client σ) (datagram : List UInt8) :
    StateM (Asked σ) (Option (List UInt8)) :=
  c.handle (datagram.take mostDatagramOctets) .udp

/-- What is written to a stream on which frames with queries arrive. -/
def Client.answerStream [Codec] {σ : Type} (c : Client σ) (stream : List UInt8) :
    StateM (Asked σ) (List UInt8) :=
  Frame.serve (fun query => c.handle query .tcp) stream

end WorkloadNet.Dns
