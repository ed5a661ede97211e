import WorkloadNet.Dns.ForwarderSettings

/-!
# Corefiles

The name server program is told by a file what to do: one block for the zone and the port, bound to
the host, forwarding to the resolver file, with queries and errors logged.
-/

namespace WorkloadNet.Dns

/-- The block for a zone. -/
def corefileOf (s : ForwarderSettings) (endpoint : Endpoint) : String :=
  s.zone ++ ":" ++ Text.decimal endpoint.port ++ " \x7b\n" ++
  "    bind " ++ endpoint.host.text ++ "\n" ++
  "    forward . " ++ s.resolvConf ++ "\n" ++
  "    log\n" ++
  "    errors\n" ++
  "\x7d\n"

/-- The file for settings that do. -/
def corefile (s : ForwarderSettings) : Except Failure String :=
  match ForwarderSettings.refused s.check with
  | .ok endpoint => .ok (corefileOf s endpoint)
  | .error failure => .error failure

end WorkloadNet.Dns
