import WorkloadNet.Address.Cidr
import WorkloadNet.Failure
import WorkloadNet.Text.Decimal

/-!
# Settings of a lease server

A lease server hands out the addresses of a range. The range lies in the subnet that the server is on, and
the router is the address by which it is known there. `LeaseSettings.check` reports the first setting that does
not do. What the lease engine is told is a list of directives, each a name with arguments.
-/

namespace WorkloadNet.Dhcp

/-- Nanoseconds in a second. -/
def nanosPerSecond : Nat := 1000000000

/-- What a lease server is to do. -/
structure LeaseSettings where
  /-- The first and the last address handed out. -/
  range : Option (Host × Host) := none
  /-- For how long an address is handed out, in nanoseconds. -/
  leaseNanos : Nat := 43200 * nanosPerSecond
  /-- The name servers that clients are told of. -/
  dns : List V4 := []
  /-- The router that clients are told of. -/
  router : Option V4 := none
  /-- The subnet. -/
  subnet : Option Cidr := none
  /-- The path of the file that keeps the leases. Only paths that are text are covered, not those that can
  be displayed only with replacement characters. -/
  leaseFile : String := "/tmp/guestnet-dhcp-leases"
  deriving DecidableEq

/-- Why settings do not do. -/
inductive LeaseFault where
  /-- There is no range. -/
  | noRange
  /-- There is no router. -/
  | noRouter
  /-- The range is not one of the subnet. -/
  | badRange (first last : Host)
  /-- Addresses would be handed out for no time. -/
  | noTime
  deriving DecidableEq

/-- The wording of a fault. -/
def LeaseFault.message : LeaseFault → String
  | noRange => "IP range must be specified"
  | noRouter => "router IP must be specified"
  | badRange first last => "invalid IP range: " ++ first.text ++ " - " ++ last.text
  | noTime => "lease time must be positive"

/-- A directive to the lease engine. -/
structure Directive where
  /-- What it is about. -/
  name : String
  /-- The arguments. -/
  arguments : List String
  deriving DecidableEq, Repr

namespace LeaseSettings

/-- The settings that a lease server needs: range, router and subnet. -/
def needed (s : LeaseSettings) : Except LeaseFault (Host × Host × V4 × Cidr) :=
  match s.range, s.router, s.subnet with
  | none, _, _ => .error .noRange
  | some (first, last), some router, some subnet => .ok (first, last, router, subnet)
  | _, _, _ => .error .noRouter

/-- The range and the router, when every setting does. -/
def check (s : LeaseSettings) : Except LeaseFault (Host × Host × V4) :=
  match s.needed with
  | .error fault => .error fault
  | .ok (first, last, router, subnet) =>
    if !subnet.isRange first last then .error (.badRange first last)
    else if s.leaseNanos = 0 then .error .noTime
    else .ok (first, last, router)

/-- The duration of a lease as the engine reads it: whole seconds. -/
def durationText (nanos : Nat) : String := Text.decimal (nanos / nanosPerSecond) ++ "s"

/-- The directives for settings that do. -/
def directivesOf (s : LeaseSettings) (first last : Host) (router : V4) : List Directive :=
  [⟨"server_id", [router.text]⟩,
    ⟨"range", [s.leaseFile, first.text, last.text, durationText s.leaseNanos]⟩,
    ⟨"router", [router.text]⟩] ++
  if s.dns.isEmpty then [] else [⟨"dns", s.dns.map V4.text⟩]

/-- The directives for a lease engine. -/
def directives (s : LeaseSettings) : Except LeaseFault (List Directive) :=
  match s.check with
  | .error fault => .error fault
  | .ok (first, last, router) => .ok (s.directivesOf first last router)

end LeaseSettings

/-- A fault as a failure. -/
def refused {α : Type} : Except LeaseFault α → Except Failure α
  | .ok a => .ok a
  | .error fault => .error (.config fault.message)

/-! ## Interfaces -/

/-- An address of an interface of the host, with the prefix length of its subnet. -/
structure InterfaceAddress where
  /-- The interface. -/
  interface : String
  /-- The address. -/
  address : Cidr

/-- Whether an address is one of the host itself. -/
def isLoopback (a : V4) : Bool := a.toNat / 16777216 = 127

/-- The settings with the subnet that the router has on an interface. -/
def LeaseSettings.withInterface (s : LeaseSettings) (addresses : List InterfaceAddress)
    (interface : String) (router : V4) : Except Failure LeaseSettings :=
  match addresses.find? fun a =>
    a.interface = interface && !isLoopback a.address.address && a.address.address = router with
  | some a => .ok { s with router := some router, subnet := some a.address }
  | none => .error (.notFound "router address" (router.text ++ " on interface " ++ interface))

end WorkloadNet.Dhcp
