import WorkloadNet.Firewall.Table

/-!
# Address families

The packet filter tool knows more address families than the engine uses.
-/

namespace WorkloadNet.Nft

open Firewall

/-- The address families of the tool. -/
inductive NftFamily where
  /-- IPv4. -/
  | ip
  /-- IPv6. -/
  | ip6
  /-- IPv4 and IPv6. -/
  | inet
  /-- Address resolution. -/
  | arp
  /-- Bridged packets. -/
  | bridge
  /-- Packets at a device. -/
  | netdev
  deriving DecidableEq, Repr

namespace NftFamily

/-- All families. -/
def all : List NftFamily := [ip, ip6, inet, arp, bridge, netdev]

/-- The name of a family. -/
def text : NftFamily → String
  | ip => "ip"
  | ip6 => "ip6"
  | inet => "inet"
  | arp => "arp"
  | bridge => "bridge"
  | netdev => "netdev"

/-- The family of a name. -/
def ofName? (name : String) : Option NftFamily := all.find? fun family => family.text = name

theorem ofName?_text (family : NftFamily) : ofName? family.text = some family := by
  cases family <;> decide

/-- The tool's family for one of the engine. -/
def ofFamily : Family → NftFamily
  | .inet => inet
  | .ip => ip

/-- The engine's family for one of the tool, if the engine has it. -/
def family? : NftFamily → Option Family
  | inet => some .inet
  | ip => some .ip
  | _ => none

theorem family?_ofFamily (family : Family) : (ofFamily family).family? = some family := by
  cases family <;> rfl

end NftFamily

end WorkloadNet.Nft
