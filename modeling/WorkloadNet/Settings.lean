import WorkloadNet.Json.Decode
import WorkloadNet.Json.Reader
import WorkloadNet.Text.File
import WorkloadNet.Text.Path

/-!
# Settings

The settings that all commands share can be given in a JSON file: an object with any of the six
fields, or an array of their values in the order of `Settings.fieldNames`. A field that is not given
has its default. A value of the wrong type, `null` included, makes the whole file invalid.
-/

namespace WorkloadNet

/-- The settings that all commands share. -/
structure Settings where
  /-- The directory of the named namespaces. -/
  netnsDir : String := "/run/netns"
  /-- The resolver file that name service follows. -/
  resolvConf : String := "/etc/resolv.conf"
  /-- How long a name server may take to answer, in seconds. -/
  dnsTimeoutSecs : Nat := 120
  /-- What the names of a workload's chains begin with. -/
  nftMark : String := "QEMU-"
  /-- The file of address leases. -/
  leaseFile : String := "/tmp/guestnet-dhcp-leases"
  /-- How long a lease lasts, in seconds. -/
  leaseTimeSecs : Nat := 43200
  deriving DecidableEq, Repr

namespace Settings

/-- The names of the fields in a settings file, in the order of an array. -/
def fieldNames : List String :=
  ["netns_dir", "resolv_conf", "dns_timeout_secs", "nft_prefix", "lease_file", "lease_time_secs"]

/-- The greatest number of seconds. -/
def maxSeconds : Nat := 18446744073709551615

/-- A given value, or the default. -/
def orDefault {α : Type} (default : α) (decode : Json → Option α) : Option Json → Option α
  | none => some default
  | some value => decode value

/-- The settings that a JSON value gives. -/
def ofJson? (value : Json) : Option Settings := do
  let default : Settings := {}
  match ← value.record? fieldNames with
  | [netnsDir, resolvConf, dnsTimeout, nftMark, leaseFile, leaseTime] =>
    return {
      netnsDir := ← orDefault default.netnsDir Json.text? netnsDir
      resolvConf := ← orDefault default.resolvConf Json.text? resolvConf
      dnsTimeoutSecs := ← orDefault default.dnsTimeoutSecs (Json.nat? maxSeconds) dnsTimeout
      nftMark := ← orDefault default.nftMark Json.text? nftMark
      leaseFile := ← orDefault default.leaseFile Json.text? leaseFile
      leaseTimeSecs := ← orDefault default.leaseTimeSecs (Json.nat? maxSeconds) leaseTime }
  | _ => none

/-- A path, or the default one where they are the same. -/
def orDefaultPath (default path : String) : String :=
  if Text.Path.same path default then default else path

/-- Settings with default paths wherever a path is the same as that. -/
def canonical (s : Settings) : Settings :=
  let default : Settings := {}
  { s with
    netnsDir := orDefaultPath default.netnsDir s.netnsDir
    resolvConf := orDefaultPath default.resolvConf s.resolvConf
    leaseFile := orDefaultPath default.leaseFile s.leaseFile }

/-- The settings that a text gives. -/
def ofText? (text : String) : Option Settings := (Json.ofText? text).bind ofJson?

/-- Reads a settings file. -/
def load (path : String) (content : Text.FileContent) : Except Failure Settings :=
  match Text.readFile path content with
  | .error failure => .error failure
  | .ok text =>
    match ofText? text with
    | some settings => .ok settings
    | none => .error .serialization

end Settings

end WorkloadNet
