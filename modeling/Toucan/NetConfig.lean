import Toucan.Lib.BoundedVec
import Toucan.Lib.Netmask

/-!
# Toucan.NetConfig

The network settings (`NetConfig` of `config/mod.rs`) and what becomes of them when the
network stack is started: a static configuration, or DHCP.

`create_config` reads the address, the gateway and the DNS server.  Of the netmask it is
only asked whether there is one; the prefix has always 24 bits.
-/

namespace Toucan

open Netmask

/-! ## The configuration of the stack -/

/-- `embassy_net::Ipv4Address` -/
abbrev Ipv4Address := BitVec 32

/-- An address as it is written with dots. -/
def Ipv4Address.new (a b c d : UInt8) : Ipv4Address :=
  a.toBitVec ++ b.toBitVec ++ c.toBitVec ++ d.toBitVec

/-- The numbers between the dots, behind the digits of the first. -/
def readOctets : Option Nat → List Char → Option (List UInt8)
  | octet, [] => octet.map fun n => [UInt8.ofNat n]
  | octet, '.' :: cs => octet.bind fun n => (readOctets none cs).map (UInt8.ofNat n :: ·)
  | octet, c :: cs =>
      let n := 10 * octet.getD 0 + (c.toNat - '0'.toNat)
      if c.isDigit && n < 256 then readOctets (some n) cs else none

/-- The address that some text denotes. -/
def Ipv4Address.ofDotted (s : String) : Option Ipv4Address :=
  match readOctets none s.toList with
  | some [a, b, c, d] => some (.new a b c d)
  | _ => none

/-- `embassy_net::Ipv4Cidr` -/
structure Ipv4Cidr where
  address : Ipv4Address
  prefixLen : UInt8
  prefixLen_le : prefixLen ≤ 32

/-- `Ipv4Cidr::new`, which panics on a longer prefix than an address has bits. -/
def Ipv4Cidr.new (address : Ipv4Address) (prefixLen : UInt8) : Option Ipv4Cidr :=
  if h : prefixLen ≤ 32 then some ⟨address, prefixLen, h⟩ else none

/-- `embassy_net::StaticConfigV4` -/
structure StaticConfigV4 where
  address : Ipv4Cidr
  dnsServers : BoundedVec Ipv4Address 3
  gateway : Option Ipv4Address

/-- `embassy_net::Config`, with the DHCP client's defaults. -/
inductive EmbassyConfig where
  | dhcpv4
  | ipv4Static (config : StaticConfigV4)

/-- The errors of `create_config`. -/
inductive StmError where
  | invalidIpDetails
  | invalidDnsDetails

/-! ## The settings -/

structure NetConfig where
  dhcp : Bool
  ip : Option String
  netmask : Option String
  gateway : Option String
  dns : Option String

namespace NetConfig

/-- `from_str` with its error replaced. -/
def parseOr (fromStr : String → Option Ipv4Address) (e : StmError) (s : String) :
    ExceptT StmError Option Ipv4Address :=
  match fromStr s with
  | some address => pure address
  | none => throw e

/-- `NetConfig::create_config`; a panic is `none`. -/
def createConfig (fromStr : String → Option Ipv4Address) (c : NetConfig) :
    ExceptT StmError Option EmbassyConfig := do
  let ip ← ExceptT.lift c.ip
  let ipaddress ← parseOr fromStr .invalidIpDetails ip
  let address ← ExceptT.lift (Ipv4Cidr.new ipaddress 24)
  let dnsServers ← match c.dns with
    | some dns => do
        let dns ← parseOr fromStr .invalidDnsDetails dns
        ExceptT.lift (BoundedVec.empty.push dns)
    | none => pure BoundedVec.empty
  let gateway := c.gateway.bind fromStr
  return .ipv4Static { address, dnsServers, gateway }

/-- `NetConfig::get_config`; a panic is `none`. -/
def getConfig (fromStr : String → Option Ipv4Address) (c : NetConfig) : Option EmbassyConfig :=
  if c.dhcp || c.ip.isNone || c.netmask.isNone then
    some .dhcpv4
  else
    (c.createConfig fromStr).run.map fun
      | .ok config => config
      | .error _ => .dhcpv4

/-- The prefix fits into an address. -/
theorem prefixLen_le : (24 : UInt8) ≤ 32 := by decide

/-- The configuration that a readable address leads to, when the DNS server is readable. -/
theorem createConfig_eq_static {fromStr : String → Option Ipv4Address} {c : NetConfig}
    (hip : c.ip.bind fromStr = some address)
    (hdns : ∀ dns, c.dns = some dns → (fromStr dns).isSome = true) :
    ∃ dnsServers : BoundedVec Ipv4Address 3, dnsServers.toList = (c.dns.bind fromStr).toList ∧
      (c.createConfig fromStr).run = some (.ok (.ipv4Static {
        address := ⟨address, 24, prefixLen_le⟩
        dnsServers
        gateway := c.gateway.bind fromStr })) := by
  obtain ⟨ip, hc, hparse⟩ := Option.bind_eq_some_iff.mp hip
  cases hd : c.dns with
  | none =>
      refine ⟨.empty, rfl, ?_⟩
      simp [createConfig, hc, hparse, hd, parseOr, Ipv4Cidr.new, prefixLen_le,
        Except.map]
  | some dns =>
      obtain ⟨server, hserver⟩ := Option.isSome_iff_exists.mp (hdns dns hd)
      obtain ⟨servers, hpush, hservers⟩ :=
        (BoundedVec.empty : BoundedVec Ipv4Address 3).exists_push server (by simp)
      refine ⟨servers, by simp [hservers, hserver], ?_⟩
      simp [createConfig, hc, hparse, hd, hserver, hpush, parseOr, Ipv4Cidr.new, prefixLen_le,
        Except.map]

theorem getConfig_eq_static {fromStr : String → Option Ipv4Address} {c : NetConfig}
    (hdhcp : c.dhcp = false) (hip : c.ip.bind fromStr = some address)
    (hnetmask : c.netmask.isSome = true)
    (hdns : ∀ dns, c.dns = some dns → (fromStr dns).isSome = true) :
    ∃ dnsServers : BoundedVec Ipv4Address 3, dnsServers.toList = (c.dns.bind fromStr).toList ∧
      c.getConfig fromStr = some (.ipv4Static {
        address := ⟨address, 24, prefixLen_le⟩
        dnsServers
        gateway := c.gateway.bind fromStr }) := by
  obtain ⟨dnsServers, hservers, hstatic⟩ := createConfig_eq_static hip hdns
  have hip' : c.ip.isNone = false := by
    cases hc : c.ip with
    | none => simp [hc] at hip
    | some ip => rfl
  have hnetmask' : c.netmask.isNone = false := by simpa using hnetmask
  refine ⟨dnsServers, hservers, ?_⟩
  simp [getConfig, hdhcp, hip', hnetmask', hstatic]

/-- **The prefix of the netmask**: from valid settings `get_config` makes a static
    configuration with their address, and the prefix is that of the netmask exactly when the
    netmask is `255.255.255.0`. -/
theorem getConfig_prefix_iff {fromStr : String → Option Ipv4Address} {c : NetConfig}
    (hdhcp : c.dhcp = false) (hip : c.ip.bind fromStr = some address)
    (hnetmask : c.netmask.bind fromStr = some mask) (hmask : IsNetmask mask)
    (hdns : ∀ dns, c.dns = some dns → (fromStr dns).isSome = true) :
    (∃ config, c.getConfig fromStr = some (.ipv4Static config) ∧
        config.address.address = address ∧
        config.address.prefixLen.toNat = leadingOnes mask) ↔
      mask = Ipv4Address.new 255 255 255 0 := by
  have hpresent : c.netmask.isSome = true := by
    cases hc : c.netmask with
    | none => simp [hc] at hnetmask
    | some netmask => rfl
  obtain ⟨dnsServers, -, hget⟩ := getConfig_eq_static hdhcp hip hpresent hdns
  have h24 : Netmask.netmask 32 24 = Ipv4Address.new 255 255 255 0 := by decide
  rw [← h24, ← leadingOnes_eq_iff hmask (by decide : 24 ≤ 32), hget]
  constructor
  · rintro ⟨config, hconfig, -, hprefix⟩
    rw [Option.some.injEq, EmbassyConfig.ipv4Static.injEq] at hconfig
    subst hconfig
    exact hprefix.symm
  · intro hprefix
    exact ⟨_, rfl, rfl, hprefix.symm⟩

/-- Settings of a host, for one of its netmasks. -/
def hostSettings (netmask : String) : NetConfig where
  dhcp := false
  ip := some "192.168.1.20"
  netmask := some netmask
  gateway := some "192.168.1.1"
  dns := none

theorem getConfig_prefix_24 :
    ∃ config, (hostSettings "255.255.255.0").getConfig Ipv4Address.ofDotted =
        some (.ipv4Static config) ∧
      config.address.address = Ipv4Address.new 192 168 1 20 ∧
      config.address.prefixLen.toNat = leadingOnes (Ipv4Address.new 255 255 255 0) :=
  (getConfig_prefix_iff rfl (by decide +kernel) (by decide +kernel) ⟨24, by decide, by decide⟩
    (fun _ h => absurd h (by simp [hostSettings]))).mpr rfl

/-- A netmask of 16 ones gives a prefix of 24 bits as well. -/
theorem getConfig_prefix_16 :
    (hostSettings "255.255.0.0").netmask.bind Ipv4Address.ofDotted =
        some (Ipv4Address.new 255 255 0 0) ∧
      leadingOnes (Ipv4Address.new 255 255 0 0) = 16 ∧
      ∃ config, (hostSettings "255.255.0.0").getConfig Ipv4Address.ofDotted =
          some (.ipv4Static config) ∧
        config.address.address = Ipv4Address.new 192 168 1 20 ∧
        config.address.prefixLen.toNat = 24 := by
  have hip : (hostSettings "255.255.0.0").ip.bind Ipv4Address.ofDotted =
      some (Ipv4Address.new 192 168 1 20) := by decide +kernel
  have hdns : ∀ dns, (hostSettings "255.255.0.0").dns = some dns →
      (Ipv4Address.ofDotted dns).isSome = true := by
    intro dns h
    contradiction
  obtain ⟨dnsServers, -, hget⟩ := getConfig_eq_static rfl hip rfl hdns
  exact ⟨by decide +kernel, by decide, _, hget, rfl, rfl⟩

end NetConfig

end Toucan
