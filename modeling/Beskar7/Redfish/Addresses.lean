import Beskar7.Redfish.Client

/-!
# Classifying the addresses a BMC reports

`ConvertToMachineAddresses` keeps each reported address, in order, and types
it by `machineAddressType`. Here the type is compared with the standard
reading of the private prefixes (`InternalBySpec`): an IPv4-typed address
is internal when its IPv4 form lies in 10.0.0.0/8, 172.16.0.0/12,
192.168.0.0/16, 127.0.0.0/8 or 169.254.0.0/16; an IPv6-typed address when
its sixteen bytes lie in fc00::/7, fe80::/10 or ::1/128; an address of any
other type always.

The networks are compared by `Contains`, which shortens an IPv4-mapped
address (`::ffff:a.b.c.d`) to four bytes first. An IPv4 network therefore
sees the IPv4 form of a mapped address, and an IPv6 network never contains
one; that agrees with the sixteen-byte reading, because no mapped address
lies in the three IPv6 prefixes (`not_private_of_mapped`).
-/

namespace Beskar7

open GoNet GoString

/-- `a.b.c.d` as a number. -/
def dotted (a b c d : Nat) : Nat := ((a * 256 + b) * 256 + c) * 256 + d

/-- The prefixes `isPrivateIPv4` names, as network and length. -/
def privateIPv4Prefixes : List (Nat × Nat) :=
  [(dotted 10 0 0 0, 8), (dotted 172 16 0 0, 12), (dotted 192 168 0 0, 16),
   (dotted 127 0 0 0, 8), (dotted 169 254 0 0, 16)]

/-- The prefixes `isPrivateIPv6` names: fc00::/7, fe80::/10, ::1/128. -/
def privateIPv6Prefixes : List (Nat × Nat) :=
  [(0xfc00 * 2 ^ 112, 7), (0xfe80 * 2 ^ 112, 10), (1, 128)]

/-- The address `ip` reads as lies in one of the prefixes. -/
def PrivateByPrefix (prefixes : List (Nat × Nat)) (bits : Nat) (ip : Option (List UInt8)) : Prop :=
  ∃ addr, ip = some addr ∧ ∃ p ∈ prefixes, InPrefix bits p.2 p.1 (bytesValue addr)

/-- The IPv4 form of an address: `To4` of what `net.ParseIP` reads. -/
def ipv4Of (ip : String) : Option (List UInt8) := (parseIP (bytes ip)).bind to4

/-- When a reported address is internal, by the standard reading of the
private prefixes. -/
def InternalBySpec (netAddr : NetworkAddress) : Prop :=
  match netAddr.type with
  | .ipv4 => PrivateByPrefix privateIPv4Prefixes 32 (ipv4Of netAddr.address)
  | .ipv6 => PrivateByPrefix privateIPv6Prefixes 128 (parseIP (bytes netAddr.address))
  | .other _ => True

-- ---------------------------------------------------------------------------
-- The networks
-- ---------------------------------------------------------------------------

theorem privateIPv4CIDRs_nets : List.Forall₂ (NetOf 32) privateIPv4CIDRs privateIPv4Prefixes := by
  simp only [privateIPv4CIDRs, privateIPv4Prefixes, List.forall₂_cons, List.Forall₂.nil, and_true]
  decide

theorem privateIPv6CIDRs_nets : List.Forall₂ (NetOf 128) privateIPv6CIDRs privateIPv6Prefixes := by
  simp only [privateIPv6CIDRs, privateIPv6Prefixes, List.forall₂_cons, List.Forall₂.nil, and_true]
  decide

/-- No IPv4-mapped address lies in the private IPv6 prefixes: its first
eighty bits are zero, and the next sixteen are not. -/
theorem not_private_of_mapped (v4 : List UInt8) (hv4 : v4.length = 4) :
    ¬∃ p ∈ privateIPv6Prefixes, InPrefix 128 p.2 p.1 (bytesValue (v4InV6Prefix ++ v4)) := by
  have hval : bytesValue (v4InV6Prefix ++ v4) = 0xffff * 2 ^ 32 + bytesValue v4 := by
    rw [bytesValue_append, hv4]
    rfl
  have hlt := bytesValue_lt v4
  rw [hv4] at hlt
  rw [hval]
  simp only [privateIPv6Prefixes, List.mem_cons, List.not_mem_nil, or_false, exists_eq_or_imp,
    exists_eq_left, InPrefix, not_or]
  refine ⟨?_, ?_, ?_⟩ <;> norm_num <;> omega

-- ---------------------------------------------------------------------------
-- The checks
-- ---------------------------------------------------------------------------

theorem isPrivateIPv4_iff (ip : String) :
    isPrivateIPv4 ip = true ↔ PrivateByPrefix privateIPv4Prefixes 32 (ipv4Of ip) := by
  unfold isPrivateIPv4 inAnyCIDR ipv4Of PrivateByPrefix
  cases hparse : parseIP (bytes ip) with
  | none => simp
  | some parsed =>
    have h16 := parseIP_length hparse
    rw [any_contains_iff privateIPv4CIDRs_nets, Option.bind_some]
    -- only an address that `To4` shortens has the four bytes of the networks
    cases hto4 : to4 parsed with
    | none => simp [h16]
    | some v4 => simp [to4_length hto4]

theorem isPrivateIPv6_iff (ip : String) :
    isPrivateIPv6 ip = true ↔ PrivateByPrefix privateIPv6Prefixes 128 (parseIP (bytes ip)) := by
  unfold isPrivateIPv6 inAnyCIDR PrivateByPrefix
  cases hparse : parseIP (bytes ip) with
  | none => simp
  | some parsed =>
    have h16 := parseIP_length hparse
    rw [any_contains_iff privateIPv6CIDRs_nets]
    cases hto4 : to4 parsed with
    | none => simp [h16]
    | some v4 =>
      -- a mapped address is shortened, so no network contains it, as none
      -- of the prefixes has it
      have hmapped := not_private_of_mapped v4 (to4_length hto4)
      rw [← eq_v4InV6Prefix_append h16 hto4] at hmapped
      simp only [Option.getD_some, to4_length hto4, Option.some.injEq, exists_eq_left']
      constructor
      · rintro ⟨p, _, hbits, _⟩
        omega
      · intro h
        exact absurd h hmapped

theorem machineAddressType_eq_internalIP_iff (netAddr : NetworkAddress) :
    machineAddressType netAddr = .internalIP ↔ InternalBySpec netAddr := by
  unfold machineAddressType InternalBySpec
  cases netAddr.type with
  | ipv4 => rw [← isPrivateIPv4_iff]; split <;> simp_all
  | ipv6 => rw [← isPrivateIPv6_iff]; split <;> simp_all
  | other _ => simp

/-- Every address is typed InternalIP or ExternalIP. -/
theorem machineAddressType_internal_or_external (netAddr : NetworkAddress) :
    machineAddressType netAddr = .internalIP ∨ machineAddressType netAddr = .externalIP := by
  unfold machineAddressType
  split
  · split <;> simp
  · split <;> simp
  · simp

/-- `ConvertToMachineAddresses` keeps the reported addresses one for one and
in order, and types each InternalIP exactly when the standard reading of
the private prefixes makes it internal, and ExternalIP otherwise. -/
theorem ConvertToMachineAddresses_by_prefix (networkAddresses : List NetworkAddress) :
    List.Forall₂ (fun netAddr out => out.address = netAddr.address ∧
        (out.type = .internalIP ↔ InternalBySpec netAddr) ∧
        (out.type = .externalIP ↔ ¬InternalBySpec netAddr))
      networkAddresses (ConvertToMachineAddresses networkAddresses) := by
  unfold ConvertToMachineAddresses
  induction networkAddresses with
  | nil => exact .nil
  | cons netAddr rest ih =>
    refine .cons ⟨rfl, machineAddressType_eq_internalIP_iff netAddr, ?_⟩ ih
    rw [← machineAddressType_eq_internalIP_iff]
    rcases machineAddressType_internal_or_external netAddr with h | h <;> simp [h]

end Beskar7
