import Mathlib

/-!
# IP addresses as Go's `net` package reads them

`parseIP` is `net.ParseIP` on the bytes of its argument: it accepts what
`netip.ParseAddr` accepts without a zone and returns the sixteen-byte form,
in which an IPv4 address is `::ffff:a.b.c.d`. An address with a zone, or
any `%`, gives `nil`.

`IPNet.contains` is `(*IPNet).Contains`: `To4` first shortens an
IPv4-mapped address to four bytes, and only an address as long as the
network is compared, byte by byte under the mask.

`JoinHostPort` and the host and port of a URL (`splitHostPort` of
`net/url`) are what the TLS validator dials.
-/

namespace GoNet

/-- An ASCII byte. -/
def ascii (c : Char) : UInt8 := c.toNat.toUInt8

def isDigit (c : UInt8) : Bool := ascii '0' ≤ c && c ≤ ascii '9'

def hexValue (c : UInt8) : Option Nat :=
  if isDigit c then some (c - ascii '0').toNat
  else if ascii 'a' ≤ c && c ≤ ascii 'f' then some ((c - ascii 'a').toNat + 10)
  else if ascii 'A' ≤ c && c ≤ ascii 'F' then some ((c - ascii 'A').toNat + 10)
  else none

/-- `parseIPv4Fields`: four dotted decimal octets, each at most 255 and
without a leading zero, no empty field. `prev` is the byte before, `val`
and `digLen` the octet being read, `fields` the octets finished. -/
def parseIPv4Fields (s : List UInt8) : Option (List UInt8) :=
  go s none 0 0 []
where
  go : List UInt8 → Option UInt8 → Nat → Nat → List UInt8 → Option (List UInt8)
  | [], _, val, _, fields =>
    if fields.length < 3 then none else some (fields ++ [val.toUInt8])
  | c :: rest, prev, val, digLen, fields =>
    if isDigit c then
      if digLen = 1 ∧ val = 0 then none
      else
        let val' := val * 10 + (c - ascii '0').toNat
        if val' > 255 then none else go rest (some c) val' (digLen + 1) fields
    else if c = ascii '.' then
      if prev = none ∨ rest = [] ∨ prev = some (ascii '.') then none
      else if fields.length = 3 then none
      else go rest (some c) 0 0 (fields ++ [val.toUInt8])
    else none

/-- The leading hex digits of a group: how many, and their value. -/
def hexGroup : List UInt8 → Nat × Nat
  | [] => (0, 0)
  | c :: rest =>
    match hexValue c with
    | some v => let (n, acc) := hexGroup rest; (n + 1, v * 16 ^ n + acc)
    | none => (0, 0)

/-- The loop of `parseIPv6` over colon-separated groups, after a leading
`::`. `ip` holds the bytes parsed so far, `ellipsis` where `::` stood;
each round adds two or four bytes, so eight rounds reach sixteen. The
result is the remaining input, the bytes and the ellipsis. -/
def ipv6Groups : Nat → List UInt8 → List UInt8 → Option Nat →
    Option (List UInt8 × List UInt8 × Option Nat)
  | 0, s, ip, ellipsis => some (s, ip, ellipsis)
  | fuel + 1, s, ip, ellipsis =>
    if ip.length ≥ 16 then some (s, ip, ellipsis) else
    let (off, acc) := hexGroup s
    -- a fifth digit fails, as does a group without digits
    if off > 4 then none
    else if off = 0 then none
    else if s[off]? = some (ascii '.') then
      if ellipsis = none ∧ ip.length ≠ 12 then none
      else if ip.length + 4 > 16 then none
      else (parseIPv4Fields s).map fun v4 => ([], ip ++ v4, ellipsis)
    else
      let ip := ip ++ [(acc / 256).toUInt8, (acc % 256).toUInt8]
      match s.drop off with
      | [] => some ([], ip, ellipsis)
      | c :: rest =>
        if c ≠ ascii ':' then none
        else if rest = [] then none
        else if rest.head? = some (ascii ':') then
          if ellipsis.isSome then none
          else if rest.tail = [] then some ([], ip, some ip.length)
          else ipv6Groups fuel rest.tail ip (some ip.length)
        else ipv6Groups fuel rest ip ellipsis

/-- `parseIPv6` without a zone. -/
def parseIPv6 (s : List UInt8) : Option (List UInt8) :=
  let (s, ellipsis) :=
    if s.take 2 = [ascii ':', ascii ':'] then (s.drop 2, some 0) else (s, none)
  if s = [] ∧ ellipsis = some 0 then some (List.replicate 16 0) else
  match ipv6Groups 8 s [] ellipsis with
  | none => none
  | some (rest, ip, ellipsis) =>
    if rest ≠ [] then none
    else if ip.length < 16 then
      match ellipsis with
      | none => none
      | some e => some (ip.take e ++ List.replicate (16 - ip.length) 0 ++ ip.drop e)
    else if ellipsis.isSome then none
    else some ip

/-- `::ffff:` before an IPv4 address. -/
def v4InV6Prefix : List UInt8 := List.replicate 10 0 ++ [0xff, 0xff]

/-- `net.ParseIP`: the first `.` or `:` decides the family; a `%` anywhere
means a zone or an error, and either way `nil`. -/
def parseIP (s : List UInt8) : Option (List UInt8) :=
  if ascii '%' ∈ s then none else
  match s.find? (fun c => c = ascii '.' ∨ c = ascii ':') with
  | some c =>
    if c = ascii '.' then (parseIPv4Fields s).map (v4InV6Prefix ++ ·) else parseIPv6 s
  | none => none

/-- `IP.To4` of a sixteen-byte address. -/
def to4 (ip : List UInt8) : Option (List UInt8) :=
  if ip.length = 4 then some ip
  else if ip.length = 16 ∧ ip.take 12 = v4InV6Prefix then some (ip.drop 12)
  else none

structure IPNet where
  ip : List UInt8
  mask : List UInt8
  deriving DecidableEq, Repr

/-- `net.CIDRMask ones bits`. -/
def cidrMask (ones bits : Nat) : List UInt8 :=
  (List.range (bits / 8)).map fun i =>
    if ones ≥ 8 * (i + 1) then 0xff
    else if ones ≤ 8 * i then 0
    else (0xff - (2 ^ (8 - (ones - 8 * i)) - 1)).toUInt8

/-- `(*IPNet).Contains`. -/
def IPNet.contains (n : IPNet) (ip : List UInt8) : Bool :=
  let ip := (to4 ip).getD ip
  ip.length = n.ip.length &&
    (List.zipWith₃ (fun a m b => a &&& m == b &&& m) n.ip n.mask ip).all id

-- ---------------------------------------------------------------------------
-- Prefix membership
-- ---------------------------------------------------------------------------

/-- The number a byte string stands for, most significant byte first. -/
def bytesValue : List UInt8 → Nat
  | [] => 0
  | b :: rest => b.toNat * 2 ^ (8 * rest.length) + bytesValue rest

/-- The standard reading of a prefix: `addr` lies in the network `net`/`ones`
of `bits`-bit addresses when their first `ones` bits agree. -/
def InPrefix (bits ones net addr : Nat) : Prop :=
  addr / 2 ^ (bits - ones) = net / 2 ^ (bits - ones)

instance (bits ones net addr : Nat) : Decidable (InPrefix bits ones net addr) :=
  inferInstanceAs (Decidable (_ = _))

theorem bytesValue_lt : ∀ ip : List UInt8, bytesValue ip < 2 ^ (8 * ip.length)
  | [] => by decide
  | b :: rest => by
    have hb : b.toNat < 2 ^ 8 := b.toNat_lt
    have hrest := bytesValue_lt rest
    have hstep : (b.toNat + 1) * 2 ^ (8 * rest.length) ≤ 2 ^ 8 * 2 ^ (8 * rest.length) :=
      Nat.mul_le_mul_right _ hb
    rw [bytesValue, List.length_cons, Nat.mul_succ, Nat.pow_add, Nat.mul_comm (2 ^ _) (2 ^ 8)]
    rw [Nat.add_mul, Nat.one_mul] at hstep
    omega

theorem bytesValue_append (xs ys : List UInt8) :
    bytesValue (xs ++ ys) = bytesValue xs * 2 ^ (8 * ys.length) + bytesValue ys := by
  induction xs with
  | nil => simp [bytesValue]
  | cons b rest ih =>
    simp only [List.cons_append, bytesValue, ih, List.length_append, Nat.mul_add, Nat.pow_add]
    ring

theorem mul_pow_add_div {a v n : Nat} (hv : v < 2 ^ n) : (a * 2 ^ n + v) / 2 ^ n = a := by
  rw [Nat.add_comm, Nat.add_mul_div_right _ _ (Nat.two_pow_pos n), Nat.div_eq_of_lt hv, Nat.zero_add]

theorem mul_pow_add_mod {a v n : Nat} (hv : v < 2 ^ n) : (a * 2 ^ n + v) % 2 ^ n = v := by
  rw [Nat.add_comm, Nat.add_mul_mod_self_right, Nat.mod_eq_of_lt hv]

/-- A number written with a high part above `n` low bits determines both. -/
theorem mul_pow_add_inj {a b v w n : Nat} (hv : v < 2 ^ n) (hw : w < 2 ^ n) :
    a * 2 ^ n + v = b * 2 ^ n + w ↔ a = b ∧ v = w := by
  constructor
  · intro h
    refine ⟨?_, ?_⟩
    · rw [← mul_pow_add_div (a := a) hv, h, mul_pow_add_div hw]
    · rw [← mul_pow_add_mod (a := a) hv, h, mul_pow_add_mod hw]
  · rintro ⟨rfl, rfl⟩
    rfl

/-- Shifting out `s ≤ n` bits of a number with `n` low bits. -/
theorem mul_pow_add_div_pow {a v n s : Nat} (hs : s ≤ n) :
    (a * 2 ^ n + v) / 2 ^ s = a * 2 ^ (n - s) + v / 2 ^ s := by
  have hsplit : a * 2 ^ n = a * 2 ^ (n - s) * 2 ^ s := by
    rw [Nat.mul_assoc, ← Nat.pow_add, Nat.sub_add_cancel hs]
  rw [hsplit, Nat.add_comm, Nat.add_mul_div_right _ _ (Nat.two_pow_pos s), Nat.add_comm]

/-- The prefix of a byte followed by `n` bits: when the prefix ends in the
byte, only the byte's top bits count; when it reaches past it, the byte
counts whole and the prefix goes on in the low bits. -/
theorem byte_append_div_eq_iff {a b v w n ones : Nat} (hv : v < 2 ^ n) (hw : w < 2 ^ n) :
    (a * 2 ^ n + v) / 2 ^ (n + 8 - ones) = (b * 2 ^ n + w) / 2 ^ (n + 8 - ones) ↔
      a / 2 ^ (8 - ones) = b / 2 ^ (8 - ones) ∧ v / 2 ^ (n - (ones - 8)) = w / 2 ^ (n - (ones - 8)) := by
  by_cases hones : ones ≤ 8
  · -- the prefix ends in the byte: the low bits are shifted out
    have hexp : n + 8 - ones = n + (8 - ones) := by omega
    have hlow : n - (ones - 8) = n := by omega
    rw [hexp, hlow, Nat.pow_add, ← Nat.div_div_eq_div_mul, ← Nat.div_div_eq_div_mul,
      mul_pow_add_div hv, mul_pow_add_div hw, Nat.div_eq_of_lt hv, Nat.div_eq_of_lt hw]
    simp
  · -- the byte is inside the prefix
    have hexp : n + 8 - ones = n - (ones - 8) := by omega
    have hbyte : 8 - ones = 0 := by omega
    have hs : n - (ones - 8) ≤ n := Nat.sub_le _ _
    have hlt : ∀ {x}, x < 2 ^ n → x / 2 ^ (n - (ones - 8)) < 2 ^ (n - (n - (ones - 8))) := by
      intro x hx
      rw [Nat.div_lt_iff_lt_mul (Nat.two_pow_pos _), ← Nat.pow_add, Nat.sub_add_cancel hs]
      exact hx
    rw [hexp, hbyte, mul_pow_add_div_pow hs, mul_pow_add_div_pow hs, mul_pow_add_inj (hlt hv) (hlt hw)]
    simp

/-- The mask `2^8 - 2^j` keeps the top `8 - j` bits of a byte; two bytes
agree under it when their quotients by `2^j` do. -/
theorem and_high_mask_eq_iff {a b j : Nat} (ha : a < 2 ^ 8) (hb : b < 2 ^ 8) (hj : j ≤ 8) :
    a &&& (2 ^ 8 - 2 ^ j) = b &&& (2 ^ 8 - 2 ^ j) ↔ a / 2 ^ j = b / 2 ^ j := by
  have hmask : ∀ i, (2 ^ 8 - 2 ^ j).testBit i = (decide (i < 8) && !decide (i < j)) := by
    intro i
    have hlt : 2 ^ j - 1 < 2 ^ 8 := by
      have := Nat.pow_le_pow_right (by decide : 0 < 2) hj
      omega
    have hsucc : 2 ^ 8 - 2 ^ j = 2 ^ 8 - (2 ^ j - 1 + 1) := by
      have := Nat.one_le_two_pow (n := j)
      omega
    rw [hsucc, Nat.testBit_two_pow_sub_succ hlt, Nat.testBit_two_pow_sub_one]
  have high : ∀ {x} i, x < 2 ^ 8 → 8 ≤ i → x.testBit i = false := fun i hx hi =>
    Nat.testBit_lt_two_pow (Nat.lt_of_lt_of_le hx (Nat.pow_le_pow_right (by decide) hi))
  constructor
  · intro h
    apply Nat.eq_of_testBit_eq
    intro i
    rw [Nat.testBit_div_two_pow, Nat.testBit_div_two_pow]
    by_cases hi : i + j < 8
    · have hbit := congrArg (·.testBit (i + j)) h
      simp only [Nat.testBit_and, hmask] at hbit
      simpa [hi] using hbit
    · rw [high _ ha (by omega), high _ hb (by omega)]
  · intro h
    apply Nat.eq_of_testBit_eq
    intro i
    rw [Nat.testBit_and, Nat.testBit_and, hmask]
    by_cases hi : j ≤ i
    · have hbit := congrArg (·.testBit (i - j)) h
      simp only [Nat.testBit_div_two_pow, Nat.sub_add_cancel hi] at hbit
      rw [hbit]
    · simp [show i < j by omega]

/-- `CIDRMask` byte by byte: byte `i` keeps the top `ones - 8 * i` bits. -/
theorem cidrMask_eq (ones bits : Nat) :
    cidrMask ones bits = (List.range (bits / 8)).map fun i => (2 ^ 8 - 2 ^ (8 - (ones - 8 * i))).toUInt8 := by
  unfold cidrMask
  congr 1
  funext i
  have hpos := Nat.one_le_two_pow (n := 8 - (ones - 8 * i))
  split_ifs with hfull hnone
  · rw [show 8 - (ones - 8 * i) = 0 by omega]
    rfl
  · rw [show 8 - (ones - 8 * i) = 8 by omega]
    rfl
  · congr 1
    omega

theorem cidrMask_succ (ones k : Nat) :
    cidrMask ones (8 * (k + 1)) = (2 ^ 8 - 2 ^ (8 - ones)).toUInt8 :: cidrMask (ones - 8) (8 * k) := by
  rw [cidrMask_eq, cidrMask_eq, show 8 * (k + 1) / 8 = k + 1 by omega, show 8 * k / 8 = k by omega,
    List.range_succ_eq_map, List.map_cons, List.map_map]
  congr 2
  funext i
  simp only [Function.comp_apply]
  congr 4
  omega

/-- Two bytes agree under a byte of a `CIDRMask`. -/
theorem masked_byte_eq_iff (a b : UInt8) (ones : Nat) :
    (a &&& (2 ^ 8 - 2 ^ (8 - ones)).toUInt8 == b &&& (2 ^ 8 - 2 ^ (8 - ones)).toUInt8) = true ↔
      a.toNat / 2 ^ (8 - ones) = b.toNat / 2 ^ (8 - ones) := by
  have hmask : ((2 ^ 8 - 2 ^ (8 - ones)).toUInt8).toNat = 2 ^ 8 - 2 ^ (8 - ones) := by
    have hpos := Nat.one_le_two_pow (n := 8 - ones)
    simp only [Nat.toUInt8_eq, UInt8.toNat_ofNat']
    omega
  rw [beq_iff_eq, ← UInt8.toNat_inj, UInt8.toNat_and, UInt8.toNat_and, hmask]
  exact and_high_mask_eq_iff a.toNat_lt b.toNat_lt (Nat.sub_le _ _)

/-- Comparing two `k`-byte addresses under a `CIDRMask ones (8 * k)`, byte by
byte as `Contains` does, is comparing their first `ones` bits. -/
theorem masked_all_iff_inPrefix (ones k : Nat) {net ip : List UInt8} (hnet : net.length = k)
    (hip : ip.length = k) :
    (List.zipWith₃ (fun a m b => a &&& m == b &&& m) net (cidrMask ones (8 * k)) ip).all id ↔
      InPrefix (8 * k) ones (bytesValue net) (bytesValue ip) := by
  -- induction on the length, from the first byte; the prefix goes on in
  -- the rest with `ones - 8` bits
  induction k generalizing ones net ip with
  | zero =>
    rw [List.length_eq_zero_iff] at hnet hip
    subst hnet hip
    simp [InPrefix, bytesValue, List.zipWith₃]
  | succ k ih =>
    obtain ⟨a, net, rfl⟩ := List.exists_cons_of_length_eq_add_one hnet
    obtain ⟨b, ip, rfl⟩ := List.exists_cons_of_length_eq_add_one hip
    simp only [List.length_cons, Nat.add_right_cancel_iff] at hnet hip
    rw [cidrMask_succ, List.zipWith₃, List.all_cons, id, Bool.and_eq_true, masked_byte_eq_iff,
      ih (ones - 8) hnet hip]
    simp only [InPrefix, bytesValue, hnet, hip]
    rw [show 8 * (k + 1) - ones = 8 * k + 8 - ones by omega,
      byte_append_div_eq_iff (hip ▸ bytesValue_lt ip) (hnet ▸ bytesValue_lt net)]
    constructor
    · rintro ⟨h₁, h₂⟩
      exact ⟨h₁.symm, h₂⟩
    · rintro ⟨h₁, h₂⟩
      exact ⟨h₁.symm, h₂⟩

/-- `Contains` on a network of `k` bytes with a `CIDRMask ones (8 * k)`: the
address, shortened by `To4`, must have `k` bytes and the network's first
`ones` bits. -/
theorem IPNet.contains_iff {n : IPNet} {ones k : Nat} (hlen : n.ip.length = k)
    (hmask : n.mask = cidrMask ones (8 * k)) (ip : List UInt8) :
    n.contains ip = true ↔ ((to4 ip).getD ip).length = k ∧
      InPrefix (8 * k) ones (bytesValue n.ip) (bytesValue ((to4 ip).getD ip)) := by
  unfold IPNet.contains
  rw [Bool.and_eq_true, decide_eq_true_iff, hmask]
  constructor
  · rintro ⟨hk, hall⟩
    exact ⟨hk.trans hlen, (masked_all_iff_inPrefix ones k hlen (hk.trans hlen)).mp hall⟩
  · rintro ⟨hk, hpre⟩
    exact ⟨hk.trans hlen.symm, (masked_all_iff_inPrefix ones k hlen hk).mpr hpre⟩

theorem to4_length {ip v4 : List UInt8} (h : to4 ip = some v4) : v4.length = 4 := by
  unfold to4 at h
  split at h
  · cases h
    assumption
  · split at h
    · rename_i h16
      cases h
      rw [List.length_drop, h16.1]
    · cases h

/-- A sixteen-byte address that `To4` shortens is IPv4-mapped. -/
theorem eq_v4InV6Prefix_append {ip v4 : List UInt8} (h16 : ip.length = 16) (h : to4 ip = some v4) :
    ip = v4InV6Prefix ++ v4 := by
  unfold to4 at h
  rw [if_neg (by omega)] at h
  split at h
  · rename_i hmapped
    cases h
    rw [← hmapped.2, List.take_append_drop]
  · cases h

/-- A network given by its prefix: `ones` leading bits of `net`, among
`bits`, as `net.ParseCIDR` builds it. -/
def NetOf (bits : Nat) (n : IPNet) (p : Nat × Nat) : Prop :=
  n.mask = cidrMask p.2 bits ∧ 8 * n.ip.length = bits ∧ bytesValue n.ip = p.1

instance (bits : Nat) (n : IPNet) (p : Nat × Nat) : Decidable (NetOf bits n p) :=
  inferInstanceAs (Decidable (_ ∧ _ ∧ _))

/-- A list of networks of one size contains an address when the address,
shortened by `To4`, has that size and lies in one of their prefixes. -/
theorem any_contains_iff {bits : Nat} {cidrs : List IPNet} {prefixes : List (Nat × Nat)}
    (hnets : List.Forall₂ (NetOf bits) cidrs prefixes) (ip : List UInt8) :
    cidrs.any (·.contains ip) = true ↔
      ∃ p ∈ prefixes, 8 * ((to4 ip).getD ip).length = bits ∧
        InPrefix bits p.2 p.1 (bytesValue ((to4 ip).getD ip)) := by
  induction hnets with
  | nil => simp
  | cons hnet _ ih =>
    obtain ⟨hmask, hlen, hval⟩ := hnet
    rw [← hlen] at hmask
    rw [List.any_cons, Bool.or_eq_true, IPNet.contains_iff rfl hmask, ih, ← hlen, hval]
    simp only [List.mem_cons, or_and_right, exists_or, exists_eq_left]
    constructor <;> rintro (⟨hk, hpre⟩ | h)
    · exact .inl ⟨by rw [hk], hpre⟩
    · exact .inr h
    · exact .inl ⟨by omega, hpre⟩
    · exact .inr h

-- ---------------------------------------------------------------------------
-- What the parsers accept is an address
-- ---------------------------------------------------------------------------

/-- `parseIPv4Fields` reads exactly four octets: the loop never holds more
than three finished ones, and the end needs three. -/
theorem parseIPv4Fields_go_length {s : List UInt8} {prev : Option UInt8} {val digLen : Nat}
    {fields r : List UInt8} (hfields : fields.length ≤ 3)
    (h : parseIPv4Fields.go s prev val digLen fields = some r) : r.length = 4 := by
  fun_induction parseIPv4Fields.go s prev val digLen fields with
  | case2 fields _ hmore =>
    cases h
    simp only [List.length_append, List.length_singleton]
    omega
  | case5 =>
    -- a digit: the octet grows
    rename_i ih
    exact ih hfields h
  | case8 =>
    -- a dot: the octet is finished, and at most three are
    rename_i hnot3 _ ih
    exact ih (by simp only [List.length_append, List.length_singleton]; omega) h
  | _ => simp at h


/-- What `ipv6Groups` keeps of the bytes it has parsed: an even number of
them, at most sixteen, with the ellipsis, if any, among them. -/
structure GroupsWf (ip : List UInt8) (ellipsis : Option Nat) : Prop where
  even : ip.length % 2 = 0
  le_sixteen : ip.length ≤ 16
  ellipsis_le : ∀ e, ellipsis = some e → e ≤ ip.length

theorem parseIPv4Fields_length {s r : List UInt8} (h : parseIPv4Fields s = some r) :
    r.length = 4 :=
  parseIPv4Fields_go_length (by simp) h

/-- Two bytes more: an even count below sixteen is at most fourteen. -/
theorem GroupsWf.push {ip : List UInt8} {ellipsis : Option Nat} (hwf : GroupsWf ip ellipsis)
    (hlt : ¬ip.length ≥ 16) (hi lo : UInt8) : GroupsWf (ip ++ [hi, lo]) ellipsis where
  even := by
    have := hwf.even
    simp only [List.length_append, List.length_cons, List.length_nil]
    omega
  le_sixteen := by
    have := hwf.even
    simp only [List.length_append, List.length_cons, List.length_nil]
    omega
  ellipsis_le e he := by
    have := hwf.ellipsis_le e he
    simp only [List.length_append, List.length_cons, List.length_nil]
    omega

theorem GroupsWf.with_ellipsis {ip : List UInt8} {ellipsis : Option Nat}
    (hwf : GroupsWf ip ellipsis) : GroupsWf ip (some ip.length) :=
  ⟨hwf.even, hwf.le_sixteen, fun _ he => by cases he; exact Nat.le_refl _⟩

theorem GroupsWf.append_v4 {ip v4 : List UInt8} {ellipsis : Option Nat}
    (hwf : GroupsWf ip ellipsis) (hle : ¬ip.length + 4 > 16) (hv4 : v4.length = 4) :
    GroupsWf (ip ++ v4) ellipsis where
  even := by
    have := hwf.even
    rw [List.length_append, hv4]
    omega
  le_sixteen := by
    rw [List.length_append, hv4]
    omega
  ellipsis_le e he := by
    have := hwf.ellipsis_le e he
    rw [List.length_append]
    omega

/-- Each round of `ipv6Groups` keeps `GroupsWf`. -/
theorem ipv6Groups_wf {fuel : Nat} {s ip : List UInt8} {ellipsis : Option Nat}
    {rest ip' : List UInt8} {ellipsis' : Option Nat} (hwf : GroupsWf ip ellipsis)
    (h : ipv6Groups fuel s ip ellipsis = some (rest, ip', ellipsis')) : GroupsWf ip' ellipsis' := by
  fun_induction ipv6Groups fuel s ip ellipsis with
  | case1 => cases h; exact hwf
  | case2 => cases h; exact hwf
  | case7 =>
    -- an embedded IPv4 address ends the groups
    obtain ⟨v4, hv4, hout⟩ := Option.map_eq_some_iff.mp h
    cases hout
    exact hwf.append_v4 ‹_› (parseIPv4Fields_length hv4)
  | case8 =>
    simp only [Option.some.injEq, Prod.mk.injEq] at h
    obtain ⟨-, rfl, rfl⟩ := h
    exact hwf.push ‹_› _ _
  | case12 =>
    simp only [Option.some.injEq, Prod.mk.injEq] at h
    obtain ⟨-, rfl, rfl⟩ := h
    exact (hwf.push ‹_› _ _).with_ellipsis
  | case13 =>
    rename_i ih
    exact ih (hwf.push ‹_› _ _).with_ellipsis h
  | case14 =>
    rename_i ih
    exact ih (hwf.push ‹_› _ _) h
  | _ => simp at h



/-- `parseIPv6` gives sixteen bytes: short groups are filled up at the
ellipsis, which lies among them. -/
theorem parseIPv6_length {s ip : List UInt8} (h : parseIPv6 s = some ip) : ip.length = 16 := by
  unfold parseIPv6 at h
  generalize hstart : (if s.take 2 = [ascii ':', ascii ':'] then (s.drop 2, some 0) else (s, none)) =
    start at h
  obtain ⟨s', ellipsis⟩ := start
  have hwf : GroupsWf [] ellipsis := by
    refine ⟨rfl, Nat.zero_le _, fun e he => ?_⟩
    split at hstart <;> simp_all
  dsimp only at h
  split at h
  · cases h
    simp
  · split at h
    · cases h
    · rename_i rest ip' _ hgroups
      have hwf' := ipv6Groups_wf hwf hgroups
      split at h
      · cases h
      · split at h
        · split at h
          · cases h
          · rename_i e
            cases h
            have := hwf'.ellipsis_le e rfl
            simp only [List.length_append, List.length_take, List.length_replicate, List.length_drop]
            omega
        · split at h
          · cases h
          · cases h
            have := hwf'.le_sixteen
            omega

/-- `net.ParseIP` always returns the sixteen-byte form. -/
theorem parseIP_length {s ip : List UInt8} (h : parseIP s = some ip) : ip.length = 16 := by
  unfold parseIP at h
  split at h
  · cases h
  · split at h
    · split at h
      · obtain ⟨v4, hv4, rfl⟩ := Option.map_eq_some_iff.mp h
        rw [List.length_append, parseIPv4Fields_length hv4]
        rfl
      · exact parseIPv6_length h
    · cases h

-- ---------------------------------------------------------------------------
-- Hosts and ports
-- ---------------------------------------------------------------------------

/-- `net.JoinHostPort`: a host with a colon is taken for an IPv6 literal and
bracketed. -/
def JoinHostPort (host port : String) : String :=
  if host.toList.contains ':' then "[" ++ host ++ "]:" ++ port else host ++ ":" ++ port

/-- `url.URL`, of the fields the TLS validator reads; `host` is `Host`, the
host and port as the URL writes them. -/
structure URL where
  scheme : String
  host : String
  deriving DecidableEq, Repr

/-- `validOptionalPort` of `net/url`: nothing, or a colon and digits. -/
def validOptionalPort : List Char → Bool
  | [] => true
  | c :: rest => c == ':' && rest.all fun b => '0' ≤ b && b ≤ '9'

/-- `strings.LastIndexByte` for an ASCII byte, by characters: the byte is a
character of its own. -/
def lastIndexOf (cs : List Char) (c : Char) : Option Nat :=
  (cs.reverse.findIdx? (· == c)).map (cs.length - 1 - ·)

/-- `splitHostPort` of `net/url`: the port after the last colon when it is
digits, and the host without the brackets of an IPv6 literal. -/
def splitHostPort (hostPort : String) : String × String :=
  let cs := hostPort.toList
  let (host, port) : List Char × List Char :=
    match lastIndexOf cs ':' with
    | some colon => if validOptionalPort (cs.drop colon) then (cs.take colon, cs.drop (colon + 1)) else (cs, [])
    | none => (cs, [])
  let host := if host.head? = some '[' ∧ host.getLast? = some ']' then (host.drop 1).dropLast else host
  (String.ofList host, String.ofList port)

def URL.Hostname (u : URL) : String := (splitHostPort u.host).1

def URL.Port (u : URL) : String := (splitHostPort u.host).2

example : (splitHostPort "[fe80::1]:8443", splitHostPort "bmc.example.com", splitHostPort "10.0.0.5:x") =
    (("fe80::1", "8443"), ("bmc.example.com", ""), ("10.0.0.5:x", "")) := by
  decide

end GoNet
