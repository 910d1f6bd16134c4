import NetworkMapper.Python.Ipv6

/-!
# `ipaddress.ip_address` and `ipaddress.ip_network`

A network is an address without its host bits, and the length of its prefix.
-/

namespace Python

inductive IpVersion where
  | v4
  | v6
  deriving DecidableEq

/-- `max_prefixlen` -/
def IpVersion.bits : IpVersion → Nat
  | .v4 => 32
  | .v6 => 128

structure IpAddress where
  version : IpVersion
  ip : Nat
  scopeId : Option Str
  bounded : ip < 2 ^ version.bits
  deriving DecidableEq

/-! ## Addresses -/

/-- `IPv4Address(text)`, `none` for a `ValueError`. -/
def ipv4 (text : Str) : Option IpAddress :=
  if text.contains (ch '/') then none
  else match h : ipv4Address text with
    | some n => some ⟨.v4, n, none, ipv4Address_lt h⟩
    | none => none

/-- `_split_scope_id` -/
def splitScopeId (text : Str) : Option (Str × Option Str) :=
  match text.splitOn (ch '%') with
  | [addr] => some (addr, none)
  | [addr, scopeId] => if scopeId = [] then none else some (addr, some scopeId)
  | _ => none

/-- `IPv6Address(text)`, `none` for a `ValueError`. -/
def ipv6 (text : Str) : Option IpAddress :=
  if text.contains (ch '/') then none
  else match splitScopeId text with
    | some (addr, scopeId) =>
      match h : ipv6IntFromString addr with
      | some n => some ⟨.v6, n, scopeId, ipv6IntFromString_lt h⟩
      | none => none
    | none => none

/-- `ip_address(text)`, `none` for a `ValueError`. -/
def ipAddress (text : Str) : Option IpAddress := (ipv4 text).or (ipv6 text)

namespace IpAddress

/-- The IPv4 address, also the one that an IPv6 address maps. -/
def asIpv4 (x : IpAddress) : Option Nat :=
  match x.version with
  | .v4 => some x.ip
  | .v6 => if x.ip / 2 ^ 32 = 0xFFFF then some (x.ip % 2 ^ 32) else none

/-- In `127.0.0.0/8`, or `::1`. -/
def isLoopback (x : IpAddress) : Bool :=
  match x.asIpv4 with
  | some n => n / 2 ^ 24 = 127
  | none => x.ip = 1

/-- In `169.254.0.0/16`, or in `fe80::/10`. -/
def isLinkLocal (x : IpAddress) : Bool :=
  match x.asIpv4 with
  | some n => n / 2 ^ 16 = 0xA9FE
  | none => x.ip / 2 ^ 118 = 0x3FA

def ipv4Text (n : Nat) : Str :=
  [ch '.'].intercalate ([n / 2 ^ 24 % 256, n / 2 ^ 16 % 256, n / 2 ^ 8 % 256, n % 256].map natRepr)

/-- `str(address)` -/
def text (x : IpAddress) : Str :=
  match x.version with
  | .v4 => ipv4Text x.ip
  | .v6 =>
    let ipStr := match x.asIpv4 with
      | some n => str "::ffff:" ++ ipv4Text n
      | none => ipv6Text x.ip
    match x.scopeId with
    | some scopeId => ipStr ++ ch '%' :: scopeId
    | none => ipStr

end IpAddress

/-! ## Networks -/

structure IpNetwork where
  networkAddress : IpAddress
  prefixlen : Nat
  deriving DecidableEq

def IpNetwork.text (network : IpNetwork) : Str := network.networkAddress.text ++ ch '/' :: natRepr network.prefixlen

/-- `_prefix_from_prefix_string` -/
def prefixFromPrefixString (py : Interpreter) (bits : Nat) (text : Str) : Option Nat :=
  if text = [] ∨ ¬ text.all isDigit then none
  else match intOf py text with
    | some n => if 0 ≤ n ∧ n ≤ bits then some n.toNat else none
    | none => none

/-- `_count_righthand_zero_bits` -/
def countRighthandZeroBits : Nat → Nat → Nat
  | 0, _ => 0
  | bits + 1, n => if n % 2 = 0 then countRighthandZeroBits bits (n / 2) + 1 else 0

/-- `_prefix_from_ip_int` -/
def prefixFromIpInt (bits n : Nat) : Option Nat :=
  let trailingZeroes := countRighthandZeroBits bits n
  if n / 2 ^ trailingZeroes = 2 ^ (bits - trailingZeroes) - 1 then some (bits - trailingZeroes) else none

/-- `_prefix_from_ip_string`: a netmask, or a hostmask. -/
def prefixFromIpString (text : Str) : Option Nat := do
  let n ← ipv4Address text
  (prefixFromIpInt 32 n).or (prefixFromIpInt 32 (n ^^^ (2 ^ 32 - 1)))

/-- The prefix length of `_make_netmask`. -/
def prefixOf (py : Interpreter) (version : IpVersion) (text : Str) : Option Nat :=
  match version with
  | .v4 => (prefixFromPrefixString py 32 text).or (prefixFromIpString text)
  | .v6 => prefixFromPrefixString py 128 text

/-- `_ip_int_from_prefix` -/
def netmask (version : IpVersion) (prefixlen : Nat) : Nat :=
  (2 ^ version.bits - 1) ^^^ ((2 ^ version.bits - 1) >>> prefixlen)

/-- The network of an address, with `strict=False`. An address that has no host bits stays as it is. -/
def IpAddress.network (x : IpAddress) (prefixlen : Nat) : IpNetwork where
  networkAddress :=
    if x.ip &&& netmask x.version prefixlen ≠ x.ip then
      ⟨x.version, x.ip &&& netmask x.version prefixlen, none, Nat.lt_of_le_of_lt Nat.and_le_left x.bounded⟩
    else x
  prefixlen := prefixlen

/-- `IPv4Network(text)` or `IPv6Network(text)`, from the reader of its addresses. -/
def networkFrom (py : Interpreter) (address : Str → Option IpAddress) (text : Str) : Option IpNetwork :=
  match text.splitOn (ch '/') with
  | [addr] => (address addr).map fun x => x.network x.version.bits
  | [addr, mask] => do
    let x ← address addr
    return x.network (← prefixOf py x.version mask)
  | _ => none

/-- `ip_network(text, strict=False)`, `none` for a `ValueError`. -/
def ipNetwork (py : Interpreter) (text : Str) : Option IpNetwork :=
  (networkFrom py ipv4 text).or (networkFrom py ipv6 text)

example : (ipNetwork cpython (str "192.168.1.55/24")).map IpNetwork.text = some (str "192.168.1.0/24") := by decide

example : (ipNetwork cpython (str "10.1.2.3/255.255.0.0")).map IpNetwork.text = some (str "10.1.0.0/16") := by decide

example : (ipNetwork cpython (str "2001:db8::7%2/64")).map IpNetwork.text = some (str "2001:db8::/64") := by decide

/-! ## What is read -/

theorem ipv4_eq_some {text : Str} {x : IpAddress} (h : ipv4 text = some x) :
    ch '/' ∉ text ∧ x.version = .v4 ∧ ipv4Address text = some x.ip := by
  unfold ipv4 at h
  split at h
  · cases h
  rename_i hslash
  rw [List.contains_iff_mem] at hslash
  split at h
  · rename_i n hn
    rw [Option.some.injEq] at h
    subst h
    exact ⟨hslash, rfl, hn⟩
  · cases h

theorem splitScopeId_mem {text addr : Str} {scopeId : Option Str} (h : splitScopeId text = some (addr, scopeId)) :
    ∀ c ∈ addr, c ∈ text := by
  have hjoin : [ch '%'].intercalate (text.splitOn (ch '%')) = text := List.intercalate_splitOn (ch '%')
  unfold splitScopeId at h
  split at h
  · rename_i hsplit
    obtain ⟨rfl, -⟩ := Prod.mk.inj (Option.some.inj h)
    rw [hsplit, List.intercalate_singleton] at hjoin
    exact fun c hc => hjoin ▸ hc
  · rename_i hsplit
    split at h
    · cases h
    obtain ⟨rfl, -⟩ := Prod.mk.inj (Option.some.inj h)
    rw [hsplit, List.intercalate_cons_cons] at hjoin
    exact fun c hc => hjoin ▸ List.mem_append_left _ (List.mem_append_left _ hc)
  · cases h

theorem ipv6_eq_some {text : Str} {x : IpAddress} (h : ipv6 text = some x) :
    ch '/' ∉ text ∧ x.version = .v6 ∧ ∃ addr, ipv6IntFromString addr = some x.ip ∧ ∀ c ∈ addr, c ∈ text := by
  unfold ipv6 at h
  split at h
  · cases h
  rename_i hslash
  rw [List.contains_iff_mem] at hslash
  split at h
  · rename_i addr scopeId hsplit
    split at h
    · rename_i n hn
      rw [Option.some.injEq] at h
      subst h
      exact ⟨hslash, rfl, addr, hn, splitScopeId_mem hsplit⟩
    · cases h
  · cases h

theorem ipv6IntFromString_colon {addr : Str} {n : Nat} (h : ipv6IntFromString addr = some n) : ch ':' ∈ addr := by
  by_contra hcolon
  have hparts : ipv6Parts addr = none := by
    unfold ipv6Parts
    rw [List.splitOn_eq_singleton hcolon]
    rfl
  unfold ipv6IntFromString at h
  rw [hparts] at h
  cases h

theorem parseOctet_digits {octet : Str} {n : Nat} (h : parseOctet octet = some n) : ∀ c ∈ octet, isDigit c = true := by
  obtain ⟨value, hvalue, -⟩ := Option.bind_eq_some_iff.mp h
  intro c hc
  obtain ⟨d, hd⟩ := foldlM_digits_some digitValue 10 octet 0 value hvalue c hc
  unfold digitValue at hd
  split at hd
  · rename_i hdigit
    simpa [isDigit] using hdigit
  · cases hd

theorem ipv4Address_colon {text : Str} {n : Nat} (h : ipv4Address text = some n) : ch ':' ∉ text := by
  obtain ⟨a, b, c, d, i, j, k, l, hsplit, ha, hb, hc, hd, -⟩ := ipv4Address_octets h
  have hcolon : ∀ {octet : Str} {n : Nat}, parseOctet octet = some n → ch ':' ∉ octet := by
    intro octet n h hmem
    exact absurd (parseOctet_digits h _ hmem) (by decide)
  have hdot : ch ':' ≠ ch '.' := by decide
  have hjoin : [ch '.'].intercalate (text.splitOn (ch '.')) = text := List.intercalate_splitOn (ch '.')
  rw [← hjoin, hsplit]
  simp [List.intercalate, hcolon ha, hcolon hb, hcolon hc, hcolon hd, hdot]

theorem ipv6_of_ipv4 {text : Str} {x : IpAddress} (h : ipv4 text = some x) : ipv6 text = none := by
  obtain ⟨-, -, haddress⟩ := ipv4_eq_some h
  cases h6 : ipv6 text with
  | none => rfl
  | some y =>
    obtain ⟨-, -, addr, haddr, hmem⟩ := ipv6_eq_some h6
    exact absurd (hmem _ (ipv6IntFromString_colon haddr)) (ipv4Address_colon haddress)

/-! ## The prefix of a network -/

theorem reads_small (py : Interpreter) (n : Nat) (h : n ≤ 128) : py.reads n := by
  have hlength : (natRepr n).length ≤ 3 := natRepr_length (e := 2) (by omega)
  rcases py.digits_valid with hlimit | hlimit
  · exact Or.inl hlimit
  · right
    rw [Int.natAbs_natCast]
    omega

theorem prefixFromPrefixString_intRepr (py : Interpreter) (bits : Nat) (hbits : bits ≤ 128) (n : Int) :
    prefixFromPrefixString py bits (intRepr n) = if 0 ≤ n ∧ n ≤ bits then some n.toNat else none := by
  cases n with
  | ofNat m =>
    have hall : (natRepr m).all isDigit = true := List.all_eq_true.mpr (natRepr_digits m)
    have hshape : ¬ (natRepr m = [] ∨ ¬ (natRepr m).all isDigit) := by simp [natRepr_ne_nil, hall]
    unfold prefixFromPrefixString
    rw [intRepr, if_neg hshape]
    cases hint : intOf py (natRepr m) with
    | some k =>
      obtain ⟨-, rfl⟩ := (intOf_natRepr py m k).mp hint
      rfl
    | none =>
      -- a number that is too long to be read is too large
      have hlarge : ¬ m ≤ bits := by
        intro hm
        rw [(intOf_natRepr py m m).mpr ⟨reads_small py m (by omega), rfl⟩] at hint
        cases hint
      simp [hlarge]
  | negSucc m =>
    have hminus : ¬ isDigit (ch '-') = true := by decide
    simp [prefixFromPrefixString, intRepr, hminus]

theorem prefixFromIpString_intRepr (n : Int) : prefixFromIpString (intRepr n) = none := by
  have hdot : ch '.' ∉ intRepr n := by
    cases n with
    | ofNat m => exact natRepr_no_dot m
    | negSucc m =>
      rw [intRepr, List.mem_cons, not_or]
      exact ⟨by decide, natRepr_no_dot _⟩
  unfold prefixFromIpString ipv4Address
  rw [List.splitOn_eq_singleton hdot]
  rfl

theorem prefixOf_intRepr (py : Interpreter) (version : IpVersion) (n : Int) :
    prefixOf py version (intRepr n) = if 0 ≤ n ∧ n ≤ version.bits then some n.toNat else none := by
  unfold prefixOf
  cases version with
  | v4 =>
    simp only [prefixFromPrefixString_intRepr py 32 (by decide), prefixFromIpString_intRepr, Option.or_none]
    rfl
  | v6 => exact prefixFromPrefixString_intRepr py 128 (by decide) n

theorem intRepr_slash (n : Int) : ch '/' ∉ intRepr n := by
  have hdigits : ∀ m, ch '/' ∉ natRepr m := fun m h => absurd (natRepr_digits m _ h) (by decide)
  cases n with
  | ofNat m => exact hdigits m
  | negSucc m =>
    rw [intRepr, List.mem_cons, not_or]
    exact ⟨by decide, hdigits _⟩

theorem networkFrom_slash (py : Interpreter) (address : Str → Option IpAddress) (text : Str) (h : ch '/' ∉ text)
    (n : Int) :
    networkFrom py address (text ++ ch '/' :: intRepr n) =
      (address text).bind fun x => if 0 ≤ n ∧ n ≤ x.version.bits then some (x.network n.toNat) else none := by
  have hsplit : (text ++ ch '/' :: intRepr n).splitOn (ch '/') = [text, intRepr n] := by
    rw [List.splitOn_append_cons_self_of_not_mem h, List.splitOn_eq_singleton (intRepr_slash n)]
  unfold networkFrom
  rw [hsplit]
  refine Option.bind_congr fun x _ => ?_
  rw [prefixOf_intRepr]
  split <;> rfl

theorem ipNetwork_slash (py : Interpreter) {text : Str} {x : IpAddress} (h : ipAddress text = some x) (n : Int) :
    ipNetwork py (text ++ ch '/' :: intRepr n) =
      if 0 ≤ n ∧ n ≤ x.version.bits then some (x.network n.toNat) else none := by
  unfold ipNetwork
  unfold ipAddress at h
  cases h4 : ipv4 text with
  | some y =>
    rw [h4, Option.some_or, Option.some.injEq] at h
    subst h
    have hslash := (ipv4_eq_some h4).1
    rw [networkFrom_slash py ipv4 text hslash, networkFrom_slash py ipv6 text hslash, h4, ipv6_of_ipv4 h4]
    simp
  | none =>
    rw [h4, Option.none_or] at h
    have hslash := (ipv6_eq_some h).1
    rw [networkFrom_slash py ipv4 text hslash, networkFrom_slash py ipv6 text hslash, h4, h]
    simp

/-! ## Host bits -/

theorem and_netmask (version : IpVersion) (prefixlen : Nat) {n : Nat} (hn : n < 2 ^ version.bits)
    (hp : prefixlen ≤ version.bits) :
    n &&& netmask version prefixlen = n - n % 2 ^ (version.bits - prefixlen) := by
  have hclear : n - n % 2 ^ (version.bits - prefixlen) =
      n / 2 ^ (version.bits - prefixlen) * 2 ^ (version.bits - prefixlen) := by
    have := Nat.div_add_mod' n (2 ^ (version.bits - prefixlen))
    omega
  rw [hclear]
  unfold netmask
  generalize version.bits = bits at *
  refine Nat.eq_of_testBit_eq fun i => ?_
  simp only [Nat.testBit_and, Nat.testBit_xor, Nat.testBit_shiftRight, Nat.testBit_two_pow_sub_one,
    Nat.testBit_mul_two_pow, Nat.testBit_div_two_pow]
  by_cases hi : i < bits
  · by_cases hhost : i < bits - prefixlen
    · have hboth : prefixlen + i < bits := by omega
      have hprefix : ¬ bits ≤ i + prefixlen := by omega
      simp [hi, hboth, hprefix]
    · have hboth : ¬ prefixlen + i < bits := by omega
      have hprefix : bits - prefixlen ≤ i := by omega
      simp [hi, hboth, hprefix]
  · have hzero : n.testBit i = false :=
      Nat.testBit_lt_two_pow (lt_of_lt_of_le hn (Nat.pow_le_pow_right (by decide) (by omega)))
    have hprefix : bits - prefixlen ≤ i := by omega
    simp [hzero, hprefix]

/-- The network of an address: the lowest address with the same first bits. -/
structure IpNetwork.Of (network : IpNetwork) (x : IpAddress) (prefixlen : Int) : Prop where
  valid : 0 ≤ prefixlen ∧ prefixlen ≤ x.version.bits
  version : network.networkAddress.version = x.version
  lowest : network.networkAddress.ip = x.ip - x.ip % 2 ^ (x.version.bits - prefixlen.toNat)
  scopeId : network.networkAddress = x ∨ network.networkAddress.scopeId = none
  prefixlen : network.prefixlen = prefixlen

theorem IpAddress.network_of (x : IpAddress) {prefixlen : Int} (h : 0 ≤ prefixlen ∧ prefixlen ≤ x.version.bits) :
    (x.network prefixlen.toNat).Of x prefixlen := by
  have hmask := and_netmask x.version prefixlen.toNat x.bounded (by omega)
  refine ⟨h, ?_, ?_, ?_, Int.toNat_of_nonneg h.1⟩
  · unfold IpAddress.network
    split <;> rfl
  · rw [← hmask]
    unfold IpAddress.network
    by_cases hhost : x.ip &&& netmask x.version prefixlen.toNat = x.ip <;> simp [hhost]
  · unfold IpAddress.network
    by_cases hhost : x.ip &&& netmask x.version prefixlen.toNat = x.ip <;> simp [hhost]

theorem ipNetwork_of (py : Interpreter) {text : Str} {x : IpAddress} (h : ipAddress text = some x) (n : Int)
    {network : IpNetwork} (hnetwork : ipNetwork py (text ++ ch '/' :: intRepr n) = some network) : network.Of x n := by
  rw [ipNetwork_slash py h] at hnetwork
  split at hnetwork
  · rename_i hvalid
    rw [Option.some.injEq] at hnetwork
    exact hnetwork ▸ x.network_of hvalid
  · cases hnetwork

end Python
