import NetworkMapper.Python.IpNetwork

/-!
# IPv4 networks as text

The text of a network is read back as that network, so two networks have the same text only
if they are the same.
-/

namespace Python

/-! ## Addresses -/

theorem parseOctet_natRepr (n : Nat) (h : n < 256) : parseOctet (natRepr n) = some n := by
  have hall : ∀ n < 256, parseOctet (natRepr n) = some n := by decide +kernel
  exact hall n h

theorem ipv4Address_octetTexts {a b c d : Nat} (ha : a < 256) (hb : b < 256) (hc : c < 256) (hd : d < 256) :
    ipv4Address ([ch '.'].intercalate ([a, b, c, d].map natRepr)) = some (((256 * a + b) * 256 + c) * 256 + d) := by
  have hsplit := splitOn_joinNumbers [a, b, c, d] (by simp)
  rw [joinNumbers_cast] at hsplit
  unfold ipv4Address
  rw [hsplit]
  simp only [List.map_cons, List.map_nil, parseOctet_natRepr _ ha, parseOctet_natRepr _ hb, parseOctet_natRepr _ hc,
    parseOctet_natRepr _ hd]
  rfl

theorem ipv4Address_ipv4Text {n : Nat} (h : n < 2 ^ 32) : ipv4Address (IpAddress.ipv4Text n) = some n := by
  unfold IpAddress.ipv4Text
  rw [ipv4Address_octetTexts (Nat.mod_lt _ (by decide)) (Nat.mod_lt _ (by decide)) (Nat.mod_lt _ (by decide))
    (Nat.mod_lt _ (by decide)), Option.some.injEq]
  omega

theorem ipv4Text_slash (n : Nat) : ch '/' ∉ IpAddress.ipv4Text n := by
  have hdigits : ∀ m, ch '/' ∉ natRepr m := fun m h => absurd (natRepr_digits m _ h) (by decide)
  have hdot : ch '/' ≠ ch '.' := by decide
  unfold IpAddress.ipv4Text
  simp [List.intercalate, hdigits, hdot]

/-- `IPv4Address(n)` -/
def ofIpv4 (n : Nat) (h : n < 2 ^ 32) : IpAddress := ⟨.v4, n, none, h⟩

theorem ipAddress_text {n : Nat} (h : n < 2 ^ 32) : ipAddress (ofIpv4 n h).text = some (ofIpv4 n h) := by
  have htext : (ofIpv4 n h).text = IpAddress.ipv4Text n := rfl
  have haddress := ipv4Address_ipv4Text h
  unfold ipAddress ipv4
  rw [htext, if_neg (by rw [List.contains_iff_mem]; exact ipv4Text_slash n)]
  split
  · rename_i m hm
    rw [haddress, Option.some.injEq] at hm
    subst hm
    rfl
  · rename_i hnone
    rw [haddress] at hnone
    cases hnone

theorem ipv4_eq_ofIpv4 {text : Str} {x : IpAddress} (h : ipv4 text = some x) : ∃ n hn, x = ofIpv4 n hn := by
  unfold ipv4 at h
  split at h
  · cases h
  split at h
  · cases h
    exact ⟨_, _, rfl⟩
  · cases h

/-! ## Networks -/

/-- A network that is read with `IPv4Network`. -/
def IpNetwork.IsIpv4 (network : IpNetwork) : Prop :=
  ∃ n hn prefixlen, prefixlen ≤ 32 ∧ network = (ofIpv4 n hn).network prefixlen

theorem prefixFromPrefixString_le {py : Interpreter} {bits p : Nat} {text : Str}
    (h : prefixFromPrefixString py bits text = some p) : p ≤ bits := by
  unfold prefixFromPrefixString at h
  split at h
  · cases h
  split at h
  · rename_i n hn
    split at h
    · rename_i hbounds
      rw [Option.some.injEq] at h
      omega
    · cases h
  · cases h

theorem prefixFromIpInt_le {bits n p : Nat} (h : prefixFromIpInt bits n = some p) : p ≤ bits := by
  unfold prefixFromIpInt at h
  simp only [Option.ite_none_right_eq_some, Option.some.injEq] at h
  omega

theorem prefixFromIpString_le {text : Str} {p : Nat} (h : prefixFromIpString text = some p) : p ≤ 32 := by
  obtain ⟨n, -, hp⟩ := Option.bind_eq_some_iff.mp h
  rcases Option.or_eq_some_iff.mp hp with hmask | ⟨-, hmask⟩
  · exact prefixFromIpInt_le hmask
  · exact prefixFromIpInt_le hmask

theorem prefixOf_le {py : Interpreter} {version : IpVersion} {text : Str} {p : Nat} (h : prefixOf py version text = some p) :
    p ≤ version.bits := by
  cases version with
  | v4 =>
    rcases Option.or_eq_some_iff.mp h with hprefix | ⟨-, hprefix⟩
    · exact prefixFromPrefixString_le hprefix
    · exact prefixFromIpString_le hprefix
  | v6 => exact prefixFromPrefixString_le h

theorem networkFrom_eq_some {py : Interpreter} {address : Str → Option IpAddress} {text : Str} {network : IpNetwork}
    (h : networkFrom py address text = some network) :
    ∃ addr x prefixlen, address addr = some x ∧ prefixlen ≤ x.version.bits ∧ network = x.network prefixlen := by
  unfold networkFrom at h
  split at h
  · rename_i addr _
    obtain ⟨x, hx, rfl⟩ := Option.map_eq_some_iff.mp h
    exact ⟨addr, x, _, hx, le_refl _, rfl⟩
  · rename_i addr mask _
    obtain ⟨x, hx, h⟩ := Option.bind_eq_some_iff.mp h
    obtain ⟨p, hp, h⟩ := Option.bind_eq_some_iff.mp h
    cases h
    exact ⟨addr, x, p, hx, prefixOf_le hp, rfl⟩
  · cases h

theorem network_version (x : IpAddress) (prefixlen : Nat) : (x.network prefixlen).networkAddress.version = x.version := by
  unfold IpAddress.network
  split <;> rfl

theorem ipNetwork_isIpv4 {py : Interpreter} {text : Str} {network : IpNetwork} (h : ipNetwork py text = some network)
    (hversion : network.networkAddress.version = .v4) : network.IsIpv4 := by
  -- Only `IPv4Network` reads networks of version 4.
  rcases Option.or_eq_some_iff.mp h with h | ⟨-, h⟩
  · obtain ⟨addr, x, p, hx, hp, rfl⟩ := networkFrom_eq_some h
    obtain ⟨n, hn, rfl⟩ := ipv4_eq_ofIpv4 hx
    exact ⟨n, hn, p, hp, rfl⟩
  · obtain ⟨addr, x, p, hx, -, rfl⟩ := networkFrom_eq_some h
    rw [network_version, (ipv6_eq_some hx).2.1] at hversion
    cases hversion

/-! ## Reading back -/

theorem network_ofIpv4 {n : Nat} (hn : n < 2 ^ 32) {p : Nat} (hp : p ≤ 32) :
    ∃ m hm, ((ofIpv4 n hn).network p).networkAddress = ofIpv4 m hm ∧ m % 2 ^ (32 - p) = 0 := by
  have hmask : n &&& netmask .v4 p = n - n % 2 ^ (32 - p) := and_netmask .v4 p hn hp
  have hclear : (n - n % 2 ^ (32 - p)) % 2 ^ (32 - p) = 0 := Nat.mod_eq_zero_of_dvd (Nat.dvd_sub_mod n)
  unfold IpAddress.network
  split
  · refine ⟨n &&& netmask .v4 p, Nat.lt_of_le_of_lt Nat.and_le_left hn, rfl, ?_⟩
    rw [hmask]
    exact hclear
  · rename_i hsame
    refine ⟨n, hn, rfl, ?_⟩
    have hsame' : n &&& netmask .v4 p = n := not_not.mp hsame
    rw [← hsame', hmask]
    exact hclear

theorem network_of_clear {m : Nat} (hm : m < 2 ^ 32) {p : Nat} (hp : p ≤ 32) (hclear : m % 2 ^ (32 - p) = 0) :
    (ofIpv4 m hm).network p = ⟨ofIpv4 m hm, p⟩ := by
  have hmask : m &&& netmask .v4 p = m := by
    rw [and_netmask .v4 p hm hp]
    exact hclear ▸ Nat.sub_zero m
  have hsame : ¬ (ofIpv4 m hm).ip &&& netmask (ofIpv4 m hm).version p ≠ (ofIpv4 m hm).ip := not_not.mpr hmask
  unfold IpAddress.network
  rw [if_neg hsame]

theorem ipNetwork_text (py : Interpreter) {network : IpNetwork} (h : network.IsIpv4) :
    ipNetwork py network.text = some network := by
  obtain ⟨n, hn, p, hp, rfl⟩ := h
  obtain ⟨m, hm, haddress, hclear⟩ := network_ofIpv4 hn hp
  have hnetwork : (ofIpv4 n hn).network p = ⟨ofIpv4 m hm, p⟩ := by
    rw [← haddress]
    rfl
  have hvalid : (0 : Int) ≤ (p : Int) ∧ (p : Int) ≤ (ofIpv4 m hm).version.bits := by
    have hbits : (ofIpv4 m hm).version.bits = 32 := rfl
    omega
  have hread := ipNetwork_slash py (ipAddress_text hm) (p : Int)
  rw [if_pos hvalid, Int.toNat_natCast, network_of_clear hm hp hclear] at hread
  rw [hnetwork]
  exact hread

end Python
