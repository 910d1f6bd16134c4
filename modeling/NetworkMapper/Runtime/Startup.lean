import NetworkMapper.Classification.Matching
import NetworkMapper.Discovery.LocalSubnet
import NetworkMapper.Python.Dict
import NetworkMapper.Python.Ipv4Text
import Mathlib.Data.Finset.Card
import Mathlib.Data.List.Induction

/-!
# Before the first scan

All arguments are checked before anything is scanned. However a subnet is written, and
however often, it is scanned once.
-/

open Python

namespace NetworkMapper

namespace Application

/-- What the argument parser has read. -/
structure Arguments where
  scanProfile : Str := str "fast"
  subnet : Option (List Str) := none
  snmp : Bool := false
  snmpArp : Bool := false
  snmpLldp : Bool := false
  snmpBridgeFdb : Bool := false

/-- `SystemExit(2)` with its text, or what the detection raises. -/
inductive Stopped where
  | exit (message : Str)
  | raised (e : LocalSubnet.Raised)
  deriving DecidableEq

/-! ## Messages -/

def invalidScanProfile : Stopped :=
  .exit (str "Error: invalid --scan-profile value. Use one of: fast, standard, deep.")

def invalidSubnet (value : Str) : Stopped :=
  .exit (str "Error: invalid --subnet value '" ++ value ++
    str "'. Provide a valid IPv4 CIDR (e.g. 172.16.100.0/24).")

def notIpv4 (value : Str) : Stopped :=
  .exit (str "Error: --subnet value '" ++ value ++ str "' is not IPv4. Only IPv4 subnets are supported.")

def noSubnet : Stopped :=
  .exit (str "Error: no --subnet supplied and NetworkMapper could not automatically determine an active local IPv4 subnet. Provide --subnet explicitly.")

def noCommunity : Stopped :=
  .exit (str "Error: --snmp/--snmp-arp/--snmp-lldp/--snmp-bridge-fdb requires the NETWORKMAPPER_SNMP_COMMUNITY environment variable to be set.")

/-! ## The arguments -/

def profileMap : List (Str × ScanProfile) :=
  [(str "fast", .fast), (str "standard", .standard), (str "deep", .deep)]

/-- `_parse_scan_profile` -/
def parseScanProfile (u : Unicode) (value : Str) : Except Stopped ScanProfile :=
  match profileMap.lookup (u.lower (strip value)) with
  | some scanProfile => .ok scanProfile
  | none => .error invalidScanProfile

/-- The body of the loop, up to `canonical_subnet`. -/
def canonicalSubnet (py : Interpreter) (value : Str) : Except Stopped Str :=
  match ipNetwork py value with
  | none => .error (invalidSubnet value)
  | some network => if network.networkAddress.version ≠ .v4 then .error (notIpv4 value) else .ok network.text

/-- The two locals of the loop in `_parse_subnets`. -/
structure Subnets where
  canonicalSubnets : List Str := []
  seenSubnets : Finset Str := ∅

def Subnets.add (subnets : Subnets) (subnet : Str) : Subnets :=
  if subnet ∈ subnets.seenSubnets then subnets
  else ⟨subnets.canonicalSubnets ++ [subnet], insert subnet subnets.seenSubnets⟩

def Subnets.step (py : Interpreter) (subnets : Subnets) (value : Str) : Except Stopped Subnets := do
  return subnets.add (← canonicalSubnet py value)

/-- `_parse_subnets` -/
def parseSubnets (py : Interpreter) (values : Option (List Str)) : Except Stopped (List Str) := do
  return (← (values.getD []).foldlM (Subnets.step py) {}).canonicalSubnets

/-- `_resolve_snmp_credentials` -/
def resolveSnmpCredentials (community : Option Str) : Except Stopped Str :=
  match truthy community with
  | some community => .ok community
  | none => .error noCommunity

/-- What the providers are built from. -/
structure Start where
  scanProfile : ScanProfile
  subnets : List Str
  community : Option Str
  deriving DecidableEq

section Startup

variable (py : Interpreter) (u : Unicode) (decimal : CodePoint → Option (Fin 10))
  (socketFactory : Except LocalSubnet.Raised LocalSubnet.Socket)
  (powershellRunner : Str → Except LocalSubnet.Raised Str) (environ : Option Str)

/-- The networks of a run: the ones that are given, or else the one that is detected. -/
def scanSubnets (args : Arguments) : Except Stopped (List Str) := do
  let subnets ← parseSubnets py args.subnet
  if subnets = [] then
    match ← (LocalSubnet.detectLocalSubnet py decimal socketFactory powershellRunner).mapError .raised with
    | none => .error noSubnet
    | some detected => return [detected.subnetCidr]
  else return subnets

def Arguments.enriches (args : Arguments) : Bool := args.snmp || args.snmpArp || args.snmpLldp || args.snmpBridgeFdb

/-- The credentials are resolved once for all SNMP providers. -/
def snmpCommunity (args : Arguments) : Except Stopped (Option Str) :=
  if args.enriches then (resolveSnmpCredentials environ).map some else .ok none

/-- `run` up to the discovery, with nmap installed: `nmap.PortScanner()`, which raises where it is not, has no
model. -/
def startup (args : Arguments) : Except Stopped Start := do
  let scanProfile ← parseScanProfile u args.scanProfile
  let subnets ← scanSubnets py decimal socketFactory powershellRunner args
  let community ← snmpCommunity environ args
  return ⟨scanProfile, subnets, community⟩

/-! ## The loop over the subnets -/

theorem parseScanProfile_eq_ok (value : Str) (scanProfile : ScanProfile) :
    parseScanProfile u value = .ok scanProfile ↔ u.lower (strip value) = scanProfile.value := by
  have hlookup : ∀ text, profileMap.lookup text = some scanProfile ↔ text = scanProfile.value := by
    intro text
    unfold profileMap
    simp only [List.lookup_cons, List.lookup_nil]
    by_cases hfast : text = str "fast"
    · subst hfast
      cases scanProfile <;> decide
    by_cases hstandard : text = str "standard"
    · subst hstandard
      cases scanProfile <;> decide
    by_cases hdeep : text = str "deep"
    · subst hdeep
      cases scanProfile <;> decide
    · rw [beq_false_of_ne hfast, beq_false_of_ne hstandard, beq_false_of_ne hdeep]
      cases scanProfile <;> simp [ScanProfile.value, hfast, hstandard, hdeep]
  unfold parseScanProfile
  rw [← hlookup]
  cases profileMap.lookup (u.lower (strip value)) <;> simp

/-- A value that is an IPv4 network. -/
def NamesIpv4 (value : Str) : Prop := ∃ network, ipNetwork py value = some network ∧ network.networkAddress.version = .v4

theorem canonicalSubnet_eq_ok (value subnet : Str) :
    canonicalSubnet py value = .ok subnet ↔
      ∃ network, ipNetwork py value = some network ∧ network.networkAddress.version = .v4 ∧ network.text = subnet := by
  unfold canonicalSubnet
  cases ipNetwork py value with
  | none => simp
  | some network => by_cases hversion : network.networkAddress.version = .v4 <;> simp [hversion]

theorem canonicalSubnet_names {value subnet : Str} (h : canonicalSubnet py value = .ok subnet) :
    ipNetwork py subnet = ipNetwork py value := by
  obtain ⟨network, hnetwork, hversion, rfl⟩ := (canonicalSubnet_eq_ok py value subnet).mp h
  rw [hnetwork]
  exact ipNetwork_text py (ipNetwork_isIpv4 hnetwork hversion)

theorem foldlM_step (values : List Str) (subnets : Subnets) :
    values.foldlM (Subnets.step py) subnets =
      (values.mapM (canonicalSubnet py)).map fun texts => texts.foldl Subnets.add subnets := by
  induction values generalizing subnets with
  | nil => rfl
  | cons value values ih =>
    rw [List.foldlM_cons, List.mapM_cons, Subnets.step]
    cases canonicalSubnet py value with
    | error e => rfl
    | ok text =>
      simp only [ok_bind, pure_ok]
      rw [ih]
      cases values.mapM (canonicalSubnet py) <;> rfl

theorem foldl_add (texts : List Str) :
    (texts.foldl Subnets.add {}).canonicalSubnets = texts.eraseDups ∧
      ∀ text, text ∈ (texts.foldl Subnets.add {}).seenSubnets ↔ text ∈ texts := by
  induction texts using List.reverseRecOn with
  | nil => exact ⟨rfl, fun text => by simp⟩
  | append_singleton texts text ih =>
    obtain ⟨hcanonical, hseen⟩ := ih
    rw [List.foldl_append, List.foldl_cons, List.foldl_nil, Dict.eraseDups_concat]
    by_cases hmem : text ∈ texts
    · rw [Subnets.add, if_pos ((hseen text).mpr hmem), if_pos hmem]
      refine ⟨hcanonical, fun text' => ?_⟩
      rw [hseen, List.mem_append, List.mem_singleton]
      exact ⟨Or.inl, fun h => h.elim id fun h => h ▸ hmem⟩
    · rw [Subnets.add, if_neg (fun h => hmem ((hseen text).mp h)), if_neg hmem]
      refine ⟨by rw [hcanonical], fun text' => ?_⟩
      rw [Finset.mem_insert, hseen, List.mem_append, List.mem_singleton, or_comm]

theorem parseSubnets_eq_ok (values : Option (List Str)) (subnets : List Str) :
    parseSubnets py values = .ok subnets ↔
      ∃ texts, (values.getD []).mapM (canonicalSubnet py) = .ok texts ∧ texts.eraseDups = subnets := by
  unfold parseSubnets
  rw [foldlM_step]
  cases (values.getD []).mapM (canonicalSubnet py) with
  | error e => simp [Except.map]
  | ok texts => simp [Except.map, foldl_add]

/-! ## The networks that are scanned -/

/-- The subnets are the networks of the values, each once, in the order in which they were first named, and in
their own text. -/
structure ScansEachOnce (values subnets : List Str) : Prop where
  read : ∀ value ∈ values, NamesIpv4 py value
  networks : subnets.map (ipNetwork py) = (values.map (ipNetwork py)).eraseDups
  canonical : ∀ subnet ∈ subnets, ∃ network, ipNetwork py subnet = some network ∧ network.text = subnet

theorem canonical_inj {subnet subnet' : Str}
    (h : ∃ network, ipNetwork py subnet = some network ∧ network.text = subnet)
    (h' : ∃ network, ipNetwork py subnet' = some network ∧ network.text = subnet')
    (heq : ipNetwork py subnet = ipNetwork py subnet') : subnet = subnet' := by
  obtain ⟨network, hnetwork, rfl⟩ := h
  obtain ⟨network', hnetwork', rfl⟩ := h'
  rw [hnetwork, hnetwork', Option.some.injEq] at heq
  rw [heq]

theorem canonicalSubnet_canonical {value subnet : Str} (h : canonicalSubnet py value = .ok subnet) :
    ∃ network, ipNetwork py subnet = some network ∧ network.text = subnet := by
  obtain ⟨network, hnetwork, -, htext⟩ := (canonicalSubnet_eq_ok py value subnet).mp h
  exact ⟨network, (canonicalSubnet_names py h).trans hnetwork, htext⟩

theorem mapM_scansEachOnce {values texts : List Str} (h : values.mapM (canonicalSubnet py) = .ok texts) :
    ScansEachOnce py values texts.eraseDups := by
  rw [mapM_eq_ok] at h
  have hcanonical : ∀ text ∈ texts, ∃ network, ipNetwork py text = some network ∧ network.text = text := by
    intro text htext
    obtain ⟨value, -, hvalue⟩ := forall₂_mem_right h text htext
    exact canonicalSubnet_canonical py hvalue
  have hnetworks : texts.map (ipNetwork py) = values.map (ipNetwork py) :=
    forall₂_map_eq h _ _ fun value _ text htext => canonicalSubnet_names py htext
  refine ⟨?_, ?_, ?_⟩
  · intro value hvalue
    obtain ⟨text, -, htext⟩ := forall₂_mem_left h value hvalue
    obtain ⟨network, hnetwork, hversion, -⟩ := (canonicalSubnet_eq_ok py value text).mp htext
    exact ⟨network, hnetwork, hversion⟩
  · rw [← hnetworks, Dict.eraseDups_map]
    exact fun text htext text' htext' => canonical_inj py (hcanonical text htext) (hcanonical text' htext')
  · exact fun text htext => hcanonical text (List.mem_eraseDups.mp htext)

/-- The networks determine the texts. -/
theorem ScansEachOnce.unique {values subnets subnets' : List Str} (h : ScansEachOnce py values subnets)
    (h' : ScansEachOnce py values subnets') : subnets = subnets' := by
  have hmaps : subnets.map (ipNetwork py) = subnets'.map (ipNetwork py) := h.networks.trans h'.networks.symm
  have htexts : ∀ subnets : List Str, (∀ subnet ∈ subnets, ∃ network, ipNetwork py subnet = some network ∧
      network.text = subnet) → (subnets.map (ipNetwork py)).map (Option.map IpNetwork.text) = subnets.map some := by
    intro subnets hcanonical
    rw [List.map_map]
    apply List.map_congr_left
    intro subnet hsubnet
    obtain ⟨network, hnetwork, htext⟩ := hcanonical subnet hsubnet
    rw [Function.comp_apply, hnetwork, Option.map_some, htext]
  have hsome : subnets.map some = subnets'.map some := by
    rw [← htexts subnets h.canonical, ← htexts subnets' h'.canonical, hmaps]
  exact List.map_injective_iff.mpr (Option.some_injective Str) hsome

theorem ScansEachOnce.again {values subnets : List Str} (h : ScansEachOnce py values subnets) :
    ScansEachOnce py subnets subnets := by
  refine ⟨?_, ?_, h.canonical⟩
  · intro subnet hsubnet
    have hmem : ipNetwork py subnet ∈ values.map (ipNetwork py) := by
      rw [← List.mem_eraseDups, ← h.networks]
      exact List.mem_map_of_mem hsubnet
    obtain ⟨value, hvalue, heq⟩ := List.mem_map.mp hmem
    unfold NamesIpv4
    rw [← heq]
    exact h.read value hvalue
  · rw [h.networks]
    exact (Dict.eraseDups_of_nodup _ (Dict.eraseDups_nodup _)).symm

theorem parseSubnets_iff (values : Option (List Str)) (subnets : List Str) :
    parseSubnets py values = .ok subnets ↔ ScansEachOnce py (values.getD []) subnets := by
  rw [parseSubnets_eq_ok]
  constructor
  · rintro ⟨texts, htexts, rfl⟩
    exact mapM_scansEachOnce py htexts
  · intro h
    have hread : ∀ value ∈ values.getD [], ∃ text, canonicalSubnet py value = .ok text ∧ True := by
      intro value hvalue
      obtain ⟨network, hnetwork, hversion⟩ := h.read value hvalue
      exact ⟨network.text, (canonicalSubnet_eq_ok py value _).mpr ⟨network, hnetwork, hversion, rfl⟩, trivial⟩
    obtain ⟨texts, htexts, -⟩ := mapM_ok (canonicalSubnet py) (fun _ _ => True) _ hread
    exact ⟨texts, htexts, (mapM_scansEachOnce py htexts).unique py h⟩

theorem scansEachOnce_nil {values subnets : List Str} (h : ScansEachOnce py values subnets) :
    subnets = [] ↔ values = [] := by
  have hempty : subnets.map (ipNetwork py) = [] ↔ (values.map (ipNetwork py)).eraseDups = [] := by rw [h.networks]
  cases values with
  | nil => simpa using hempty
  | cons value values =>
    rw [List.map_cons, List.eraseDups_cons] at hempty
    simpa using hempty

/-! ## Starts -/

/-- What a run starts with. -/
structure Starts (args : Arguments) (start : Start) : Prop where
  scanProfile : u.lower (strip args.scanProfile) = start.scanProfile.value
  named : args.subnet.getD [] ≠ [] → ScansEachOnce py (args.subnet.getD []) start.subnets
  detected : args.subnet.getD [] = [] →
    ∃ detected, LocalSubnet.detectLocalSubnet py decimal socketFactory powershellRunner = .ok (some detected) ∧
      start.subnets = [detected.subnetCidr]
  community : start.community = if args.enriches then environ else none
  credentials : args.enriches → (truthy environ).isSome

theorem parseSubnets_unnamed {values : Option (List Str)} (h : values.getD [] = []) : parseSubnets py values = .ok [] := by
  -- Without a named subnet there is nothing to reject.
  unfold parseSubnets
  rw [h]
  rfl

theorem scanSubnets_named {args : Arguments} (h : args.subnet.getD [] ≠ []) (subnets : List Str) :
    scanSubnets py decimal socketFactory powershellRunner args = .ok subnets ↔
      ScansEachOnce py (args.subnet.getD []) subnets := by
  rw [← parseSubnets_iff]
  unfold scanSubnets
  cases hparse : parseSubnets py args.subnet with
  | error e => simp
  | ok parsed =>
    have hparsed : parsed ≠ [] := fun hnil => h ((scansEachOnce_nil py ((parseSubnets_iff py _ _).mp hparse)).mp hnil)
    rw [ok_bind, if_neg hparsed]
    rfl

theorem scanSubnets_unnamed {args : Arguments} (h : args.subnet.getD [] = []) (subnets : List Str) :
    scanSubnets py decimal socketFactory powershellRunner args = .ok subnets ↔
      ∃ detected, LocalSubnet.detectLocalSubnet py decimal socketFactory powershellRunner = .ok (some detected) ∧
        subnets = [detected.subnetCidr] := by
  unfold scanSubnets
  rw [parseSubnets_unnamed py h, ok_bind, if_pos rfl, bind_eq_ok]
  simp only [mapError_eq_ok]
  constructor
  · rintro ⟨found, hfound, hsubnets⟩
    cases found with
    | none => cases hsubnets
    | some detected =>
      cases hsubnets
      exact ⟨detected, hfound, rfl⟩
  · rintro ⟨detected, hdetected, rfl⟩
    exact ⟨some detected, hdetected, rfl⟩

theorem snmpCommunity_eq_ok (args : Arguments) (community : Option Str) :
    snmpCommunity environ args = .ok community ↔
      community = (if args.enriches then environ else none) ∧ (args.enriches → (truthy environ).isSome) := by
  unfold snmpCommunity
  cases args.enriches with
  | false =>
    rw [if_neg Bool.false_ne_true, if_neg Bool.false_ne_true, Except.ok.injEq, eq_comm]
    exact (and_iff_left fun h => absurd h Bool.false_ne_true).symm
  | true =>
    rw [if_pos rfl, if_pos rfl]
    unfold resolveSnmpCredentials
    cases h : truthy environ with
    | none => simp [Except.map]
    | some value => simp [Except.map, ((truthy_eq_some environ value).mp h).1, eq_comm]

theorem startup_eq_ok (args : Arguments) (start : Start) :
    startup py u decimal socketFactory powershellRunner environ args = .ok start ↔
      Starts py u decimal socketFactory powershellRunner environ args start := by
  unfold startup
  simp only [bind_eq_ok, parseScanProfile_eq_ok, snmpCommunity_eq_ok]
  constructor
  · rintro ⟨scanProfile, hprofile, subnets, hsubnets, community, ⟨hcommunity, hcredentials⟩, hstart⟩
    cases hstart
    refine ⟨hprofile, ?_, ?_, hcommunity, hcredentials⟩
    · intro hnamed
      exact (scanSubnets_named py decimal socketFactory powershellRunner hnamed subnets).mp hsubnets
    · intro hunnamed
      exact (scanSubnets_unnamed py decimal socketFactory powershellRunner hunnamed subnets).mp hsubnets
  · intro h
    refine ⟨start.scanProfile, h.scanProfile, start.subnets, ?_, start.community, ⟨h.community, h.credentials⟩, rfl⟩
    by_cases hnamed : args.subnet.getD [] = []
    · exact (scanSubnets_unnamed py decimal socketFactory powershellRunner hnamed _).mpr (h.detected hnamed)
    · exact (scanSubnets_named py decimal socketFactory powershellRunner hnamed _).mpr (h.named hnamed)

theorem Starts.again {args : Arguments} {start : Start}
    (h : Starts py u decimal socketFactory powershellRunner environ args start) (hnamed : args.subnet.getD [] ≠ []) :
    Starts py u decimal socketFactory powershellRunner environ { args with subnet := some start.subnets } start := by
  have hscans := h.named hnamed
  refine ⟨h.scanProfile, fun _ => hscans.again py, fun hnil => ?_, h.community, h.credentials⟩
  exact absurd ((scansEachOnce_nil py hscans).mp hnil) hnamed

/-- A run starts with the networks of its subnets, each once, and those name themselves again. What it rejects is
the first value that is not an IPv4 network. -/
theorem startup_scans_each_once (args : Arguments) :
    (∀ start, startup py u decimal socketFactory powershellRunner environ args = .ok start ↔
        Starts py u decimal socketFactory powershellRunner environ args start) ∧
      (∀ start, startup py u decimal socketFactory powershellRunner environ args = .ok start →
        args.subnet.getD [] ≠ [] →
          startup py u decimal socketFactory powershellRunner environ { args with subnet := some start.subnets } =
            .ok start) ∧
      ∀ stopped, parseSubnets py args.subnet = .error stopped ↔
        ∃ before value after, args.subnet.getD [] = before ++ value :: after ∧ (∀ v ∈ before, NamesIpv4 py v) ∧
          canonicalSubnet py value = .error stopped := by
  have hread : ∀ value, (∃ text, canonicalSubnet py value = .ok text) ↔ NamesIpv4 py value := by
    intro value
    simp only [canonicalSubnet_eq_ok]
    constructor
    · rintro ⟨text, network, hnetwork, hversion, -⟩
      exact ⟨network, hnetwork, hversion⟩
    · rintro ⟨network, hnetwork, hversion⟩
      exact ⟨network.text, network, hnetwork, hversion, rfl⟩
  refine ⟨startup_eq_ok py u decimal socketFactory powershellRunner environ args, ?_, ?_⟩
  · intro start hstart hnamed
    rw [startup_eq_ok] at hstart ⊢
    exact hstart.again py u decimal socketFactory powershellRunner environ hnamed
  · intro stopped
    have hloop : parseSubnets py args.subnet = .error stopped ↔
        (args.subnet.getD []).mapM (canonicalSubnet py) = .error stopped := by
      unfold parseSubnets
      rw [foldlM_step]
      cases (args.subnet.getD []).mapM (canonicalSubnet py) <;> simp [Except.map]
    rw [hloop, mapM_eq_error]
    simp only [hread]

example : parseSubnets cpython (some [str "10.1.2.3/16", str "172.16.0.0/24", str "10.1.0.0/255.255.0.0"]) =
    .ok [str "10.1.0.0/16", str "172.16.0.0/24"] := by decide

end Startup

end Application

end NetworkMapper
