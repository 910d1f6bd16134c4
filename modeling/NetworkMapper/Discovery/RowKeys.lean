import NetworkMapper.Discovery.SnmpTables
import Mathlib.Data.List.Basic

/-!
# The keys of the rows

A table says how a key is written into the name of a row. Two of the parsers take
the rows of their table and longer names too, and two take exactly the rows.
-/

open Python

namespace NetworkMapper

open PysnmpClient

/-! ## Octets -/

/-- A run of `n` octets. -/
structure Octets (n : Nat) where
  bytes : Bytes
  length_eq : bytes.length = n

namespace Octets

variable {n : Nat}

/-- The octets as the arcs of an OID. -/
def arcs (o : Octets n) : List Nat := o.bytes.map (·.val)

theorem arcs_length (o : Octets n) : o.arcs.length = n := by
  unfold arcs
  rw [List.length_map, o.length_eq]

theorem arcs_lt (o : Octets n) : ∀ m ∈ o.arcs, m < 256 := by
  unfold arcs
  rw [List.forall_mem_map]
  exact fun b _ => b.isLt

theorem bytes_injective : Function.Injective (bytes (n := n)) := by
  rintro ⟨bytes, h⟩ ⟨bytes', h'⟩ heq
  simp only at heq
  subst heq
  rfl

theorem arcs_injective : Function.Injective (arcs (n := n)) := by
  intro o o' h
  exact bytes_injective (List.map_injective_iff.mpr Fin.val_injective h)

theorem exists_of_arcs (ms : List Nat) (hlen : ms.length = n) (h : ∀ m ∈ ms, m < 256) : ∃ o : Octets n, o.arcs = ms := by
  refine ⟨⟨ms.map byte, by simpa using hlen⟩, ?_⟩
  unfold arcs
  rw [List.map_map]
  exact (List.map_congr_left fun m hm => byte_val m (h m hm)).trans (List.map_id _)

end Octets

/-! ## The grammar of a table -/

/-- How a table writes a row's index into its name, and the key that a walk keeps for it. -/
structure RowFormat (ι κ : Type) where
  encode : ι → List Nat
  key : ι → κ
  width : Nat
  encode_length : ∀ i, (encode i).length = width
  width_pos : 0 < width
  encode_injective : Function.Injective encode
  key_injective : Function.Injective key

namespace RowFormat

variable {ι κ : Type} (fmt : RowFormat ι κ)

/-- What a parser takes: a row of the table, with more arcs after it where it is `lenient`. -/
def Accepts (py : Interpreter) (lenient : Prop) (column oid : Oid) (k : κ) : Prop :=
  ∃ i more, oid.arcs = column.arcs ++ (fmt.encode i ++ more) ∧ (lenient ∨ more = []) ∧
    (∀ n ∈ fmt.encode i ++ more, py.reads n) ∧ fmt.key i = k

/-- The parser gives the keys of the table for this name, and no others. -/
def ExactAt (parse : Str → Str → Option κ) (column oid : Oid) : Prop :=
  ∀ k, parse oid.render column.render = some k ↔ ∃ i, oid.arcs = column.arcs ++ fmt.encode i ∧ fmt.key i = k

/-- A name that begins like a row is one, if and only if `int` can read its numbers. -/
def NoMoreArcs (py : Interpreter) (column oid : Oid) : Prop :=
  ∀ i more, oid.arcs = column.arcs ++ (fmt.encode i ++ more) → ((∀ n ∈ fmt.encode i ++ more, py.reads n) ↔ more = [])

/-- `int` can read the numbers of a row. -/
def ReadableRow (py : Interpreter) (column oid : Oid) : Prop :=
  ∀ i, oid.arcs = column.arcs ++ fmt.encode i → ∀ n ∈ fmt.encode i, py.reads n

theorem decompose_unique {column : List Nat} {i j : ι} {more more' : List Nat}
    (h : column ++ (fmt.encode i ++ more) = column ++ (fmt.encode j ++ more')) : i = j ∧ more = more' := by
  have hlen : (fmt.encode i).length = (fmt.encode j).length := by rw [fmt.encode_length, fmt.encode_length]
  obtain ⟨hencode, hmore⟩ := List.append_inj (List.append_cancel_left h) hlen
  exact ⟨fmt.encode_injective hencode, hmore⟩

variable {fmt} {py : Interpreter} {parse : Str → Str → Option κ}

theorem lenient_exact_iff (hparse : ∀ column oid k, parse oid.render column.render = some k ↔
    fmt.Accepts py True column oid k) (column oid : Oid) :
    fmt.ExactAt parse column oid ↔ fmt.NoMoreArcs py column oid := by
  unfold ExactAt NoMoreArcs
  simp only [hparse, Accepts, true_or, true_and]
  constructor
  · intro h i more hoid
    constructor
    · intro hreads
      obtain ⟨j, hj, -⟩ := (h (fmt.key i)).mp ⟨i, more, hoid, hreads, rfl⟩
      rw [hoid, ← List.append_nil (fmt.encode j)] at hj
      exact (fmt.decompose_unique hj).2
    · rintro rfl
      obtain ⟨j, more, hj, hreads, -⟩ := (h (fmt.key i)).mpr ⟨i, by rw [hoid, List.append_nil], rfl⟩
      obtain ⟨rfl, rfl⟩ := fmt.decompose_unique (hoid.symm.trans hj)
      exact hreads
  · intro h k
    constructor
    · rintro ⟨i, more, hoid, hreads, hk⟩
      have hmore := (h i more hoid).mp hreads
      subst hmore
      exact ⟨i, by rw [hoid, List.append_nil], hk⟩
    · rintro ⟨i, hoid, hk⟩
      have hoid' : oid.arcs = column.arcs ++ (fmt.encode i ++ []) := by rw [hoid, List.append_nil]
      exact ⟨i, [], hoid', (h i [] hoid').mpr rfl, hk⟩

theorem strict_exact_iff (hparse : ∀ column oid k, parse oid.render column.render = some k ↔
    fmt.Accepts py False column oid k) (column oid : Oid) :
    fmt.ExactAt parse column oid ↔ fmt.ReadableRow py column oid := by
  have hstrict : ∀ k, fmt.Accepts py False column oid k ↔
      ∃ i, oid.arcs = column.arcs ++ fmt.encode i ∧ (∀ n ∈ fmt.encode i, py.reads n) ∧ fmt.key i = k := by
    intro k
    unfold Accepts
    constructor
    · rintro ⟨i, more, hoid, hmore, hreads, hk⟩
      obtain rfl := hmore.resolve_left not_false
      rw [List.append_nil] at hoid hreads
      exact ⟨i, hoid, hreads, hk⟩
    · rintro ⟨i, hoid, hreads, hk⟩
      exact ⟨i, [], by rw [List.append_nil, hoid], Or.inr rfl, by rwa [List.append_nil], hk⟩
  unfold ExactAt ReadableRow
  simp only [hparse, hstrict]
  constructor
  · intro h i hoid
    obtain ⟨j, hj, hreads, -⟩ := (h (fmt.key i)).mpr ⟨i, hoid, rfl⟩
    have hij := fmt.encode_injective (List.append_cancel_left (hoid.symm.trans hj))
    exact hij ▸ hreads
  · intro h k
    constructor
    · rintro ⟨i, hoid, -, hk⟩
      exact ⟨i, hoid, hk⟩
    · rintro ⟨i, hoid, hk⟩
      exact ⟨i, hoid, h i hoid, hk⟩

theorem ExactAt.injective {column oid oid' : Oid} (h : fmt.ExactAt parse column oid) (h' : fmt.ExactAt parse column oid')
    {k : κ} (hk : parse oid.render column.render = some k) (hk' : parse oid'.render column.render = some k) :
    oid = oid' := by
  obtain ⟨i, hoid, hi⟩ := (h k).mp hk
  obtain ⟨j, hoid', hj⟩ := (h' k).mp hk'
  obtain rfl := fmt.key_injective (hi.trans hj.symm)
  exact Oid.ext (hoid.trans hoid'.symm)

end RowFormat

/-! ## The tables -/

/-- The dotted text of an IPv4 address. -/
def address (o : Octets 4) : Str := joinNumbers (ch '.') (o.arcs.map Int.ofNat)

theorem address_injective : Function.Injective address := by
  have hne : ∀ o : Octets 4, o.arcs ≠ [] := by
    intro o h
    have hlen := o.arcs_length
    rw [h] at hlen
    cases hlen
  intro o o' h
  exact Octets.arcs_injective (joinNumbers_injective _ _ (hne o) (hne o') h)

theorem upperHexDigit_injective : ∀ m < 16, ∀ n < 16, upperHexDigit m = upperHexDigit n → m = n := by decide

theorem hexByte_injective : Function.Injective hexByte := by
  intro b b' h
  unfold hexByte at h
  simp only [List.cons.injEq, and_true] at h
  have hhigh := upperHexDigit_injective _ (by omega) _ (by omega) h.1
  have hlow := upperHexDigit_injective _ (by omega) _ (by omega) h.2
  exact Fin.ext (by omega)

theorem hexByte_no_colon (b : Byte) : ch ':' ∉ hexByte b := by
  have hdigit : ∀ n < 16, ch ':' ≠ upperHexDigit n := by decide
  unfold hexByte
  simp only [List.mem_cons, List.not_mem_nil, or_false, not_or]
  exact ⟨hdigit _ (by omega), hdigit _ (by omega)⟩

theorem splitOn_formatMac (bytes : Bytes) (hne : bytes ≠ []) :
    (formatMac bytes).splitOn (ch ':') = bytes.map hexByte := by
  unfold formatMac
  apply List.splitOn_intercalate
  · rw [List.forall_mem_map]
    exact fun b _ => hexByte_no_colon b
  · simpa using hne

theorem formatMac_ne_nil (bytes : Bytes) (hne : bytes ≠ []) : formatMac bytes ≠ [] := by
  intro h
  have hsplit := splitOn_formatMac bytes hne
  rw [h, List.splitOn_nil] at hsplit
  obtain ⟨b, -, hb⟩ := List.mem_map.mp (hsplit ▸ List.mem_singleton_self [])
  cases hb

theorem formatMac_injective : Function.Injective formatMac := by
  intro bytes bytes' h
  by_cases hnil : bytes = [] ∨ bytes' = []
  · -- Only the empty string has the empty text.
    rcases hnil with rfl | rfl
    · by_contra hne
      exact formatMac_ne_nil bytes' (Ne.symm hne) h.symm
    · by_contra hne
      exact formatMac_ne_nil bytes hne h
  · rw [not_or] at hnil
    have hsplit := congrArg (List.splitOn (ch ':')) h
    rw [splitOn_formatMac _ hnil.1, splitOn_formatMac _ hnil.2] at hsplit
    exact List.map_injective_iff.mpr hexByte_injective hsplit

/-- `{ ifIndex, addressType, addressLength, address-octets... }` -/
def arpFormat : RowFormat (Nat × Octets 4) (Int × Str) where
  encode i := i.1 :: 1 :: 4 :: i.2.arcs
  key i := (i.1, address i.2)
  width := 7
  encode_length i := by simp [i.2.arcs_length]
  width_pos := by decide
  encode_injective := by
    rintro ⟨m, o⟩ ⟨n, o'⟩ h
    simp only [List.cons.injEq, true_and] at h
    rw [h.1, Octets.arcs_injective h.2]
  key_injective := by
    rintro ⟨m, o⟩ ⟨n, o'⟩ h
    simp only [Prod.mk.injEq, Int.natCast_inj] at h
    rw [h.1, address_injective h.2]

/-- `{ TimeMark, LocalPortNum, RemIndex }` -/
def lldpRemFormat : RowFormat (Nat × Nat × Nat) (Int × Int × Int) where
  encode i := [i.1, i.2.1, i.2.2]
  key i := (i.1, i.2.1, i.2.2)
  width := 3
  encode_length i := rfl
  width_pos := by decide
  encode_injective := by
    rintro ⟨a, b, c⟩ ⟨d, e, f⟩ h
    simpa using h
  key_injective := by
    rintro ⟨a, b, c⟩ ⟨d, e, f⟩ h
    simpa using h

/-- The index of the neighbour, then `{ subtype, length, address-octets... }` -/
def manAddrFormat : RowFormat ((Nat × Nat × Nat) × Octets 4) ((Int × Int × Int) × Str) where
  encode i := i.1.1 :: i.1.2.1 :: i.1.2.2 :: 1 :: 4 :: i.2.arcs
  key i := ((i.1.1, i.1.2.1, i.1.2.2), address i.2)
  width := 9
  encode_length i := by simp [i.2.arcs_length]
  width_pos := by decide
  encode_injective := by
    rintro ⟨⟨a, b, c⟩, o⟩ ⟨⟨d, e, f⟩, o'⟩ h
    simp only [List.cons.injEq, true_and] at h
    obtain ⟨rfl, rfl, rfl, ho⟩ := h
    rw [Octets.arcs_injective ho]
  key_injective := by
    rintro ⟨⟨a, b, c⟩, o⟩ ⟨⟨d, e, f⟩, o'⟩ h
    simp only [Prod.mk.injEq, Int.natCast_inj] at h
    obtain ⟨⟨rfl, rfl, rfl⟩, ho⟩ := h
    rw [address_injective ho]

/-- The six octets of the MAC address. -/
def fdbFormat : RowFormat (Octets 6) Str where
  encode := Octets.arcs
  key o := formatMac o.bytes
  width := 6
  encode_length := Octets.arcs_length
  width_pos := by decide
  encode_injective := Octets.arcs_injective
  key_injective := formatMac_injective.comp Octets.bytes_injective

/-! ## The parsers -/

section Parsers

variable (py : Interpreter)

theorem mapM_intOf (suffix : List Nat) (components : List Int) :
    (suffix.map natRepr).mapM (intOf py) = some components ↔
      (∀ n ∈ suffix, py.reads n) ∧ components = suffix.map Int.ofNat := by
  induction suffix generalizing components with
  | nil => simp [eq_comm]
  | cons n suffix ih =>
    simp only [List.map_cons, List.mapM_cons, Option.bind_eq_bind, Option.bind_eq_some_iff, Option.pure_def,
      Option.some.injEq, intOf_natRepr, ih, List.forall_mem_cons]
    constructor
    · rintro ⟨m, ⟨hn, rfl⟩, ms, ⟨hs, rfl⟩, rfl⟩
      exact ⟨⟨hn, hs⟩, rfl⟩
    · rintro ⟨⟨hn, hs⟩, rfl⟩
      exact ⟨n, ⟨hn, rfl⟩, _, ⟨hs, rfl⟩, rfl⟩

theorem rowComponents_eq_some (column oid : Oid) (components : List Int) :
    rowComponents py oid.render column.render = some components ↔
      ∃ suffix : List Nat, suffix ≠ [] ∧ oid.arcs = column.arcs ++ suffix ∧ (∀ n ∈ suffix, py.reads n) ∧
        components = suffix.map Int.ofNat := by
  unfold rowComponents
  simp only [List.isPrefixOf_iff_prefix]
  constructor
  · intro h
    split at h
    · rename_i hstart
      obtain ⟨rest, hrest⟩ := hstart
      rw [← hrest, List.drop_left] at h
      rw [List.append_assoc] at hrest
      obtain ⟨suffix, hne, hoid, hsplit⟩ := joinNumbers_after _ _ rest column.nonempty oid.nonempty hrest.symm
      rw [hsplit, mapM_intOf] at h
      exact ⟨suffix, hne, hoid, h⟩
    · simp at h
  · rintro ⟨suffix, hne, hoid, hreads⟩
    have hrender : oid.render = column.render ++ [ch '.'] ++ joinNumbers (ch '.') (suffix.map Int.ofNat) := by
      unfold Oid.render
      rw [hoid, joinNumbers_append _ _ column.nonempty hne, List.append_assoc]
      rfl
    rw [hrender, if_pos (List.prefix_append _ _), List.drop_left, splitOn_joinNumbers suffix hne, mapM_intOf]
    exact hreads

theorem octets_iff (n : Nat) (ms : List Nat) :
    ¬ ((ms.map Int.ofNat).length ≠ n ∨ ((ms.map Int.ofNat).any fun octet => !isOctet octet) = true) ↔
      ∃ o : Octets n, o.arcs = ms := by
  have hoctet : ∀ m : Nat, isOctet (Int.ofNat m) = true ↔ m < 256 := by
    intro m
    unfold isOctet
    simp only [Int.ofNat_eq_natCast, decide_eq_true_eq]
    omega
  simp only [not_or, not_not, List.length_map, List.any_eq_true, Bool.not_eq_true', not_exists, not_and,
    Bool.not_eq_false, List.forall_mem_map, hoctet]
  constructor
  · rintro ⟨hlen, hlt⟩
    exact Octets.exists_of_arcs ms hlen hlt
  · rintro ⟨o, rfl⟩
    exact ⟨o.arcs_length, o.arcs_lt⟩

theorem addressOctets_eq_some (rest : List Nat) (text : Str) :
    addressOctets (rest.map Int.ofNat) = some text ↔ ∃ o more, rest = Octets.arcs o ++ more ∧ address o = text := by
  unfold addressOctets
  rw [← List.map_take]
  constructor
  · intro h
    split at h
    · simp at h
    · rename_i hoctets
      obtain ⟨o, ho⟩ := (octets_iff 4 _).mp hoctets
      rw [Option.some.injEq] at h
      refine ⟨o, rest.drop 4, ?_, ?_⟩
      · rw [ho, List.take_append_drop]
      · rw [address, ho, h]
  · rintro ⟨o, more, rfl, rfl⟩
    have htake : (o.arcs ++ more).take 4 = o.arcs := List.take_left' o.arcs_length
    rw [htake, if_neg ((octets_iff 4 _).mpr ⟨o, rfl⟩)]
    rfl

theorem ipv4Tail_eq_some {β : Type} (family addressLength : Nat) (rest : List Nat) (key : Str → β) (k : β) :
    (if Int.ofNat family ≠ 1 ∨ Int.ofNat addressLength ≠ 4 then none
      else (addressOctets (rest.map Int.ofNat)).map key) = some k ↔
      family = 1 ∧ addressLength = 4 ∧ ∃ o more, rest = Octets.arcs o ++ more ∧ key (address o) = k := by
  -- The family, the length and the octets of an IPv4 address. More arcs may follow.
  constructor
  · intro h
    split at h
    · simp at h
    · rename_i hfamily
      simp only [not_or, not_not] at hfamily
      obtain ⟨text, htext, rfl⟩ := Option.map_eq_some_iff.mp h
      obtain ⟨o, more, rfl, rfl⟩ := (addressOctets_eq_some rest text).mp htext
      exact ⟨Int.ofNat.inj hfamily.1, Int.ofNat.inj hfamily.2, o, more, rfl, rfl⟩
  · rintro ⟨rfl, rfl, o, more, rfl, rfl⟩
    rw [if_neg (by decide), (addressOctets_eq_some _ _).mpr ⟨o, more, rfl, rfl⟩]
    rfl

theorem accepts_of_components {ι κ : Type} {fmt : RowFormat ι κ} {lenient : Prop} (read : List Int → Option κ)
    (hread : ∀ (suffix : List Nat) k, read (suffix.map Int.ofNat) = some k ↔
      ∃ i more, suffix = fmt.encode i ++ more ∧ (lenient ∨ more = []) ∧ fmt.key i = k) (column oid : Oid) (k : κ) :
    (rowComponents py oid.render column.render).bind read = some k ↔ fmt.Accepts py lenient column oid k := by
  unfold RowFormat.Accepts
  simp only [Option.bind_eq_some_iff, rowComponents_eq_some]
  constructor
  · rintro ⟨_, ⟨suffix, -, hoid, hreads, rfl⟩, h⟩
    obtain ⟨i, more, rfl, hmore, hk⟩ := (hread suffix k).mp h
    exact ⟨i, more, hoid, hmore, hreads, hk⟩
  · rintro ⟨i, more, hoid, hmore, hreads, hk⟩
    refine ⟨_, ⟨fmt.encode i ++ more, ?_, hoid, hreads, rfl⟩, (hread _ k).mpr ⟨i, more, rfl, hmore, hk⟩⟩
    have hlen := fmt.encode_length i
    have hpos := fmt.width_pos
    intro hnil
    rw [(List.append_eq_nil_iff.mp hnil).1, List.length_nil] at hlen
    omega

theorem parseIpv4ArpRow_accepts (column oid : Oid) (k : Int × Str) :
    parseIpv4ArpRow py oid.render column.render = some k ↔ arpFormat.Accepts py True column oid k := by
  refine accepts_of_components py _ (fun suffix k => ?_) column oid k
  simp only [true_or, true_and]
  rcases suffix with _ | ⟨ifIndex, _ | ⟨addressType, _ | ⟨addressLength, rest⟩⟩⟩
  · simp [arpFormat]
  · simp [arpFormat]
  · simp [arpFormat]
  refine (ipv4Tail_eq_some addressType addressLength rest (fun address => (Int.ofNat ifIndex, address)) k).trans ?_
  simp only [arpFormat, List.cons_append, List.cons.injEq]
  constructor
  · rintro ⟨hfamily, hlen, o, more, hrest, hk⟩
    exact ⟨(ifIndex, o), more, ⟨rfl, hfamily, hlen, hrest⟩, hk⟩
  · rintro ⟨⟨n, o⟩, more, ⟨rfl, hfamily, hlen, hrest⟩, hk⟩
    exact ⟨hfamily, hlen, o, more, hrest, hk⟩

theorem parseLldpRemRow_accepts (column oid : Oid) (k : Int × Int × Int) :
    parseLldpRemRow py oid.render column.render = some k ↔ lldpRemFormat.Accepts py False column oid k := by
  refine accepts_of_components py _ (fun suffix k => ?_) column oid k
  rcases suffix with _ | ⟨timeMark, _ | ⟨localPortNum, _ | ⟨remIndex, _ | ⟨arc, rest⟩⟩⟩⟩
  all_goals simp [lldpRemFormat]

theorem parseLldpManAddrRow_accepts (column oid : Oid) (k : (Int × Int × Int) × Str) :
    parseLldpManAddrRow py oid.render column.render = some k ↔ manAddrFormat.Accepts py True column oid k := by
  refine accepts_of_components py _ (fun suffix k => ?_) column oid k
  simp only [true_or, true_and]
  rcases suffix with _ | ⟨timeMark, _ | ⟨localPortNum, _ | ⟨remIndex, _ | ⟨addrSubtype, _ | ⟨addrLen, rest⟩⟩⟩⟩⟩
  · simp [manAddrFormat]
  · simp [manAddrFormat]
  · simp [manAddrFormat]
  · simp [manAddrFormat]
  · simp [manAddrFormat]
  refine (ipv4Tail_eq_some addrSubtype addrLen rest
    (fun address => ((Int.ofNat timeMark, Int.ofNat localPortNum, Int.ofNat remIndex), address)) k).trans ?_
  simp only [manAddrFormat, List.cons_append, List.cons.injEq]
  constructor
  · rintro ⟨hfamily, hlen, o, more, hrest, hk⟩
    exact ⟨((timeMark, localPortNum, remIndex), o), more, ⟨rfl, rfl, rfl, hfamily, hlen, hrest⟩, hk⟩
  · rintro ⟨⟨⟨t, l, r⟩, o⟩, more, ⟨rfl, rfl, rfl, hfamily, hlen, hrest⟩, hk⟩
    exact ⟨hfamily, hlen, o, more, hrest, hk⟩

theorem parseBridgeFdbRow_accepts (column oid : Oid) (k : Str) :
    parseBridgeFdbRow py oid.render column.render = some k ↔ fdbFormat.Accepts py False column oid k := by
  have hbytes : ∀ o : Octets 6, (o.arcs.map Int.ofNat).map (fun octet => byte octet.toNat) = o.bytes := by
    intro o
    unfold Octets.arcs
    rw [List.map_map, List.map_map]
    exact (List.map_congr_left fun b _ => Fin.ext (byte_val b.val b.isLt)).trans (List.map_id _)
  refine accepts_of_components py _ (fun suffix k => ?_) column oid k
  simp only [fdbFormat]
  constructor
  · intro h
    split at h
    · simp at h
    · rename_i hoctets
      obtain ⟨o, rfl⟩ := (octets_iff 6 suffix).mp hoctets
      rw [hbytes, Option.some.injEq] at h
      exact ⟨o, [], (List.append_nil _).symm, Or.inr rfl, h⟩
  · rintro ⟨o, more, rfl, hmore, rfl⟩
    obtain rfl := hmore.resolve_left not_false
    rw [List.append_nil, if_neg ((octets_iff 6 _).mpr ⟨o, rfl⟩), hbytes]

theorem octet_reads (m : Nat) (h : m < 256) : py.reads m := by
  -- An octet has at most three digits, and no limit is below that.
  have hlen : ∀ m < 256, (natRepr m).length ≤ 3 := by decide +kernel
  have hm := hlen m h
  rcases py.digits_valid with hzero | hlimit
  · exact Or.inl hzero
  · refine Or.inr ?_
    rw [Int.natAbs_natCast]
    omega

/-- The forwarding table's parser is exact at every name. For the other three it is said when they are, and
where they are exact no two names have one key. -/
theorem row_parsers_exact_iff :
    (∀ column oid, (arpFormat.ExactAt (parseIpv4ArpRow py) column oid ↔ arpFormat.NoMoreArcs py column oid) ∧
      (lldpRemFormat.ExactAt (parseLldpRemRow py) column oid ↔ lldpRemFormat.ReadableRow py column oid) ∧
      (manAddrFormat.ExactAt (parseLldpManAddrRow py) column oid ↔ manAddrFormat.NoMoreArcs py column oid) ∧
      fdbFormat.ExactAt (parseBridgeFdbRow py) column oid) ∧
    ∀ column oid oid',
      (arpFormat.NoMoreArcs py column oid → arpFormat.NoMoreArcs py column oid' → ∀ k,
        parseIpv4ArpRow py oid.render column.render = some k →
          parseIpv4ArpRow py oid'.render column.render = some k → oid = oid') ∧
      (lldpRemFormat.ReadableRow py column oid → lldpRemFormat.ReadableRow py column oid' → ∀ k,
        parseLldpRemRow py oid.render column.render = some k →
          parseLldpRemRow py oid'.render column.render = some k → oid = oid') ∧
      (manAddrFormat.NoMoreArcs py column oid → manAddrFormat.NoMoreArcs py column oid' → ∀ k,
        parseLldpManAddrRow py oid.render column.render = some k →
          parseLldpManAddrRow py oid'.render column.render = some k → oid = oid') ∧
      ∀ k, parseBridgeFdbRow py oid.render column.render = some k →
        parseBridgeFdbRow py oid'.render column.render = some k → oid = oid' := by
  have harp := fun column oid => RowFormat.lenient_exact_iff (parseIpv4ArpRow_accepts py) column oid
  have hrem := fun column oid => RowFormat.strict_exact_iff (parseLldpRemRow_accepts py) column oid
  have hman := fun column oid => RowFormat.lenient_exact_iff (parseLldpManAddrRow_accepts py) column oid
  have hfdb : ∀ column oid, fdbFormat.ExactAt (parseBridgeFdbRow py) column oid := by
    intro column oid
    rw [RowFormat.strict_exact_iff (parseBridgeFdbRow_accepts py)]
    intro o _ m hm
    exact octet_reads py m (o.arcs_lt m hm)
  refine ⟨fun column oid => ⟨harp column oid, hrem column oid, hman column oid, hfdb column oid⟩,
    fun column oid oid' => ⟨?_, ?_, ?_, ?_⟩⟩
  · intro h h' k
    exact ((harp column oid).mpr h).injective ((harp column oid').mpr h')
  · intro h h' k
    exact ((hrem column oid).mpr h).injective ((hrem column oid').mpr h')
  · intro h h' k
    exact ((hman column oid).mpr h).injective ((hman column oid').mpr h')
  · intro k
    exact (hfdb column oid).injective (hfdb column oid')

end Parsers

/-- A row of an ARP table, with more arcs after the four octets. -/
def sampleRow (more : List Nat) : Oid := ⟨[1, 3, 6, 1, 2, 1, 4, 35, 1, 4] ++ [2, 1, 4, 192, 0, 2, 10] ++ more, by simp⟩

def sampleColumn : Oid := ⟨[1, 3, 6, 1, 2, 1, 4, 35, 1, 4], by simp⟩

/-- The parser takes a name that is no row, and gives it the key of a row. -/
theorem longer_name_has_key_of_row :
    ¬ arpFormat.ExactAt (parseIpv4ArpRow cpython) sampleColumn (sampleRow [7]) ∧ sampleRow [7] ≠ sampleRow [] ∧
      parseIpv4ArpRow cpython (sampleRow [7]).render sampleColumn.render = some (2, str "192.0.2.10") ∧
      parseIpv4ArpRow cpython (sampleRow []).render sampleColumn.render = some (2, str "192.0.2.10") := by
  have hkey : parseIpv4ArpRow cpython (sampleRow [7]).render sampleColumn.render = some (2, str "192.0.2.10") := by
    decide +kernel
  refine ⟨?_, ?_, hkey, by decide +kernel⟩
  · intro h
    obtain ⟨i, hi, -⟩ := (h _).mp hkey
    have hlen := congrArg List.length hi
    rw [List.length_append, arpFormat.encode_length] at hlen
    exact absurd hlen (by decide)
  · intro h
    exact absurd (congrArg (fun oid : Oid => oid.arcs.length) h) (by decide)

end NetworkMapper
