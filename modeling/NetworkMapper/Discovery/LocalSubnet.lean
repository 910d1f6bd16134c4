import NetworkMapper.Python.IpNetwork
import NetworkMapper.Python.Raising

/-!
# The local subnet

A socket tells which address the host would send from, and a command tells how long
the prefix of that address is. The handlers name classes of exceptions, and what is of
another class is not caught.
-/

open Python

namespace NetworkMapper

namespace LocalSubnet

/-- The classes of exceptions that a handler names, and all others. -/
inductive Raised where
  | osError
  | subprocessError
  | other
  deriving DecidableEq

/-- A socket. Each of its methods is called once at most, so it is what that call does. -/
structure Socket where
  connect : Str → Nat → Except Raised Unit
  /-- The items of the name. -/
  getsockname : Except Raised (List Str)
  close : Except Raised Unit

/-- The source address that the system chose, and the network it is in. -/
structure DetectedLocalSubnet where
  sourceAddress : Str
  subnetCidr : Str
  deriving DecidableEq

def probeHost : Str := str "8.8.8.8"

def probePort : Nat := 80

/-! ## Detecting -/

/-- `name[0]` -/
def firstItem : List Str → Except Raised Str
  | item :: _ => .ok item
  | [] => .error .other

/-- The body of the second `try`. -/
def probe (sock : Socket) : Except Raised Str := do
  sock.connect probeHost probePort
  firstItem (← sock.getsockname)

/-- `_detect_active_ipv4_address`: an `OSError` is `None`, and the socket is closed either way. -/
def detectActiveIpv4Address (socketFactory : Except Raised Socket) : Except Raised (Option Str) := do
  match ← catching (· = .osError) none (socketFactory.map some) with
  | none => return none
  | some sock => withCleanup (catching (· = .osError) none ((probe sock).map some)) sock.close

/-- `_reject_loopback_or_link_local` -/
def rejectLoopbackOrLinkLocal (address : Str) : Option Str :=
  match ipAddress address with
  | none => none
  | some parsed => if parsed.isLoopback ∨ parsed.isLinkLocal then none else some address

section Detect

variable (py : Interpreter) (decimal : CodePoint → Option (Fin 10)) (socketFactory : Except Raised Socket)
  (powershellRunner : Str → Except Raised Str)

/-- `_detect_prefix_length`: any other error of the runner gets through. -/
def detectPrefixLength (address : Str) : Except Raised (Option Int) := do
  match ← catching (fun e => e = .subprocessError ∨ e = .osError) none ((powershellRunner address).map some) with
  | none => return none
  | some output => return intOfText py decimal (strip output)

/-- `detect_local_subnet` -/
def detectLocalSubnet : Except Raised (Option DetectedLocalSubnet) := do
  match ← detectActiveIpv4Address socketFactory with
  | none => return none
  | some address =>
    match rejectLoopbackOrLinkLocal address with
    | none => return none
    | some address =>
      match ← detectPrefixLength py decimal powershellRunner address with
      | none => return none
      | some prefixLength =>
        match ipNetwork py (address ++ ch '/' :: intRepr prefixLength) with
        | none => return none
        | some network => return some ⟨address, network.text⟩

end Detect

/-! ## What each step does -/

/-- What the socket raises is handled, and closing it raises nothing. -/
structure SocketHandled (sock : Socket) : Prop where
  close : sock.close = .ok ()
  connect : ∀ e, sock.connect probeHost probePort = .error e → e = .osError
  getsockname : sock.connect probeHost probePort = .ok () →
    (∀ e, sock.getsockname = .error e → e = .osError) ∧ sock.getsockname ≠ .ok []

theorem probe_eq_ok (sock : Socket) (address : Str) :
    probe sock = .ok address ↔
      sock.connect probeHost probePort = .ok () ∧ ∃ rest, sock.getsockname = .ok (address :: rest) := by
  unfold probe
  cases sock.connect probeHost probePort with
  | error e => simp
  | ok _ =>
    cases sock.getsockname with
    | error e => simp
    | ok name => cases name <;> simp [firstItem]

theorem probe_handled (sock : Socket) :
    (∀ e, probe sock = .error e → e = .osError) ↔
      (∀ e, sock.connect probeHost probePort = .error e → e = .osError) ∧
        (sock.connect probeHost probePort = .ok () →
          (∀ e, sock.getsockname = .error e → e = .osError) ∧ sock.getsockname ≠ .ok []) := by
  unfold probe
  cases sock.connect probeHost probePort with
  | error e => simp
  | ok _ =>
    cases sock.getsockname with
    | error e => simp
    | ok name => cases name <;> simp [firstItem]

theorem detectActive_ok (sock : Socket) :
    detectActiveIpv4Address (.ok sock) =
      withCleanup (catching (· = .osError) none ((probe sock).map some)) sock.close := rfl

theorem detectActive_error (e : Raised) :
    detectActiveIpv4Address (.error e) = if e = .osError then .ok none else .error e := by
  cases e <;> rfl

theorem detectActive_returns (socketFactory : Except Raised Socket) :
    (∃ address, detectActiveIpv4Address socketFactory = .ok address) ↔
      (∀ e, socketFactory = .error e → e = .osError) ∧ ∀ sock, socketFactory = .ok sock → SocketHandled sock := by
  cases socketFactory with
  | error e =>
    rw [detectActive_error]
    by_cases h : e = .osError <;> simp [h]
  | ok sock =>
    rw [detectActive_ok]
    have hreturns := catching_returns (· = Raised.osError) none ((probe sock).map some)
    simp only [map_eq_error, decide_eq_true_eq, probe_handled] at hreturns
    constructor
    · rintro ⟨address, h⟩
      obtain ⟨hclose, hprobe⟩ := (withCleanup_eq_ok _ _ _).mp h
      obtain ⟨hconnect, hname⟩ := hreturns.mp ⟨address, hprobe⟩
      refine ⟨by simp, fun sock' h => ?_⟩
      rw [Except.ok.injEq] at h
      exact h ▸ ⟨hclose, hconnect, hname⟩
    · rintro ⟨-, h⟩
      obtain ⟨hclose, hconnect, hname⟩ := h sock rfl
      obtain ⟨address, hprobe⟩ := hreturns.mpr ⟨hconnect, hname⟩
      exact ⟨address, (withCleanup_eq_ok _ _ _).mpr ⟨hclose, hprobe⟩⟩

theorem detectActive_eq_some (socketFactory : Except Raised Socket) (address : Str) :
    detectActiveIpv4Address socketFactory = .ok (some address) ↔
      ∃ sock, socketFactory = .ok sock ∧ sock.close = .ok () ∧ sock.connect probeHost probePort = .ok () ∧
        ∃ rest, sock.getsockname = .ok (address :: rest) := by
  cases socketFactory with
  | error e =>
    rw [detectActive_error]
    by_cases h : e = .osError <;> simp [h]
  | ok sock =>
    simp only [Except.ok.injEq, exists_eq_left', ← probe_eq_ok]
    rw [detectActive_ok, withCleanup_eq_ok, catching_eq_ok (by simp), map_some_eq_ok]

theorem reject_eq_some (address kept : Str) :
    rejectLoopbackOrLinkLocal address = some kept ↔
      address = kept ∧ ∃ x, ipAddress address = some x ∧ x.isLoopback = false ∧ x.isLinkLocal = false := by
  unfold rejectLoopbackOrLinkLocal
  cases ipAddress address with
  | none => simp
  | some x => cases hloopback : x.isLoopback <;> cases hlocal : x.isLinkLocal <;> simp [hloopback, hlocal]

/-! ## Failing closed -/

/-- What the command raises for an address is handled. -/
def RunnerHandled (powershellRunner : Str → Except Raised Str) (address : Str) : Prop :=
  ∀ e, powershellRunner address = .error e → e = .subprocessError ∨ e = .osError

/-- The subnet is the network of the probed address, with the prefix length that the command reported for it. -/
structure Detects (py : Interpreter) (decimal : CodePoint → Option (Fin 10)) (socketFactory : Except Raised Socket)
    (powershellRunner : Str → Except Raised Str) (detected : DetectedLocalSubnet) : Prop where
  probed : ∃ sock, socketFactory = .ok sock ∧ sock.connect probeHost probePort = .ok () ∧
    ∃ rest, sock.getsockname = .ok (detected.sourceAddress :: rest)
  network : ∃ x, ipAddress detected.sourceAddress = some x ∧ x.isLoopback = false ∧ x.isLinkLocal = false ∧
    ∃ output, powershellRunner detected.sourceAddress = .ok output ∧
      ∃ prefixLength, intOfText py decimal (strip output) = some prefixLength ∧
        ∃ network : IpNetwork, network.Of x prefixLength ∧ detected.subnetCidr = network.text

section Detect

variable (py : Interpreter) (decimal : CodePoint → Option (Fin 10)) (socketFactory : Except Raised Socket)
  (powershellRunner : Str → Except Raised Str)

/-- No exception escapes, and what is returned is right. -/
def FailsClosed : Prop :=
  ∃ result, detectLocalSubnet py decimal socketFactory powershellRunner = .ok result ∧
    ∀ detected, result = some detected → Detects py decimal socketFactory powershellRunner detected

/-- Each step raises only what its handler names, and closing the socket raises nothing. -/
structure Handled : Prop where
  factory : ∀ e, socketFactory = .error e → e = .osError
  socket : ∀ sock, socketFactory = .ok sock → SocketHandled sock
  runner : ∀ sock address rest x, socketFactory = .ok sock → sock.connect probeHost probePort = .ok () →
    sock.getsockname = .ok (address :: rest) → ipAddress address = some x → x.isLoopback = false →
      x.isLinkLocal = false → RunnerHandled powershellRunner address

theorem detectPrefixLength_returns (address : Str) :
    (∃ prefixLength, detectPrefixLength py decimal powershellRunner address = .ok prefixLength) ↔
      RunnerHandled powershellRunner address := by
  unfold detectPrefixLength RunnerHandled
  cases powershellRunner address with
  | error e => cases e <;> simp [catching, Except.map]
  | ok output => simp [catching, Except.map]

theorem detectPrefixLength_eq_some (address : Str) (prefixLength : Int) :
    detectPrefixLength py decimal powershellRunner address = .ok (some prefixLength) ↔
      ∃ output, powershellRunner address = .ok output ∧ intOfText py decimal (strip output) = some prefixLength := by
  unfold detectPrefixLength
  cases powershellRunner address with
  | error e => cases e <;> simp [catching, Except.map]
  | ok output => simp [catching, Except.map]

theorem detectLocalSubnet_returns :
    (∃ result, detectLocalSubnet py decimal socketFactory powershellRunner = .ok result) ↔
      (∃ found, detectActiveIpv4Address socketFactory = .ok found) ∧
        ∀ address, detectActiveIpv4Address socketFactory = .ok (some address) →
          rejectLoopbackOrLinkLocal address = some address →
            ∃ prefixLength, detectPrefixLength py decimal powershellRunner address = .ok prefixLength := by
  unfold detectLocalSubnet
  cases detectActiveIpv4Address socketFactory with
  | error e => simp
  | ok found =>
    cases found with
    | none => simp
    | some address =>
      cases hkept : rejectLoopbackOrLinkLocal address with
      | none => simp [hkept]
      | some kept =>
        obtain ⟨rfl, -⟩ := (reject_eq_some address kept).mp hkept
        cases hprefix : detectPrefixLength py decimal powershellRunner address with
        | error e => simp [hkept, hprefix]
        | ok found =>
          cases found with
          | none => simp [hkept, hprefix]
          | some prefixLength =>
            cases hnetwork : ipNetwork py (address ++ ch '/' :: intRepr prefixLength) <;>
              simp [hkept, hprefix, hnetwork]

theorem detectLocalSubnet_eq_some {detected : DetectedLocalSubnet}
    (h : detectLocalSubnet py decimal socketFactory powershellRunner = .ok (some detected)) :
    detectActiveIpv4Address socketFactory = .ok (some detected.sourceAddress) ∧
      rejectLoopbackOrLinkLocal detected.sourceAddress = some detected.sourceAddress ∧
      ∃ prefixLength,
        detectPrefixLength py decimal powershellRunner detected.sourceAddress = .ok (some prefixLength) ∧
        ∃ network, ipNetwork py (detected.sourceAddress ++ ch '/' :: intRepr prefixLength) = some network ∧
          detected.subnetCidr = network.text := by
  unfold detectLocalSubnet at h
  obtain ⟨found, hfound, h⟩ := (bind_eq_ok _ _ _).mp h
  cases found with
  | none => cases h
  | some address =>
    cases hkept : rejectLoopbackOrLinkLocal address with
    | none =>
      simp only [hkept] at h
      cases h
    | some kept =>
      obtain ⟨rfl, -⟩ := (reject_eq_some address kept).mp hkept
      simp only [hkept] at h
      obtain ⟨found, hprefix, h⟩ := (bind_eq_ok _ _ _).mp h
      cases found with
      | none => cases h
      | some prefixLength =>
        cases hnetwork : ipNetwork py (address ++ ch '/' :: intRepr prefixLength) with
        | none =>
          simp only [hnetwork] at h
          cases h
        | some network =>
          simp only [hnetwork] at h
          cases h
          exact ⟨hfound, hkept, prefixLength, hprefix, network, hnetwork, rfl⟩

theorem detected_sound {detected : DetectedLocalSubnet}
    (h : detectLocalSubnet py decimal socketFactory powershellRunner = .ok (some detected)) :
    Detects py decimal socketFactory powershellRunner detected := by
  -- Whatever is returned is right, also where an exception could have escaped.
  obtain ⟨hactive, hkept, prefixLength, hprefix, network, hnetwork, htext⟩ :=
    detectLocalSubnet_eq_some py decimal socketFactory powershellRunner h
  obtain ⟨sock, hsock, -, hconnect, hname⟩ := (detectActive_eq_some _ _).mp hactive
  obtain ⟨-, x, hx, hloopback, hlocal⟩ := (reject_eq_some _ _).mp hkept
  obtain ⟨output, houtput, hint⟩ := (detectPrefixLength_eq_some py decimal powershellRunner _ _).mp hprefix
  exact ⟨⟨sock, hsock, hconnect, hname⟩, x, hx, hloopback, hlocal, output, houtput, prefixLength, hint, network,
    ipNetwork_of py hx prefixLength hnetwork, htext⟩

theorem fails_closed_iff :
    FailsClosed py decimal socketFactory powershellRunner ↔ Handled socketFactory powershellRunner := by
  have hreturns := detectLocalSubnet_returns py decimal socketFactory powershellRunner
  constructor
  · rintro ⟨result, hresult, -⟩
    obtain ⟨hactive, hrunner⟩ := hreturns.mp ⟨result, hresult⟩
    obtain ⟨hfactory, hsocket⟩ := (detectActive_returns socketFactory).mp hactive
    refine ⟨hfactory, hsocket, fun sock address rest x hsock hconnect hname hx hloopback hlocal => ?_⟩
    rw [← detectPrefixLength_returns py decimal]
    refine hrunner address ?_ ?_
    · exact (detectActive_eq_some _ _).mpr ⟨sock, hsock, (hsocket sock hsock).close, hconnect, rest, hname⟩
    · exact (reject_eq_some _ _).mpr ⟨rfl, x, hx, hloopback, hlocal⟩
  · intro h
    obtain ⟨result, hresult⟩ := hreturns.mpr (by
      refine ⟨(detectActive_returns socketFactory).mpr ⟨h.factory, h.socket⟩, fun address hactive hkept => ?_⟩
      obtain ⟨sock, hsock, -, hconnect, rest, hname⟩ := (detectActive_eq_some _ _).mp hactive
      obtain ⟨-, x, hx, hloopback, hlocal⟩ := (reject_eq_some _ _).mp hkept
      exact (detectPrefixLength_returns py decimal powershellRunner address).mpr
        (h.runner sock address rest x hsock hconnect hname hx hloopback hlocal))
    refine ⟨result, hresult, fun detected hdetected => ?_⟩
    exact detected_sound py decimal socketFactory powershellRunner (hdetected ▸ hresult)

end Detect

/-- A host on a local network. -/
def lanSocket : Socket := ⟨fun _ _ => .ok (), .ok [str "192.168.1.55", str "54321"], .ok ()⟩

/-- `text=True` decodes what the command wrote, and a `UnicodeDecodeError` is a `ValueError`. -/
theorem undecodable_output_escapes :
    ¬ FailsClosed cpython (fun _ => none) (.ok lanSocket) fun _ => .error .other := by
  rintro ⟨result, hresult, -⟩
  have hraises : detectLocalSubnet cpython (fun _ => none) (.ok lanSocket) (fun _ => .error .other) =
      .error .other := by decide
  rw [hraises] at hresult
  cases hresult

example : detectLocalSubnet cpython (fun _ => none) (.ok lanSocket) (fun _ => .ok (str "24\r\n")) =
    .ok (some ⟨str "192.168.1.55", str "192.168.1.0/24"⟩) := by decide

end LocalSubnet

end NetworkMapper
