import Hypeterm.Settings.Snapshot

/-! Where a request is taken to come from, and whether its transport is admitted. -/
namespace Hypeterm.Http.Transport

open Settings List Option
open Settings.Net

namespace Keys

def securityRequireSecureTransport : String := "security.require_secure_transport"
def securityAllowInsecureLoopback : String := "security.allow_insecure_loopback"
def securityTrustedProxyEnabled : String := "security.trusted_proxy_enabled"
def securityTlsTerminatedByNetworks : String := "security.tls_terminated_by_networks"
def securityTrustedProxyNetworks : String := "security.trusted_proxy_networks"
def securityForwardedForHeader : String := "security.forwarded_for_header"
def securityForwardedProtoHeader : String := "security.forwarded_proto_header"

end Keys

/-- Header fields in order, under their lower-case names. -/
abbrev HeaderMap := List (String × Bytes)

def isTokenChar (c : Char) : Bool :=
  c.isAlphanum || "!#$%&*+-.^_|~".toList.contains c || c.toNat = 0x27 || c.toNat = 0x60

/-- The name a lookup searches under; a text that is no header name finds nothing. -/
def headerName (text : String) : Option String :=
  if !text.isEmpty && text.length < 65536 && text.toList.all isTokenChar then
    some (text.map Char.toLower)
  else none

def HeaderMap.get (headers : HeaderMap) (name : String) : Option Bytes := do
  let name ← headerName name
  let field ← headers.find? fun field => field.1 = name
  pure field.2

/-- A header value is read as text only when it is visible ASCII. -/
def toStr (value : Bytes) : Option (List Char) :=
  if value.all fun byte => (32 ≤ byte && byte < 127) || byte = 9 then
    some (value.map fun byte => Char.ofNat byte.toNat)
  else none

structure ConnMeta where
  peer : IpAddr
  tls : Bool

/-- Whether an address falls inside any of the configured CIDR blocks. -/
def inNetworks (networks : List String) (candidate : IpAddr) : Bool :=
  (networks.filterMap parseCidr).any fun (network, bits) => cidrContains network bits candidate

def firstEntry (value : List Char) : List Char := trim (value.takeWhile (· ≠ ','))

def peerIp (conn : Option ConnMeta) : IpAddr :=
  (conn.map ConnMeta.peer).getD (.v4 [0, 0, 0, 0])

def tls (conn : Option ConnMeta) : Bool := (conn.map ConnMeta.tls).getD false

/-- The left-most entry of the forwarded-for header is the original client. -/
def forwardedFor (headers : HeaderMap) (snapshot : Snapshot) : Option IpAddr :=
  ((headers.get (snapshot.string Keys.securityForwardedForHeader)).bind toStr).bind fun value =>
    parseIpAddr (firstEntry value)

def forwardedHttps (headers : HeaderMap) (snapshot : Snapshot) : Bool :=
  (((headers.get (snapshot.string Keys.securityForwardedProtoHeader)).bind toStr).map fun value =>
    decide ((firstEntry value).map Char.toLower = "https".toList)).getD false

/-- Forwarded headers are honoured only when the immediate peer is a configured
trusted proxy. -/
def resolveClient (headers : HeaderMap) (conn : Option ConnMeta) (snapshot : Snapshot) :
    IpAddr × Bool :=
  if !snapshot.bool Keys.securityTrustedProxyEnabled then (peerIp conn, tls conn)
  else if !inNetworks (snapshot.list Keys.securityTrustedProxyNetworks) (peerIp conn) then
    (peerIp conn, tls conn)
  else
    ((forwardedFor headers snapshot).getD (peerIp conn), tls conn || forwardedHttps headers snapshot)

structure RequestContext where
  clientIp : IpAddr
  secure : Bool
  snapshot : Snapshot

/-- Plain HTTP is refused in production, with a loopback exemption for development. -/
def enforceTransport (context : RequestContext) (clientIp : IpAddr) : Except ApiError Unit :=
  if context.secure then .ok ()
  else if !context.snapshot.bool Keys.securityRequireSecureTransport then .ok ()
  else if inNetworks (context.snapshot.list Keys.securityTlsTerminatedByNetworks) clientIp then
    .ok ()
  else if context.snapshot.bool Keys.securityAllowInsecureLoopback && clientIp.isLoopback then
    .ok ()
  else
    .error (.new 403 "insecure_transport" ("this endpoint requires TLS; enable " ++
      "server.tls_enabled or run behind a trusted TLS-terminating proxy"))

def admission (headers : HeaderMap) (conn : Option ConnMeta) (snapshot : Snapshot) :
    Except ApiError Unit :=
  let (clientIp, secure) := resolveClient headers conn snapshot
  enforceTransport ⟨clientIp, secure, snapshot⟩ clientIp

def exempt (snapshot : Snapshot) (address : IpAddr) : Bool :=
  inNetworks (snapshot.list Keys.securityTlsTerminatedByNetworks) address ||
    snapshot.bool Keys.securityAllowInsecureLoopback && address.isLoopback

/-- The forwarded headers of the connection are honoured. -/
def proxied (conn : Option ConnMeta) (snapshot : Snapshot) : Bool :=
  snapshot.bool Keys.securityTrustedProxyEnabled &&
    inNetworks (snapshot.list Keys.securityTrustedProxyNetworks) (peerIp conn)

/-- Another request that differs in the forwarded-for header only. -/
structure SameButForwardedFor (snapshot : Snapshot) (headers other : HeaderMap) : Prop where
  others_eq : other.filter (fun field =>
      some field.1 ≠ headerName (snapshot.string Keys.securityForwardedForHeader)) =
    headers.filter fun field =>
      some field.1 ≠ headerName (snapshot.string Keys.securityForwardedForHeader)
  proto_eq : HeaderMap.get other (snapshot.string Keys.securityForwardedProtoHeader) =
    HeaderMap.get headers (snapshot.string Keys.securityForwardedProtoHeader)

def passes (headers : HeaderMap) (conn : Option ConnMeta) (snapshot : Snapshot) : Bool :=
  tls conn || proxied conn snapshot && forwardedHttps headers snapshot ||
    !snapshot.bool Keys.securityRequireSecureTransport

/-- No header is read as an address: the peer is no trusted proxy, the configured name is none
a header can have, or it is the name of the forwarded-protocol header. -/
def HeaderUnread (conn : Option ConnMeta) (snapshot : Snapshot) : Prop :=
  proxied conn snapshot = false ∨
    headerName (snapshot.string Keys.securityForwardedForHeader) = none ∨
    headerName (snapshot.string Keys.securityForwardedForHeader) =
      headerName (snapshot.string Keys.securityForwardedProtoHeader)

/-- The exemptions make no difference between addresses: every address that can be written
has one, or there are none. -/
def ExemptionsUniform (conn : Option ConnMeta) (snapshot : Snapshot) : Prop :=
  if exempt snapshot (peerIp conn) then
    ∀ text address, parseIpAddr text = some address → exempt snapshot address = true
  else
    snapshot.bool Keys.securityAllowInsecureLoopback = false ∧
      ∀ cidr ∈ snapshot.list Keys.securityTlsTerminatedByNetworks, parseCidr cidr = none

variable {headers other : HeaderMap} {conn : Option ConnMeta} {snapshot : Snapshot}

def insecureTransport : ApiError :=
  .new 403 "insecure_transport" ("this endpoint requires TLS; enable " ++
    "server.tls_enabled or run behind a trusted TLS-terminating proxy")

theorem enforceTransport_eq (context : RequestContext) (clientIp : IpAddr) :
    enforceTransport context clientIp =
      if (context.secure || !context.snapshot.bool Keys.securityRequireSecureTransport ||
          exempt context.snapshot clientIp) = true then .ok ()
      else .error insecureTransport := by
  unfold enforceTransport exempt
  generalize context.snapshot.bool Keys.securityRequireSecureTransport = required
  generalize context.snapshot.bool Keys.securityAllowInsecureLoopback = loopback
  generalize inNetworks (context.snapshot.list Keys.securityTlsTerminatedByNetworks) clientIp =
    terminated
  cases context.secure
  · cases required
    · rfl
    · cases terminated
      · rfl
      · rfl
  · rfl

def clientIp (headers : HeaderMap) (conn : Option ConnMeta) (snapshot : Snapshot) : IpAddr :=
  if proxied conn snapshot then (forwardedFor headers snapshot).getD (peerIp conn) else peerIp conn

theorem resolveClient_eq : resolveClient headers conn snapshot =
    (clientIp headers conn snapshot,
      tls conn || proxied conn snapshot && forwardedHttps headers snapshot) := by
  unfold resolveClient clientIp proxied
  generalize snapshot.bool Keys.securityTrustedProxyEnabled = enabled
  generalize inNetworks (snapshot.list Keys.securityTrustedProxyNetworks) (peerIp conn) = trusted
  cases enabled
  · simp
  · cases trusted
    · simp
    · simp

theorem admission_eq : admission headers conn snapshot =
    if (passes headers conn snapshot || exempt snapshot (clientIp headers conn snapshot)) = true then
      .ok ()
    else .error insecureTransport := by
  rw [admission, resolveClient_eq]
  exact enforceTransport_eq _ _

theorem admission_eq_iff (passes_eq : passes other conn snapshot = passes headers conn snapshot) :
    admission other conn snapshot = admission headers conn snapshot ↔
      passes headers conn snapshot = true ∨
        exempt snapshot (clientIp other conn snapshot) =
          exempt snapshot (clientIp headers conn snapshot) := by
  rw [admission_eq, admission_eq, passes_eq]
  cases passes headers conn snapshot with
  | true => simp
  | false =>
    cases exempt snapshot (clientIp other conn snapshot)
    · cases exempt snapshot (clientIp headers conn snapshot) <;> simp
    · cases exempt snapshot (clientIp headers conn snapshot) <;> simp

theorem HeaderMap.get_filter {name : String} {excluded : Option String}
    (other_name : headerName name ≠ excluded) :
    HeaderMap.get (headers.filter fun field => some field.1 ≠ excluded) name =
      HeaderMap.get headers name := by
  unfold HeaderMap.get
  cases hname : headerName name with
  | none => rfl
  | some searched =>
    rw [hname] at other_name
    simp only [bind_eq_bind, bind_some, find?_filter]
    congr 2
    funext field
    by_cases hfield : field.1 = searched
    · simp [hfield, other_name]
    · simp [hfield]

theorem SameButForwardedFor.passes_eq (same : SameButForwardedFor snapshot headers other) :
    passes other conn snapshot = passes headers conn snapshot := by
  simp only [passes, forwardedHttps, same.proto_eq]

theorem isVisible_of_isAddressChar {c : Char} (plain : isAddressChar c = true) :
    32 ≤ c.toNat ∧ c.toNat < 127 ∧ c ≠ ',' ∧ Settings.isWhitespace c = false := by
  have hrange : 46 ≤ c.toNat ∧ c.toNat < 127 := by
    simp only [isAddressChar, Bool.or_eq_true, decide_eq_true_eq] at plain
    rcases plain with (hdigit | rfl) | rfl
    · obtain ⟨value, hvalue⟩ := isSome_iff_exists.mp hdigit
      obtain ⟨hread, -⟩ := filter_eq_some_iff.mp hvalue
      simp only [Char.le_def, UInt32.le_iff_toNat_le] at hread
      change 46 ≤ c.val.toNat ∧ c.val.toNat < 127
      have hzero : '0'.val.toNat = 48 := rfl
      have hnine : '9'.val.toNat = 57 := rfl
      have ha : 'a'.val.toNat = 97 := rfl
      have hz : 'z'.val.toNat = 122 := rfl
      have hA : 'A'.val.toNat = 65 := rfl
      have hZ : 'Z'.val.toNat = 90 := rfl
      split at hread
      · omega
      · split at hread
        · omega
        · split at hread
          · omega
          · cases hread
    · decide
    · decide
  refine ⟨by omega, hrange.2, ?_, ?_⟩
  · rintro rfl
    exact absurd hrange.1 (by decide)
  · simp [Settings.isWhitespace]
    omega

theorem trim_of_plain {text : List Char} (plain : ∀ c ∈ text, Settings.isWhitespace c = false) :
    trim text = text := by
  have hdrop : ∀ {text : List Char}, (∀ c ∈ text, Settings.isWhitespace c = false) →
      text.dropWhile Settings.isWhitespace = text := by
    intro text hplain
    cases text with
    | nil => rfl
    | cons c rest => simp [hplain c (mem_cons_self)]
  unfold trim
  rw [hdrop plain, hdrop, reverse_reverse]
  intro c hc
  exact plain c (mem_reverse.mp hc)

def headerValue (text : List Char) : Bytes := text.map fun c => UInt8.ofNat c.toNat

theorem read_headerValue {text : List Char} {address : IpAddr}
    (parsed : parseIpAddr text = some address) :
    (toStr (headerValue text)).bind (fun value => parseIpAddr (firstEntry value)) = some address := by
  have hchars := isAddressChar_of_parseIpAddr parsed
  have hbyte : ∀ c ∈ text, (UInt8.ofNat c.toNat).toNat = c.toNat := by
    intro c hc
    have hvisible := isVisible_of_isAddressChar (hchars c hc)
    simp only [UInt8.toNat_ofNat']
    omega
  have hread : toStr (headerValue text) = some text := by
    unfold toStr headerValue
    rw [if_pos]
    · congr 1
      rw [List.map_map]
      apply map_congr_left (g := id) ?_ |>.trans (List.map_id text)
      intro c hc
      simp [hbyte c hc]
    · rw [List.all_eq_true]
      intro byte hmem
      obtain ⟨c, hc, rfl⟩ := List.mem_map.mp hmem
      have hvisible := isVisible_of_isAddressChar (hchars c hc)
      simp only [Bool.or_eq_true, Bool.and_eq_true, decide_eq_true_eq, UInt8.le_iff_toNat_le,
        UInt8.lt_iff_toNat_lt, hbyte c hc]
      left
      exact ⟨hvisible.1, hvisible.2.1⟩
  have hentry : firstEntry text = text := by
    unfold firstEntry
    rw [takeWhile_eq_self_iff.mpr]
    · exact trim_of_plain fun c hc => (isVisible_of_isAddressChar (hchars c hc)).2.2.2
    · intro c hc
      simpa using (isVisible_of_isAddressChar (hchars c hc)).2.2.1
  rw [hread, bind_some, hentry]
  exact parsed

def withForwardedFor (headers : HeaderMap) (snapshot : Snapshot) (value : Option Bytes) : HeaderMap :=
  (headers.filter fun field =>
    some field.1 ≠ headerName (snapshot.string Keys.securityForwardedForHeader)) ++
      match headerName (snapshot.string Keys.securityForwardedForHeader), value with
      | some name, some value => [(name, value)]
      | _, _ => []

theorem sameButForwardedFor_with
    (differs : headerName (snapshot.string Keys.securityForwardedForHeader) ≠
      headerName (snapshot.string Keys.securityForwardedProtoHeader)) (value : Option Bytes) :
    SameButForwardedFor snapshot headers (withForwardedFor headers snapshot value) := by
  have hrest : (withForwardedFor headers snapshot value).filter (fun field =>
      some field.1 ≠ headerName (snapshot.string Keys.securityForwardedForHeader)) =
      headers.filter fun field =>
        some field.1 ≠ headerName (snapshot.string Keys.securityForwardedForHeader) := by
    unfold withForwardedFor
    rw [filter_append, List.filter_filter]
    split
    · rename_i name value hname
      simp [hname]
    · simp
  refine ⟨hrest, ?_⟩
  rw [← HeaderMap.get_filter (Ne.symm differs), hrest, HeaderMap.get_filter (Ne.symm differs)]

theorem get_with {name : String} (value : Option Bytes)
    (named : headerName (snapshot.string Keys.securityForwardedForHeader) = some name) :
    HeaderMap.get (withForwardedFor headers snapshot value)
      (snapshot.string Keys.securityForwardedForHeader) = value := by
  have hnone : headers.find? (fun _ => false) = none := find?_eq_none.mpr (by simp)
  cases value with
  | none => simp [HeaderMap.get, withForwardedFor, named, hnone]
  | some value => simp [HeaderMap.get, withForwardedFor, named, hnone]

theorem forwardedFor_with_none {name : String}
    (named : headerName (snapshot.string Keys.securityForwardedForHeader) = some name) :
    forwardedFor (withForwardedFor headers snapshot none) snapshot = none := by
  simp [forwardedFor, get_with none named]

theorem forwardedFor_with_text {name : String} {text : List Char} {address : IpAddr}
    (named : headerName (snapshot.string Keys.securityForwardedForHeader) = some name)
    (parsed : parseIpAddr text = some address) :
    forwardedFor (withForwardedFor headers snapshot (some (headerValue text))) snapshot =
      some address := by
  rw [forwardedFor, get_with _ named, bind_some]
  exact read_headerValue parsed

theorem clientIp_eq_of_unread (unread : HeaderUnread conn snapshot)
    (same : SameButForwardedFor snapshot headers other) :
    clientIp other conn snapshot = clientIp headers conn snapshot := by
  have hforwarded : ∀ {headers other : HeaderMap},
      HeaderMap.get other (snapshot.string Keys.securityForwardedForHeader) =
        HeaderMap.get headers (snapshot.string Keys.securityForwardedForHeader) →
      clientIp other conn snapshot = clientIp headers conn snapshot := by
    intro headers other hget
    simp only [clientIp, forwardedFor, hget]
  rcases unread with hdirect | hnameless | hshared
  · simp [clientIp, hdirect]
  · exact hforwarded (by simp [HeaderMap.get, hnameless])
  · refine hforwarded ?_
    have hproto := same.proto_eq
    simp only [HeaderMap.get] at hproto ⊢
    rw [hshared]
    exact hproto

theorem exists_text_of_parseCidr {cidr : String} {network : IpAddr} {bits : Nat}
    (parsed : parseCidr cidr = some (network, bits)) :
    ∃ text, parseIpAddr text = some network := by
  simp only [parseCidr, bind_eq_bind, bind_eq_some_iff, Prod.exists] at parsed
  obtain ⟨addr, bitsText, -, ip, hip, bits', -, hrest⟩ := parsed
  by_cases hbits : (if ip.isIpv4 then 32 else 128) < bits'
  · rw [if_pos hbits] at hrest
    cases hrest
  · rw [if_neg hbits] at hrest
    cases hrest
    exact ⟨trim addr, hip⟩

theorem exempt_of_parseCidr {cidr : String} {network : IpAddr} {bits : Nat}
    (mem : cidr ∈ snapshot.list Keys.securityTlsTerminatedByNetworks)
    (parsed : parseCidr cidr = some (network, bits)) : exempt snapshot network = true := by
  have hnetwork : inNetworks (snapshot.list Keys.securityTlsTerminatedByNetworks) network = true := by
    refine List.any_eq_true.mpr ⟨(network, bits), mem_filterMap.mpr ⟨cidr, mem, parsed⟩, ?_⟩
    exact cidrContains_self network bits
  simp [exempt, hnetwork]

theorem exempt_eq_of_uniform (uniform : ExemptionsUniform conn snapshot) :
    exempt snapshot (clientIp headers conn snapshot) = exempt snapshot (peerIp conn) := by
  unfold ExemptionsUniform at uniform
  split at uniform
  · rename_i hpeer
    rw [hpeer]
    unfold clientIp
    split
    · cases hforwarded : forwardedFor headers snapshot with
      | none => exact hpeer
      | some address =>
        obtain ⟨value, -, hparsed⟩ := bind_eq_some_iff.mp hforwarded
        exact uniform _ _ hparsed
    · exact hpeer
  · have hnone : ∀ address, exempt snapshot address = false := by
      intro address
      have hnetworks : (snapshot.list Keys.securityTlsTerminatedByNetworks).filterMap parseCidr = [] :=
        filterMap_eq_nil_iff.mpr uniform.2
      simp [exempt, inNetworks, hnetworks, uniform.1]
    rw [hnone, hnone]

theorem uniform_of_forall (alike : ∀ text address, parseIpAddr text = some address →
    exempt snapshot address = exempt snapshot (peerIp conn)) : ExemptionsUniform conn snapshot := by
  unfold ExemptionsUniform
  split
  · rename_i hpeer
    exact fun text address hparsed => (alike text address hparsed).trans hpeer
  · rename_i hpeer
    have hpeer : exempt snapshot (peerIp conn) = false := by simpa using hpeer
    constructor
    · have hloopback := alike "127.0.0.1".toList (.v4 [127, 0, 0, 1]) (by decide)
      rw [hpeer] at hloopback
      have hnot := (Bool.or_eq_false_iff.mp hloopback).2
      have haddress : IpAddr.isLoopback (.v4 [127, 0, 0, 1]) = true := rfl
      rwa [haddress, Bool.and_true] at hnot
    · intro cidr hmem
      cases hparsed : parseCidr cidr with
      | none => rfl
      | some network =>
        obtain ⟨text, htext⟩ := exists_text_of_parseCidr hparsed
        have hexempt := exempt_of_parseCidr hmem hparsed
        rw [alike text network.1 htext, hpeer] at hexempt
        cases hexempt

/-- Two requests that differ in the forwarded-for header only are admitted alike, exactly when
both pass from any address, the header is not read, or the exemptions do not depend on an
address. -/
theorem admission_ignores_forwarded_for_iff : (∀ other, SameButForwardedFor snapshot headers other →
        admission other conn snapshot = admission headers conn snapshot) ↔
      passes headers conn snapshot = true ∨ HeaderUnread conn snapshot ∨
        ExemptionsUniform conn snapshot := by
  constructor
  · intro alike
    by_contra hcondition
    obtain ⟨hpasses, hrest⟩ := not_or.mp hcondition
    obtain ⟨hunread, huniform⟩ := not_or.mp hrest
    obtain ⟨hproxied, hnames⟩ := not_or.mp hunread
    obtain ⟨hvalid, hdiffers⟩ := not_or.mp hnames
    obtain ⟨name, hname⟩ := ne_none_iff_exists'.mp hvalid
    have hproxied : proxied conn snapshot = true := by simpa using hproxied
    have hexempt : ∀ value, exempt snapshot
          (clientIp (withForwardedFor headers snapshot value) conn snapshot) =
        exempt snapshot (clientIp headers conn snapshot) := by
      intro value
      have hsame : SameButForwardedFor snapshot headers
          (withForwardedFor headers snapshot value) := sameButForwardedFor_with hdiffers value
      exact ((admission_eq_iff hsame.passes_eq).mp (alike _ hsame)).resolve_left hpasses
    have habsent := hexempt none
    simp only [clientIp, hproxied, if_true, forwardedFor_with_none hname, getD_none] at habsent
    apply huniform
    apply uniform_of_forall
    intro text address hparsed
    have hpresent := hexempt (some (headerValue text))
    simp only [clientIp, hproxied, if_true, forwardedFor_with_text hname hparsed,
      getD_some] at hpresent
    exact hpresent.trans habsent.symm
  · intro hcondition other same
    apply (admission_eq_iff same.passes_eq).mpr
    rcases hcondition with hpasses | hunread | huniform
    · exact .inl hpasses
    · exact .inr (by rw [clientIp_eq_of_unread hunread same])
    · exact .inr (by rw [exempt_eq_of_uniform huniform, exempt_eq_of_uniform huniform])

def proxySnapshot : Snapshot :=
  ⟨1, resolve ((emptyValues.insert Keys.securityTrustedProxyEnabled (.bool true)).insert
    Keys.securityTrustedProxyNetworks (.list ["10.0.0.0/8"]))⟩

theorem forwarded_loopback_is_admitted :
    ¬ ∀ (headers other : HeaderMap) (conn : Option ConnMeta) (snapshot : Snapshot),
      SameButForwardedFor snapshot headers other →
        admission other conn snapshot = admission headers conn snapshot := by
  intro claim
  have hsame : SameButForwardedFor proxySnapshot []
      [("x-forwarded-for", headerValue "127.0.0.1".toList)] :=
    ⟨by decide +kernel, by decide +kernel⟩
  have halike := claim _ _ (some ⟨.v4 [10, 1, 2, 3], false⟩) _ hsame
  have hadmitted : admission [("x-forwarded-for", headerValue "127.0.0.1".toList)]
      (some ⟨.v4 [10, 1, 2, 3], false⟩) proxySnapshot = .ok () := by decide +kernel
  have hrefused : admission [] (some ⟨.v4 [10, 1, 2, 3], false⟩) proxySnapshot =
      .error insecureTransport := by decide
  rw [hadmitted, hrefused] at halike
  cases halike

end Hypeterm.Http.Transport
