import ApiGateway.Service.Fetch

/-!
# What a fetch may connect to

A check that passes says something about the addresses the resolver gave it and the port it read.
It says the same about the connection as long as both are still those of the dial (`Hop.Settled`).
-/

namespace ApiGateway

open Table List FetchSetting

variable {net : NetLib} {p : FetchSetting} {u : URL}
variable {host : Option String} {ip : IP} {ips : List IP} {h : Hop}

theorem FetchSetting.checkIP_eq_ok :
    p.checkIP net host ip = .ok () ↔ p.isIPAccessAllowed net ip = true := by
  unfold checkIP
  split
  · simp_all
  · split
    · simp_all
    · split <;> simp_all

theorem forM_checkIP (h : ips.forM (p.checkIP net host) = .ok ()) (hip : ip ∈ ips) :
    p.isIPAccessAllowed net ip = true := by
  induction ips with
  | nil => cases hip
  | cons a ips ih =>
    obtain ⟨⟨⟩, ha, h⟩ := bind_eq_ok.mp
      (show p.checkIP net host a >>= (fun _ => ips.forM (p.checkIP net host)) = .ok () from h)
    rcases mem_cons.mp hip with rfl | hip
    · exact checkIP_eq_ok.mp ha
    · exact ih h hip

/-- The port that is checked: the one `SplitHostPort` finds, or that of the scheme. -/
def URL.checkedPort (u : URL) : UrlPort := (u.splitHostPort.map (·.2)).getD u.defaultPort

theorem URL.splitHostPort_getD :
    u.splitHostPort.getD (u.hostname, u.defaultPort) = (u.hostname, u.checkedPort) := by
  unfold checkedPort splitHostPort
  split <;> rfl

/-- The addresses a check looks at: the one in the URL, or those the host resolves to. -/
def NetLib.addresses (net : NetLib) (host : String) (answer : Option (List IP)) :
    Option (List IP) :=
  match net.parseIP host with
  | some ip => some [ip]
  | none => net.lookupIP host answer

theorem validateURL_ok {answer : Option (List IP)} (hon : p.enableSSRFProtection = true)
    (hfilter : p.applyIPFilterForDomain = true) (h : validateURL net p u answer = .ok ()) :
    ∃ ports n ips, parsePortRanges net p.allowedPorts = .ok ports ∧ u.checkedPort = .number n ∧
      isAllowedPort ports n = true ∧ net.addresses u.hostname answer = some ips ∧
      ∀ ip ∈ ips, p.isIPAccessAllowed net ip = true := by
  unfold validateURL at h
  rw [if_neg (by simp [hon])] at h
  obtain ⟨ports, hports, h⟩ := bind_eq_ok.mp h
  obtain ⟨⟨⟩, -, h⟩ := bind_eq_ok.mp h
  rw [URL.splitHostPort_getD] at h
  dsimp only at h
  split at h
  · rename_i n hn
    obtain ⟨⟨⟩, -, h⟩ := bind_eq_ok.mp h
    obtain ⟨⟨⟩, hallowed, h⟩ := bind_eq_ok.mp h
    have hallowed : isAllowedPort ports n = true := by simpa using hallowed
    split at h
    · rename_i ip hip
      refine ⟨ports, n, [ip], hports, hn, hallowed, by rw [NetLib.addresses, hip], fun a ha => ?_⟩
      rw [mem_singleton.mp ha]
      exact checkIP_eq_ok.mp h
    rename_i hip
    obtain ⟨⟨⟩, -, h⟩ := bind_eq_ok.mp h
    rw [if_pos hfilter] at h
    obtain ⟨ips, hips, h⟩ := bind_eq_ok.mp h
    refine ⟨ports, n, ips, hports, hn, hallowed, ?_, fun a ha => forM_checkIP h ha⟩
    rw [NetLib.addresses, hip]
    exact orFail_eq_ok.mp hips
  · simp at h

/-- The dial finds what the check found: the host is spelled for the resolver as in the URL, the
resolver gives no other address, and a port behind a host with colons outside brackets is that of
the scheme. -/
structure Hop.Settled (net : NetLib) (h : Hop) : Prop where
  name : net.toASCII h.url.hostname = h.url.hostname
  answers : ∀ ip, ip ∈ h.dialled.getD [] → ip ∈ h.checked.getD []
  port : h.url.bracketed = false → h.url.hostname.toList.contains ':' = true →
    ∀ n, h.url.port = .number n → h.url.defaultPort = .number n

def Connection.Permitted (net : NetLib) (p : FetchSetting) (c : Connection) : Prop :=
  isPrivateIP c.ip = false ∧
    ∃ ports, parsePortRanges net p.allowedPorts = .ok ports ∧ isAllowedPort ports c.port = true

theorem Hop.Settled.dialledPort_eq (hs : h.Settled net) {n : Nat}
    (hn : h.url.checkedPort = .number n) : h.url.dialledPort = n := by
  unfold URL.checkedPort at hn
  unfold URL.dialledPort
  cases hsplit : h.url.splitHostPort with
  | some =>
    -- `SplitHostPort` found a port, and it is the one behind the last colon
    rw [hsplit] at hn
    unfold URL.splitHostPort at hsplit
    split_ifs at hsplit with hc
    cases hsplit
    rw [show h.url.port = .number n from hn]
  | none =>
    rw [hsplit] at hn
    cases hport : h.url.port with
    | number k =>
      unfold URL.splitHostPort at hsplit
      split_ifs at hsplit with hc
      obtain ⟨hb, hcolon⟩ := hc.resolve_left (by simp [hport])
      have hk := hs.port hb hcolon k hport
      exact UrlPort.number.inj (hk.symm.trans hn)
    | absent | empty => by_cases hscheme : h.url.scheme = "https" <;> simp_all [URL.defaultPort]

theorem Hop.Settled.mem_addresses (hs : h.Settled net)
    (hips : net.addresses h.url.hostname h.checked = some ips) (hip : ip ∈ h.dialledIPs net) :
    ip ∈ ips := by
  unfold NetLib.addresses at hips
  unfold Hop.dialledIPs at hip
  rw [hs.name] at hip
  cases ha : net.parseIP h.url.hostname with
  | some =>
    simp only [ha, Option.some.injEq] at hip hips
    exact hips ▸ hip
  | none =>
    simp only [ha, NetLib.lookupIP] at hip hips
    split_ifs at hip hips
    cases hz : net.parseZoned h.url.hostname with
    | some =>
      simp only [hz, Option.some.injEq] at hip hips
      exact hips ▸ hip
    | none =>
      simp only [hz] at hip hips
      have := hs.answers ip hip
      rwa [hips] at this

theorem Hop.Settled.permitted (hs : h.Settled net)
    (hon : p.enableSSRFProtection = true) (hprivate : p.allowPrivateIp = false)
    (hfilter : p.applyIPFilterForDomain = true)
    (hok : validateURL net p h.url h.checked = .ok ()) {c : Connection} (hc : c ∈ h.dial net) :
    c.Permitted net p := by
  obtain ⟨ports, n, ips, hports, hn, hallowed, hips, hall⟩ := validateURL_ok hon hfilter hok
  unfold Hop.dial at hc
  split_ifs at hc
  · cases hc
  obtain ⟨ip, hip, rfl⟩ := mem_map.mp hc
  obtain ⟨i, -, hi⟩ := mem_filterMap.mp hip
  have hchecked : ip ∈ ips := hs.mem_addresses hips (mem_of_getElem? hi)
  have hip := hall ip hchecked
  refine ⟨by_contra fun hno => ?_, ports, hports, ?_⟩
  · simp [isIPAccessAllowed, hprivate, hno] at hip
  rw [hs.dialledPort_eq hn]
  exact hallowed

/-- **A fetch whose hops are settled opens permitted connections only**, whatever the URLs and
however long the chain. -/
theorem fetch_connections_permitted {hops : List Hop} {via : Nat}
    (hon : p.enableSSRFProtection = true) (hprivate : p.allowPrivateIp = false)
    (hfilter : p.applyIPFilterForDomain = true) (hs : ∀ h ∈ hops, h.Settled net) :
    ∀ c ∈ doDownloadRequest net p via hops, c.Permitted net p := by
  induction hops generalizing via with
  | nil => simp [doDownloadRequest]
  | cons h _ ih =>
    intro c hc
    unfold doDownloadRequest at hc
    split at hc
    · cases hc
    rename_i hok
    split_ifs at hc
    · cases hc
    rcases mem_append.mp hc with hc | hc
    · exact (hs h (by simp)).permitted hon hprivate hfilter hok hc
    · exact ih (fun h' hh => hs h' (by simp [hh])) c hc

/-- The library functions at the texts of the runs below. -/
def sampleNet : NetLib where
  parseIP s := if s = "2001:4860:4860::8888" then some ⟨0x20014860486000000000000000008888⟩
    else none
  parseZoned _ := none
  parseCIDR _ := none
  atoi s := [("80", 80), ("443", 443), ("8080", 8080), ("8443", 8443)].lookup s
  toASCII := id

/-- A page that redirects to another host, both answered as before when dialled. -/
theorem fetch_connections_permitted_redirect :
    let a := IP.ofV4 0x5db8d822
    let b := IP.ofV4 0x08080808
    let hops : List Hop :=
      [{ url := ⟨"https", "example.com", false, .absent⟩, checked := some [a, b],
         dialled := some [b, a], tried := [1, 0] },
       { url := ⟨"http", "example.org", false, .number 8080⟩, checked := some [a],
         dialled := some [a] }]
    doDownloadRequest sampleNet {} 0 hops = [⟨a, 443⟩, ⟨b, 443⟩, ⟨a, 8080⟩] ∧
      ∀ c ∈ doDownloadRequest sampleNet {} 0 hops, c.Permitted sampleNet {} := by
  refine ⟨by decide +kernel, fetch_connections_permitted rfl rfl rfl fun h hh => ?_⟩
  simp only [mem_cons, not_mem_nil, or_false] at hh
  rcases hh with rfl | rfl
  all_goals exact ⟨rfl, by decide +kernel, fun _ hcolon => absurd hcolon (by decide +kernel)⟩

/-- By default a host that resolves to a public address when it is checked and to a private one when
it is dialled is connected to, and a port outside the list is dialled behind an address without
brackets. -/
theorem fetch_connects_to_private_or_port :
    (∃ h : Hop, ∃ c ∈ doDownloadRequest sampleNet {} 0 [h], isPrivateIP c.ip = true) ∧
      ∃ h : Hop, ∃ c ∈ doDownloadRequest sampleNet {} 0 [h],
        parsePortRanges sampleNet ({} : FetchSetting).allowedPorts = .ok [80, 443, 8080, 8443] ∧
          isAllowedPort [80, 443, 8080, 8443] c.port = false := by
  refine ⟨⟨{ url := ⟨"http", "rebind.example", false, .absent⟩
             checked := some [IP.ofV4 0x08080808]
             dialled := some [IP.ofV4 0x7f000001] },
    ⟨IP.ofV4 0x7f000001, 80⟩, by decide +kernel, by decide +kernel⟩,
    { url := ⟨"http", "2001:4860:4860::8888", false, .number 6379⟩ },
    ⟨⟨0x20014860486000000000000000008888⟩, 6379⟩, by decide +kernel, ?_, by decide +kernel⟩
  with_unfolding_all rfl

end ApiGateway
