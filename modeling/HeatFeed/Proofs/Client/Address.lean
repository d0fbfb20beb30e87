import HeatFeed.Backend
import HeatFeed.Proofs.Client.Call
import HeatFeed.Proofs.Config
import HeatFeed.Proofs.Http.Url

/-!
# Addresses and URLs

Where calls go. A URL of the web is requested as it is, and all else is put below the address of the
client, with one slash between them. Such a URL has the scheme and the host part of the address,
whatever it is made of, and is read with the same credentials, host and port: nothing that a caller
gives as a path leads to another host, unless the address has none. The resources of the interface
are found by putting their paths behind the address as it stands. So both ways give the same URL iff
the address does not end with a slash.
-/

namespace HeatFeed.Client

open Http Text

/-! ### URLs of the web -/

theorem isPrefixOf_iff {start text : String} :
    start.isPrefixOf text = true ↔ ∃ rest, text = start ++ rest := by
  rw [String.isPrefixOf, String.startsWith_string_iff]
  constructor
  · rintro ⟨rest, split⟩
    refine ⟨String.ofList rest, ?_⟩
    rw [← String.toList_inj, ← split, String.toList_append, String.toList_ofList]
  · rintro ⟨rest, rfl⟩
    exact ⟨rest.toList, String.toList_append.symm⟩

theorem isAbsolute_iff {url : String} : isAbsolute url = true ↔ IsWeb url := by
  rw [isAbsolute, Bool.or_eq_true, isPrefixOf_iff, isPrefixOf_iff]
  constructor
  · rintro (⟨rest, rfl⟩ | ⟨rest, rfl⟩)
    · exact ⟨"http", rest, .inl rfl, rfl⟩
    · exact ⟨"https", rest, .inr rfl, rfl⟩
  · rintro ⟨_, rest, rfl | rfl, rfl⟩
    · exact .inl ⟨rest, rfl⟩
    · exact .inr ⟨rest, rfl⟩

/-! ### URLs of calls -/

theorem resolve_of_web {url : String} (h : IsWeb url) (c : Client) : c.resolve url = url :=
  if_pos (isAbsolute_iff.2 h)

theorem resolve_of_not_web {url : String} (h : ¬IsWeb url) (c : Client) :
    c.resolve url = trimEndSlashes c.address ++ "/" ++ trimStartSlashes url :=
  if_neg (mt isAbsolute_iff.1 h)

theorem resolve_below {c : Client} {url base : String} (stripped : EndStripped c.address base)
    (relative : ¬IsWeb url) : c.resolve url = base ++ ("/" ++ trimStartSlashes url) := by
  rw [resolve_of_not_web relative, ← endStripped_iff.1 stripped, String.append_assoc]

theorem not_isWeb_of_slash (text : String) : ¬IsWeb ("/" ++ text) := by
  intro web
  simpa using web.first

theorem not_isWeb_slashes {url : String} (h : ¬IsWeb url) : ∀ n, ¬IsWeb (slashes n ++ url)
  | 0 => by rwa [show slashes 0 ++ url = url from String.empty_append]
  | n + 1 => by
    intro web
    simpa [List.replicate_succ] using web.first

/-- Whatever is asked for below an address whose host can be read, all that is read of the URL
before its path is the same. -/
theorem root_resolve {c : Client} {url base scheme host : String}
    (stripped : EndStripped c.address base) (relative : ¬IsWeb url)
    (h : HasHost base scheme host) (named : host.toList.filter Url.isRead ≠ []) :
    (Url.ofText (c.resolve url)).map Url.root = (Url.ofText (base ++ "/")).map Url.root := by
  have below : ∀ path, (Url.ofText (base ++ ("/" ++ path))).map Url.root =
      (Url.readAuthority scheme (host.toList.filter Url.isRead) []).map Url.root := by
    intro path
    refine Url.root_ofText (h.below path) named ?_
    obtain ⟨rest, rfl, -⟩ := h.split
    intro same
    simpa using congrArg (fun text => text.toList.length) same
  have bare := below ""
  rw [String.append_empty] at bare
  rw [resolve_below stripped relative, below, bare]

/-- A URL of the web is requested as it is, and all else below the address: there is one slash in
the place of those at the end of the address and at the start of the rest, however many these are.
Where the address is one of the web, the result has its scheme and host part, whatever the rest is,
and is requested as it is. If there is anything to read in the host part, the result is also read
with the credentials, the host and the port of the address, or is as unreadable. -/
theorem resolve_outcome (c : Client) (url : String) :
    (IsWeb url → c.resolve url = url) ∧
    (¬IsWeb url → ∃ base path, EndStripped c.address base ∧ StartStripped url path ∧
      c.resolve url = base ++ "/" ++ path) ∧
    (∀ n, resolve ⟨c.address ++ slashes n⟩ url = c.resolve url) ∧
    (¬IsWeb url → ∀ n, c.resolve (slashes n ++ url) = c.resolve url) ∧
    ∀ base, EndStripped c.address base → IsWeb base → ¬IsWeb url →
      (∃ scheme host, HasHost c.address scheme host) ∧
      (∀ scheme host, HasHost (c.resolve url) scheme host ↔ HasHost c.address scheme host) ∧
      c.resolve (c.resolve url) = c.resolve url ∧
      ∀ scheme host, HasHost base scheme host → host.toList.filter Url.isRead ≠ [] →
        (Url.ofText (c.resolve url)).map Url.root = (Url.ofText (base ++ "/")).map Url.root := by
  refine ⟨fun web => resolve_of_web web c, fun relative => ?_, fun n => ?_, fun relative n => ?_,
    fun base stripped web relative => ?_⟩
  · exact ⟨_, _, endStripped_trimEndSlashes c.address, startStripped_trimStartSlashes url,
      resolve_of_not_web relative c⟩
  · by_cases web : IsWeb url
    · rw [resolve_of_web web, resolve_of_web web]
    · rw [resolve_of_not_web web, resolve_of_not_web web, trimEndSlashes_append]
  · rw [resolve_of_not_web relative, resolve_of_not_web (not_isWeb_slashes relative n),
      trimStartSlashes_append]
  · have below := resolve_below stripped relative
    obtain ⟨n, address⟩ := stripped.behind
    obtain ⟨scheme, host, has⟩ := exists_host web
    have ofAddress : HasHost c.address scheme host := by
      rw [address]
      refine has.append fun d mem => ?_
      rw [eq_of_beq (isSlash_of_mem_slashes d (List.mem_of_mem_head? mem))]
      rfl
    have ofUrl : HasHost (c.resolve url) scheme host := by
      rw [below]
      exact has.below _
    refine ⟨⟨scheme, host, ofAddress⟩, fun scheme' host' => ?_, ?_,
      fun _ _ => root_resolve stripped relative⟩
    · constructor
      · intro h
        obtain ⟨rfl, rfl⟩ := h.unique ofUrl
        exact ofAddress
      · intro h
        obtain ⟨rfl, rfl⟩ := h.unique ofAddress
        exact ofUrl
    · refine resolve_of_web ?_ c
      rw [below]
      exact web.append _

/-- Neither the slashes around it nor the host that a path seems to start with matter. -/
theorem resolve_outcome_slashes :
    let c : Client := ⟨"http://h//"⟩
    EndStripped c.address "http://h" ∧ IsWeb "http://h" ∧ ¬IsWeb "//other/x" ∧
    HasHost (c.resolve "//other/x") "http" "h" ∧ ¬HasHost (c.resolve "//other/x") "http" "other" ∧
    (Url.ofText (c.resolve "//other/x")).map Url.root = (Url.ofText "http://h/").map Url.root := by
  intro c
  have stripped : EndStripped c.address "http://h" := ⟨⟨2, rfl⟩, by decide⟩
  have web : IsWeb "http://h" := ⟨"http", "h", .inl rfl, rfl⟩
  have relative : ¬IsWeb "//other/x" := not_isWeb_of_slash "/other/x"
  have base : HasHost "http://h" "http" "h" :=
    ⟨.inl rfl, by simp [endsHost], "", rfl, by simp⟩
  have has : HasHost c.address "http" "h" :=
    ⟨.inl rfl, by simp [endsHost], "//", rfl, by simp [endsHost]⟩
  obtain ⟨-, -, -, -, kept⟩ := resolve_outcome c "//other/x"
  obtain ⟨-, same, -, read⟩ := kept "http://h" stripped web relative
  have ofUrl := (same "http" "h").2 has
  exact ⟨stripped, web, relative, ofUrl, fun other => by simpa using (ofUrl.unique other).2,
    read "http" "h" base (by decide)⟩

/-- An address without a host takes it from what is put below. -/
example : (Url.ofText (resolve ⟨"http://\\"⟩ "[::1]/x")).map Url.host =
    Url.readHost true "[::1]".toList := by
  decide +kernel

/-! ### Resources of the interface -/

theorem resolve_api (c : Client) (path : String) :
    c.resolve ("/api/" ++ path) = trimEndSlashes c.address ++ "/api/" ++ path := by
  have slashed : "/api/" ++ path = slashes 1 ++ ("api/" ++ path) := by
    rw [← String.append_assoc]
    rfl
  have bare : ("api/" ++ path).toList.head? ≠ some '/' := by simp
  have relative : ¬IsWeb ("/api/" ++ path) := by
    rw [slashed]
    exact not_isWeb_of_slash _
  rw [resolve_of_not_web relative, slashed, trimStartSlashes_append,
    trimStartSlashes_of_first bare, String.append_assoc, String.append_assoc,
    ← @String.append_assoc "/" "api/" path]
  rfl

/-- A snapshot and a health check are asked for at the URL of their resource, and an authenticated
call at the URL that its path resolves to. For the path of a resource both are what the address is
without the slashes at its end, these slashes in the first case only, and the path. So they are the
same iff there are no such slashes, and they always are for the address of a configuration. -/
theorem same_url_iff {σ : Type} (network : Network σ) (s : σ) (c : Client) (o : RequestOptions)
    {token : Option String} (h : ∀ t, token = some t → Sendable t) :
    (c.getHeatmap.run network s).1.attempted.map Request.url = [c.apiUrl heatmapPath] ∧
    (c.healthCheck.run network s).1.attempted.map Request.url = [c.apiUrl "health_check"] ∧
    (∀ url, ((c.request url o token).run network s).1.attempted.map Request.url =
      [c.resolve url]) ∧
    (∃ base n, c.address = base ++ slashes n ∧ base.toList.getLast? ≠ some '/' ∧ ∀ path,
      c.apiUrl path = base ++ slashes n ++ "/api/" ++ path ∧
      c.resolve ("/api/" ++ path) = base ++ "/api/" ++ path ∧
      (c.apiUrl path = c.resolve ("/api/" ++ path) ↔ n = 0)) ∧
    ∀ lookup cfg, Config.ofLookup lookup = .ok cfg → c.address = cfg.backendUrl →
      ∀ path, c.apiUrl path = c.resolve ("/api/" ++ path) := by
  refine ⟨?_, ?_, fun url => ?_, ?_, fun lookup cfg ok given path => ?_⟩
  · rw [getHeatmap, run_getResource]
    rfl
  · rw [healthCheck, run_getResource]
    rfl
  · rw [run_of_sendable network s h]
    rfl
  · obtain ⟨⟨n, address⟩, bare⟩ := endStripped_trimEndSlashes c.address
    refine ⟨_, n, address, bare, fun path => ?_⟩
    have found : c.apiUrl path = trimEndSlashes c.address ++ slashes n ++ "/api/" ++ path := by
      rw [← address, apiUrl]
    refine ⟨found, resolve_api c path, ?_⟩
    rw [found, resolve_api]
    constructor
    · intro same
      have lengths := congrArg (fun text => text.toList.length) same
      simp only [String.toList_append, List.length_append, toList_slashes,
        List.length_replicate] at lengths
      omega
    · rintro rfl
      rw [show trimEndSlashes c.address ++ slashes 0 = _ from String.append_empty]
  · rw [resolve_api, given, trimEndSlashes_of_last (Config.last_backendUrl ok), apiUrl, given]

/-- With the address of a configuration, heatmaps and sessions are asked for at one host. -/
theorem same_url_iff_configured :
    let c : Client := ⟨"http://h"⟩
    let network := (Link.up.transport ⟨⟨200⟩, []⟩).network
    Config.ofLookup (Config.addressed "http://h//") =
      .ok ⟨"http://h", Config.defaultRefresh, none⟩ ∧ Sendable "abc123" ∧
      (c.healthCheck.run network ()).1.attempted.map Request.url =
        ((c.request "/api/health_check" .get (some "abc123")).run network ()).1.attempted.map
          Request.url := by
  intro c network
  have ok : Config.ofLookup (Config.addressed "http://h//") =
      .ok ⟨"http://h", Config.defaultRefresh, none⟩ := by cbv
  have sendable : Sendable "abc123" := by decide
  obtain ⟨-, health, call, -, agree⟩ :=
    same_url_iff network () c .get (sendable_of_some sendable)
  refine ⟨ok, sendable, ?_⟩
  rw [health, call, agree _ _ ok rfl]
  rfl

/-- With a slash at the end of the address a backend is asked for two URLs: it knows that of the
session check and does not know that of the health check. -/
theorem same_path_two_urls :
    let c : Client := ⟨"http://[::1]:8000/"⟩
    let m : Backend.Remote := ⟨.fresh ⟨200, "", 0⟩, .utf8, .up⟩
    c.apiUrl "health_check" = "http://[::1]:8000//api/health_check" ∧
    c.resolve "/api/health_check" = "http://[::1]:8000/api/health_check" ∧
    Backend.hasStatus (m.call c.healthCheck).1.result 404 = true ∧
    (m.call (c.request "/api/health_check" .get none)).1.result.toOption =
      some ⟨.ok, Utf8.bytes "healthy"⟩ := by
  decide +kernel

end HeatFeed.Client
