import ProxySync.Config.Basic
import ProxySync.Proofs.DataPlane.Naming
import ProxySync.Proofs.Net.TrailingSlashes
/-!
# Which host is contacted

The configured address is checked as a URL, and a client is made of it by its text: where that does
not begin with `http://` or `https://`, letter by letter, it is taken for a host. So requests go
where the URL says if its scheme is written in lower case, and if its slashes at the end follow
upon what it says. A scheme with a capital in it, which is the same scheme, is contacted as if it
were the host.

## Main definitions

* `Client.Contacts`: requests go to the scheme, host and port of a URL, below its path.

## Main statements

* `Host.domain_letters`: letters are the host that they spell in lower case.
* `Config.contacted`: which addresses are contacted, and what becomes of the others.
-/
namespace ProxySync

namespace Net
open Json (takeWhile_append_of_stop)
variable {letters : List Char}

/-! ## Hosts of letters -/

/-- What holds of the letters of ASCII one by one holds of every letter. -/
theorem forall_isAlpha {P : Char → Prop}
    (h : ∀ n : Fin 128, (Char.ofNat n).isAlpha = true → P (Char.ofNat n)) {c : Char}
    (hc : c.isAlpha = true) : P c := by
  have hrange := Url.isAlpha_iff.1 hc
  have hsame : Char.ofNat c.toNat = c := Char.ofNat_toNat c
  have hone := h ⟨c.toNat, by omega⟩
  rw [hsame] at hone
  exact hone hc

theorem isAlpha_of_toLower {c : Char} (h : c.toLower.isAlpha = true) : c.isAlpha = true := by
  by_cases hupper : c.val ≥ 'A'.val ∧ c.val ≤ 'Z'.val
  · rw [Url.isAlpha_iff]
    simp only [ge_iff_le, UInt32.le_iff_toNat_le] at hupper
    exact .inl hupper
  · have hsame : c.toLower = c := dif_neg hupper
    rwa [hsame] at h

/-- Letters are one label of a domain name. -/
theorem Domain.Name.ascii?_letters (hne : letters ≠ [])
    (halpha : ∀ c ∈ letters, c.isAlpha = true) :
    ascii? letters = some [letters.map Char.toLower] := by
  obtain ⟨first, rest, rfl⟩ := List.exists_cons_of_ne_nil hne
  have hlabels : labels ((first :: rest).map Char.toLower) =
      [(first :: rest).map Char.toLower] := by
    refine Text.pieces_of_uncut fun c hc => ?_
    obtain ⟨x, hx, rfl⟩ := List.mem_map.1 hc
    exact forall_isAlpha (P := fun c => (c.toLower == '.') = false) (by decide) (halpha x hx)
  have hascii : (first :: rest).all isAscii = true := List.all_eq_true.2 fun c hc =>
    forall_isAlpha (P := fun c => isAscii c = true) (by decide) (halpha c hc)
  have hencoded : isEncoded ((first :: rest).map Char.toLower) = false := by
    have hdash : '-' ∉ (first :: rest).map Char.toLower := by
      intro hmem
      obtain ⟨x, hx, hdash⟩ := List.mem_map.1 hmem
      exact forall_isAlpha (P := fun c => c.toLower ≠ '-') (by decide) (halpha x hx) hdash
    rw [isEncoded, Bool.eq_false_iff, ne_eq, List.isPrefixOf_iff_prefix]
    exact fun hbegins => hdash (hbegins.subset (by decide))
  have hforbidden : (first :: rest).any isForbidden = false := List.any_eq_false.2 fun c hc =>
    forall_isAlpha (P := fun c => ¬ isForbidden c = true) (by decide) (halpha c hc)
  simp only [ascii?, hlabels, hascii, List.any_cons, List.any_nil, hencoded, Bool.or_false,
    Bool.not_false, Bool.and_self, if_true] at hforbidden ⊢
  rw [hforbidden]
  rfl

/-- Letters are the host that they spell in lower case. -/
theorem Host.domain_letters (hne : letters ≠ []) (halpha : ∀ c ∈ letters, c.isAlpha = true) :
    Host.domain letters = .ok (String.ofList (letters.map Char.toLower)) := by
  obtain ⟨first, rest, rfl⟩ := List.exists_cons_of_ne_nil hne
  have hfirst := halpha first List.mem_cons_self
  have hpercent : '%' ∉ first :: rest := fun hmem => by
    have hnot := halpha _ hmem
    revert hnot
    decide
  have hbracket : first ≠ '[' := by
    rintro rfl
    revert hfirst
    decide
  have hnumber : endsInNumber [(first :: rest).map Char.toLower] = false := by
    have hdigit : first.toLower.isDigit = false :=
      forall_isAlpha (P := fun c => c.toLower.isDigit = false) (by decide) hfirst
    have hzero : first.toLower ≠ '0' :=
      forall_isAlpha (P := fun c => c.toLower ≠ '0') (by decide) hfirst
    simp only [endsInNumber, List.getLast?_singleton, List.length_singleton, Nat.lt_irrefl,
      decide_false, Bool.and_false, Bool.false_eq_true, if_false, List.map_cons, List.all_cons,
      hdigit, Bool.false_and, Bool.false_or]
    split
    · rename_i hcons
      exact absurd (List.cons.inj hcons).1 hzero
    · rfl
  rw [Host.domain.eq_def]
  simp only [Percent.decode?_of_not_mem hpercent, Option.bind_some, String.toList_ofList,
    Domain.Name.ascii?_letters hne halpha]
  split
  · rename_i hcons
    exact absurd (List.cons.inj hcons).1 hbracket
  · simp only [List.map_cons] at hnumber ⊢
    rw [hnumber]
    simp

namespace Url

/-- Names are written behind any front as they are behind the area. -/
theorem foldl_pushSegment_append (front : List String) {ss : List String} (names : List String)
    (h : 1 < ss.length) :
    names.foldl pushSegment (front ++ ss) = front ++ names.foldl pushSegment ss := by
  induction names generalizing ss with
  | nil => rfl
  | cons n names ih =>
    have hne : ss ≠ [] := by
      rintro rfl
      simp at h
    have hne' : ss ≠ [""] := by
      rintro rfl
      simp at h
    rw [List.foldl_cons, List.foldl_cons, pushSegment_append front n hne hne']
    refine ih ?_
    rcases pushSegment_cases n hne' with heq | heq | heq | heq
    · rwa [heq]
    all_goals
      rw [heq, List.length_append]
      simp
      omega

/-! ## Addresses taken for a host -/

/-- Two texts of letters before a colon are the same if what they begin is. -/
theorem letters_inj {letters' rest rest' : List Char} (halpha : ∀ c ∈ letters, c.isAlpha = true)
    (halpha' : ∀ c ∈ letters', c.isAlpha = true)
    (h : letters ++ ':' :: rest = letters' ++ ':' :: rest') : letters = letters' := by
  have hfront {cs : List Char} (hcs : ∀ c ∈ cs, c.isAlpha = true) (tail : List Char) :
      (cs ++ ':' :: tail).takeWhile Char.isAlpha = cs := by
    rw [List.takeWhile_append_of_pos hcs]
    simp
  rw [← hfront halpha rest, h, hfront halpha']

theorem spanHost_letters (halpha : ∀ c ∈ letters, c.isAlpha = true) :
    spanHost false (letters ++ [':']) = (letters, [':']) := by
  induction letters with
  | nil => rfl
  | cons c letters ih =>
    obtain ⟨hc, hletters⟩ := List.forall_mem_cons.1 halpha
    have hplain := forall_isAlpha (P := fun c => c ≠ ':' ∧ c ≠ '[' ∧ c ≠ ']') (by decide) hc
    simp [spanHost, hplain, ih hletters]

/-- Letters before a colon and a path are read as the host, and no port. -/
theorem readAuthority_letters {scheme : String} (hspecial : isSpecial scheme = true)
    (hne : letters ≠ []) (halpha : ∀ c ∈ letters, c.isAlpha = true) {tail : List Char}
    (htail : ∀ c ∈ tail.head?, c = '/') :
    ∃ u : Url, readAuthority scheme (letters ++ ':' :: tail) = .ok u ∧ u.scheme = scheme ∧
      u.host = some (String.ofList (letters.map Char.toLower)) ∧ u.port = none := by
  have hcut : ∀ c ∈ letters ++ [':'], (! endsAuthority true c) = true := by
    refine List.forall_mem_append.2 ⟨fun c hc => ?_, by simp [endsAuthority, isSlash]⟩
    exact forall_isAlpha (P := fun c => (! endsAuthority true c) = true) (by decide) (halpha c hc)
  obtain ⟨htake, hdrop⟩ := takeWhile_append_of_stop (p := (! endsAuthority true ·))
    (letters ++ [':']) fun c (hc : c ∈ tail.head?) => by
      rw [htail c hc]
      rfl
  rw [List.takeWhile_eq_self_iff.2 hcut] at htake
  rw [List.dropWhile_eq_nil_iff.2 hcut, List.nil_append] at hdrop
  have hat : splitUserinfo (letters ++ [':']) = none := by
    refine if_neg fun hmem => ?_
    rcases List.mem_append.1 hmem with hmem | hmem
    · exact absurd (halpha _ hmem) (by decide)
    · exact absurd (List.mem_singleton.1 hmem) (by decide)
  have hhost : String.ofList (letters.map Char.toLower) ≠ "" := fun hempty =>
    hne (List.map_eq_nil_iff.1 (String.ofList_injective hempty))
  let u : Url :=
    { scheme, username := "", password := ""
      host := some (String.ofList (letters.map Char.toLower)), port := none
      path := readPath true (tail.takeWhile (! beginsTail ·))
      query := (readTail true (tail.dropWhile (! beginsTail ·))).1
      fragment := (readTail true (tail.dropWhile (! beginsTail ·))).2 }
  refine ⟨u, (readAuthority_eq_ok_iff hspecial).2
    ⟨String.ofList (letters.map Char.toLower), none, ?_⟩, rfl, rfl, rfl⟩
  rw [List.append_cons]
  simp only [htake, hdrop, hat, Option.any_none, Option.map_none, Option.getD_none,
    spanHost_letters halpha]
  exact ⟨rfl, hne, Host.domain_letters hne halpha, by simp [hhost], rfl, rfl⟩

/-- One of the two schemes of an address that a client is made of. -/
def IsWeb (scheme : String) : Prop := scheme = "http" ∨ scheme = "https"

theorem IsWeb.isAlpha {scheme : String} (h : IsWeb scheme) :
    ∀ c ∈ scheme.toList, c.isAlpha = true := by
  rcases h with rfl | rfl <;> exact List.all_eq_true.1 (by decide)

theorem IsWeb.ne_nil {scheme : String} (h : IsWeb scheme) : scheme.toList ≠ [] := by
  rcases h with rfl | rfl <;> decide

theorem IsWeb.toLower {scheme : String} (h : IsWeb scheme) :
    String.ofList (scheme.toList.map Char.toLower) = scheme := by
  rcases h with rfl | rfl <;> decide

theorem IsWeb.isSpecial {scheme : String} (h : IsWeb scheme) :
    Url.isSpecial scheme = true ∧ scheme ≠ "file" := by
  rcases h with rfl | rfl <;> decide

/-- Behind `http://`, letters before a colon and a path are the host. -/
theorem parse_http_letters {s : String} (hne : letters ≠ [])
    (halpha : ∀ c ∈ letters, c.isAlpha = true) {tail : List Char}
    (htail : ∀ c ∈ tail.head?, c = '/')
    (hs : s.toList = "http".toList ++ ':' :: '/' :: '/' :: (letters ++ ':' :: tail)) :
    ∃ u : Url, parse s = .ok u ∧ u.scheme = "http" ∧
      u.host = some (String.ofList (letters.map Char.toLower)) ∧ u.port = none := by
  have hcounted : counted (('/' :: '/' :: (letters ++ ':' :: tail)).rdropWhile isEdge) =
      '/' :: '/' :: (letters ++ ':' :: counted (tail.rdropWhile isEdge)) := by
    have hdrop : ('/' :: '/' :: (letters ++ ':' :: tail)).rdropWhile isEdge =
        '/' :: '/' :: letters ++ ':' :: tail.rdropWhile isEdge :=
      rdropWhile_append_cons (by decide) ('/' :: '/' :: letters) tail
    have hslashes : counted ['/', '/'] = ['/', '/'] := by decide
    rw [hdrop, counted_append, show '/' :: '/' :: letters = ['/', '/'] ++ letters from rfl,
      counted_append, counted_letters halpha, hslashes]
    rfl
  have hslashes : ('/' :: '/' :: (letters ++ ':' :: counted (tail.rdropWhile isEdge))).dropWhile
      (isSlash true) = letters ++ ':' :: counted (tail.rdropWhile isEdge) := by
    obtain ⟨c, cs, rfl⟩ := List.exists_cons_of_ne_nil hne
    have hc := forall_isAlpha (P := fun c => isSlash true c = false) (by decide)
      (halpha c List.mem_cons_self)
    have hslash : isSlash true '/' = true := by decide
    rw [List.dropWhile_cons_of_pos hslash, List.dropWhile_cons_of_pos hslash, List.cons_append,
      List.dropWhile_cons_of_neg (by rw [hc]; exact Bool.false_ne_true)]
  have hhead : ∀ c ∈ (counted (tail.rdropWhile isEdge)).head?, c = '/' := by
    cases tail with
    | nil => nofun
    | cons c tail =>
      obtain rfl : c = '/' := htail c rfl
      rw [show ('/' :: tail).rdropWhile isEdge = '/' :: tail.rdropWhile isEdge from
        rdropWhile_append_cons (by decide) [] tail]
      rintro c ⟨⟩
      rfl
  have hweb : IsWeb "http" := .inl rfl
  rw [parse_letters hs hweb.ne_nil hweb.isAlpha hweb.toLower hweb.isSpecial, hcounted, hslashes]
  exact readAuthority_letters hweb.isSpecial.1 hne halpha hhead

end Url
end Net

namespace DataPlane
open Net Net.Url

/-! ## Where requests go -/

namespace Client
variable {c : Client}

/-- Every request goes to the scheme, host and port of a URL, to the path of its place in the API
behind that of the URL without the slashes at its end. -/
structure Contacts (c : Client) (u : Url) : Prop where
  server : ∀ r : Request, (c.wire r).url.scheme = u.scheme ∧ (c.wire r).url.host = u.host ∧
    (c.wire r).url.port = u.port
  path : ∃ ss, u.path = .segments ss ∧ ∀ r : Request, (c.wire r).url.path =
    .segments (trimSegments ss ++ r.endpoint.segments.foldl pushSegment r.endpoint.area.path)

/-- Every request goes to the scheme, host and port of the base. -/
theorem server_wire (c : Client) (r : Request) : (c.wire r).url.scheme = c.base.scheme ∧
    (c.wire r).url.host = c.base.host ∧ (c.wire r).url.port = c.base.port := by
  have happend (u : Url) (api : List String) : (u.appendPath api).scheme = u.scheme ∧
      (u.appendPath api).host = u.host ∧ (u.appendPath api).port = u.port := by
    rw [appendPath]
    split <;> exact ⟨rfl, rfl, rfl⟩
  have hsegments (u : Url) (names : List String) : (u.withSegments names).scheme = u.scheme ∧
      (u.withSegments names).host = u.host ∧ (u.withSegments names).port = u.port := by
    rw [withSegments.eq_def]
    split <;> exact ⟨rfl, rfl, rfl⟩
  have hpairs (u : Url) (pairs : List (String × String)) : (u.withPairs pairs).scheme = u.scheme ∧
      (u.withPairs pairs).host = u.host ∧ (u.withPairs pairs).port = u.port := by
    rw [withPairs]
    split <;> exact ⟨rfl, rfl, rfl⟩
  simp only [wire, address, hpairs, hsegments, happend, and_self]

/-- A client contacts the URL that its base is but for empty segments at the end of the path. -/
theorem contacts_of_base {u : Url} {ss ss' : List String} (hpath : u.path = .segments ss)
    (hbase : c.base = { u with path := .segments ss' }) (htrim : trimSegments ss' = trimSegments ss)
    (hquery : u.query = none) (hfragment : u.fragment = none) : c.Contacts u where
  server r := by
    have hserver := c.server_wire r
    rwa [hbase] at hserver
  path := by
    refine ⟨ss, hpath, fun r => ?_⟩
    have hlen : 1 < r.endpoint.area.path.length := by cases r.endpoint.area <;> decide
    have hsegments : c.base.path = .segments ss' := by rw [hbase]
    have haddress := path_address (by rw [hbase]; exact hquery) (by rw [hbase]; exact hfragment)
      hsegments r.endpoint
    rw [wire, haddress, htrim, foldl_pushSegment_append _ _ hlen]

/-- An address that does not begin with one of the two web schemes in lower case is taken for a
host. -/
theorem baseText_of_letters {s : String} {letters rest : List Char}
    (hs : s.toList = letters ++ ':' :: rest) (halpha : ∀ c ∈ letters, c.isAlpha = true)
    (hhttp : letters ≠ "http".toList) (hhttps : letters ≠ "https".toList) :
    baseText s = "http://" ++ trimSlashes s := by
  have hbegins {front : String} (hfront : ∀ c ∈ front.toList, c.isAlpha = true)
      (hne : letters ≠ front.toList) :
      (front.toList ++ "://".toList).isPrefixOf s.toList = false := by
    rw [Bool.eq_false_iff, ne_eq, List.isPrefixOf_iff_prefix]
    rintro ⟨tail, htail⟩
    rw [hs, List.append_assoc] at htail
    exact hne (letters_inj halpha hfront htail.symm)
  have hno : "http://".toList.isPrefixOf s.toList = false :=
    hbegins (IsWeb.isAlpha (.inl rfl)) hhttp
  have hnos : "https://".toList.isPrefixOf s.toList = false :=
    hbegins (IsWeb.isAlpha (.inr rfl)) hhttps
  rw [baseText]
  simp only [hno, hnos, Bool.or_self, Bool.false_eq_true, if_false]

end Client
end DataPlane

namespace Config
open Net Net.Url DataPlane
variable {cfg : Config}

/-- Where the configured address is written with its scheme in lower case, the URL that the client
is made of is the configured one without the slashes at its end. -/
theorem contacts_of_written {u : Url} (hu : parse cfg.apiUrl = .ok u) (hweb : IsWeb u.scheme)
    (hquery : u.query = none) (hfragment : u.fragment = none) {rest : String}
    (hwritten : cfg.apiUrl = u.scheme ++ "://" ++ rest) (hend : SlashesEnd cfg.apiUrl) :
    ∃ c, cfg.client = .ok c ∧ c.Contacts u := by
  have hs : cfg.apiUrl.toList = u.scheme.toList ++ ':' :: ('/' :: '/' :: rest.toList) := by
    rw [hwritten, String.toList_append, String.toList_append, List.append_assoc]
    rfl
  obtain ⟨ss, ss', hpath, hbase, htrim⟩ := parse_trimSlashes hs hweb.ne_nil hweb.isAlpha
    hweb.toLower hweb.isSpecial hend hu hquery hfragment
  have htext : Client.baseText cfg.apiUrl = trimSlashes cfg.apiUrl := by
    have hbegins : ("http://".toList.isPrefixOf cfg.apiUrl.toList ||
        "https://".toList.isPrefixOf cfg.apiUrl.toList) = true := by
      rw [hs, Bool.or_eq_true, List.isPrefixOf_iff_prefix, List.isPrefixOf_iff_prefix]
      exact hweb.imp (fun h => ⟨rest.toList, by rw [h]; rfl⟩) fun h => ⟨rest.toList, by rw [h]; rfl⟩
    exact if_pos hbegins
  have hclient : cfg.client = .ok
      { base := { u with path := .segments ss' }, user := cfg.apiUser, password := cfg.apiPassword
        timeoutMillis := cfg.apiTimeoutSecs * 1000, forceReload := cfg.forceReload
        jsonDetail := Client.maskedDetail } := by
    rw [client, Client.ofAddress, htext, hbase]
  exact ⟨_, hclient, Client.contacts_of_base hpath rfl htrim hquery hfragment⟩

/-- Where it is written with a capital in its scheme, the client is made of a URL that has the
scheme for a host. -/
theorem contacts_scheme {scheme rest : String} (hweb : IsWeb (scheme.map Char.toLower))
    (hcapital : scheme ≠ scheme.map Char.toLower)
    (hwritten : cfg.apiUrl = scheme ++ "://" ++ rest) :
    ∃ c, cfg.client = .ok c ∧ c.base.scheme = "http" ∧
      c.base.host = some (scheme.map Char.toLower) ∧ c.base.port = none := by
  have halpha : ∀ c ∈ scheme.toList, c.isAlpha = true := fun c hc =>
    isAlpha_of_toLower (hweb.isAlpha _ (by
      rw [String.toList_map]
      exact List.mem_map_of_mem hc))
  have hs : cfg.apiUrl.toList = scheme.toList ++ ':' :: ('/' :: '/' :: rest.toList) := by
    rw [hwritten, String.toList_append, String.toList_append, List.append_assoc]
    rfl
  have hne : scheme.toList ≠ [] := by
    intro hnil
    have hlower := hweb.ne_nil
    rw [String.toList_map, hnil] at hlower
    exact hlower rfl
  have hother {s : String} (hs : IsWeb s) : scheme.toList ≠ s.toList := by
    intro h
    obtain rfl := String.toList_inj.1 h
    have hsame := hs.toLower
    rw [← String.toList_map, String.ofList_toList] at hsame
    exact hcapital hsame.symm
  have htext : Client.baseText cfg.apiUrl = "http://" ++ trimSlashes cfg.apiUrl :=
    Client.baseText_of_letters hs halpha (hother (.inl rfl)) (hother (.inr rfl))
  have htrimmed : (trimSlashes cfg.apiUrl).toList = scheme.toList ++
      ':' :: ('/' :: '/' :: rest.toList).rdropWhile (· = '/') := by
    rw [toList_trimSlashes, hs, rdropWhile_append_cons (by decide)]
  have hhead : ∀ c ∈ (('/' :: '/' :: rest.toList).rdropWhile (· = '/')).head?, c = '/' := by
    intro c hc
    obtain ⟨tail, htail⟩ := List.rdropWhile_prefix (p := (· = '/')) (l := '/' :: '/' :: rest.toList)
    obtain ⟨front, hfront⟩ := List.head?_eq_some_iff.1 hc
    rw [hfront] at htail
    exact (List.cons.inj htail).1
  obtain ⟨u, hu, hscheme, hhost, hport⟩ := parse_http_letters hne halpha hhead
    (s := "http://" ++ trimSlashes cfg.apiUrl) (by rw [String.toList_append, htrimmed]; rfl)
  refine ⟨{ base := u, user := cfg.apiUser, password := cfg.apiPassword
            timeoutMillis := cfg.apiTimeoutSecs * 1000, forceReload := cfg.forceReload
            jsonDetail := Client.maskedDetail }, ?_,
    hscheme, ?_, hport⟩
  · rw [client, Client.ofAddress, htext, hu]
  · rw [hhost, ← String.toList_map, String.ofList_toList]

/-- Of an accepted address with one of the two web schemes, and neither query nor fragment: if its
scheme is written in lower case and its slashes at the end follow upon what it says, there is a
client and all its requests go to the URL. If the scheme is written with a capital, there is a
client whose requests all go to a host called like the scheme. -/
theorem contacted (cfg : Config) (hvalid : cfg.validate = .ok ()) :
    ∃ u, parse cfg.apiUrl = .ok u ∧
      (IsWeb u.scheme → u.query = none → u.fragment = none →
        ((∃ rest, cfg.apiUrl = u.scheme ++ "://" ++ rest) → SlashesEnd cfg.apiUrl →
          ∃ c, cfg.client = .ok c ∧ c.Contacts u) ∧
        ∀ scheme rest : String, cfg.apiUrl = scheme ++ "://" ++ rest →
          scheme.map Char.toLower = u.scheme → scheme ≠ u.scheme →
          ∃ c, cfg.client = .ok c ∧ ∀ r, (c.wire r).url.scheme = "http" ∧
            (c.wire r).url.host = some u.scheme ∧ (c.wire r).url.port = none) := by
  obtain ⟨u, hu⟩ : ∃ u, parse cfg.apiUrl = .ok u := by
    rw [validate] at hvalid
    split at hvalid
    · cases hvalid
    · exact ⟨_, by assumption⟩
  refine ⟨u, hu, fun hweb hquery hfragment =>
    ⟨fun ⟨rest, hwritten⟩ hend => contacts_of_written hu hweb hquery hfragment hwritten hend,
      fun scheme rest hwritten hlower hcapital => ?_⟩⟩
  rw [← hlower] at hweb hcapital
  obtain ⟨c, hc, hserver⟩ := contacts_scheme hweb hcapital hwritten
  refine ⟨c, hc, fun r => ?_⟩
  obtain ⟨hscheme, hhost, hport⟩ := c.server_wire r
  rw [hscheme, hhost, hport, ← hlower]
  exact hserver

/-- The configuration of an address. -/
def reaching (apiUrl : String) : Config where
  apiUrl := apiUrl
  apiUser := "admin"
  apiPassword := "secret"
  apiTimeoutSecs := 30
  forceReload := false
  watchNamespace := ""
  watchLabel := none
  metricsAddress := .v4 0 8080

/-- A URL of the web without a user, query and fragment. -/
def webUrl (host : String) (port : Nat) (path : List String) : Url where
  scheme := "http"
  username := ""
  password := ""
  host := host
  port := port
  path := .segments path
  query := none
  fragment := none

/-- Requests go to the host of an address with slashes at its end, and the same address with its
scheme in capitals has them go to a host called `http`. -/
theorem contacted_either :
    let cfg := reaching "http://haproxy.test:5555/api//"
    let cfg' := reaching "HTTP://haproxy.test:5555/api//"
    let u := webUrl "haproxy.test" 5555 ["api", "", ""]
    cfg.validate = .ok () ∧ cfg'.validate = .ok () ∧
      parse cfg.apiUrl = .ok u ∧ parse cfg'.apiUrl = .ok u ∧
      (∃ c, cfg.client = .ok c ∧ c.Contacts u) ∧
      ∃ c, cfg'.client = .ok c ∧ ∀ r, (c.wire r).url.host = some "http" := by
  intro cfg cfg' u
  have hvalid : cfg.validate = .ok () := by decide +kernel
  have hvalid' : cfg'.validate = .ok () := by decide +kernel
  have hu : parse cfg.apiUrl = .ok u := by decide +kernel
  have hu' : parse cfg'.apiUrl = .ok u := by decide +kernel
  obtain ⟨v, hv, h⟩ := contacted cfg hvalid
  obtain rfl : u = v := Except.ok.inj (hu.symm.trans hv)
  obtain ⟨v', hv', h'⟩ := contacted cfg' hvalid'
  obtain rfl : u = v' := Except.ok.inj (hu'.symm.trans hv')
  obtain ⟨c, hc, hserver⟩ := (h' (.inl rfl) rfl rfl).2 "HTTP" "haproxy.test:5555/api//" rfl
    (by decide +kernel) (by decide)
  exact ⟨hvalid, hvalid', hu, hu',
    (h (.inl rfl) rfl rfl).1 ⟨"haproxy.test:5555/api//", rfl⟩ (by decide +kernel),
    c, hc, fun r => (hserver r).2.1⟩

/-- The client of an address whose text is read as the base. -/
theorem client_reaching {apiUrl : String} {base : Url}
    (h : parse (Client.baseText apiUrl) = .ok base) :
    (reaching apiUrl).client = .ok
      { base, user := "admin", password := "secret", timeoutMillis := 30000
        forceReload := false, jsonDetail := Client.maskedDetail } := by
  rw [client, Client.ofAddress]
  simp only [reaching, h]

/-- Two accepted addresses of a web server without query and fragment whose clients do not contact
the URL they spell: one has its scheme in capitals, the other white space before its last slash. -/
theorem not_contacted :
    let capital := reaching "HTTP://haproxy.test:5555"
    let spaced := reaching "http://haproxy.test:5555/a /"
    let u := webUrl "haproxy.test" 5555 [""]
    let v := webUrl "haproxy.test" 5555 ["a%20", ""]
    (capital.validate = .ok () ∧ parse capital.apiUrl = .ok u ∧
      ∃ c, capital.client = .ok c ∧ ¬ c.Contacts u) ∧
    (spaced.validate = .ok () ∧ parse spaced.apiUrl = .ok v ∧
      ∃ c, spaced.client = .ok c ∧ ¬ c.Contacts v) := by
  intro capital spaced u v
  let r : Request := { method := .get, endpoint := ⟨.configuration, [], []⟩, body := none }
  constructor
  · have hbase : parse (Client.baseText "HTTP://haproxy.test:5555") =
        .ok { webUrl "http" 80 ["", "haproxy.test:5555"] with port := none } := by decide +kernel
    refine ⟨by decide +kernel, by decide +kernel, _, client_reaching hbase, fun hcontacts => ?_⟩
    have hhost := (Client.server_wire _ r).2.1.symm.trans (hcontacts.server r).2.1
    exact absurd hhost (by decide)
  · have hbase : parse (Client.baseText "http://haproxy.test:5555/a /") =
        .ok (webUrl "haproxy.test" 5555 ["a"]) := by decide +kernel
    refine ⟨by decide +kernel, by decide +kernel, _, client_reaching hbase, fun hcontacts => ?_⟩
    obtain ⟨ss, hss, hpath⟩ := hcontacts.path
    cases hss
    exact absurd (hpath r) (by decide +kernel)

end Config
end ProxySync
