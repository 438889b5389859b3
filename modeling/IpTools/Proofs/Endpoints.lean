import IpTools.Dns.Endpoint
import IpTools.Proofs.Text

/-!
# Endpoint authorities

The two parsers of encrypted resolvers read one form of authority, with their own default ports.
The URL parser cuts the authority off at the first slash and looks for a query or a fragment only
behind it.
-/

namespace IpTools

/-- The host of `addr]` or `addr]:port`, and the text of the port where there is one. -/
def bracketParts (rest : List Char) : Option (List Char × Option (List Char)) :=
  (splitOnce ']' rest).bind (fun (addr, tail) =>
    if tail = [] then some (addr, none)
    else (stripStart [':'] tail).map (fun port => (addr, some port)))

/-- The host of `host` or `host:port`, of an authority with at most one colon. -/
def plainParts (authority : List Char) : Option (List Char × Option (List Char)) :=
  (rsplitOnce ':' authority).elim (some (authority, none)) (fun (host, port) =>
    if ':' ∈ host then none else some (host, some port))

def authorityParts (authority : List Char) : Option (List Char × Option (List Char)) :=
  (stripStart ['['] authority).elim (plainParts authority) bracketParts

/-- A host that is there, with its port. -/
def checkedHost (endpoint : List Char × UInt16) : Option (List Char × UInt16) :=
  if endpoint.1 = [] then none else some endpoint

/-- The host and the port to connect to, where the port is in range. -/
def endpointOf (defaultPort : UInt16) (parts : List Char × Option (List Char)) :
    Option (List Char × UInt16) :=
  (parts.2.elim (some defaultPort) parseU16).bind (fun port => checkedHost (parts.1, port))

section Readers

variable {subject : String} {defaultPort : UInt16} {authority rest : List Char}

/-- What the check that the host is there leaves of a parsed authority. -/
def withHost (parsed : Except String (List Char × UInt16)) : Option (List Char × UInt16) :=
  parsed.toOption.bind checkedHost

lemma endpointOf_some {host text : List Char} :
    endpointOf defaultPort (host, some text) =
      (parseU16 text).bind (fun port => withHost (.ok (host, port))) := rfl

lemma withHost_bracket :
    withHost (parseBracketAuthority subject rest defaultPort) =
      (bracketParts rest).bind (endpointOf defaultPort) := by
  unfold bracketParts parseBracketAuthority
  cases splitOnce ']' rest with
  | none => rfl
  | some parts =>
    obtain ⟨addr, tail⟩ := parts
    rw [Option.bind_some]
    cases tail with
    | nil => rfl
    | cons c tail =>
      dsimp only
      rw [if_neg (List.cons_ne_nil c tail)]
      cases stripStart [':'] (c :: tail) with
      | none => rfl
      | some text =>
        rw [Option.map_some, Option.bind_some, endpointOf_some]
        dsimp only
        cases parseU16 text <;> rfl

/-- The forms without brackets; a second colon is refused by both parsers, each with its own look
at the text. -/
lemma withHost_plain (h : stripStart ['['] authority = none) :
    withHost (parseDohAuthority subject authority) =
      (plainParts authority).bind (endpointOf 443) := by
  unfold plainParts parseDohAuthority
  rw [h]
  dsimp only
  by_cases hcolon : ':' ∈ authority
  · obtain ⟨host, text, hsplit, htext, rfl⟩ := rsplitOnce_of_mem hcolon
    have hcount : (host ++ ':' :: text).count ':' = host.count ':' + 1 := by
      rw [List.count_append, List.count_cons_self, List.count_eq_zero_of_not_mem htext]
    rw [hsplit, hcount]
    by_cases hhost : ':' ∈ host
    · have hpos : 0 < host.count ':' := List.count_pos_iff.mpr hhost
      rw [if_pos (by omega)]
      simp [hhost, withHost, Except.toOption]
    · rw [List.count_eq_zero_of_not_mem hhost, if_neg (by decide)]
      simp only [Option.elim_some, if_neg hhost, Option.bind_some, endpointOf_some]
      cases parseU16 text <;> rfl
  · rw [rsplitOnce_of_notMem hcolon, List.count_eq_zero_of_not_mem hcolon, if_neg (by decide)]
    rfl

end Readers

/-- The endpoint of an authority. -/
def readAuthority (defaultPort : UInt16) (authority : List Char) : Option (List Char × UInt16) :=
  (authorityParts authority).bind (endpointOf defaultPort)

lemma withHost_authority (subject : String) (authority : List Char) :
    withHost (parseDohAuthority subject authority) = readAuthority 443 authority := by
  unfold readAuthority authorityParts
  cases h : stripStart ['['] authority with
  | none => exact withHost_plain h
  | some rest =>
    unfold parseDohAuthority
    rw [h]
    exact withHost_bracket

/-- The check that ends both parsers. -/
lemma toOption_check {β : Type} (parsed : Except String (List Char × UInt16)) (e : String)
    (f : List Char × UInt16 → β) :
    (parsed.bind (fun r => if r.1.isEmpty then .error e else .ok (f r))).toOption =
      (withHost parsed).map f := by
  cases parsed with
  | error e' => rfl
  | ok r =>
    obtain ⟨host, port⟩ := r
    cases host <;> rfl

lemma parseDotEndpoint_eq [DebugTables] (endpoint : List Char) :
    (parseDotEndpoint endpoint).toOption = readAuthority 853 endpoint := by
  have hcheck : ∀ parsed e, (Except.bind parsed (fun (r : List Char × UInt16) =>
      if r.1.isEmpty then .error e else .ok r)).toOption = withHost parsed :=
    fun parsed e => (toOption_check parsed e id).trans (congrFun Option.map_id _)
  unfold parseDotEndpoint readAuthority authorityParts
  by_cases hempty : endpoint = []
  · rw [hempty]
    rfl
  · dsimp only
    rw [if_neg (by simpa using hempty)]
    cases h : stripStart ['['] endpoint with
    | some rest => exact (hcheck _ _).trans withHost_bracket
    | none =>
      rw [Option.elim_none, plainParts]
      cases hsplit : rsplitOnce ':' endpoint with
      | none => exact hcheck _ _
      | some parts =>
        obtain ⟨host, text⟩ := parts
        dsimp only [Option.elim_some]
        by_cases hhost : ':' ∈ host
        · rw [if_pos hhost, if_pos hhost]
          rfl
        · rw [if_neg hhost, if_neg hhost, Option.bind_some, endpointOf_some]
          cases parseU16 text with
          | none => rfl
          | some port => exact hcheck _ _

/-- The authority of a URL without its scheme, and its path as the source cuts it. -/
def urlAuthority (rest : List Char) : List Char := rest.takeWhile (· ≠ '/')

def urlPath (rest : List Char) : List Char :=
  if '/' ∈ rest then (rest.dropWhile (· ≠ '/')).takeWhile (fun c => c ≠ '?' && c ≠ '#')
  else "/dns-query".toList

lemma urlAuthority_of_notMem {rest : List Char} (h : '/' ∉ rest) : urlAuthority rest = rest :=
  List.takeWhile_eq_self_iff.mpr (fun _ hc => decide_eq_true (fun he => h (he ▸ hc)))

/-- The steps of the URL parser after it has cut the URL. -/
lemma doh_authority_eq (subject e e' : String) (authority path : List Char) :
    (if authority.isEmpty then .error e
      else (parseDohAuthority subject authority).bind (fun r =>
        if r.1.isEmpty then .error e' else .ok (r.1, r.2, path))).toOption =
      (readAuthority 443 authority).map (fun r => (r.1, r.2, path)) := by
  cases authority with
  | nil => rfl
  | cons c authority =>
    rw [List.isEmpty_cons, if_neg Bool.false_ne_true, ← withHost_authority subject]
    exact toOption_check _ _ (fun r => (r.1, r.2, path))

lemma parseDohUrl_eq [DebugTables] (rest : List Char) :
    (parseDohUrl ("https://".toList ++ rest)).toOption =
      (readAuthority 443 (urlAuthority rest)).map (fun r => (r.1, r.2, urlPath rest)) := by
  have hscheme : stripStart "https://".toList ("https://".toList ++ rest) = some rest := by
    unfold stripStart
    rw [if_pos (by simp), List.drop_left]
  unfold parseDohUrl urlPath
  rw [hscheme]
  dsimp only
  by_cases hslash : '/' ∈ rest
  · have hsplit : splitOnce '/' rest =
        some (urlAuthority rest, (rest.dropWhile (· ≠ '/')).drop 1) := if_pos hslash
    have hpath : '/' :: (rest.dropWhile (· ≠ '/')).drop 1 = rest.dropWhile (· ≠ '/') := by
      obtain ⟨authority, path, rfl, hauthority⟩ := List.eq_append_cons_of_mem hslash
      have hpos : ∀ c ∈ authority, decide (c ≠ '/') = true :=
        fun c hc => decide_eq_true (fun he => hauthority (he ▸ hc))
      rw [List.dropWhile_append_of_pos hpos]
      rfl
    rw [hsplit, if_pos hslash]
    dsimp only
    rw [hpath]
    exact doh_authority_eq _ _ _ _ _
  · rw [splitOnce_of_notMem hslash, if_neg hslash, urlAuthority_of_notMem hslash]
    exact doh_authority_eq _ _ _ _ _

/-- The text of the port that an authority names. -/
def namedPort (authority : List Char) : Option (List Char) :=
  (authorityParts authority).bind Prod.snd

lemma toOption_eq_some_iff {ε α : Type} {x : Except ε α} {a : α} :
    x.toOption = some a ↔ x = .ok a := by
  cases x <;> simp [Except.toOption]

lemma readAuthority_eq_some_iff {defaultPort port : UInt16} {authority host : List Char} :
    readAuthority defaultPort authority = some (host, port) ↔
      host ≠ [] ∧ ∃ text, authorityParts authority = some (host, text) ∧
        text.elim (some defaultPort) parseU16 = some port := by
  unfold readAuthority endpointOf checkedHost
  simp only [Option.bind_eq_some_iff, Prod.exists, Option.ite_none_left_eq_some,
    Option.some.injEq, Prod.mk.injEq]
  constructor
  · rintro ⟨host, text, hparts, port, hport, hhost, rfl, rfl⟩
    exact ⟨hhost, text, hparts, hport⟩
  · rintro ⟨hhost, text, hparts, hport⟩
    exact ⟨host, text, hparts, port, hport, hhost, rfl, rfl⟩

lemma parseDotEndpoint_ok_iff [DebugTables] {endpoint host : List Char} {port : UInt16} :
    parseDotEndpoint endpoint = .ok (host, port) ↔
      host ≠ [] ∧ ∃ text, authorityParts endpoint = some (host, text) ∧
        text.elim (some 853) parseU16 = some port := by
  rw [← toOption_eq_some_iff, parseDotEndpoint_eq, readAuthority_eq_some_iff]

lemma parseDohUrl_ok_iff [DebugTables] {rest host path : List Char} {port : UInt16} :
    parseDohUrl ("https://".toList ++ rest) = .ok (host, port, path) ↔
      (host ≠ [] ∧ ∃ text, authorityParts (urlAuthority rest) = some (host, text) ∧
        text.elim (some 443) parseU16 = some port) ∧ path = urlPath rest := by
  rw [← toOption_eq_some_iff, parseDohUrl_eq, ← readAuthority_eq_some_iff, Option.map_eq_some_iff]
  constructor
  · rintro ⟨⟨host, port⟩, hread, hparts⟩
    cases hparts
    exact ⟨hread, rfl⟩
  · rintro ⟨hread, rfl⟩
    exact ⟨(host, port), hread, rfl⟩

/-- The parsers of the two kinds of endpoint accept the same authorities, and read the same host
and port off them. -/
theorem endpoints_agree [DebugTables] {a : List Char} (h : '/' ∉ a) :
    ((∃ r, parseDohUrl ("https://".toList ++ a) = .ok r) ↔ ∃ r, parseDotEndpoint a = .ok r) ∧
    ∀ host port path host' port', parseDohUrl ("https://".toList ++ a) = .ok (host, port, path) →
      parseDotEndpoint a = .ok (host', port') →
        host' = host ∧
        (∀ text, namedPort a = some text → parseU16 text = some port ∧ port' = port) ∧
        (namedPort a = none → port = 443 ∧ port' = 853) := by
  have hwhole := urlAuthority_of_notMem h
  constructor
  · constructor
    · rintro ⟨⟨host, port, path⟩, hdoh⟩
      obtain ⟨⟨hhost, text, hparts, hport⟩, -⟩ := parseDohUrl_ok_iff.mp hdoh
      rw [hwhole] at hparts
      cases text with
      | none => exact ⟨_, parseDotEndpoint_ok_iff.mpr ⟨hhost, none, hparts, rfl⟩⟩
      | some text => exact ⟨_, parseDotEndpoint_ok_iff.mpr ⟨hhost, some text, hparts, hport⟩⟩
    · rintro ⟨⟨host, port⟩, hdot⟩
      obtain ⟨hhost, text, hparts, hport⟩ := parseDotEndpoint_ok_iff.mp hdot
      rw [← hwhole] at hparts
      cases text with
      | none => exact ⟨_, parseDohUrl_ok_iff.mpr ⟨⟨hhost, none, hparts, rfl⟩, rfl⟩⟩
      | some text => exact ⟨_, parseDohUrl_ok_iff.mpr ⟨⟨hhost, some text, hparts, hport⟩, rfl⟩⟩
  · intro host port path host' port' hdoh hdot
    obtain ⟨⟨-, text, hparts, hport⟩, -⟩ := parseDohUrl_ok_iff.mp hdoh
    obtain ⟨-, text', hparts', hport'⟩ := parseDotEndpoint_ok_iff.mp hdot
    rw [hwhole] at hparts
    obtain ⟨rfl, rfl⟩ := Prod.mk.inj (Option.some.inj (hparts'.symm.trans hparts))
    have hnamed : namedPort a = text' := by
      rw [namedPort, hparts]
      rfl
    refine ⟨rfl, fun named htext => ?_, fun hnone => ?_⟩
    · rw [hnamed.symm.trans htext] at hport hport'
      exact ⟨hport, Option.some.inj (hport'.symm.trans hport)⟩
    · rw [hnamed.symm.trans hnone] at hport hport'
      exact ⟨(Option.some.inj hport).symm, (Option.some.inj hport').symm⟩

theorem endpoints_agree_bracketed :
    letI := DebugTables.none
    (∃ r, parseDohUrl ("https://".toList ++ "[::1]:8853".toList) = .ok r) ↔
      ∃ r, parseDotEndpoint "[::1]:8853".toList = .ok r :=
  (@endpoints_agree .none _ (by decide)).1

/-- A host that can be a server name, and a path that a query can follow. -/
structure SplitsCleanly (host path : List Char) : Prop where
  host_ne_nil : host ≠ []
  host_chars : ∀ c ∈ host, c ∉ ['/', '?', '#']
  path_start : path.head? = some '/'
  path_chars : ∀ c ∈ path, c ∉ ['?', '#']

/-- An authority has the characters of its host and of its port. -/
lemma mem_authority_iff {authority host : List Char} {text : Option (List Char)} {c : Char}
    (hc : c ∉ ['[', ']', ':']) (hparts : authorityParts authority = some (host, text)) :
    c ∈ authority ↔ c ∈ host ∨ ∃ port, text = some port ∧ c ∈ port := by
  simp only [List.mem_cons, List.not_mem_nil, or_false, not_or] at hc
  unfold authorityParts at hparts
  cases h : stripStart ['['] authority with
  | some rest =>
    obtain rfl := stripStart_eq_some h
    rw [h, Option.elim_some, bracketParts] at hparts
    obtain ⟨⟨addr, tail⟩, hsplit, hhost⟩ := Option.bind_eq_some_iff.mp hparts
    obtain ⟨rfl, -⟩ := splitOnce_eq_some_iff.mp hsplit
    dsimp only at hhost
    split at hhost
    · rename_i htail
      cases hhost
      simp [htail, hc]
    · obtain ⟨port, hport, hpair⟩ := Option.map_eq_some_iff.mp hhost
      obtain rfl := stripStart_eq_some hport
      cases hpair
      simp [hc]
  | none =>
    rw [h, Option.elim_none, plainParts] at hparts
    cases hsplit : rsplitOnce ':' authority with
    | none =>
      rw [hsplit] at hparts
      cases hparts
      simp
    | some parts =>
      obtain ⟨front, port⟩ := parts
      obtain ⟨rfl, -⟩ := rsplitOnce_eq_some_iff.mp hsplit
      rw [hsplit, Option.elim_some] at hparts
      dsimp only at hparts
      split at hparts
      · exact absurd hparts (by simp)
      · cases hparts
        simp [hc]

lemma urlPath_head (rest : List Char) : (urlPath rest).head? = some '/' := by
  unfold urlPath
  split
  · rename_i hslash
    obtain ⟨authority, path, rfl, hauthority⟩ := List.eq_append_cons_of_mem hslash
    have hpos : ∀ c ∈ authority, decide (c ≠ '/') = true :=
      fun c hc => decide_eq_true (fun he => hauthority (he ▸ hc))
    rw [List.dropWhile_append_of_pos hpos]
    rfl
  · rfl

lemma urlPath_chars {rest : List Char} : ∀ c ∈ urlPath rest, c ∉ ['?', '#'] := by
  unfold urlPath
  split
  · intro c hc
    have hbase := List.mem_takeWhile_imp hc
    simpa using hbase
  · simp

lemma exists_rest_of_parseDohUrl [DebugTables]
    {url : List Char} {r : List Char × UInt16 × List Char}
    (h : parseDohUrl url = .ok r) : ∃ rest, url = "https://".toList ++ rest := by
  unfold parseDohUrl at h
  cases hscheme : stripStart "https://".toList url with
  | none =>
    rw [hscheme] at h
    cases h
  | some rest => exact ⟨rest, stripStart_eq_some hscheme⟩

lemma port_chars {defaultPort port : UInt16} {text : Option (List Char)}
    (h : text.elim (some defaultPort) parseU16 = some port) {named : List Char}
    (hnamed : text = some named) : ∀ c ∈ named, c ∉ ['/', '?', '#'] := by
  subst hnamed
  intro c hc hbad
  rcases parseU16_chars h c hc with rfl | hdigit
  · exact absurd hbad (by decide)
  · revert hdigit
    simp only [List.mem_cons, List.not_mem_nil, or_false] at hbad
    rcases hbad with rfl | rfl | rfl <;> decide

/-- A query or a fragment is cut off behind the first slash only: one that stands before it, or in
a URL without a slash, stays in the host. -/
theorem doh_url_clean_iff [DebugTables] {url host path : List Char} {port : UInt16}
    (h : parseDohUrl url = .ok (host, port, path)) :
    SplitsCleanly host path ↔ ∀ c ∈ (url.drop 8).takeWhile (· ≠ '/'), c ∉ ['?', '#'] := by
  obtain ⟨rest, rfl⟩ := exists_rest_of_parseDohUrl h
  obtain ⟨⟨hhost, text, hparts, hport⟩, rfl⟩ := parseDohUrl_ok_iff.mp h
  have hdrop : ("https://".toList ++ rest).drop 8 = rest := List.drop_left' rfl
  rw [hdrop]
  change _ ↔ ∀ c ∈ urlAuthority rest, c ∉ ['?', '#']
  -- the port has none of these characters, so that the host has all that the authority has
  have hmem : ∀ c ∈ ['/', '?', '#'], (c ∈ urlAuthority rest ↔ c ∈ host) := by
    intro c hc
    have hother : c ∉ ['[', ']', ':'] := by
      simp only [List.mem_cons, List.not_mem_nil, or_false] at hc
      rcases hc with rfl | rfl | rfl <;> decide
    rw [mem_authority_iff hother hparts, or_iff_left]
    rintro ⟨named, hnamed, hcn⟩
    exact port_chars hport hnamed c hcn hc
  have hslash : '/' ∉ urlAuthority rest := by
    intro hm
    exact absurd (List.mem_takeWhile_imp hm) (by decide)
  constructor
  · intro hclean c hc hbad
    have hcn : c ∈ ['/', '?', '#'] := List.mem_cons_of_mem _ hbad
    exact hclean.host_chars c ((hmem c hcn).mp hc) hcn
  · intro hauthority
    refine ⟨hhost, fun c hc hbad => ?_, urlPath_head rest, urlPath_chars⟩
    have hin := (hmem c hbad).mpr hc
    rcases List.mem_cons.mp hbad with rfl | hquery
    · exact hslash hin
    · exact hauthority c hin hquery

theorem doh_url_clean_resolve : SplitsCleanly "dns.google".toList "/resolve".toList :=
  (@doh_url_clean_iff .none "https://dns.google/resolve?key=abc".toList _ _ 443
    (by decide +kernel)).mpr (by simp)

/-- Without a path, the query is taken for a part of the host. -/
theorem query_in_host :
    letI := DebugTables.none
    parseDohUrl "https://dns.example?key=abc".toList =
        .ok ("dns.example?key=abc".toList, 443, "/dns-query".toList) ∧
      ¬SplitsCleanly "dns.example?key=abc".toList "/dns-query".toList :=
  ⟨by decide +kernel, fun h => absurd (h.host_chars '?' (by decide)) (by decide)⟩

end IpTools
