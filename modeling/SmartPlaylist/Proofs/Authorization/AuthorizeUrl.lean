import SmartPlaylist.Authorization.Grant
import SmartPlaylist.Proofs.Url.Text

/-!
# The address at which access is granted

The address asks for six things, each as a pair in its query.  Whatever the values are, reading the
query gives them back behind the pairs that the configured address had already, so no value adds a
pair, drops one or changes another.

## Main definitions

* `Grant.asked` — the pairs that ask for access.

## Main results

* `Grant.authorizeUrl_of_parse`, `Grant.exists_of_authorizeUrl` — when there is an address, and
  what it is.
* `Grant.authorizeUrl_pairs` — **the address says what is asked for, and nothing else.**
-/

namespace SmartPlaylist.Grant

open Url

variable {s : Settings} {challenge clientId redirectUri : String} {base : Url}

/-- The pairs that ask for access. -/
def asked (clientId redirectUri challenge scope : String) : List (String × String) :=
  [("client_id", clientId), ("response_type", "code"), ("redirect_uri", redirectUri),
    ("code_challenge", challenge), ("code_challenge_method", "S256"), ("scope", scope)]

/-- The pairs say what the values are. -/
theorem asked_inj {clientId' redirectUri' challenge' scope scope' : String}
    (h : asked clientId' redirectUri' challenge' scope'
      = asked clientId redirectUri challenge scope) :
    clientId' = clientId ∧ redirectUri' = redirectUri ∧ challenge' = challenge ∧
      scope' = scope := by
  simp only [asked, List.cons.injEq, Prod.mk.injEq, true_and, and_true] at h
  obtain ⟨hid, huri, hchallenge, hscope⟩ := h
  exact ⟨hid, huri, hchallenge, hscope⟩

/-- The address is the configured one with the pairs behind its query. -/
theorem authorizeUrl_of_parse (hid : s.clientId = some clientId)
    (huri : s.redirectUri = some redirectUri) (hbase : Url.parse s.authUrl = some base) :
    authorizeUrl s challenge
      = .ok (base.appendPairs (asked clientId redirectUri challenge s.scope)) := by
  rw [authorizeUrl, Settings.requireClientId, Settings.requireRedirectUri, hid, huri, hbase]
  rfl

/-- There is one only with a client id and an address to go back to, and only if the configured
address is a URL. -/
theorem exists_of_authorizeUrl {url : Url} (h : authorizeUrl s challenge = .ok url) :
    ∃ clientId redirectUri base, s.clientId = some clientId ∧ s.redirectUri = some redirectUri ∧
      Url.parse s.authUrl = some base ∧
      url = base.appendPairs (asked clientId redirectUri challenge s.scope) := by
  cases hid : s.clientId with
  | none =>
    rw [authorizeUrl, Settings.requireClientId, hid] at h
    nomatch h
  | some clientId =>
    cases huri : s.redirectUri with
    | none =>
      rw [authorizeUrl, Settings.requireClientId, Settings.requireRedirectUri, hid, huri] at h
      nomatch h
    | some redirectUri =>
      cases hbase : Url.parse s.authUrl with
      | none =>
        rw [authorizeUrl, Settings.requireClientId, Settings.requireRedirectUri, hid, huri,
          hbase] at h
        nomatch h
      | some base =>
        rw [authorizeUrl_of_parse hid huri hbase] at h
        exact ⟨clientId, redirectUri, base, rfl, rfl, rfl, (Except.ok.inj h).symm⟩

/-- One text is that of one query only, where all else is the same. -/
theorem query_eq_of_text_eq {more more' : List (String × String)} (hbase : base.IsSeparated)
    (h : (base.appendPairs more').text = (base.appendPairs more).text) : more' = more := by
  have hpairs : (base.appendPairs more').pairs = (base.appendPairs more).pairs := by
    rw [Url.pairs, Url.pairs, ← queryIn_text (hbase.appendPairs more'), h,
      queryIn_text (hbase.appendPairs more)]
  rw [pairs_appendPairs, pairs_appendPairs] at hpairs
  exact List.append_cancel_left hpairs

/-- **The address says what is asked for, and nothing else.**  With a client id, an address to go
back to and a configured address that is a URL, there is an address.  It differs from the configured
one in its query alone, in which the pairs stand that the configured one has, and then the six pairs
that ask for access, with the values as they are; it makes no difference whether the pairs are read
from the parts of the two addresses or from their texts.  Other settings with the same configured
address give the same text only if the values are the same. -/
theorem authorizeUrl_pairs (hid : s.clientId = some clientId)
    (huri : s.redirectUri = some redirectUri) (hbase : Url.parse s.authUrl = some base)
    (challenge : String) :
    ∃ url, authorizeUrl s challenge = .ok url ∧ url = { base with query := url.query } ∧
      url.pairs = base.pairs ++
        [("client_id", clientId), ("response_type", "code"), ("redirect_uri", redirectUri),
          ("code_challenge", challenge), ("code_challenge_method", "S256"), ("scope", s.scope)] ∧
      base.pairs = Form.decode (queryIn (clean s.authUrl)) ∧
      url.pairs = Form.decode (queryIn url.text.toList) ∧
      ∀ s' challenge' url', s'.authUrl = s.authUrl → authorizeUrl s' challenge' = .ok url' →
        url'.text = url.text → s'.clientId = some clientId ∧ s'.redirectUri = some redirectUri ∧
          challenge' = challenge ∧ s'.scope = s.scope := by
  have hseparated := isSeparated_parse hbase
  refine ⟨_, authorizeUrl_of_parse hid huri hbase, rfl, pairs_appendPairs _ _, pairs_parse hbase,
    ?text, ?inj⟩
  case text => rw [queryIn_text (hseparated.appendPairs _), Url.pairs]
  case inj =>
    intro s' challenge' url' hauth hurl htext
    obtain ⟨clientId', redirectUri', base', hid', huri', hbase', rfl⟩ :=
      exists_of_authorizeUrl hurl
    rw [hauth, hbase] at hbase'
    obtain rfl := Option.some.inj hbase'
    obtain ⟨rfl, rfl, rfl, hscope⟩ := asked_inj (query_eq_of_text_eq hseparated htext)
    exact ⟨hid', huri', rfl, hscope⟩

/-- Settings whose values hold the signs between pairs, and whose address has a query and a fragment
already. -/
def sampleSettings : Settings :=
  { Settings.local "" "" with
    clientId := some "id&scope=all"
    redirectUri := some "app:é?a=b+c%26#d"
    scope := ""
    authUrl := " HTTP://[::1]:8080/?" ++ Form.encode [("a", "b c"), ("scope", "&=")] ++ "#top\n" }

/-- The pairs of the address are read behind the two that were there. -/
theorem authorizeUrl_sampleSettings : ∃ url, authorizeUrl sampleSettings "x y" = .ok url ∧
    Form.decode (queryIn url.text.toList) =
      [("a", "b c"), ("scope", "&="), ("client_id", "id&scope=all"), ("response_type", "code"),
        ("redirect_uri", "app:é?a=b+c%26#d"), ("code_challenge", "x y"),
        ("code_challenge_method", "S256"), ("scope", "")] := by
  have hurl : (Url.parse sampleSettings.authUrl).isSome = true := by decide +kernel
  obtain ⟨base, hbase⟩ := Option.isSome_iff_exists.mp hurl
  obtain ⟨url, hok, -, hpairs, hold, htext, -⟩ :=
    authorizeUrl_pairs (s := sampleSettings) rfl rfl hbase "x y"
  have hquery : queryIn (clean sampleSettings.authUrl)
      = Form.encode [("a", "b c"), ("scope", "&=")] := by decide +kernel
  rw [hquery, Form.decode_encode] at hold
  rw [htext, hold] at hpairs
  exact ⟨url, hok, hpairs⟩

end SmartPlaylist.Grant
