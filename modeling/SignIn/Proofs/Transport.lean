import SignIn.Proofs.Cookies
import SignIn.Proofs.Escapes
import SignIn.Proofs.Exchanges
import SignIn.Proofs.Independence
import SignIn.Proofs.Spellings

/-!
# Sessions over HTTP

How a session travels between the service and a browser. A response carries the session cookie
exactly if it is the success of a request that opens or ends a session, and then no cache may keep
it. The token in the cookie comes back as it was set, so a request to sign out that brings the
cookie ends the session, if the token can be opened at all: a secret that is itself JSON text may
sign tokens that it never verifies.
-/

namespace SignIn

open World Token

/-- A session is over in a world: its token is banned, nothing else has changed, and it is never
accepted again, up to the gap before its end. -/
structure EndsSession (a : Authority) (w w' : World) (t : String) (expiry : Int) : Prop where
  same : SameBut [.bans] w w'
  banned : w.BanSet w' t (banEnd w expiry)
  refused : ∀ es, (∀ ev ∈ es, Event.KeepsPace ev) → Accepts a (w'.after a es) t →
    InGap w expiry (w'.after a es)

/-- A minted token that is signed out is over. -/
lemma EndsSession.of_signOut {a : Authority} {w w' : World} {t : String} {e : Email} {expiry : Int}
    (minted : a.Mints t e expiry)
    (ended : Ends (Service.signOut a (some t)) w (.ok ()) w') (lines : List Entry) :
    EndsSession a w (w'.adding lines) t expiry := by
  obtain ⟨_, _, _, wall, uptime, banned⟩ := signOut_minted minted ended
  have since : SinceBan w (w'.adding lines) t (banEnd w expiry) := by
    refine ⟨?_, Int.le_of_eq uptime.symm, .inr fun now le early => ?_⟩
    · show w'.wall - w.wall = w'.uptime - w.uptime
      omega
    · exact banned.before now (uptime ▸ le) early
  refine ⟨(Service.signOut_keeps _ _ ended).trans (.adding ..), ?_, fun es paced accepted => ?_⟩
  · exact ⟨banned.before, banned.after, banned.others⟩
  · exact inGap_of_accepts minted (since.after paced) accepted

namespace Http

/-- A request returns the cookie that was set for a token, with other cookies before and after
it. -/
def Request.Returns (r : Request) (p : Cookie.Policy) (t : String) : Prop :=
  ∃ before after, (∀ c ∈ before ++ after, Cookie.IsOther c) ∧
    r.cookies = [Cookie.sending (before ++ Cookie.kept (Cookie.setHeader p t) :: after)]

namespace App

/-- The service hands out a token for a request. -/
def Hands (site : Site) (r : Request) (route : Route) (w : World) (t : String) : Prop :=
  ∃ q answer w', r.Asks route q ∧ Ends (q.op site.authority) w (.ok answer) w' ∧
    answer.token? = some t

/-- A response to a request to an operation carries the session cookie as the service has it. -/
structure CarriesSession (site : Site) (r : Request) (route : Route) (w : World)
    (response : Response) : Prop where
  /-- The routes that open and end sessions carry the cookie exactly with their successes. -/
  exclusive : response.cookies ≠ [] ↔
    r.method = "POST" ∧ response.status = 200 ∧ route ∈ [.signIn, .verify, .signOut]
  sets : ∀ t, Hands site r route w t → response.cookies = [Cookie.setHeader site.cookies t]
  opens : route ≠ .signOut → response.cookies ≠ [] →
    ∃ t e expiry, Hands site r route w t ∧ site.authority.Mints t e expiry
  closes : route = .signOut → response.cookies ≠ [] →
    (∃ w', Ends (Service.signOut site.authority (Cookie.token? r.cookies)) w (.ok ()) w') ∧
      response.cookies = [Cookie.clearHeader site.cookies w.wallSeconds]
  uncached : response.cookies ≠ [] → ("cache-control", "no-store") ∈ response.headers

variable {site : Site} {r : Request} {w w' w₁ : World} {route : Route} {response : Response}
  {answer : SignIn.Answer} {q : SignIn.Request} {v : Json} {t : String}

/-! ## Setting and deleting the cookie -/

/-- An answer with a token is a success that sets it. -/
lemma answered_of_token? (site : Site) (w : World) (token : answer.token? = some t) :
    answered site w answer = opened site t := by
  cases answer with
  | signedIn s =>
    cases s with
    | session u =>
      cases token
      rfl
    | challenge => cases token
  | session u =>
    cases token
    rfl
  | user | signedOut | belongsTo => cases token

/-- No cache may keep a response with a cookie. -/
lemma uncached_mark (origins : List String) (r : Request) (response : Response) (cookie : String) :
    ("cache-control", "no-store") ∈ (Origins.mark origins r (response.withCookie cookie)).headers :=
  List.mem_append_left _ (List.mem_append_left _ (List.mem_append_right _ List.mem_cons_self))

/-- A form is answered with a token on the routes that open sessions, or without a cookie; and the
sign-in that needs its second factor has a status of its own. -/
lemma answered_inv (site : Site) (means : route.Means v q) {a : Authority}
    (ended : Ends (q.op a) w (.ok answer) w') :
    (∃ t, answer.token? = some t ∧ route ∈ [.signIn, .verify]) ∨
      (answered site w' answer).cookies = [] ∧
        (route ∈ [.signIn, .verify, .signOut] → (answered site w' answer).status ≠ 200) := by
  cases means with
  | signUp =>
    obtain ⟨u, _, rfl⟩ := ended.map_ok_inv
    exact .inr ⟨rfl, fun session => absurd session (by decide)⟩
  | signIn =>
    obtain ⟨s, _, rfl⟩ := ended.map_ok_inv
    cases s with
    | session t => exact .inl ⟨t, rfl, by decide⟩
    | challenge id => exact .inr ⟨rfl, fun _ => nofun⟩
  | verify =>
    obtain ⟨t, _, rfl⟩ := ended.map_ok_inv
    exact .inl ⟨t, rfl, by decide⟩
  | checkToken =>
    obtain ⟨e, _, rfl⟩ := ended.map_ok_inv
    exact .inr ⟨rfl, fun session => absurd session (by decide)⟩

/-- An operation that fails is answered without a cookie. -/
lemma outcome_error (site : Site) (r : Request) (w : World) (f : Failure) :
    (outcome site r w (.error f)).cookies = [] ∧ (outcome site r w (.error f)).status ≠ 200 := by
  cases f with
  | escaped => exact ⟨rfl, nofun⟩
  | refused refusal =>
    refine ⟨rfl, ?_⟩
    show refusal.kind.status ≠ 200
    cases refusal.kind with
    | general | invalidInput | wrongCredentials | missingToken | invalidToken
    | alreadyRegistered | unexpected => exact nofun

/-- A body that does not fit its form is answered without a cookie. -/
lemma bare_of_unfilled {form : Form} (unfilled : filled form r = .error response) :
    response.cookies = [] ∧ response.status ≠ 200 := by
  obtain none | ⟨_, _, _, _, places, rfl⟩ := filled_error unfilled
  · obtain ⟨_, rfl⟩ | ⟨places, rfl⟩ := bodyValue_error none
    · exact ⟨rfl, nofun⟩
    · exact ⟨rfl, nofun⟩
  · exact ⟨rfl, nofun⟩

/-- Requests that do not post to an operation are answered without a cookie. -/
lemma bare_of_not_post (there : Route.ofPath? r.path = some route) (operation : route ≠ .health)
    (other : r.method ≠ "POST") (run : (handle site r).run w = (response, w₁)) :
    response.cookies = [] := by
  have post : route.method = "POST" := by
    cases route with
    | health => exact absurd rfl operation
    | signUp | signIn | verify | signOut | checkToken => rfl
  have dispatched : (dispatch site r).run w =
      (.ok ((Response.detail 405 "Method Not Allowed").withHeader "allow" route.method), w) := by
    rw [dispatch, there]
    simp only [post, if_neg other]
    rfl
  obtain ⟨y, responded, bare⟩ : ∃ y, (respond site r).run w = (.ok y, w) ∧ y.cookies = [] := by
    rw [respond]
    by_cases question : Origins.isQuestion r = true
    · rw [if_pos question]
      refine ⟨_, rfl, ?_⟩
      rw [Origins.answer]
      split
      · rfl
      · rfl
    · rw [if_neg question, StateT.run_bind, dispatched]
      exact ⟨_, rfl, rfl⟩
  rw [handle, StateT.run_bind, responded] at run
  obtain ⟨rfl, _⟩ := Prod.mk.inj run
  exact bare

/-- A token that is handed out is set. -/
lemma cookies_of_hands (run : (handle site r).run w = (response, w₁))
    (hands : Hands site r route w t) : response.cookies = [Cookie.setHeader site.cookies t] := by
  obtain ⟨q, answer, w', asks, ended, token⟩ := hands
  rw [handle_asked asks ended] at run
  obtain ⟨rfl, _⟩ := Prod.mk.inj run
  show (answered site w' answer).cookies = _
  rw [answered_of_token? site w' token]
  rfl

namespace CarriesSession

/-- A response without a cookie is as it should be if it is no success of a route that opens or ends
a session. -/
lemma of_bare (run : (handle site r).run w = (response, w₁)) (bare : response.cookies = [])
    (failed : r.method = "POST" → route ∈ [.signIn, .verify, .signOut] → response.status ≠ 200) :
    CarriesSession site r route w response where
  exclusive := iff_of_false (fun ne => ne bare) fun h => failed h.1 h.2.2 h.2.1
  sets _ hands := cookies_of_hands run hands
  opens _ ne := absurd bare ne
  closes _ ne := absurd bare ne
  uncached ne := absurd bare ne

/-- What the service answers to a form carries the session as it should. -/
lemma of_asked (asks : r.Asks route q) {x : Except Failure SignIn.Answer}
    (ended : Ends (q.op site.authority) w x w') (run : (handle site r).run w = (response, w₁)) :
    CarriesSession site r route w response := by
  have answers := run
  rw [handle_asked asks ended] at answers
  obtain ⟨rfl, _⟩ := Prod.mk.inj answers
  obtain ⟨v, _, means⟩ := asks.value
  cases x with
  | error f =>
    obtain ⟨bare, failed⟩ := outcome_error site r w' f
    exact of_bare run bare fun _ _ => failed
  | ok answer =>
    obtain ⟨t, token, session⟩ | ⟨bare, failed⟩ := answered_inv site means ended
    · have hands : Hands site r route w t := ⟨q, answer, w', asks, ended, token⟩
      have carried := cookies_of_hands run hands
      have told := answered_of_token? site w' token
      have staying : route ≠ .signOut := by
        rintro rfl
        exact absurd session (by decide)
      obtain ⟨e, v, _, issued⟩ := Request.token?_inv ended token
      refine ⟨?_, fun _ hands => cookies_of_hands run hands, fun _ _ => ?_,
        fun out => absurd out staying, fun _ => ?_⟩
      · rw [carried]
        refine iff_of_true (List.cons_ne_nil _ _) ⟨asks.post, ?_, ?_⟩
        · show (answered site w' answer).status = 200
          rw [told]
          rfl
        · exact List.mem_append_left [.signOut] session
      · exact ⟨t, e, _, hands, (Authority.issue_inv issued).1⟩
      · show _ ∈ (Origins.mark site.origins r (answered site w' answer)).headers
        rw [told]
        exact uncached_mark site.origins r _ _
    · exact of_bare run bare fun _ => failed

/-- What the service answers to signing out carries the session as it should. -/
lemma of_signOut (post : r.method = "POST") (there : Route.ofPath? r.path = some .signOut)
    {x : Except Failure Unit}
    (ended : Ends (Service.signOut site.authority (Cookie.token? r.cookies)) w x w')
    (run : (handle site r).run w = (response, w₁)) :
    CarriesSession site r .signOut w response := by
  have answers := run
  rw [handle_run post there nofun (onRoute_signOut (ended.map _)), sent_rendered] at answers
  obtain ⟨rfl, _⟩ := Prod.mk.inj answers
  cases x with
  | error f =>
    obtain ⟨bare, failed⟩ := outcome_error site r w' f
    exact of_bare run bare fun _ _ => failed
  | ok =>
    have clock : w'.wallSeconds = w.wallSeconds := (Service.signOut_keeps _ _ ended).wallSeconds
    refine ⟨?_, fun _ hands => cookies_of_hands run hands, fun out => absurd rfl out,
      fun _ _ => ⟨⟨w', ended⟩, ?_⟩, fun _ => uncached_mark site.origins r _ _⟩
    · exact iff_of_true (List.cons_ne_nil _ _) ⟨post, rfl, by decide⟩
    · rw [← clock]
      rfl

end CarriesSession

/-- Every request to one of the five operations is answered with the session cookie as the service
has it. -/
lemma handle_carries (site : Site) (w : World) (there : Route.ofPath? r.path = some route)
    (operation : route ≠ .health) :
    ∃ response w₁, (handle site r).run w = (response, w₁) ∧
      CarriesSession site r route w response := by
  obtain ⟨response, w₁, run⟩ : ∃ response w₁, (handle site r).run w = (response, w₁) := ⟨_, _, rfl⟩
  refine ⟨response, w₁, run, ?_⟩
  by_cases post : r.method = "POST"
  · by_cases withBody : route = .signOut
    -- signing out has no form: the token comes with the request's cookies
    · subst withBody
      obtain ⟨x, w', ended⟩ :=
        Ends.total (Service.signOut site.authority (Cookie.token? r.cookies)) w
      exact .of_signOut post there ended run
    · obtain ⟨form, formed⟩ := exists_form operation withBody
      cases fill : filled form r with
      | error refusal =>
        have answers := run
        rw [handle_run post there operation (onRoute_unfilled formed fill)] at answers
        obtain ⟨rfl, _⟩ := Prod.mk.inj answers
        obtain ⟨bare, failed⟩ := bare_of_unfilled fill
        exact .of_bare run bare fun _ _ => failed
      | ok f =>
        obtain ⟨x, w', ended⟩ := Ends.total ((route.asked f).op site.authority) w
        exact .of_asked (asks_of_filled post there formed fill) ended run
  · exact .of_bare run (bare_of_not_post there operation post run) fun same => absurd same post

/-! ## Bringing the cookie back -/

section Returning

variable {e : Email} {expiry : Int}

/-- The cookie of a minted token is read as that token. -/
lemma token?_of_returns (minted : site.authority.Mints t e expiry)
    (returns : r.Returns site.cookies t) : Cookie.token? r.cookies = some t := by
  obtain ⟨before, after, others, cookies⟩ := returns
  obtain ⟨_, id, mint⟩ := minted
  rw [cookies]
  exact Cookie.token?_sending site.cookies (Authority.ne_empty_of_mint mint)
    (fun _ mem => Authority.isPlain_of_mint mint mem) others

/-- A request to sign out that returns the cookie of a minted token succeeds if the token can be
opened and is not banned, and then the session is over. -/
lemma handle_returns (minted : site.authority.Mints t e expiry)
    (returns : r.Returns site.cookies t) (post : r.method = "POST")
    (there : Route.ofPath? r.path = some .signOut) (served : w.keyspace.outages = [])
    (working : w.outages .isBanned = none) (working' : w.outages .revoke = none) :
    ∃ response w₁, (handle site r).run w = (response, w₁) ∧
      (response.status = 200 ↔ (∃ f, site.authority.openAt w.wallSeconds t = .ok f) ∧
        w.bannedAt w.uptime t = false) ∧
      (response.status = 200 → EndsSession site.authority w w₁ t expiry) := by
  obtain ⟨x, w', ended⟩ := Ends.total (Service.signOut site.authority (some t)) w
  -- the cookie brings exactly this token, so this is the run that is answered
  have asked : Ends (Service.signOut site.authority (Cookie.token? r.cookies)) w x w' := by
    rw [token?_of_returns minted returns]
    exact ended
  have run := handle_run post there nofun (onRoute_signOut (asked.map _))
  rw [sent_rendered, adding_adding] at run
  refine ⟨_, _, run, ?_, ?_⟩
  · cases x with
    | error f =>
      refine iff_of_false (outcome_error site r w' f).2 ?_
      rintro ⟨⟨f, opened⟩, unbanned⟩
      obtain ⟨_, ended'⟩ :=
        exists_signOut_of_opened minted opened unbanned served working working'
      cases (ended.unique ended').1
    | ok =>
      obtain ⟨f, opened, unbanned⟩ := Accepts.inv (.inr ⟨w', ended⟩)
      exact iff_of_true rfl ⟨⟨f, opened⟩, unbanned⟩
  · intro success
    cases x with
    | error f => exact absurd success (outcome_error site r w' f).2
    | ok => exact .of_signOut minted ended _

end Returning

/-- Sessions travel in cookies. A response to one of the five operations carries the session cookie
exactly if it is the success of a route that opens or ends a session, and then no cache may keep it;
the cookie is set to the token that the service handed out, or deleted. What is set for a minted
token comes back as that token, whatever other cookies are sent around it. With stores in order it
is signed out exactly if it can be opened and is not banned, which with a plain secret it can up to
its expiry, and then its session is over, and no other. -/
theorem session_travels (site : Site) :
    (∀ (w : World) (r : Request) (route : Route), Route.ofPath? r.path = some route →
      route ≠ .health → ∃ response w₁, (handle site r).run w = (response, w₁) ∧
        CarriesSession site r route w response) ∧
    ∀ t e expiry, site.authority.Mints t e expiry →
      ∀ r : Request, r.Returns site.cookies t → Cookie.token? r.cookies = some t ∧
        (r.method = "POST" → Route.ofPath? r.path = some .signOut →
          ∀ w : World, w.keyspace.outages = [] → w.outages .isBanned = none →
            w.outages .revoke = none → ∃ response w₁, (handle site r).run w = (response, w₁) ∧
              (response.status = 200 ↔ (∃ f, site.authority.openAt w.wallSeconds t = .ok f) ∧
                w.bannedAt w.uptime t = false) ∧
              (Key.IsPlain site.authority.secret → (response.status = 200 ↔
                (hasDate w.wallSeconds = true ∧ w.wallSeconds ≤ expiry) ∧
                  w.bannedAt w.uptime t = false)) ∧
              (response.status = 200 → EndsSession site.authority w w₁ t expiry)) := by
  refine ⟨fun w r route there operation => handle_carries site w there operation,
    fun t e expiry minted r returns => ⟨token?_of_returns minted returns, ?_⟩⟩
  intro post there w served working working'
  obtain ⟨response, w₁, run, success, ended⟩ :=
    handle_returns minted returns post there served working working'
  refine ⟨response, w₁, run, success, fun plain => success.trans (and_congr_left' ?_), ended⟩
  simp only [minted.openAt_ok_iff plain, exists_eq_left]

end App

/-! ## Samples -/

/-- A request to sign out that sends the cookie of a token between two others. -/
def Request.signingOut (p : Cookie.Policy) (t : String) : Request :=
  ⟨"POST", "/logout", [("cookie", Cookie.sending
    ["theme=dark".toList, Cookie.kept (Cookie.setHeader p t), "lang=en".toList])], []⟩

/-- The request to sign out returns the cookie that was kept. -/
lemma returns_signingOut (p : Cookie.Policy) (t : String) :
    (Request.signingOut p t).Returns p t := by
  refine ⟨["theme=dark".toList], ["lang=en".toList], fun c mem => ?_, rfl⟩
  obtain rfl | rfl : c = "theme=dark".toList ∨ c = "lang=en".toList := by
    simpa only [List.singleton_append, List.mem_cons, List.not_mem_nil, or_false] using mem
  · exact .of_pair (by decide) (by decide)
  · exact .of_pair (by decide) (by decide)

/-- The request to sign out is on the route that signs out. -/
lemma ofPath?_signingOut (p : Cookie.Policy) (t : String) :
    Route.ofPath? (Request.signingOut p t).path = some .signOut := by
  have path : (Request.signingOut p t).path = "/logout" := by
    show String.ofList ("/logout".toList.takeWhile _) = _
    decide
  rw [path]
  decide

/-- A site whose secret is the text of an array without items, so that it stands for no key. -/
def Site.keyless : Site := ⟨⟨"[                                ]", 600⟩, ⟨600, "lax", true⟩, []⟩

namespace App

/-- The cookie of the sample brings its token back, and signing out with it ends the session. -/
theorem session_travels_sample : ∃ t,
    Ends (Authority.sample.issue Email.sample) World.sample (.ok t) World.sample.idDrawn ∧
      Authority.sample.Mints t Email.sample 1700000600 ∧
      (Request.signingOut Site.sample.cookies t).Returns Site.sample.cookies t ∧
      Cookie.token? (Request.signingOut Site.sample.cookies t).cookies = some t ∧
      ∃ response w₁, (handle .sample (.signingOut Site.sample.cookies t)).run
          World.sample.idDrawn = (response, w₁) ∧ response.status = 200 ∧
        response.cookies = [Cookie.clearHeader Site.sample.cookies 1700000000] ∧
        EndsSession .sample World.sample.idDrawn w₁ t 1700000600 := by
  obtain ⟨t, issued, minted⟩ := Authority.exists_issue_sample
  have returns := returns_signingOut Site.sample.cookies t
  have there := ofPath?_signingOut Site.sample.cookies t
  obtain ⟨carries, lossless⟩ := session_travels .sample
  obtain ⟨told, signsOut⟩ := lossless t _ _ minted _ returns
  obtain ⟨response, w₁, run, _, success, ended⟩ :=
    signsOut rfl there World.sample.idDrawn rfl rfl rfl
  have status := (success Authority.sample_isPlain).2 ⟨⟨rfl, by decide⟩, rfl⟩
  obtain ⟨response', w₁', run', carried⟩ := carries World.sample.idDrawn _ _ there nofun
  obtain ⟨rfl, rfl⟩ := Prod.mk.inj (run.symm.trans run')
  have set := carried.exclusive.2 ⟨rfl, status, by decide⟩
  exact ⟨t, issued, minted, returns, told, response, w₁, run, status, (carried.closes rfl set).2,
    ended status⟩

/-- A site without a key issues a session. -/
lemma exists_issue_keyless : ∃ t,
    Ends (Site.keyless.authority.issue Email.sample) World.sample (.ok t) World.sample.idDrawn ∧
      Site.keyless.authority.Mints t Email.sample 1700000600 := by
  obtain ⟨t, mint⟩ := Authority.exists_mint_of_accepted
    (show Key.isRefused Site.keyless.authority.secret = false from rfl)
    (Authority.claims Email.sample 1700000600 (World.sample.ids.draw 0))
  exact ⟨t, Authority.issue_ok_iff.2 ⟨rfl, rfl, mint, rfl⟩, rfl, _, mint⟩

/-- No token holds of a site that has no key. -/
lemma sealedClaims_keyless {t : String} {e : Email} {expiry : Int}
    (minted : Site.keyless.authority.Mints t e expiry) :
    Site.keyless.authority.sealedClaims t = .error Authority.notAToken := by
  obtain ⟨_, id, mint⟩ := minted
  obtain ⟨signature, _, rfl⟩ := Authority.mint_eq_ok mint
  have alg : (Keyed.find? "alg" issuedHeader).bind Json.text? = some algorithm := by
    simp only [issuedHeader, Keyed.find?, if_true, Option.bind_some, Json.text?]
  have keys : Key.candidates Site.keyless.authority.secret = .ok [] := rfl
  rw [Authority.sealedClaims, Envelope.ofText_assemble]
  simp only [Authority.mapError_ok, bind, Except.bind, alg, if_true, Key.verifies, keys,
    Key.anyMatches, Bool.false_eq_true, if_false]
  rfl

/-- A session whose secret is JSON text for no key cannot be ended with its cookie; and one that is
ended with its cookie can be ended again in the second in which it expires. -/
theorem session_outlives_cookie :
    (∃ t w₁ response,
      Ends (Site.keyless.authority.issue Email.sample) World.sample (.ok t) World.sample.idDrawn ∧
        (handle .keyless (.signingOut Site.keyless.cookies t)).run World.sample.idDrawn =
          (response, w₁) ∧ response.status = 401) ∧
    ∃ t w₁ w₂ response response',
      Ends (Authority.sample.issue Email.sample) World.sample (.ok t) World.sample.idDrawn ∧
        (handle .sample (.signingOut Site.sample.cookies t)).run World.sample.idDrawn =
          (response, w₁) ∧ response.status = 200 ∧
        (handle .sample (.signingOut Site.sample.cookies t)).run (w₁.advance 600000 600000) =
          (response', w₂) ∧ response'.status = 200 := by
  constructor
  · obtain ⟨t, issued, minted⟩ := exists_issue_keyless
    have opened : Site.keyless.authority.openAt World.sample.idDrawn.wallSeconds t =
        .error Authority.notAToken := by
      rw [Authority.openAt, sealedClaims_keyless minted]
      rfl
    obtain ⟨_, _, mint⟩ := id minted
    have failed := Service.signOut_of_checkToken (Authority.ne_empty_of_mint mint)
      (Service.checkToken_of_token opened rfl)
    rw [← token?_of_returns minted (returns_signingOut Site.keyless.cookies t)] at failed
    have run := handle_run rfl (ofPath?_signingOut _ t) (by decide) (onRoute_signOut (failed.map _))
    exact ⟨t, _, _, issued, run, rfl⟩
  · obtain ⟨t, issued, minted⟩ := Authority.exists_issue_sample
    have opens (now : Int) (date : hasDate now = true) (live : now ≤ 1700000600) :
        ∃ f, Site.sample.authority.openAt now t = .ok f :=
      ⟨_, (minted.openAt_ok_iff Authority.sample_isPlain).2 ⟨rfl, date, live⟩⟩
    have returns := returns_signingOut Site.sample.cookies t
    have there := ofPath?_signingOut Site.sample.cookies t
    obtain ⟨response, w₁, run, success, ended⟩ :=
      @handle_returns .sample _ World.sample.idDrawn _ _ _ minted returns rfl there rfl rfl rfl
    have status := success.2 ⟨opens _ rfl (by decide), rfl⟩
    obtain ⟨same, banned, _⟩ := ended status
    -- the ban is over when the last second of the token begins
    have wall : (w₁.advance 600000 600000).wallSeconds = 1700000600 := by
      show (w₁.wall + 600000).fdiv 1000 = 1700000600
      rw [same.wall]
      rfl
    have free : (w₁.advance 600000 600000).bannedAt (w₁.advance 600000 600000).uptime t =
        false := by
      show w₁.bannedAt (w₁.uptime + 600000) t = false
      rw [same.uptime]
      exact banned.after (by decide) rfl _ (by decide) (by decide)
    obtain ⟨response', w₂, run', success', _⟩ :=
      @handle_returns .sample _ (w₁.advance 600000 600000) _ _ _ minted returns rfl there
        same.served (congrFun same.outages .isBanned) (congrFun same.outages .revoke)
    have opened := opens (w₁.advance 600000 600000).wallSeconds (by rw [wall]; rfl)
      (Int.le_of_eq wall)
    exact ⟨t, w₁, w₂, response, response', issued, run, status, run', success'.2 ⟨opened, free⟩⟩

end App

end Http

end SignIn
