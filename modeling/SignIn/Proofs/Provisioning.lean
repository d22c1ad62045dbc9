import Mathlib
import SignIn.Proofs.Lifetime
import SignIn.Wiring

/-!
# Sessions under accepted settings

Settings are accepted if their secret has 32 characters and their sessions last at least a second.
That is not enough for sessions to work. A token is signed with the octets of the secret, but its
signature is checked with the keys that the secret stands for: if the secret is itself JSON text,
these are others, or none at all. A secret that looks like an asymmetric key signs nothing, and a
session cannot end after the last date.
-/

namespace SignIn

open Token

namespace Settings

/-! ## What is accepted -/

section Fields

variable {α β : Type}

/-- A function of a setting was given a setting that passed its checks. -/
lemma Checked.map_inv {f : α → β} {c : Checked α} {y : β} (h : (f <$> c).result = .ok y) :
    ∃ x, c.result = .ok x ∧ f x = y := by
  have mapped : c.result.map f = .ok y := h
  cases read : c.result with
  | error es =>
    rw [read] at mapped
    cases mapped
  | ok x =>
    rw [read] at mapped
    exact ⟨x, rfl, Except.ok.inj mapped⟩

/-- Two settings that are put together have both passed their checks. -/
lemma Checked.seq_inv {f : Checked (α → β)} {c : Checked α} {y : β}
    (h : (f <*> c).result = .ok y) :
    ∃ g x, f.result = .ok g ∧ c.result = .ok x ∧ g x = y := by
  obtain ⟨first⟩ := f
  obtain ⟨second⟩ := c
  cases first with
  | error es =>
    cases second with
    | error fs => cases h
    | ok x => cases h
  | ok g =>
    cases second with
    | error fs => cases h
    | ok x => exact ⟨g, x, rfl, rfl, Except.ok.inj h⟩

/-- A field has its standard value, or the one that was given for it. -/
lemma field_inv {given : Given} {name : String} {standard x : α} {read : Json → Except Wrong α}
    (h : (field given name standard read).result = .ok x) :
    x = standard ∨ ∃ v, read v = .ok x := by
  rw [field] at h
  split at h
  · exact .inl (Except.ok.inj h).symm
  · next v _ =>
    cases told : read v with
    | error w =>
      rw [told] at h
      cases h
    | ok y =>
      rw [told] at h
      cases h
      exact .inr ⟨v, told⟩

/-- An integer that is accepted as positive is. -/
lemma positiveInteger_inv {v : Json} {n : Int} (h : positiveInteger v = .ok n) : 0 < n := by
  rw [positiveInteger] at h
  cases read : integer v with
  | error w =>
    rw [read] at h
    cases h
  | ok m =>
    rw [read] at h
    simp only [bind, Except.bind] at h
    split at h
    · next positive =>
      cases h
      exact positive
    · cases h

/-- A session lasts at least a second. -/
lemma tokenSeconds_of_fields {given : Given} {s : Settings} (h : (fields given).result = .ok s) :
    0 < s.tokenSeconds := by
  unfold fields at h
  -- the fields behind the lifetime
  iterate 14
    replace h := Checked.seq_inv h
    obtain ⟨_, _, h, _, rfl⟩ := h
  replace h := Checked.seq_inv h
  obtain ⟨_, n, h, seconds, rfl⟩ := h
  replace h := Checked.seq_inv h
  obtain ⟨_, _, h, _, rfl⟩ := h
  replace h := Checked.map_inv h
  obtain ⟨_, _, rfl⟩ := h
  show 0 < n
  obtain rfl | ⟨v, told⟩ := field_inv seconds
  · decide
  · exact positiveInteger_inv told

end Fields

/-- Settings that obey the rules have a long secret and the session length that they were given. -/
lemma obeyRules_inv {fresh : String} {s s' : Settings} {entries : List Entry}
    (h : obeyRules fresh s = .ok (s', entries)) :
    secretLength ≤ s'.secretKey.length ∧ s'.tokenSeconds = s.tokenSeconds := by
  rw [obeyRules] at h
  cases keyed : withSecret fresh s with
  | error r =>
    rw [keyed] at h
    cases h
  | ok pair =>
    obtain ⟨s₁, entries₁⟩ := pair
    have seconds : s₁.tokenSeconds = s.tokenSeconds := by
      rw [withSecret] at keyed
      split at keyed
      · cases keyed
        rfl
      · split at keyed
        · cases keyed
          rfl
        · cases keyed
    rw [keyed] at h
    simp only [bind, Except.bind] at h
    split at h
    · cases h
    · next long =>
      split at h
      · cases h
      · cases h
        exact ⟨Nat.le_of_not_lt long, seconds⟩

/-- Settings that some sources load. -/
def Accepted (s : Settings) : Prop :=
  ∃ fresh sources entries, load fresh sources = .ok (s, entries)

/-- Accepted settings have a long secret and sessions that last. -/
lemma Accepted.bounds {s : Settings} (accepted : s.Accepted) :
    secretLength ≤ s.secretKey.length ∧ 0 < s.tokenSeconds := by
  obtain ⟨fresh, sources, entries, loaded⟩ := accepted
  rw [load] at loaded
  cases given : sources.given with
  | error f =>
    rw [given] at loaded
    cases loaded
  | ok given' =>
    rw [given] at loaded
    simp only [bind, Except.bind] at loaded
    split at loaded
    · cases loaded
    · next s₁ read =>
      cases ruled : obeyRules fresh s₁ with
      | error r =>
        rw [ruled] at loaded
        cases loaded
      | ok pair =>
        rw [ruled] at loaded
        cases loaded
        obtain ⟨long, same⟩ := obeyRules_inv ruled
        rw [same]
        exact ⟨long, tokenSeconds_of_fields read⟩

/-- The settings that are given by a secret and a length of sessions alone. -/
def ofPair (secret : String) (seconds : Int) : Settings :=
  { standard with secretKey := secret, tokenSeconds := seconds }

/-- The values of fields that give a secret and a length of sessions. -/
def givenPair (secret : String) (seconds : Int) : Given :=
  [("secret_key", .str secret), ("token_ttl_seconds", .int seconds)]

/-- A long secret and a positive session length are accepted. -/
lemma accepted_ofPair {secret : String} {seconds : Int} (long : secretLength ≤ secret.length)
    (lasting : 0 < seconds) : (ofPair secret seconds).Accepted := by
  have lifetime : field (givenPair secret seconds) "token_ttl_seconds" standard.tokenSeconds
      positiveInteger = ⟨.ok seconds⟩ := by
    have positive : positiveInteger (.int seconds) = .ok seconds := if_pos lasting
    show (⟨(positiveInteger (.int seconds)).mapError _⟩ : Checked Int) = _
    rw [positive]
    rfl
  have read : (fields (givenPair secret seconds)).result = .ok (ofPair secret seconds) := by
    unfold fields
    rw [lifetime]
    rfl
  have present : secret ≠ "" := by
    rintro rfl
    exact absurd long (by decide)
  have keyed : withSecret "" (ofPair secret seconds) = .ok (ofPair secret seconds, []) :=
    if_pos present
  have enough : ¬ (ofPair secret seconds).secretKey.length < secretLength := Nat.not_lt.2 long
  have ruled : obeyRules "" (ofPair secret seconds) = .ok (ofPair secret seconds, []) := by
    rw [obeyRules, keyed]
    simp only [bind, Except.bind]
    rw [if_neg enough, if_neg fun both => nomatch both.1]
    rfl
  have given : (⟨givenPair secret seconds, [], none⟩ : Sources).given =
      .ok (givenPair secret seconds) := rfl
  refine ⟨"", ⟨givenPair secret seconds, [], none⟩, [], ?_⟩
  rw [load, given]
  simp only [bind, Except.bind, read, ruled]
  rfl

/-- Settings are accepted with exactly the secrets that are long enough and the lengths of sessions
that are positive. -/
theorem exists_accepted_iff (secret : String) (seconds : Int) :
    (∃ s : Settings, s.Accepted ∧ s.secretKey = secret ∧ s.tokenSeconds = seconds) ↔
      secretLength ≤ secret.length ∧ 0 < seconds := by
  constructor
  · rintro ⟨s, accepted, rfl, rfl⟩
    exact accepted.bounds
  · rintro ⟨long, lasting⟩
    exact ⟨_, accepted_ofPair long lasting, rfl, rfl⟩

end Settings

/-! ## Keys -/

namespace Token.Key

variable {secret : String} {message signature : List UInt8}

/-- One of the keys that a secret stands for has made a signature, and every key before it can be
used. -/
def Checks (secret : String) (message signature : List UInt8) : Prop :=
  ∃ before v after key, candidates secret = .ok (before ++ v :: after) ∧
    candidateOctets v = .ok key ∧ Hmac.sign key message = signature ∧
    ∀ u ∈ before, ∃ k, candidateOctets u = .ok k

/-- Some candidate matches exactly if one of them is the key and all before it can be used. -/
lemma anyMatches_iff {vs : List Json} : anyMatches message signature vs = .ok true ↔
    ∃ before v after key, vs = before ++ v :: after ∧ candidateOctets v = .ok key ∧
      Hmac.sign key message = signature ∧ ∀ u ∈ before, ∃ k, candidateOctets u = .ok k := by
  induction vs with
  | nil =>
    constructor
    · intro h
      cases h
    · rintro ⟨before, v, after, _, same, _⟩
      exact absurd same.symm (List.append_ne_nil_of_right_ne_nil _ (List.cons_ne_nil v after))
  | cons u us ih =>
    rw [anyMatches]
    cases first : candidateOctets u with
    | error f =>
      constructor
      · intro h
        cases h
      · rintro ⟨before, v, after, key, same, told, _, usable⟩
        cases before with
        | nil =>
          cases same
          cases first.symm.trans told
        | cons u' before =>
          cases same
          obtain ⟨k, told⟩ := usable u List.mem_cons_self
          cases first.symm.trans told
    | ok k =>
      simp only [bind, Except.bind]
      by_cases signs : Hmac.sign k message = signature
      · rw [if_pos signs]
        exact ⟨fun _ => ⟨[], u, us, k, rfl, first, signs, List.forall_mem_nil _⟩, fun _ => rfl⟩
      · rw [if_neg signs, ih]
        constructor
        · rintro ⟨before, v, after, key, rfl, told, same, usable⟩
          refine ⟨u :: before, v, after, key, rfl, told, same, fun x mem => ?_⟩
          obtain rfl | later := List.mem_cons.1 mem
          · exact ⟨k, first⟩
          · exact usable x later
        · rintro ⟨before, v, after, key, same, told, signed, usable⟩
          cases before with
          | nil =>
            cases same
            cases first.symm.trans told
            exact absurd signed signs
          | cons u' before =>
            cases same
            exact ⟨before, v, after, key, rfl, told, signed, fun x mem =>
              usable x (List.mem_cons_of_mem _ mem)⟩

/-- A signature is accepted exactly if it checks out. -/
lemma verifies_iff : verifies secret message signature = .ok true ↔
    Checks secret message signature := by
  rw [verifies]
  cases found : candidates secret with
  | error f =>
    constructor
    · intro h
      cases h
    · rintro ⟨before, v, after, _, told, _⟩
      rw [found] at told
      cases told
  | ok vs =>
    refine anyMatches_iff.trans ?_
    simp only [Checks, found, Except.ok.injEq]

/-- A secret that stands for itself alone checks what it has signed, and nothing else. -/
lemma checks_self (self : candidates secret = .ok [.str secret])
    (accepted : isRefused secret = false) :
    Checks secret message signature ↔ Hmac.sign (octets secret) message = signature := by
  have key : candidateOctets (.str secret) = .ok (octets secret) := by
    rw [candidateOctets, accepted, if_neg Bool.false_ne_true]
  constructor
  · rintro ⟨before, v, after, k, only, told, signs, _⟩
    rw [self] at only
    have mem : v ∈ [Json.str secret] := by
      rw [Except.ok.inj only]
      exact List.mem_append_right _ List.mem_cons_self
    obtain rfl := List.mem_singleton.1 mem
    cases key.symm.trans told
    exact signs
  · intro signs
    exact ⟨[], .str secret, [], _, self, key, signs, List.forall_mem_nil _⟩

end Token.Key

/-! ## Sessions -/

namespace Authority

variable {a b : Authority} {w w' : World} {e : Email} {t : String}

/-- The seal of a token that was assembled from its claims holds if its signature is checked. -/
lemma sealedClaims_assemble_iff {ms : Claims.Members}
    (told : Json.Exact Json.nestingLimit (.obj ms)) (signature : List UInt8) :
    a.sealedClaims (assemble (signedText ms) signature) = .ok ms ↔
      Key.Checks a.secret (Text.Utf8.encode (signedText ms)) signature := by
  have envelope := Envelope.ofText_assemble ms signature
  constructor
  · intro h
    obtain ⟨v, there, _, verified, _⟩ := sealedClaims_eq_ok h
    obtain rfl := Except.ok.inj (envelope.symm.trans there)
    exact Key.verifies_iff.1 verified
  · intro checks
    have alg : (Keyed.find? "alg" issuedHeader).bind Json.text? = some algorithm := by
      simp only [issuedHeader, Keyed.find?, if_true, Option.bind_some, Json.text?]
    have verified := Key.verifies_iff.2 checks
    rw [sealedClaims, envelope]
    simp only [mapError_ok, bind, Except.bind, alg, if_true, verified, objectOf_print told]

/-- A token that opens has a signature that the secret checks. -/
lemma checks_of_openAt {now : Int} (opened : a.openAt now t = .ok e) :
    ∃ v, Envelope.ofText t = .ok v ∧
      Key.Checks a.secret (Text.Utf8.encode v.signed) v.signature := by
  rw [openAt] at opened
  cases told : a.sealedClaims t with
  | error f =>
    rw [told] at opened
    cases opened
  | ok ms =>
    obtain ⟨v, envelope, _, verified, _⟩ := sealedClaims_eq_ok told
    exact ⟨v, envelope, Key.verifies_iff.1 verified⟩

/-- A session opens unless the secret is refused or the start or the end has no date. -/
lemma exists_issue_iff (e : Email) : (∃ t w', Ends (a.issue e) w (.ok t) w') ↔
    hasDate w.wallSeconds = true ∧ hasDate (w.wallSeconds + a.seconds) = true ∧
      Key.isRefused a.secret = false := by
  constructor
  · rintro ⟨t, w', issued⟩
    obtain ⟨start, finish, mint, _⟩ := issue_ok_iff.1 issued
    obtain ⟨signature, sign, _⟩ := mint_eq_ok mint
    refine ⟨start, finish, ?_⟩
    rw [Key.sign] at sign
    split at sign
    · cases sign
    · next accepted => exact Bool.eq_false_iff.2 accepted
  · rintro ⟨start, finish, accepted⟩
    obtain ⟨t, mint⟩ := exists_mint_of_accepted accepted
      (claims e (w.wallSeconds + a.seconds) (w.ids.draw w.ids.used))
    exact ⟨t, _, issue_ok_iff.2 ⟨start, finish, mint, rfl⟩⟩

/-- A new token is signed with the text of the secret; it is at once good for whoever has a secret
that checks the signature. -/
lemma validate_new_iff (lasting : 0 < a.seconds) (issued : Ends (a.issue e) w (.ok t) w') :
    ∃ v, Envelope.ofText t = .ok v ∧
      v.signature = Hmac.sign (Key.octets a.secret) (Text.Utf8.encode v.signed) ∧
      ∀ (b : Authority) w'', Ends (World.guarded .isBanned (Bans.contains t)) w' (.ok false) w'' →
        (Ends (b.validate t) w' (.ok e) w'' ↔
          Key.Checks b.secret (Text.Utf8.encode v.signed) v.signature) := by
  obtain ⟨start, finish, mint, rfl⟩ := issue_ok_iff.1 issued
  obtain ⟨signature, sign, rfl⟩ := mint_eq_ok mint
  have envelope := Envelope.ofText_assemble
    (claims e (w.wallSeconds + a.seconds) (w.ids.draw w.ids.used)) signature
  refine ⟨_, envelope, ?_, fun b w'' unbanned => ?_⟩
  · rw [Key.sign] at sign
    split at sign
    · cases sign
    · exact (Except.ok.inj sign).symm
  · constructor
    · intro good
      obtain ⟨v, there, checks⟩ := checks_of_openAt (validate_ok_iff.1 good).1
      obtain rfl := Except.ok.inj (envelope.symm.trans there)
      exact checks
    · intro checks
      have told := (sealedClaims_assemble_iff (exact_claims e finish _ _) signature).2 checks
      have live : w.idDrawn.wallSeconds ≤ w.wallSeconds + a.seconds :=
        Int.le_add_of_nonneg_right (Int.le_of_lt lasting)
      exact validate_of_live told start live unbanned

end Authority

/-- What becomes of sessions under settings, for secrets and tokens without unpaired surrogates: no
others are texts. -/
structure Settings.Sessions (s : Settings) : Prop where
  /-- The secret is long enough, and sessions last. -/
  bounds : 32 ≤ s.secretKey.length ∧ 0 < s.tokenSeconds
  /-- A session opens unless its end has no date or the secret is taken for an asymmetric key. -/
  opens : ∀ e w, hasDate w.wallSeconds = true →
    ((∃ t w', Ends (s.authority.issue e) w (.ok t) w') ↔
      hasDate (w.wallSeconds + s.tokenSeconds) = true ∧ Key.isRefused s.secretKey = false)
  /-- A new token is good exactly if the secret checks its own signature. -/
  good : ∀ e w, hasDate w.wallSeconds = true →
    ∀ t w', Ends (s.authority.issue e) w (.ok t) w' → ∃ v, Envelope.ofText t = .ok v ∧
      v.signature = Hmac.sign (Key.octets s.secretKey) (Text.Utf8.encode v.signed) ∧
      ∀ w'', Ends (World.guarded .isBanned (Bans.contains t)) w' (.ok false) w'' →
        (Ends (s.authority.validate t) w' (.ok e) w'' ↔
          Key.Checks s.secretKey (Text.Utf8.encode v.signed) v.signature)
  /-- No token is good whose signature the secret does not check. -/
  checked : ∀ t e w w', Ends (s.authority.validate t) w (.ok e) w' →
    ∃ v, Envelope.ofText t = .ok v ∧
      Key.Checks s.secretKey (Text.Utf8.encode v.signed) v.signature
  /-- A secret that stands for itself alone checks its own signatures and no others. -/
  faithful : Key.candidates s.secretKey = .ok [.str s.secretKey] →
    Key.isRefused s.secretKey = false →
    ∀ message signature, Key.Checks s.secretKey message signature ↔
      Hmac.sign (Key.octets s.secretKey) message = signature
  /-- With such a secret sessions open and are good at once. -/
  works : Key.candidates s.secretKey = .ok [.str s.secretKey] →
    Key.isRefused s.secretKey = false →
    ∀ e w, hasDate w.wallSeconds = true → hasDate (w.wallSeconds + s.tokenSeconds) = true →
      ∃ t w', Ends (s.authority.issue e) w (.ok t) w' ∧
        ∀ w'', Ends (World.guarded .isBanned (Bans.contains t)) w' (.ok false) w'' →
          Ends (s.authority.validate t) w' (.ok e) w''

/-- What becomes of sessions under accepted settings. -/
theorem Settings.Accepted.sessions {s : Settings} (accepted : s.Accepted) : s.Sessions := by
  obtain ⟨long, lasting⟩ := accepted.bounds
  refine ⟨⟨long, lasting⟩, fun e w start => ?_, fun e w start t w' issued => ?_,
    fun t e w w' good => ?_, fun self usable _ _ => Key.checks_self self usable,
    fun self usable e w start finish => ?_⟩
  · rw [Authority.exists_issue_iff, and_iff_right start]
    exact Iff.rfl
  · obtain ⟨v, envelope, signed, good⟩ :=
      Authority.validate_new_iff (a := s.authority) lasting issued
    exact ⟨v, envelope, signed, good s.authority⟩
  · exact Authority.checks_of_openAt (a := s.authority) (Authority.validate_ok_iff.1 good).1
  · obtain ⟨t, w', issued⟩ :=
      (@Authority.exists_issue_iff s.authority w e).2 ⟨start, finish, usable⟩
    obtain ⟨v, _, signed, good⟩ := Authority.validate_new_iff (a := s.authority) lasting issued
    exact ⟨t, w', issued, fun w'' unbanned =>
      (good s.authority w'' unbanned).2 ((Key.checks_self self usable).2 signed.symm)⟩

namespace Settings

/-- A secret that stands for itself. -/
def plainSecret : String := "a secret that nobody else can know"

/-- The text of an array without items, which stands for no key. -/
def blankArray : String := "[                              ]"

/-- The text of an array with one short item, which stands for that alone. -/
def shortArray : String := "[\"a\"                           ]"

/-- A text that names a format of public keys. -/
def shellKey : String := "ssh-rsa AAAAB3NzaC1yc2EAAAADAQAB"

/-- Settings with a plain secret are accepted, and issue a session that opens. -/
theorem sessions_plainSecret : (ofPair plainSecret 600).Accepted ∧ ∃ t w',
    Ends ((ofPair plainSecret 600).authority.issue .sample) World.sample (.ok t) w' ∧
      Ends ((ofPair plainSecret 600).authority.validate t) w' (.ok .sample) w' := by
  have accepted : (ofPair plainSecret 600).Accepted :=
    accepted_ofPair (by decide) (by decide)
  obtain ⟨t, w', issued, good⟩ := accepted.sessions.works rfl rfl .sample World.sample rfl rfl
  obtain ⟨_, rfl⟩ := Authority.issue_inv issued
  exact ⟨accepted, t, _, issued, good _ rfl⟩

/-- The text of an array with one item is checked with the item, not with the text. -/
lemma checks_shortArray {message signature : List UInt8}
    (signed : signature = Hmac.sign (Key.octets "a") message) :
    Key.Checks shortArray message signature := by
  have keys : Key.candidates shortArray = .ok [.str "a"] := by cbv
  have key : Key.candidateOctets (.str "a") = .ok (Key.octets "a") := rfl
  exact ⟨[], .str "a", [], _, keys, key, signed.symm, List.forall_mem_nil _⟩

/-- With an accepted secret that stands for no key no new token is good; with one that looks like a
public key, and for an accepted length of sessions that ends after the last date, none is issued;
and with one that stands for a short key, tokens that were signed with that key are good. -/
theorem accepted_yet_unusable :
    ((ofPair blankArray 600).Accepted ∧ ∃ t w',
      Ends ((ofPair blankArray 600).authority.issue .sample) World.sample (.ok t) w' ∧
        ∀ w'', ¬ Ends ((ofPair blankArray 600).authority.validate t) w' (.ok .sample) w'') ∧
    ((ofPair shellKey 600).Accepted ∧ ∀ t w',
      ¬ Ends ((ofPair shellKey 600).authority.issue .sample) World.sample (.ok t) w') ∧
    ((ofPair plainSecret 1000000000000).Accepted ∧ ∀ t w',
      ¬ Ends ((ofPair plainSecret 1000000000000).authority.issue .sample) World.sample (.ok t) w') ∧
    (ofPair shortArray 600).Accepted ∧ ∃ t w',
      Ends ((⟨"a", 600⟩ : Authority).issue .sample) World.sample (.ok t) w' ∧
        Ends ((ofPair shortArray 600).authority.validate t) w' (.ok .sample) w' := by
  refine ⟨⟨accepted_ofPair (by decide) (by decide), ?_⟩,
    ⟨accepted_ofPair (by decide) (by decide), fun t w' issued => ?_⟩,
    ⟨accepted_ofPair (by decide) (by decide), fun t w' issued => ?_⟩,
    accepted_ofPair (by decide) (by decide), ?_⟩
  · obtain ⟨t, w', issued⟩ :=
      (@Authority.exists_issue_iff (ofPair blankArray 600).authority World.sample .sample).2
        ⟨rfl, rfl, rfl⟩
    refine ⟨t, w', issued, fun w'' good => ?_⟩
    obtain ⟨v, _, before, u, after, _, none, _⟩ :=
      Authority.checks_of_openAt (Authority.validate_ok_iff.1 good).1
    have keys : Key.candidates blankArray = .ok [] := rfl
    have empty : [] = before ++ u :: after := Except.ok.inj (keys.symm.trans none)
    exact absurd empty.symm (List.append_ne_nil_of_right_ne_nil _ (List.cons_ne_nil u after))
  · obtain ⟨_, _, usable⟩ :=
      (@Authority.exists_issue_iff (ofPair shellKey 600).authority World.sample .sample).1
        ⟨t, w', issued⟩
    cases usable
  · obtain ⟨_, finish, _⟩ := (@Authority.exists_issue_iff
      (ofPair plainSecret 1000000000000).authority World.sample .sample).1 ⟨t, w', issued⟩
    cases finish
  · obtain ⟨t, w', issued⟩ :=
      (@Authority.exists_issue_iff ⟨"a", 600⟩ World.sample .sample).2 ⟨rfl, rfl, rfl⟩
    obtain ⟨v, _, signed, good⟩ := Authority.validate_new_iff (a := ⟨"a", 600⟩) (by decide) issued
    obtain ⟨_, rfl⟩ := Authority.issue_inv issued
    refine ⟨t, _, issued, (good (ofPair shortArray 600).authority _ rfl).2 ?_⟩
    exact checks_shortArray signed

end Settings

end SignIn
