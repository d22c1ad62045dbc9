import SignIn.Proofs.Revocation
import SignIn.Proofs.Seals

/-!
# Spellings of a token

A token opens for what its parts are read as, but it is banned as the text that it is. The signature
is the only part that is not signed itself, and Base64 is read leniently: a reader stops at the
padding that completes the last group, whatever stands behind it. So every token has other spellings
that open for the same address, and signing out bans just the one that was sent.
-/

namespace SignIn

open Token

namespace Token

/-- Two texts are the same up to their last points. -/
def SameSigned (t t' : String) : Prop :=
  ∃ signed s s', cutLast t.toList = some (signed, s) ∧ cutLast t'.toList = some (signed, s')

/-- Two texts are the same up to their last points, and what follows is read as the same octets. -/
def Respells (t t' : String) : Prop :=
  ∃ signed s s', cutLast t.toList = some (signed, s) ∧ cutLast t'.toList = some (signed, s') ∧
    Base64.decode? s' = Base64.decode? s

variable {t t' : String}

/-- Spellings of one token are taken apart into the same parts. -/
lemma Respells.ofText_eq (h : Respells t t') : Envelope.ofText t' = Envelope.ofText t := by
  obtain ⟨signed, s, s', cut, cut', same⟩ := h
  rw [Envelope.ofText, Envelope.ofText, cut, cut']
  simp only [partOctets, same]

end Token

namespace Authority

variable {a : Authority} {t t' : String} {e f : Email} {expiry now : Int}

/-- With a plain secret a minted token opens for its address, up to its expiry. -/
lemma Mints.openAt_ok_iff (plain : Key.IsPlain a.secret) (minted : a.Mints t e expiry) :
    a.openAt now t = .ok f ↔ f = e ∧ hasDate now = true ∧ now ≤ expiry := by
  obtain ⟨id, told⟩ := minted.sealedClaims plain
  constructor
  · intro opened
    obtain ⟨same, live⟩ := minted.openAt_inv opened
    exact ⟨same, minted.hasDate_of_openAt opened, live⟩
  · rintro ⟨rfl, date, live⟩
    rw [openAt_of_sealed told, dated_of_hasDate date, Except.bind, if_pos live]

/-- Spellings of one token open alike. -/
lemma openAt_respelled (h : Respells t t') : a.openAt now t' = a.openAt now t := by
  rw [openAt, openAt, sealedClaims, sealedClaims, h.ofText_eq]

/-- A text that opens and has the signed text of a token that was minted has its signature too, and
so opens for its address up to its expiry. -/
lemma Mints.openAt_sameSigned (plain : Key.IsPlain a.secret) (minted : a.Mints t e expiry)
    (same : SameSigned t t') (opened : a.openAt now t' = .ok f) : Respells t t' := by
  obtain ⟨signed, s, s', cut, cut'⟩ := same
  obtain ⟨id, told⟩ := minted.sealedClaims plain
  obtain ⟨header, payload, signature, sealed, _⟩ := sealed_of_sealedClaims plain told
  obtain ⟨ms, told', _⟩ := exists_of_bind_ok opened
  obtain ⟨header', payload', signature', sealed', _⟩ := sealed_of_sealedClaims plain told'
  obtain ⟨rfl, rfl⟩ := Prod.mk.inj (Option.some.inj (sealed.parts.cut.1.symm.trans cut))
  obtain ⟨text, rfl⟩ := Prod.mk.inj (Option.some.inj (sealed'.parts.cut.1.symm.trans cut'))
  refine ⟨_, _, _, cut, cut', ?_⟩
  rw [sealed.signed, sealed'.signed, text]

/-- A minted token followed by padding and anything without a point is another spelling of it. -/
lemma Mints.respells_padded (minted : a.Mints t e expiry) {junk : List Char} (none : '.' ∉ junk) :
    Respells t (t ++ String.ofList ('=' :: junk)) := by
  obtain ⟨_, id, mint⟩ := minted
  obtain ⟨signature, sign, rfl⟩ := mint_eq_ok mint
  have size : signature.length = 32 := by
    rw [Key.sign] at sign
    split at sign
    · cases sign
    · rw [← Except.ok.inj sign]
      exact Hmac.length_sign ..
  have nopoint := Base64.point_notMem_encode signature
  refine ⟨signedText (claims e expiry id), Base64.encode signature,
    Base64.encode signature ++ '=' :: junk, ?_, ?_, ?_⟩
  · rw [assemble, String.toList_ofList]
    exact cutLast_append nopoint _
  · rw [assemble, String.toList_append, String.toList_ofList, String.toList_ofList,
      List.append_assoc, List.cons_append]
    refine cutLast_append (fun mem => ?_) _
    obtain mem | mem := List.mem_append.1 mem
    · exact nopoint mem
    · obtain point | mem := List.mem_cons.1 mem
      · cases point
      · exact none mem
  · rw [Base64.decode?_encode, Base64.decode?, List.append_assoc, List.cons_append]
    exact Base64.decodeFrom_encode_pad (by rw [size]) _

end Authority

/-! ## Signing out -/

section SigningOut

variable {a : Authority} {t : String} {e : Email} {expiry : Int} {w w' : World}

/-- A token that is signed out could be opened then, and is banned after that. -/
lemma signOut_bans (minted : a.Mints t e expiry)
    (ended : Ends (Service.signOut a (some t)) w (.ok ()) w') :
    a.openAt w'.wallSeconds t = .ok e ∧ w'.bannedAt w'.uptime t = true := by
  obtain ⟨f, opened, _⟩ := Accepts.inv (.inr ⟨w', ended⟩)
  obtain ⟨rfl, _⟩ := minted.openAt_inv opened
  obtain ⟨_, _, _, wall, uptime, banned⟩ := signOut_minted minted ended
  refine ⟨?_, ?_⟩
  · rw [World.wallSeconds, wall]
    exact opened
  · rw [uptime]
    exact banned.before w.uptime (Int.le_refl _) (by rw [banEnd]; omega)

/-- Signing out ends one spelling of a session: as long as the token is banned it is refused, but a
text with the same signed text is accepted up to the expiry of the token exactly if it is another
spelling of it and is not banned itself. There always are such spellings. -/
theorem signedOut_respelled (plain : Key.IsPlain a.secret) (minted : a.Mints t e expiry)
    (ended : Ends (Service.signOut a (some t)) w (.ok ()) w') :
    (a.openAt w'.wallSeconds t = .ok e ∧ w'.bannedAt w'.uptime t = true) ∧
      (∀ v : World, v.bannedAt v.uptime t = true →
        (∀ f v', ¬ Ends (Service.checkToken a t) v (.ok f) v') ∧
          ∀ t', SameSigned t t' → ∀ f v', Ends (Service.checkToken a t') v (.ok f) v' ↔
            Respells t t' ∧ f = e ∧ hasDate v.wallSeconds = true ∧ v.wallSeconds ≤ expiry ∧
              Ends (World.guarded .isBanned (Bans.contains t')) v (.ok false) v') ∧
      ∀ junk, '.' ∉ junk → Respells t (t ++ String.ofList ('=' :: junk)) := by
  refine ⟨signOut_bans minted ended, fun v banned => ⟨?_, ?_⟩, fun junk => minted.respells_padded⟩
  · intro f v' accepted
    obtain ⟨_, unbanned⟩ := Service.checkToken_inv accepted
    rw [banned] at unbanned
    cases unbanned
  · intro t' same f v'
    rw [Service.checkToken_ok_iff, Authority.validate_ok_iff]
    constructor
    · rintro ⟨opened, asked⟩
      have respelled := minted.openAt_sameSigned plain same opened
      rw [Authority.openAt_respelled respelled, minted.openAt_ok_iff plain] at opened
      obtain ⟨rfl, date, live⟩ := opened
      exact ⟨respelled, rfl, date, live, asked⟩
    · rintro ⟨respelled, rfl, date, live, asked⟩
      rw [Authority.openAt_respelled respelled, minted.openAt_ok_iff plain]
      exact ⟨⟨rfl, date, live⟩, asked⟩

end SigningOut

/-! ## A sample -/

/-- Once the session of the sample is signed out, its other spellings are what opens. -/
theorem signedOut_respelled_sample : ∃ t w w', Key.IsPlain Authority.sample.secret ∧
    Authority.sample.Mints t Email.sample 1700000600 ∧
    Ends (Service.signOut .sample (some t)) w (.ok ()) w' ∧
    (Authority.sample.openAt w'.wallSeconds t = .ok Email.sample ∧
        w'.bannedAt w'.uptime t = true) ∧
      (∀ v : World, v.bannedAt v.uptime t = true →
        (∀ f v', ¬ Ends (Service.checkToken .sample t) v (.ok f) v') ∧
          ∀ t', SameSigned t t' → ∀ f v', Ends (Service.checkToken .sample t') v (.ok f) v' ↔
            Respells t t' ∧ f = Email.sample ∧ hasDate v.wallSeconds = true ∧
              v.wallSeconds ≤ 1700000600 ∧
              Ends (World.guarded .isBanned (Bans.contains t')) v (.ok false) v') ∧
      ∀ junk, '.' ∉ junk → Respells t (t ++ String.ofList ('=' :: junk)) := by
  obtain ⟨t, w, w', _, minted, ended⟩ := exists_signOut_sample
  exact ⟨t, w, w', Authority.sample_isPlain, minted, ended,
    signedOut_respelled Authority.sample_isPlain minted ended⟩

/-- Right after a token was signed out, it is accepted with an equals sign at its end. -/
theorem signedOut_accepted_padded : ∃ t w w',
    Authority.sample.Mints t Email.sample 1700000600 ∧
    Ends (Service.signOut .sample (some t)) w (.ok ()) w' ∧ w'.bannedAt w'.uptime t = true ∧
    SameSigned t (t ++ "=") ∧
    ∃ v, Ends (Service.checkToken .sample (t ++ "=")) w' (.ok Email.sample) v := by
  obtain ⟨t, w, w', issued, minted, ended⟩ := exists_signOut_sample
  obtain ⟨opened, banned⟩ := signOut_bans minted ended
  have respelled : Respells t (t ++ "=") :=
    minted.respells_padded (show '.' ∉ ([] : List Char) from List.not_mem_nil)
  obtain ⟨signed, s, s', cut, cut', _⟩ := id respelled
  obtain ⟨_, rfl⟩ := Authority.issue_inv issued
  have kept := Service.signOut_keeps _ _ ended
  obtain ⟨_, _, _, _, uptime, ban⟩ := signOut_minted minted ended
  have other : t ++ "=" ≠ t := by
    intro same
    have length := congrArg (fun s : String => s.toList.length) same
    simp only [String.toList_append, List.length_append] at length
    exact absurd length (by simp)
  have free : w'.bannedAt w'.uptime (t ++ "=") = false := by
    rw [uptime]
    exact ban.others _ (Int.le_refl _) _ other
  have order : w'.outages .isBanned = none := congrFun kept.outages .isBanned
  rw [← Authority.openAt_respelled respelled] at opened
  exact ⟨t, _, w', minted, ended, banned, ⟨signed, s, s', cut, cut'⟩,
    exists_checkToken opened free order kept.served⟩

end SignIn
