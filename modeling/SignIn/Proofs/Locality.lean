import SignIn.Proofs.Places
import SignIn.Proofs.Run

/-!
# Locality

Operations that stay within a region of the stores. Two worlds that agree on a region are told the
same by every request whose places lie in the region, agree there after it, and are as they were
outside (`Agree.request`). The relation `Beside` puts all of this together, since a call that is
confined to a place of the region respects it; so do the operations, being made of such calls.
-/

namespace SignIn

open World

variable {α : Type}

/-! ## Mailers -/

namespace Mailer

/-- A mailer but for the messages that it was given. -/
def unsent : Mailer → Mailer
  | .dummy => .dummy
  | .recorder _ closes => .recorder [] closes
  | .provider p => .provider { p with sent := [] }

/-- A mailer but for the messages that it was given and the replies that it has left. -/
def bare : Mailer → Mailer
  | .dummy => .dummy
  | .recorder _ closes => .recorder [] closes
  | .provider p => .provider { p with sent := [], replies := [] }

variable {m m' : Mailer}

/-- How a provider takes a message does not depend on those before it. -/
lemma deliver_sent (p : Provider) (sent : List MailRequest) (msg : Message) :
    ({ p with sent := sent }.deliver msg).1 = (p.deliver msg).1 ∧
      (Mailer.provider ({ p with sent := sent }.deliver msg).2).unsent =
        (Mailer.provider (p.deliver msg).2).unsent := by
  rw [Provider.deliver, Provider.deliver]
  dsimp only
  split
  · exact ⟨rfl, rfl⟩
  · split
    · exact ⟨rfl, rfl⟩
    · split
      · exact ⟨rfl, rfl⟩
      · split
        · exact ⟨rfl, rfl⟩
        · split
          · exact ⟨rfl, rfl⟩
          · exact ⟨rfl, rfl⟩

/-- How a mailer answers does not depend on the messages that it was given before. -/
lemma answer_congr (same : m'.unsent = m.unsent) (msg : Message) :
    (m'.answer msg).1 = (m.answer msg).1 ∧ (m'.answer msg).2.unsent = (m.answer msg).2.unsent := by
  cases m with
  | dummy =>
    cases m' with
    | dummy => exact ⟨rfl, rfl⟩
    | recorder | provider => cases same
  | recorder sent closes =>
    cases m' with
    | recorder sent' closes' =>
      cases same
      exact ⟨rfl, rfl⟩
    | dummy | provider => cases same
  | provider p =>
    cases m' with
    | provider p' =>
      have other : p' = { p with sent := p'.sent } := by
        cases p
        cases p'
        cases same
        rfl
      obtain ⟨told, left⟩ := deliver_sent p p'.sent msg
      rw [← other] at told left
      rw [answer, answer, told]
      cases (p.deliver msg).1 with
      | ok _ => exact ⟨rfl, left⟩
      | error f =>
        cases f with
        | failed reason message => exact ⟨rfl, left⟩
        | escaped d => exact ⟨rfl, left⟩
    | dummy | recorder => cases same

/-- Delivering a message changes a provider only by messages and replies. -/
lemma bare_deliver (p : Provider) (msg : Message) :
    (Mailer.provider (p.deliver msg).2).bare = (Mailer.provider p).bare := by
  rw [Provider.deliver]
  dsimp only
  split
  · rfl
  · split
    · rfl
    · split
      · rfl
      · split
        · rfl
        · split
          · rfl
          · rfl

/-- A message changes no more of a mailer than what it was given and what it has left. -/
lemma bare_answer (m : Mailer) (msg : Message) : (m.answer msg).2.bare = m.bare := by
  cases m with
  | dummy | recorder => rfl
  | provider p =>
    have kept := bare_deliver p msg
    rw [answer]
    cases (p.deliver msg).1 with
    | ok _ => exact kept
    | error f =>
      cases f with
      | failed reason message => exact kept
      | escaped d => exact kept

/-- Sending a message touches no store. -/
lemma send_stores {msg : Message} {w w' : World} {r : Except Fault Unit}
    (run : Ends (send msg) w r w') :
    w'.surroundings = w.surroundings ∧ w'.ids = w.ids ∧ w'.codes = w.codes ∧
      w'.accounts = w.accounts ∧ ∀ p, w'.held p = w.held p := by
  rw [send, Ends.get_bind] at run
  cases store : w.mailer with
  | dummy =>
    simp only [store] at run
    obtain ⟨_, rfl⟩ := Ends.log_inv run
    exact ⟨rfl, rfl, rfl, rfl, fun _ => rfl⟩
  | recorder sent closes =>
    simp only [store] at run
    obtain ⟨_, rfl⟩ := Ends.set_inv run
    exact ⟨rfl, rfl, rfl, rfl, fun _ => rfl⟩
  | provider p =>
    simp only [store, Ends.set_bind] at run
    split at run
    · obtain ⟨_, rfl⟩ := Ends.log_inv run
      exact ⟨rfl, rfl, rfl, rfl, fun _ => rfl⟩
    · rw [Ends.log_bind] at run
      obtain ⟨_, rfl⟩ := Ends.throw_inv run
      exact ⟨rfl, rfl, rfl, rfl, fun _ => rfl⟩
    · obtain ⟨_, rfl⟩ := Ends.throw_inv run
      exact ⟨rfl, rfl, rfl, rfl, fun _ => rfl⟩

end Mailer

/-! ## Regions -/

/-- A region has both places of an address. -/
def Named (P : Place → Prop) (e : Email) : Prop := P (.account e) ∧ P (.challenge e)

/-- Two worlds agree on a region: they have the same surroundings, draw the same values, take
messages alike, and keep the same in the region. Whoever is found in the region has an address in
it. -/
structure Agree (P : Place → Prop) (w v : World) : Prop where
  around : v.surroundings = w.surroundings
  ids : v.ids = w.ids
  codes : v.codes = w.codes
  mailer : v.mailer.unsent = w.mailer.unsent
  held : ∀ p, P p → v.held p = w.held p
  own : ∀ e u, Named P e → w.accounts.read e = .ok u → Named P u.email

/-- Outside a region nothing has changed, but for draws and messages. -/
structure Untouched (P : Place → Prop) (w w' : World) : Prop where
  around : w'.surroundings = w.surroundings
  mailer : w'.mailer.bare = w.mailer.bare
  held : ∀ p, ¬ P p → w'.held p = w.held p

/-- Two worlds that agree on a region, and are outside of it as two worlds before them were. -/
structure Beside (P : Place → Prop) (w₀ v₀ w v : World) : Prop where
  agree : Agree P w v
  left : Untouched P w₀ w
  right : Untouched P v₀ v

namespace Agree

variable {P : Place → Prop} {w v u : World}

/-- A world agrees with itself if whoever is found in the region is named in it. -/
lemma refl (own : ∀ e u, Named P e → w.accounts.read e = .ok u → Named P u.email) : Agree P w w :=
  ⟨rfl, rfl, rfl, rfl, fun _ _ => rfl, own⟩

/-- Agreement goes both ways. -/
lemma symm (h : Agree P w v) : Agree P v w where
  around := h.around.symm
  ids := h.ids.symm
  codes := h.codes.symm
  mailer := h.mailer.symm
  held p inside := (h.held p inside).symm
  own e u named found := by
    rw [read_of_held (h.held _ named.1)] at found
    exact h.own e u named found

/-- Agreement is passed on. -/
lemma trans (h : Agree P w v) (k : Agree P v u) : Agree P w u where
  around := k.around.trans h.around
  ids := k.ids.trans h.ids
  codes := k.codes.trans h.codes
  mailer := k.mailer.trans h.mailer
  held p inside := (k.held p inside).trans (h.held p inside)
  own := h.own

end Agree

namespace Untouched

variable {P : Place → Prop} {w w' w'' : World}

/-- A world is untouched by nothing at all. -/
lemma refl (P : Place → Prop) (w : World) : Untouched P w w := ⟨rfl, rfl, fun _ _ => rfl⟩

/-- What is untouched twice is untouched. -/
lemma trans (h : Untouched P w w') (k : Untouched P w' w'') : Untouched P w w'' :=
  ⟨k.around.trans h.around, k.mailer.trans h.mailer,
    fun p out => (k.held p out).trans (h.held p out)⟩

/-- What changes one place of a region leaves the rest untouched. -/
lemma of_elsewhere {p : Place} (h : Elsewhere p w w') (inside : P p) : Untouched P w w' :=
  ⟨h.around, congrArg Mailer.bare h.mailer,
    fun q out => h.held q fun same => out (by rw [same]; exact inside)⟩

end Untouched

section Region

variable {P : Place → Prop} {w₀ v₀ w v : World} {told : Failure → Failure}

/-- A call that is confined to a place of the region stays within it, if it makes nobody be found
whose address lies outside. -/
lemma Confined.respects {p : Place} {x : Call α} (h : Confined p x) (inside : P p)
    (owned : ∀ ⦃w r w'⦄, Ends x w r w' → ∀ e u, w'.accounts.read e = .ok u →
      w.accounts.read e = .ok u ∨ u.email = e) :
    Respects (Beside P w₀ v₀) id x := by
  intro w v beside r w' s v' run run'
  have agree := beside.agree
  have elsewhere := h.elsewhere run
  have elsewhere' := h.elsewhere run'
  -- at the place the two runs do the same, and elsewhere each leaves its world as it was
  obtain ⟨same, twin⟩ := h.twin.exact ⟨agree.around, agree.held p inside⟩ run run'
  refine ⟨congrArg _ same, ?_, beside.left.trans (.of_elsewhere elsewhere inside),
    beside.right.trans (.of_elsewhere elsewhere' inside)⟩
  exact
    { around := twin.around
      ids := by rw [elsewhere'.ids, elsewhere.ids, agree.ids]
      codes := by rw [elsewhere'.codes, elsewhere.codes, agree.codes]
      mailer := by rw [elsewhere'.mailer, elsewhere.mailer, agree.mailer]
      held := fun q inside' => by
        by_cases at_ : q = p
        · rw [at_]
          exact twin.held
        · rw [elsewhere'.held q at_, elsewhere.held q at_, agree.held q inside']
      own := fun e u named found => by
        obtain found | same := owned run e u found
        · exact agree.own e u named found
        · rw [same]
          exact named }

/-- Asking for a ban in a region stays within it. -/
lemma Bans.contains_beside {t : String} (inside : P (.ban t)) :
    Respects (Beside P w₀ v₀) id (contains t) :=
  (contains_confined t).respects inside fun _ _ _ run _ _ found => by
    rw [(contains_inv run).1.accounts List.not_mem_nil] at found
    exact .inl found

/-- Banning a token in a region stays within it. -/
lemma Bans.revoke_beside {t : String} (inside : P (.ban t)) (n : Int) :
    Respects (Beside P w₀ v₀) id (revoke t (.whole n)) :=
  (revoke_confined t n).respects inside fun _ _ _ run _ _ found => by
    rw [(revoke_inv run).1.accounts (by simp)] at found
    exact .inl found

/-- Sending a message stays within every region. -/
lemma Mailer.send_beside (m : Message) : Respects (Beside P w₀ v₀) id (send m) := by
  intro w v beside r w' s v' run run'
  have agree := beside.agree
  obtain ⟨_, answered⟩ := send_inv run
  obtain ⟨_, answered'⟩ := send_inv run'
  obtain rfl : r = (w.mailer.answer m).1 := congrArg Prod.fst answered
  obtain rfl : s = (v.mailer.answer m).1 := congrArg Prod.fst answered'
  have mailer : w'.mailer = (w.mailer.answer m).2 := congrArg Prod.snd answered
  have mailer' : v'.mailer = (v.mailer.answer m).2 := congrArg Prod.snd answered'
  obtain ⟨around, ids, codes, accounts, held⟩ := send_stores run
  obtain ⟨around', ids', codes', _, held'⟩ := send_stores run'
  obtain ⟨told, left⟩ := answer_congr agree.mailer m
  refine ⟨congrArg _ told.symm, ?_, beside.left.trans ⟨around, ?_, fun p _ => held p⟩,
    beside.right.trans ⟨around', ?_, fun p _ => held' p⟩⟩
  · exact
      { around := by rw [around', around, agree.around]
        ids := by rw [ids', ids, agree.ids]
        codes := by rw [codes', codes, agree.codes]
        mailer := by rw [mailer', mailer, left]
        held := fun p inside => by rw [held', held, agree.held p inside]
        own := by
          rw [accounts]
          exact agree.own }
  · rw [mailer, bare_answer]
  · rw [mailer', bare_answer]

/-- Adding a user whose address is in a region stays within it. -/
lemma Accounts.add_beside {u : User} (named : Named P u.email) :
    Respects (Beside P w₀ v₀) id (add u) :=
  (add_confined u).respects named.1 fun _ _ _ run e x found => by
    obtain ⟨_, ⟨_, _, _, stored⟩ | ⟨same, _⟩⟩ := add_inv run
    · rw [stored] at found
      by_cases at_ : u.email = e
      · rw [if_pos at_] at found
        rw [← Except.ok.inj found]
        exact .inr at_
      · rw [if_neg at_] at found
        exact .inl found
    · rw [same] at found
      exact .inl found

/-- The operations that name addresses of a region stay within it. -/
lemma beside_congruence : Congruence (Beside P w₀ v₀) told (Named P) where
  wall w v beside := congrArg Surroundings.wall beside.agree.around
  outages w v beside := congrArg Surroundings.outages beside.agree.around
  noting w v beside level source text :=
    ⟨{ beside.agree with }, { beside.left with }, { beside.right with }⟩
  ids w v beside := by
    refine ⟨beside.agree.ids, ?_⟩
    exact ⟨{ beside.agree with ids := by rw [idDrawn, idDrawn, beside.agree.ids] },
      { beside.left with }, { beside.right with }⟩
  codes w v beside := by
    refine ⟨beside.agree.codes, ?_⟩
    exact ⟨{ beside.agree with codes := by rw [codeDrawn, codeDrawn, beside.agree.codes] },
      { beside.left with }, { beside.right with }⟩
  own w v beside := beside.agree.own
  lookUp e named := (Accounts.lookUp_confined e).respects named.1 fun _ _ _ run _ _ found => by
    rw [(Accounts.lookUp_inv run).2.accounts List.not_mem_nil] at found
    exact .inl found
  issue e named c := (Challenges.issue_confined e c).respects named.2 fun _ _ _ run _ _ found => by
    rw [(Challenges.issue_inv run).1.accounts (by simp)] at found
    exact .inl found
  take e named c := (Challenges.take_confined e c).respects named.2 fun _ _ _ run _ _ found => by
    obtain ⟨_, _, same, _⟩ | ⟨same, _⟩ := Challenges.take_inv run
    · rw [same.accounts (by simp)] at found
      exact .inl found
    · rw [same.accounts List.not_mem_nil] at found
      exact .inl found
  send := Mailer.send_beside

end Region

/-! ## Requests -/

/-- What requests are about. -/
inductive Subject
  | address (e : Email)
  | token (t : String)
  deriving DecidableEq

def Place.subject : Place → Subject
  | account e | challenge e => .address e
  | ban t => .token t

/-- What a request is about, unless it names no address and no token. -/
def Request.subject? : Request → Option Subject
  | signUp email .. | signIn email _ | verify email .. => (Email.read email).toOption.map .address
  | signOut token => (token.filter (· ≠ "")).map .token
  | checkToken token => some (.token token)

section Requests

variable {P : Place → Prop} {w₀ v₀ w v w' v' : World} {a : Authority} {r : Request}

/-- A request stays within a region that has all places of its subject. -/
lemma Request.beside (inside : ∀ p : Place, r.subject? = some p.subject → P p) :
    Respects (Beside P w₀ v₀) id (r.op a) := by
  have both {email : Field} (address : ∀ e, Email.read email = .ok e →
      r.subject? = some (.address e)) (e : Email) (read : Email.read email = .ok e) : Named P e :=
    ⟨inside (.account e) (address e read), inside (.challenge e) (address e read)⟩
  cases r with
  | signUp email password secondFactor =>
    have named : ∀ e, Email.read email = .ok e → Named P e := by
      refine both fun e read => ?_
      rw [subject?, read]
      rfl
    exact .map (beside_congruence.signUp named fun u address _ =>
      beside_congruence.register (Accounts.add_beside (named u.email address)))
  | signIn email password =>
    refine .map (beside_congruence.signIn a (both fun e read => ?_) password)
    rw [subject?, read]
    rfl
  | verify email attemptId code =>
    refine .map (beside_congruence.verify a (both fun e read => ?_) attemptId code)
    rw [subject?, read]
    rfl
  | signOut token =>
    have named (t : String) (given : token.filter (· ≠ "") = some t) : P (.ban t) := by
      refine inside (.ban t) ?_
      rw [subject?, given]
      rfl
    exact .map (beside_congruence.signOut a (fun t given => Bans.contains_beside (named t given))
      fun t given => Bans.revoke_beside (named t given))
  | checkToken token =>
    exact .map (beside_congruence.checkToken a (Bans.contains_beside (inside (.ban token) rfl)))

/-- Where two worlds agree on all places of its subject, a request is answered alike. They agree
there after it, and nothing has changed elsewhere. -/
lemma Agree.request (agree : Agree P w v)
    (inside : ∀ p : Place, r.subject? = some p.subject → P p) {x y : Except Failure Answer}
    (run : Ends (r.op a) w x w') (run' : Ends (r.op a) v y v') :
    x = y ∧ Agree P w' v' ∧ Untouched P w w' ∧ Untouched P v v' := by
  obtain ⟨same, beside⟩ := (Request.beside inside).exact ⟨agree, .refl P w, .refl P v⟩ run run'
  exact ⟨same, beside.agree, beside.left, beside.right⟩

end Requests

end SignIn
