import Patronage.Proofs.Conduct
/-!
# One request redeems a payment

A payment is noted in the ledger with the fingerprint of a request before anything is signed, and
nothing else holds requests back: no lock is taken, and the ledger's one conditional write decides.
Whatever the other collaborators answer and however requests take turns, a payment is redeemed with
one fingerprint only.  Main statements:

* `Ledger.Keeps.record` — the ledger keeps the entries it has;
* `Redemption.Terms.keeps_createReceipt` — what is known of a credential that was issued;
* `System.same_request_of_same_payment` — two credentials for one payment come from requests with
  one fingerprint, and entries stay for good.
-/

namespace Patronage

open Manager

/-- Two different texts with one digest. -/
def Digest.Collide (a b : Bytes) : Prop := a ≠ b ∧ Digest.sha256 a = Digest.sha256 b

/-- The fingerprint of a request is the digest of the bytes that denote it. -/
theorem CredentialRequest.fingerprint_of_decode {bytes print : Bytes} {r : CredentialRequest}
    (h : decode bytes = .ok r) (hr : r.fingerprint? = some print) :
    print = Digest.sha256 bytes := by
  rw [fingerprint?, serialize?_of_decode h] at hr
  exact (Option.some.inj hr).symm

/-- The bytes of a request are an octet for its version and the nonce. -/
theorem CredentialRequest.length_of_decode {bytes : Bytes} {r : CredentialRequest}
    (h : decode bytes = .ok r) : bytes.length = nonceLength + 1 := by
  unfold decode at h
  split at h
  · cases h
  · rename_i hlen; exact Decidable.not_not.1 hlen

/-- A later ledger has every entry that an earlier one has. -/
def Ledger.Keeps (l l' : Ledger) : Prop :=
  ∀ itemId p e, l.find? itemId p = some e → l'.find? itemId p = some e

namespace Ledger.Keeps

theorem refl (l : Ledger) : l.Keeps l := fun _ _ _ h => h

theorem trans {l l' l'' : Ledger} (h : l.Keeps l') (h' : l'.Keeps l'') : l.Keeps l'' :=
  fun itemId p e he => h' itemId p e (h itemId p e he)

/-- The ledger keeps the entries it has. -/
theorem record (l : Ledger) (entry : Issuance) : l.Keeps (l.record entry).state :=
  fun _ _ _ h => find?_record_of_some h entry

end Ledger.Keeps

/-- What recording answers is the entry that the payment has then, and that is the new one if it
was made. -/
theorem Ledger.find?_of_record {l : Ledger} {entry : Issuance} {noted : Bool × Issuance}
    (h : (l.record entry).answer = .ok noted) :
    (l.record entry).state.find? entry.itemId entry.provider = some noted.2 ∧
      (noted.1 = true → noted.2 = entry) := by
  constructor
  · have hself := find?_record_self l entry
    rw [h] at hself
    cases hf : (l.record entry).state.find? entry.itemId entry.provider with
    | none => simp [hf] at hself
    | some e => simpa [hf, Except.map] using hself
  · unfold record at h
    cases hf : l.find? entry.itemId entry.provider with
    | none => simp only [hf, Outcome.ok, Except.ok.injEq] at h; exact fun _ => h ▸ rfl
    | some e =>
      simp only [hf, Outcome.ok, Except.ok.injEq] at h
      subst h
      intro hnew
      cases hnew

theorem Manager.fingerprint_eq_ok {r : CredentialRequest} {print : Bytes}
    (h : fingerprint r = .ok print) : r.fingerprint? = some print := by
  unfold fingerprint at h
  cases hf : r.fingerprint? with
  | none => simp [hf] at h
  | some f => simpa [hf] using h

/-- What is known of a credential that was issued under a discipline: facts about its payment and
its expiration that stay true, and what the signed credential says. -/
structure Redemption.Terms {ι : Type} (D : Discipline ι) where
  lenient : D.Lenient
  reciprocal : D.Mutual
  ledger : ∀ {s s'}, D.rely s s' → s.world.ledger.Keeps s'.world.ledger
  paid : Provider → ReceiptItem → Course → Prop
  paid_stable : ∀ {p item s s'}, D.rely s s' → paid p item s → paid p item s'
  expires : ReceiptItem → Moment → Course → Prop
  expires_stable : ∀ {item m s s'}, D.rely s s' → expires item m s → expires item m s'
  signed : CredentialRequest → Int → Int → Credential → Prop
  of_decode : ∀ i s bytes r, (D.service i (.decode bytes) s).1 = .ok r →
    CredentialRequest.decode bytes = .ok r
  of_receiptItem : ∀ i s p id item, D.inv s → (D.service i (.receiptItem p id) s).1 = .ok item →
    paid p item (D.service i (.receiptItem p id) s).2
  of_record : ∀ i s entry noted, (D.service i (.record entry) s).1 = .ok noted →
    (D.service i (.record entry) s).2.world.ledger.find? entry.itemId entry.provider =
      some noted.2 ∧ (noted.1 = true → noted.2 = entry)
  of_expiration : ∀ i s item m, (D.service i (.expiration item) s).1 = .ok m →
    expires item m (D.service i (.expiration item) s).2
  of_issue : ∀ i s r e l c, (D.service i (.issue r e l) s).1 = .ok c → signed r e l c

namespace Redemption.Terms

variable {ι : Type} {D : Discipline ι} (T : Redemption.Terms D)

/-- What is known of a credential issued for some request bytes. -/
structure Backed (bytes : Bytes) (r : Receipt) (s : Course) (request : CredentialRequest)
    (entry : Issuance) (expiration : Moment) (seconds : Int) : Prop where
  decoded : CredentialRequest.decode bytes = .ok request
  noted : s.world.ledger.find? r.item.id r.provider = some entry
  fingerprint : request.fingerprint? = some entry.fingerprint
  paid : T.paid r.provider r.item s
  expires : T.expires r.item expiration s
  inSeconds : expiration.epochSeconds = .ok seconds
  signed : T.signed request seconds r.item.level r.credential

/-- Credentials for one payment are backed by one entry. -/
theorem Backed.same_entry {T : Redemption.Terms D} {b₁ b₂ : Bytes} {r₁ r₂ : Receipt} {s : Course}
    {q₁ q₂ : CredentialRequest} {e₁ e₂ : Issuance} {m₁ m₂ : Moment} {n₁ n₂ : Int}
    (h₁ : T.Backed b₁ r₁ s q₁ e₁ m₁ n₁) (h₂ : T.Backed b₂ r₂ s q₂ e₂ m₂ n₂)
    (hitem : r₁.item.id = r₂.item.id) (hprovider : r₁.provider = r₂.provider) :
    e₁ = e₂ ∧ (b₁ = b₂ ∨ Digest.Collide b₁ b₂) := by
  obtain rfl : e₁ = e₂ := by
    have h := h₁.noted
    rw [hitem, hprovider, h₂.noted] at h
    exact (Option.some.inj h).symm
  have hsame : Digest.sha256 b₁ = Digest.sha256 b₂ := by
    rw [← CredentialRequest.fingerprint_of_decode h₁.decoded h₁.fingerprint,
      ← CredentialRequest.fingerprint_of_decode h₂.decoded h₂.fingerprint]
  exact ⟨rfl, (Decidable.em (b₁ = b₂)).imp_right fun hne => ⟨hne, hsame⟩⟩

/-- Every issued credential is backed by a request, a ledger entry and an expiration. -/
def IsBacked (bytes : Bytes) (r : Receipt) (s : Course) : Prop :=
  ∃ request entry expiration seconds, T.Backed bytes r s request entry expiration seconds

variable {T}

theorem IsBacked.rely {bytes : Bytes} {r : Receipt} {s s' : Course} (h : T.IsBacked bytes r s)
    (hs : D.rely s s') : T.IsBacked bytes r s' := by
  obtain ⟨q, e, m, n, h⟩ := h
  exact ⟨q, e, m, n, { h with
    noted := T.ledger hs _ _ _ h.noted
    paid := T.paid_stable hs h.paid
    expires := T.expires_stable hs h.expires }⟩

variable (T)

include T in
/-- A call keeps the discipline, and what it answers is known. -/
theorem keeps_ask {c : Call} (post : c.Answer → Course → Prop)
    (stable : ∀ {a s s'}, D.rely s s' → post a s → post a s')
    (h : ∀ i s a, D.inv s → (D.service i c s).1 = .ok a → post a (D.service i c s).2) (s : Course) :
    (Program.ask c).Keeps D (Program.onOk post) s := by
  intro s' hs i
  obtain ⟨hk, hi⟩ := T.lenient i c s' hs.inv
  exact ⟨hk, hi, fun s'' h' a ha => stable h'.rely (h i s' a hs.inv ha)⟩

include T in
/-- What is known of every answer of a call is known of this one. -/
theorem keeps_ask_const {c : Call} {post : c.Answer → Prop}
    (h : ∀ i s a, (D.service i c s).1 = .ok a → post a) (s : Course) :
    (Program.ask c).Keeps D (Program.onOk fun a _ => post a) s :=
  T.keeps_ask (fun a _ => post a) (fun _ ha => ha) (fun i s a _ => h i s a) s

include T in
/-- A request that was read is the one that the bytes denote. -/
theorem keeps_readRequest (bytes : Bytes) {s : Course} (hs : D.inv s) :
    (readRequest bytes).Keeps D
      (Program.onOk fun q _ => CredentialRequest.decode bytes = .ok q) s := by
  refine (T.keeps_ask_const (fun i s => T.of_decode i s bytes) s).andThen hs fun r s' _ hr => ?_
  split
  · exact Program.keeps_error
  · exact fun s'' _ q hq => hr q hq

/-- What was signed says what was asked for. -/
theorem keeps_sign (q : CredentialRequest) (expiration level : Int) {s : Course} (hs : D.inv s) :
    (sign q expiration level).Keeps D
      (Program.onOk fun c _ => T.signed q expiration level c) s := by
  refine (T.keeps_ask_const (fun i s => T.of_issue i s q expiration level) s).andThen hs
    fun r s' _ hr => ?_
  split
  · exact Program.keeps_error
  · exact fun s'' _ c hc => hr c hc

include T in
/-- A recorded payment has the entry answered from then on. -/
theorem keeps_record (entry : Issuance) (s : Course) :
    (Program.ask (.record entry)).Keeps D (Program.onOk fun (noted : Bool × Issuance) s =>
      s.world.ledger.find? entry.itemId entry.provider = some noted.2 ∧
        (noted.1 = true → noted.2 = entry)) s :=
  T.keeps_ask _ (fun hr h => ⟨T.ledger hr _ _ _ h.1, h.2⟩)
    (fun i s noted _ h => T.of_record i s entry noted h) s

/-- What is known of a credential that was issued. -/
theorem keeps_createReceipt (c : Credentials) (bytes : Bytes) {s : Course} (hs : D.inv s) :
    (createReceipt c bytes).Keeps D (Program.onOk (T.IsBacked bytes)) s := by
  have any : ∀ {α : Type} (p : Program α) (s : Course),
      p.Keeps D (Program.onOk fun _ _ => True) s := fun p s =>
    (T.lenient.keeps p s).mono fun _ _ _ _ _ _ => trivial
  -- what others may rely on stays so while a program runs
  have since : ∀ {α : Type} {post : α → Course → Prop} {p : Program α} {s : Course},
      p.Keeps D (Program.onOk post) s →
        p.Keeps D (Program.onOk fun a s' => D.rely s s' ∧ post a s') s := fun hp =>
    (Discipline.Mutual.since T.reciprocal hp (D.refl _)).mono fun _ _ _ h a ha => ⟨h.1, h.2 a ha⟩
  unfold createReceipt operation
  refine Program.Keeps.within ?_ hs (fun r s' s'' h hr a ha => (hr a ha).rely h.rely) _
  refine (any _ _).bind hs fun sub s hs _ => ?_
  split
  · exact Program.keeps_error
  refine (T.keeps_readRequest bytes hs).bind hs fun q s hs hq => ?_
  split
  · exact Program.keeps_error
  rename_i customer _
  refine (any _ _).bind hs fun _ s hs _ => ?_
  refine (T.keeps_ask (T.paid customer.provider) T.paid_stable
    (fun i s item => T.of_receiptItem i s _ _ item) s).bind hs fun item s hs hpaid => ?_
  refine (since (Program.keeps_ofExcept (fun print => q.fingerprint? = some print)
    fun print => fingerprint_eq_ok)).bind hs fun print s₁ hs₁ ⟨h₁, hprint⟩ => ?_
  refine (since (T.keeps_record _ _)).bind hs₁ fun noted s₂ hs₂ ⟨h₂, hfind, hnew⟩ => ?_
  dsimp only
  split
  · exact Program.keeps_error
  rename_i hsame
  -- made or found, the entry has the fingerprint of this request
  have hentry : noted.2.fingerprint = print := by
    cases hn : noted.1 with
    | true => rw [hnew hn]
    | false => exact Decidable.not_not.1 fun h => hsame ⟨hn, h⟩
  refine (since (T.keeps_ask (T.expires item) T.expires_stable
    (fun i s m _ => T.of_expiration i s item m) _)).bind hs₂ fun expires s₃ hs₃ ⟨h₃, hexp⟩ => ?_
  refine (since (Program.keeps_ofExcept (fun n => expires.epochSeconds = .ok n)
    fun n => mapError_eq_ok)).bind hs₃ fun n s₄ hs₄ ⟨h₄, hsec⟩ => ?_
  refine (since (T.keeps_sign q n item.level hs₄)).bind hs₄ fun cred s₅ hs₅ ⟨h₅, hsigned⟩ => ?_
  refine (since (any _ _)).bind hs₅ fun event s₆ hs₆ ⟨h₆, _⟩ => ?_
  refine (since (any _ _)).bind hs₆ fun _ s₇ hs₇ ⟨h₇, _⟩ s₈ h₈ r hr => ?_
  obtain rfl : _ = r := Except.ok.inj hr
  have h₃₈ : D.rely s₃ s₈ := D.trans h₄ (D.trans h₅ (D.trans h₆ (D.trans h₇ h₈.rely)))
  have h₂₈ : D.rely s₂ s₈ := D.trans h₃ h₃₈
  exact ⟨q, noted.2, expires, n, hq, T.ledger h₂₈ _ _ _ hfind, hentry ▸ hprint,
    T.paid_stable (D.trans h₁ (D.trans h₂ h₂₈)) hpaid, T.expires_stable h₃₈ hexp, hsec, hsigned⟩

/-- What is known of a request once it has been answered: of credentials, that they are backed. -/
def post : (r : Request) → Except Fault r.Answer → Course → Prop
  | .createReceipt _ bytes => Program.onOk (T.IsBacked bytes)
  | _ => fun _ _ => True

theorem keeps_program (r : Request) {s : Course} (hs : D.inv s) :
    r.program.Keeps D (T.post r) s := by
  cases r with
  | createReceipt c bytes => exact T.keeps_createReceipt c bytes hs
  | _ => exact T.lenient.keeps _ s

end Redemption.Terms

/-! ### Credentials in a system -/

deriving instance DecidableEq for Manager.Receipt

namespace Task

/-- The bytes that a request for a credential came with, and the credential if it was issued. -/
def receipt? (t : Task) : Option (Bytes × Receipt) :=
  match t.request, t.rest with
  | .createReceipt _ bytes, .done (.ok r) => some (bytes, r)
  | _, _ => none

theorem eq_of_receipt? {t : Task} {bytes : Bytes} {r : Receipt}
    (h : t.receipt? = some (bytes, r)) :
    ∃ c ctx, t = ⟨.createReceipt c bytes, .done (.ok r), ctx⟩ := by
  obtain ⟨request, rest, ctx⟩ := t
  unfold receipt? at h
  dsimp only at h
  split at h
  · cases h; exact ⟨_, _, rfl⟩
  · cases h

end Task

namespace System

/-- The credential that the request at a position was answered with, and the bytes it came with. -/
def receipt? (s : System) (k : Nat) : Option (Bytes × Receipt) := s.tasks[k]?.bind Task.receipt?

variable {ι : Type} {D : Discipline ι}

theorem disciplined_play (T : Redemption.Terms D) {w : World} (hw : D.inv ⟨w, []⟩)
    (moves : List (Move ι)) : ((start w).play D.service moves).Disciplined D T.post := by
  have hstart : (start w).Disciplined D T.post := ⟨hw, fun _ ht => absurd ht List.not_mem_nil⟩
  exact (hstart.play T.reciprocal fun r _ _ hs => T.keeps_program r hs).2

theorem Disciplined.isBacked {T : Redemption.Terms D} {s : System} (h : s.Disciplined D T.post)
    {k : Nat} {bytes : Bytes} {r : Receipt} (hk : s.receipt? k = some (bytes, r)) :
    T.IsBacked bytes r s.course := by
  obtain ⟨t, ht, hr⟩ := Option.bind_eq_some_iff.1 hk
  obtain ⟨c, ctx, rfl⟩ := Task.eq_of_receipt? hr
  exact h.post_of_done (List.mem_of_getElem? ht) rfl r rfl

end System

/-! ### The ledger alone -/

/-- What collaborators answer. -/
abbrev Replies := (c : Call) → Except Fault c.Answer

namespace Replies

/-- A payment. -/
def item : ReceiptItem := ⟨"item", .epoch, 500, by decide⟩

/-- Every subscriber is found, and its payment is the same. -/
def onePayment : Replies
  | .lookUp user hmac => .ok <| .found
    { Subscriber.new user hmac .epoch with
      customer := some ⟨"customer", .stripe⟩
      subscriptionId := some "subscription" }
  | .processorOf _ => .ok ()
  | .receiptItem .. => .ok item
  | .expiration _ => .ok .epoch
  | .issue .. => .ok ⟨0, 500, [], []⟩
  | _ => .error .unwritable

end Replies

/-- Only the ledger and the reading of requests are known; everything else is answered by whoever
replies. -/
def Service.ledgerOnly : Service Replies
  | _, .record entry, s =>
    let o := s.world.withLedger (s.world.ledger.record entry)
    (o.1, { s with world := o.2 })
  | _, .decode bytes, s => ((CredentialRequest.decode bytes).mapError .request, s)
  | replies, c, s => (replies c, s)

theorem Service.ledgerOnly_keeps (replies : Replies) (c : Call) (s : Course) :
    s.world.ledger.Keeps (ledgerOnly replies c s).2.world.ledger := by
  cases c with
  | record entry => simpa [ledgerOnly, World.withLedger] using .record _ entry
  | _ => exact .refl _

/-- Entries of the ledger stay; nothing else is relied on. -/
def Discipline.ledgerOnly : Discipline Replies where
  service := .ledgerOnly
  inv _ := True
  rely s s' := s.world.ledger.Keeps s'.world.ledger
  keep s s' := s.world.ledger.Keeps s'.world.ledger
  refl s := .refl _
  trans h h' := h.trans h'
  alike h := by rw [h.world.ledger]; exact .refl _
  inv_alike _ _ := trivial

/-- What a ledger alone tells of a credential. -/
def Redemption.Terms.ledgerOnly : Redemption.Terms Discipline.ledgerOnly where
  lenient i c s _ := ⟨Service.ledgerOnly_keeps i c s, trivial⟩
  reciprocal h := h
  ledger h := h
  paid _ _ _ := True
  paid_stable _ _ := trivial
  expires _ _ _ := True
  expires_stable _ _ := trivial
  signed _ _ _ _ := True
  of_decode i s bytes r h := mapError_eq_ok h
  of_receiptItem _ _ _ _ _ _ _ := trivial
  of_record i s entry noted h := by
    simpa [Discipline.ledgerOnly, Service.ledgerOnly, World.withLedger] using
      Ledger.find?_of_record (l := s.world.ledger) h
  of_expiration _ _ _ _ _ := trivial
  of_issue _ _ _ _ _ _ _ := trivial

namespace System

/-- A payment is redeemed with one fingerprint only, whatever the processors, the store and everyone
else answer and however requests take turns; and an entry of the ledger stays as it is for good. -/
theorem same_request_of_same_payment (w : World) (moves : List (Move Replies)) :
    let s := (start w).play .ledgerOnly moves
    (∀ j k b₁ b₂ r₁ r₂, s.receipt? j = some (b₁, r₁) → s.receipt? k = some (b₂, r₂) →
      r₁.item.id = r₂.item.id → r₁.provider = r₂.provider →
      ∃ q₁ q₂ print, CredentialRequest.decode b₁ = .ok q₁ ∧ CredentialRequest.decode b₂ = .ok q₂ ∧
        q₁.fingerprint? = some print ∧ q₂.fingerprint? = some print ∧
        b₁.length = 33 ∧ b₂.length = 33 ∧ (b₁ = b₂ ∨ Digest.Collide b₁ b₂)) ∧
    ∀ later itemId p e, s.course.world.ledger.find? itemId p = some e →
      (s.play .ledgerOnly later).course.world.ledger.find? itemId p = some e := by
  intro s
  have hs : s.Disciplined Discipline.ledgerOnly Redemption.Terms.ledgerOnly.post :=
    disciplined_play _ trivial moves
  refine ⟨fun j k b₁ b₂ r₁ r₂ h₁ h₂ hitem hprovider => ?_, fun later itemId p e he => ?_⟩
  · obtain ⟨q₁, e₁, _, _, h₁⟩ := hs.isBacked h₁
    obtain ⟨q₂, e₂, _, _, h₂⟩ := hs.isBacked h₂
    obtain ⟨rfl, hsame⟩ := h₁.same_entry h₂ hitem hprovider
    exact ⟨q₁, q₂, e₁.fingerprint, h₁.decoded, h₂.decoded, h₁.fingerprint, h₂.fingerprint,
      CredentialRequest.length_of_decode h₁.decoded,
      CredentialRequest.length_of_decode h₂.decoded, hsame⟩
  · exact (hs.play (fun h => h) fun r _ s' _ => Redemption.Terms.keeps_program _ r trivial).1
      itemId p e he

open Sample in
/-- Two requests with the same bytes take turns, and both are answered with a credential. -/
theorem same_request_of_same_payment_in_turns :
    let s := (start .shipped).play .ledgerOnly
      (inTurns Replies.onePayment (.createReceipt credentials bytes))
    s.receipt? 0 = some (bytes, ⟨⟨0, 500, [], []⟩, Replies.item, .stripe⟩) ∧
    s.receipt? 1 = some (bytes, ⟨⟨0, 500, [], []⟩, Replies.item, .stripe⟩) ∧
    ∃ q₁ q₂ print, CredentialRequest.decode bytes = .ok q₁ ∧
      CredentialRequest.decode bytes = .ok q₂ ∧
      q₁.fingerprint? = some print ∧ q₂.fingerprint? = some print ∧
      bytes.length = 33 ∧ bytes.length = 33 ∧ (bytes = bytes ∨ Digest.Collide bytes bytes) := by
  intro s
  have h₁ : s.receipt? 0 = some (bytes, ⟨⟨0, 500, [], []⟩, Replies.item, .stripe⟩) := by
    decide +kernel
  have h₂ : s.receipt? 1 = some (bytes, ⟨⟨0, 500, [], []⟩, Replies.item, .stripe⟩) := by
    decide +kernel
  exact ⟨h₁, h₂, (same_request_of_same_payment _ _).1 0 1 _ _ _ _ h₁ h₂ rfl rfl⟩

end System

end Patronage
