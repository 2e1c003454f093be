import Patronage.Proofs.Agreement
import Patronage.Proofs.Classified
import Patronage.Proofs.Expiry
/-!
# When a request for a receipt is answered

A request for a receipt goes through checks of the store, the processor and the ledger; then the
payment is noted, and only then something is signed, for which the level and the expiration must
fit.  A request that fails after its payment was noted can be made again: the payment is bound to
this request, which is never refused for having been redeemed.  Main statements:

* `Manager.perform_createReceipt` — what is noted, and what is answered then;
* `World.createReceipt_isOk_iff` — when a request for a receipt is answered;
* `System.outcome_of_createReceipt` — both wherever a system comes to, and what repeating does.
-/

namespace Patronage

open Calendar Manager

/-! ### Dates -/

/-- The one way for a computation on moments to fail is to leave the calendar. -/
def Calendar.FailsOffCalendar {α : Type} (r : Except TimeError α) : Prop :=
  ∀ t, r = .error t → t = .outOfRange

namespace Calendar.FailsOffCalendar

variable {α β : Type} {r : Except TimeError α}

theorem bind {f : α → Except TimeError β} (h : FailsOffCalendar r)
    (hf : ∀ a, r = .ok a → FailsOffCalendar (f a)) : FailsOffCalendar (r >>= f) := by
  cases r with
  | ok a => exact hf a rfl
  | error t => exact fun t' ht => h t' (congrArg Except.error (Except.error.inj ht))

theorem exists_of_ne (h : FailsOffCalendar r) (hr : r ≠ .error .outOfRange) : ∃ a, r = .ok a := by
  cases r with
  | ok a => exact ⟨a, rfl⟩
  | error t => exact absurd (congrArg Except.error (h t rfl)) hr

end Calendar.FailsOffCalendar

theorem Period.failsOffCalendar_span (p : Period) : FailsOffCalendar p.span := by
  intro t ht
  unfold span at ht
  dsimp only at ht
  split at ht
  · cases ht
  · exact (Except.error.inj ht).symm

namespace Moment

variable {m n : Moment}

theorem failsOffCalendar_ofWall (wall : Int) (offset : Option Offset) :
    FailsOffCalendar (ofWall wall offset) := by
  intro t ht
  unfold ofWall at ht
  split at ht
  · cases ht
  · exact (Except.error.inj ht).symm

theorem failsOffCalendar_add (m : Moment) (micros : Int) : FailsOffCalendar (m.add micros) := by
  unfold add
  split
  · exact failsOffCalendar_ofWall _ _
  · exact fun t ht => (Except.error.inj ht).symm

theorem failsOffCalendar_truncateToDay (h : m.offset.isSome) :
    FailsOffCalendar m.truncateToDay := by
  intro t ht
  unfold truncateToDay toUtc at ht
  rw [hasUtc_of_isSome h] at ht
  refine failsOffCalendar_ofWall m.utcMicros (some .utc) t ?_
  cases hu : ofWall m.utcMicros (some .utc) with
  | ok u => rw [if_pos rfl, hu] at ht; cases ht
  | error t' => rw [if_pos rfl, hu] at ht; exact congrArg Except.error (Except.error.inj ht)

/-- A moment in UTC that is a whole number of seconds away from 1970 is read back from them. -/
theorem isOk_ofEpochSeconds {seconds : Int} (hoffset : m.offset = some .utc)
    (hm : m.instant = some (seconds * microsPerSecond)) : (ofEpochSeconds seconds).isOk := by
  have hwall : m.wall = seconds * microsPerSecond := by
    have hutc := utcMicros_of_instant hm
    simpa [utcMicros, hoffset, Offset.utc] using hutc
  have hrange := m.inRange
  rw [hwall] at hrange
  have hcalendar : ¬(seconds < calendarSeconds.1 ∨ calendarSeconds.2 < seconds) := by
    simp only [firstWall, lastWall, microsPerSecond, calendarSeconds] at *
    omega
  have hword : ¬(seconds < -0x8000000000000000 ∨ 0x8000000000000000 ≤ seconds) := by
    simp only [calendarSeconds] at hcalendar
    omega
  rw [ofEpochSeconds, if_neg hword, if_neg hcalendar, ofWall, dif_pos hrange]
  rfl

end Moment

namespace Emulator

variable {s : Subscription} {period : Period} {cycle : Nat}

theorem failsOffCalendar_cycleStart : FailsOffCalendar (cycleStart s period cycle) :=
  period.failsOffCalendar_span.bind fun _ _ => s.createdAt.failsOffCalendar_add _

theorem offset_of_cycleStart {m : Moment} (h : cycleStart s period cycle = .ok m) :
    m.offset = s.createdAt.offset := by
  obtain ⟨_, -, h⟩ := exists_of_bind_eq_ok h
  exact Moment.offset_of_add h

end Emulator

namespace Catalog

variable {c : Catalog} {item : ReceiptItem} {m : Moment}

/-- An expiration can be computed unless that leaves the calendar. -/
theorem failsOffCalendar_expiration (h : item.paidAt.offset.isSome) :
    FailsOffCalendar (c.expiration item) := by
  rw [expiration_eq_bind]
  refine (Period.failsOffCalendar_span _).bind fun badge _ => ?_
  refine (Moment.failsOffCalendar_add _ _).bind fun good hgood => ?_
  refine (Period.failsOffCalendar_span _).bind fun grace _ => ?_
  refine (Moment.failsOffCalendar_add _ _).bind fun last hlast => ?_
  have hoffset : last.offset.isSome := by
    rw [Moment.offset_of_add hlast, Moment.offset_of_add hgood]
    exact h
  exact (Moment.failsOffCalendar_truncateToDay hoffset).bind fun day _ =>
    Moment.failsOffCalendar_add _ _

/-- When the credential for a payment expires, in seconds from 1970. -/
def expirationSeconds (c : Catalog) (item : ReceiptItem) : Except TimeError Int :=
  c.expiration item >>= Moment.epochSeconds

/-- An expiration is written in seconds and read back from them. -/
theorem epochSeconds_of_expiration (h : c.expiration item = .ok m) :
    ∃ seconds, m.epochSeconds = .ok seconds ∧ (Moment.ofEpochSeconds seconds).isOk := by
  have hoffset := (isMidnight_of_expiration h).offset
  have hepoch : m.epochSeconds = .ok (roundedSeconds m.utcMicros) := by
    rw [Moment.epochSeconds, Moment.hasUtc_of_isSome (by rw [hoffset]; rfl), if_pos rfl]
  -- it is a midnight, so no fraction of a second is lost
  have hinstant := (isMidnight_of_expiration h).instant
  refine ⟨_, hepoch, Moment.isOk_ofEpochSeconds hoffset ?_⟩
  rw [Moment.epochSeconds_of_instant hinstant hepoch]
  exact hinstant

end Catalog

/-! ### Signing -/

theorem CredentialRequest.isWellFormed_of_decode {bytes : Bytes} {r : CredentialRequest}
    (h : decode bytes = .ok r) : r.isWellFormed := by
  unfold decode at h
  split at h
  · cases h
  rename_i hlength
  cases bytes with
  | nil => cases h
  | cons v nonce =>
    dsimp only at h
    split at h
    · rename_i hversion
      obtain rfl := Except.ok.inj h
      have hnonce : nonce.length = nonceLength := by simpa using hlength
      simp [isWellFormed, hversion, hnonce]
    · cases h

/-- A request that was read is signed if both numbers fit. -/
theorem Credential.issue_eq_ok_iff {signer : Signer} {bytes : Bytes} {r : CredentialRequest}
    (hr : CredentialRequest.decode bytes = .ok r) {expiration level : Int} {c : Credential} :
    issue signer r expiration level = .ok c ↔
      (0 < expiration ∧ expiration < wordBound) ∧ Fits level ∧
        c = ⟨expiration, level, payloadOf bytes expiration level,
          signer.sign (payloadOf bytes expiration level)⟩ := by
  have hstatement : statement r expiration level =
      if ¬(0 < expiration ∧ expiration < wordBound) then .error (.expiration expiration)
      else if ¬(0 ≤ level ∧ level < wordBound) then .error (.level level)
      else .ok (payloadOf bytes expiration level) := by
    rw [statement, CredentialRequest.isWellFormed_of_decode hr,
      CredentialRequest.serialize?_of_decode hr]
  unfold issue
  rw [hstatement]
  by_cases hexpiration : 0 < expiration ∧ expiration < wordBound
  · by_cases hlevel : 0 ≤ level ∧ level < wordBound
    · rw [if_neg (not_not_intro hexpiration), if_neg (not_not_intro hlevel)]
      constructor
      · intro h
        exact ⟨hexpiration, hlevel, (Except.ok.inj h).symm⟩
      · rintro ⟨-, -, rfl⟩
        rfl
    · rw [if_neg (not_not_intro hexpiration), if_pos hlevel]
      exact iff_of_false (by rintro ⟨⟩) fun h => hlevel h.2.1
  · rw [if_pos hexpiration]
    exact iff_of_false (by rintro ⟨⟩) fun h => hexpiration h.1

/-! ### The ledger -/

namespace Ledger

variable {ledger : Ledger} {entry : Issuance}

/-- A payment that is spent stays as it was noted. -/
theorem state_record_of_spent (h : ledger.Spent entry.itemId entry.provider entry.fingerprint) :
    (ledger.record entry).state = ledger := by
  obtain ⟨x, hx, -⟩ := h
  rw [record, hx]
  rfl

/-- A payment that is not spent stands for the request that it is noted for from then on. -/
theorem find?_record_of_unspent
    (h : ¬ledger.Spent entry.itemId entry.provider entry.fingerprint) :
    ∃ x, (ledger.record entry).state.find? entry.itemId entry.provider = some x ∧
      x.fingerprint = entry.fingerprint := by
  cases hx : ledger.find? entry.itemId entry.provider with
  | none =>
    refine ⟨entry, ?_, rfl⟩
    rw [record, hx]
    simp [Outcome.ok, find?]
  | some x =>
    exact ⟨x, find?_record_of_some hx entry, Decidable.not_not.1 fun hne => h ⟨x, hx, hne⟩⟩

/-- What is noted for a request is never spent for it. -/
theorem not_spent_of_find? {itemId : String} {p : Provider} {x : Issuance}
    (h : ledger.find? itemId p = some x) : ¬ledger.Spent itemId p x.fingerprint := by
  rintro ⟨x', hx', hne⟩
  obtain rfl := Option.some.inj (h.symm.trans hx')
  exact hne rfl

/-- A payment is noted by adding one entry, unless it has one. -/
theorem state_record_cases (ledger : Ledger) (entry : Issuance) :
    (ledger.record entry).state = ledger ∨ (ledger.find? entry.itemId entry.provider = none ∧
      (ledger.record entry).state =
        ⟨ledger.issuances.insert (entry.itemId, entry.provider) entry⟩) := by
  unfold record
  cases hx : ledger.find? entry.itemId entry.provider with
  | none => exact .inr ⟨rfl, rfl⟩
  | some x => exact .inl rfl

end Ledger

/-! ### One request -/

/-- A request for a receipt comes to a subscription at a processor: the tag is that of a record with
a subscription and a customer, and the bytes are those of a credential request. -/
structure World.Draws (w : World) (c : Credentials) (bytes : Bytes) (customer : Customer)
    (id : String) (e : Emulator) : Prop where
  found : ∃ r, w.store.lookup c.user c.hmac = .found r ∧ r.subscriptionId = some id ∧
    r.customer = some customer
  decoded : (CredentialRequest.decode bytes).isOk
  processor : w.registry.find? customer.provider = some e

/-- A request for a receipt comes to a payment: the processor reports it of the subscription. -/
def World.Comes (w : World) (c : Credentials) (bytes : Bytes) (customer : Customer)
    (item : ReceiptItem) : Prop :=
  ∃ id e, w.Draws c bytes customer id e ∧ (e.receiptItem w.mint id).answer = .ok item

/-- A request comes to one subscription at most. -/
theorem World.Draws.unique {w : World} {c : Credentials} {bytes : Bytes}
    {customer customer' : Customer} {id id' : String} {e e' : Emulator}
    (h : w.Draws c bytes customer id e) (h' : w.Draws c bytes customer' id' e') :
    customer = customer' ∧ id = id' ∧ e = e' := by
  obtain ⟨r, hr, hid, hcustomer⟩ := h.found
  obtain ⟨r', hr', hid', hcustomer'⟩ := h'.found
  obtain rfl := Lookup.found.inj (hr.symm.trans hr')
  obtain rfl := Option.some.inj (hcustomer.symm.trans hcustomer')
  exact ⟨rfl, Option.some.inj (hid.symm.trans hid'),
    Option.some.inj (h.processor.symm.trans h'.processor)⟩

/-- A request comes to one payment at most. -/
theorem World.Comes.unique {w : World} {c : Credentials} {bytes : Bytes}
    {customer customer' : Customer} {item item' : ReceiptItem} (h : w.Comes c bytes customer item)
    (h' : w.Comes c bytes customer' item') : customer = customer' ∧ item = item' := by
  obtain ⟨id, e, hdraws, hitem⟩ := h
  obtain ⟨id', e', hdraws', hitem'⟩ := h'
  obtain ⟨rfl, rfl, rfl⟩ := hdraws.unique hdraws'
  exact ⟨rfl, Except.ok.inj (hitem.symm.trans hitem')⟩

namespace Manager

open World

/-- The receipt for a payment with a credential that expires some seconds after 1970. -/
def receiptFor (signer : Signer) (bytes : Bytes) (customer : Customer) (item : ReceiptItem)
    (seconds : Int) : Receipt where
  credential := ⟨seconds, item.level, Credential.payloadOf bytes seconds item.level,
    signer.sign (Credential.payloadOf bytes seconds item.level)⟩
  item := item
  provider := customer.provider

/-- A receipt is issued for a payment: the time that it expires at can be written and fits, as the
level does. -/
def Certifies (signer : Signer) (bytes : Bytes) (customer : Customer) (item : ReceiptItem)
    (expires : Moment) (receipt : Receipt) : Prop :=
  ∃ seconds, expires.epochSeconds = .ok seconds ∧ (Moment.ofEpochSeconds seconds).isOk ∧
    (0 < seconds ∧ seconds < Credential.wordBound) ∧ Credential.Fits item.level ∧
    receipt = receiptFor signer bytes customer item seconds

/-- How a request for a receipt ends that comes to one payment at most: it is refused and nothing is
noted, or its payment is noted, and then it is answered if a receipt is issued for it. -/
inductive Ends (rules : Rules) (ledger : Ledger) (signer : Signer) (c : Credentials) (bytes : Bytes)
    (comes : Customer → ReceiptItem → Prop) (o : Except Fault Receipt × World) : Prop
  | refused {f : Fault} (answer : o.1 = .error f) (kept : o.2.ledger = ledger)
    (spent : ∀ customer item, comes customer item →
      ledger.Spent item.id customer.provider (Digest.sha256 bytes))
  | noted {customer : Customer} {item : ReceiptItem} (paid : comes customer item)
    (unspent : ¬ledger.Spent item.id customer.provider (Digest.sha256 bytes))
    (kept : o.2.ledger =
      (ledger.record ⟨item.id, customer.provider, Digest.sha256 bytes, c.now⟩).state)
    (answer : ∀ receipt, o.1 = .ok receipt ↔ ∃ expires, rules.expiration item = .ok expires ∧
      Certifies signer bytes customer item expires receipt)

section

variable {rules : Rules} {w : World} {c : Credentials} {bytes : Bytes} {request : CredentialRequest}
  {customer : Customer} {item : ReceiptItem} {ledger : Ledger} {signer : Signer}
  {comes comes' : Customer → ReceiptItem → Prop} {o : Except Fault Receipt × World}

theorem Ends.imp (h : Ends rules ledger signer c bytes comes o)
    (hcomes : ∀ customer item, comes customer item ↔ comes' customer item) :
    Ends rules ledger signer c bytes comes' o := by
  cases h with
  | refused answer kept spent =>
    exact .refused answer kept fun customer item h => spent customer item ((hcomes _ _).2 h)
  | noted paid unspent kept answer => exact .noted ((hcomes _ _).1 paid) unspent kept answer

/-- What comes to no payment is refused. -/
theorem Ends.of_error {f : Fault} (answer : o.1 = .error f) (kept : o.2.ledger = ledger)
    (hnone : ∀ customer item, ¬comes customer item) : Ends rules ledger signer c bytes comes o :=
  .refused answer kept fun customer item h => absurd h (hnone customer item)

/-- The event for a credential can be made if its expiration is read back from seconds. -/
theorem isOk_receiptIssued (user : Bytes) (itemId processor : String) (level seconds : Int)
    (retried : Bool) : (Log.Audit.receiptIssued user itemId processor level seconds retried).isOk =
      (Moment.ofEpochSeconds seconds).isOk := by
  unfold Log.Audit.receiptIssued
  cases Moment.ofEpochSeconds seconds with
  | ok m => rfl
  | error t => rfl

/-- A receipt is handed out once its event was written, if that can be made; nothing is noted. -/
theorem perform_handOut (rules : Rules) (w : World) (event : Except TimeError Log.Entry)
    (r : Receipt) :
    let o := w.perform rules (Program.ofExcept (event.mapError .time) >>= fun e =>
      Program.write e >>= fun _ => pure r)
    o.2.ledger = w.ledger ∧ ∀ receipt, o.1 = .ok receipt ↔ event.isOk ∧ receipt = r := by
  cases event with
  | error t => exact ⟨rfl, fun _ => iff_of_false (by rintro ⟨⟩) (by rintro ⟨⟨⟩, -⟩)⟩
  | ok e =>
    refine ⟨rfl, fun receipt => ?_⟩
    constructor
    · intro h
      exact ⟨rfl, (Except.ok.inj h).symm⟩
    · rintro ⟨-, rfl⟩
      rfl

/-- A credential is issued if the level and the expiration fit; nothing is noted any more. -/
theorem perform_certify (rules : Rules) (w : World) (c : Credentials)
    (hrequest : CredentialRequest.decode bytes = .ok request) (customer : Customer)
    (item : ReceiptItem) (recorded : Bool) (expires : Moment) :
    let o := w.perform rules (certify c customer request item recorded expires)
    o.2.ledger = w.ledger ∧
      ∀ receipt, o.1 = .ok receipt ↔ Certifies w.signer bytes customer item expires receipt := by
  intro o
  have ho : o = w.perform rules (certify c customer request item recorded expires) := rfl
  unfold certify at ho
  unfold Certifies
  cases hseconds : expires.epochSeconds with
  | error t =>
    have hfail : w.perform rules (Program.ofExcept (expires.epochSeconds.mapError .time)) =
        (.error (.time t), w) := by
      rw [hseconds]
      rfl
    rw [perform_bind_of_error hfail] at ho
    rw [ho]
    exact ⟨rfl, fun _ => iff_of_false (by rintro ⟨⟩) (by rintro ⟨_, ⟨⟩, -⟩)⟩
  | ok seconds =>
    have hread : w.perform rules (Program.ofExcept (expires.epochSeconds.mapError .time)) =
        (.ok seconds, w) := by
      rw [hseconds]
      rfl
    rw [perform_bind_of_ok hread] at ho
    have hissue : ∀ {credential : Credential},
        Credential.issue w.signer request seconds item.level = .ok credential ↔
          (0 < seconds ∧ seconds < Credential.wordBound) ∧ Credential.Fits item.level ∧
            credential = (receiptFor w.signer bytes customer item seconds).credential :=
      Credential.issue_eq_ok_iff hrequest
    obtain ⟨credential, hcredential, hsign⟩ | ⟨⟨v, hv⟩, f, hsign, -⟩ :=
      perform_sign rules w request seconds item.level
    · obtain ⟨hfits, hlevel, rfl⟩ := hissue.1 hcredential
      rw [perform_bind_of_ok hsign] at ho
      -- the expiration is read back from its seconds for the log, after signing
      obtain ⟨hledger, hanswer⟩ := perform_handOut rules w (Log.Audit.receiptIssued c.user item.id
        customer.provider.name item.level seconds (!recorded))
        (receiptFor w.signer bytes customer item seconds)
      rw [ho]
      refine ⟨hledger, fun receipt => (hanswer receipt).trans ?_⟩
      rw [isOk_receiptIssued]
      constructor
      · rintro ⟨hok, rfl⟩
        exact ⟨seconds, rfl, hok, hfits, hlevel, rfl⟩
      · rintro ⟨seconds', hseconds', hok, -, -, rfl⟩
        obtain rfl := Except.ok.inj hseconds'
        exact ⟨hok, rfl⟩
    · rw [perform_bind_of_error hsign] at ho
      rw [ho]
      refine ⟨rfl, fun _ => iff_of_false (by rintro ⟨⟩) ?_⟩
      rintro ⟨seconds', hseconds', -, hfits, hlevel, -⟩
      obtain rfl := Except.ok.inj hseconds'
      cases hv.symm.trans (hissue.2 ⟨hfits, hlevel, rfl⟩)

/-- A payment that was reported is noted unless it is spent, and then a credential is issued. -/
theorem perform_redeem (hrequest : CredentialRequest.decode bytes = .ok request)
    (customer : Customer) (item : ReceiptItem) :
    Ends rules w.ledger w.signer c bytes (fun customer' item' => customer = customer' ∧ item = item')
      (w.perform rules (redeem c customer request item)) := by
  have hprint : w.perform rules (Program.ofExcept (fingerprint request)) =
      (.ok (Digest.sha256 bytes), w) := by
    rw [fingerprint, CredentialRequest.fingerprint?,
      CredentialRequest.serialize?_of_decode hrequest]
    rfl
  obtain ⟨noted, w', hrecord, hsigner, hledger, hspent⟩ := answer_record rules w
    ⟨item.id, customer.provider, Digest.sha256 bytes, c.now⟩
  unfold redeem
  rw [perform_bind_of_ok hprint, perform_bind_of_ok hrecord]
  split
  · rename_i hother
    refine .refused rfl (hledger.trans (Ledger.state_record_of_spent (hspent.1 hother))) ?_
    rintro _ _ ⟨rfl, rfl⟩
    exact hspent.1 hother
  rename_i hsame
  have hunspent : ¬w.ledger.Spent item.id customer.provider (Digest.sha256 bytes) :=
    fun h => hsame (hspent.2 h)
  cases hexpires : rules.expiration item with
  | error f =>
    have hfail : w'.perform rules (Program.ask (.expiration item)) = (.error f, w') := by
      rw [← hexpires]
      rfl
    rw [perform_bind_of_error hfail]
    refine .noted ⟨rfl, rfl⟩ hunspent hledger fun receipt => iff_of_false (by rintro ⟨⟩) ?_
    rintro ⟨expires, hexpires', -⟩
    cases hexpires.symm.trans hexpires'
  | ok expires =>
    have hread : w'.perform rules (Program.ask (.expiration item)) = (.ok expires, w') := by
      rw [← hexpires]
      rfl
    rw [perform_bind_of_ok hread]
    obtain ⟨hkept, hanswer⟩ := perform_certify rules w' c hrequest customer item noted.1 expires
    refine .noted ⟨rfl, rfl⟩ hunspent (hkept.trans hledger) fun receipt => ?_
    rw [hanswer receipt, hsigner]
    constructor
    · intro h
      exact ⟨expires, hexpires, h⟩
    · rintro ⟨expires', hexpires', h⟩
      obtain rfl := Except.ok.inj (hexpires.symm.trans hexpires')
      exact h

/-- The payment is asked for at the customer's processor. -/
theorem perform_bill (hrequest : CredentialRequest.decode bytes = .ok request)
    (customer : Customer) (id : String) :
    Ends rules w.ledger w.signer c bytes (fun customer' item => customer = customer' ∧
        ∃ e, w.registry.find? customer.provider = some e ∧ (e.receiptItem w.mint id).answer = .ok item)
      (w.perform rules (bill c id customer request)) := by
  have hprocessor : w.perform rules (Program.ask (.processorOf customer.provider)) =
    w.asking customer.provider fun _ => .ok () := rfl
  unfold bill
  cases he : w.registry.find? customer.provider with
  | none =>
    have hmissing : w.perform rules (Program.ask (.processorOf customer.provider)) =
        (.error (.notConfigured customer.provider), w) := by
      rw [hprocessor, asking, Registry.get, he]
      rfl
    rw [perform_bind_of_error hmissing]
    refine .of_error rfl rfl ?_
    rintro _ _ ⟨-, e, he', -⟩
    cases he'
  | some e =>
    rw [asking_of_some he] at hprocessor
    rw [perform_bind_of_ok hprocessor]
    have hask : w.perform rules (Program.ask (.receiptItem customer.provider id)) = _ :=
      withMint_of_some he fun e m => e.receiptItem m id
    cases hitem : (e.receiptItem w.mint id).answer with
    | error f =>
      rw [hitem] at hask
      rw [perform_bind_of_error hask]
      refine .of_error rfl (ledger_writeAll _ _) ?_
      rintro _ _ ⟨-, e', he', hitem'⟩
      obtain rfl := Option.some.inj he'
      cases hitem.symm.trans hitem'
    | ok item =>
      rw [hitem] at hask
      obtain ⟨w', hask, hledger, hsigner⟩ : ∃ w',
          w.perform rules (Program.ask (.receiptItem customer.provider id)) = (.ok item, w') ∧
            w'.ledger = w.ledger ∧ w'.signer = w.signer :=
        ⟨_, hask, ledger_writeAll _ _, signer_writeAll _ _⟩
      rw [perform_bind_of_ok hask, ← hledger, ← hsigner]
      refine (perform_redeem hrequest customer item).imp fun customer' item' =>
        and_congr_right fun _ => ?_
      constructor
      · rintro rfl
        exact ⟨e, rfl, hitem⟩
      · rintro ⟨e', he', hitem'⟩
        obtain rfl := Option.some.inj he'
        exact Except.ok.inj (hitem.symm.trans hitem')

/-- What follows for a subscriber that was read. -/
theorem perform_receive (rules : Rules) (w : World) (c : Credentials) (bytes : Bytes)
    {r : Subscriber} (hr : w.store.lookup c.user c.hmac = .found r) :
    Ends rules w.ledger w.signer c bytes (w.Comes c bytes) (w.perform rules (receive c bytes r)) := by
  -- the record that was read is the one that a request for a receipt comes to
  have same : ∀ {customer id e}, w.Draws c bytes customer id e →
      r.subscriptionId = some id ∧ r.customer = some customer := by
    intro customer id e h
    obtain ⟨r', hr', hid, hcustomer⟩ := h.found
    obtain rfl := Lookup.found.inj (hr.symm.trans hr')
    exact ⟨hid, hcustomer⟩
  unfold receive
  split
  · rename_i hnone
    refine .of_error rfl rfl ?_
    rintro customer item ⟨id, e, hdraws, -⟩
    cases hnone.symm.trans (same hdraws).1
  rename_i id hid
  have hread : w.perform rules (readRequest bytes) = _ :=
    perform_andThen (Program.ask (.decode bytes)) _
  have hdecode : w.perform rules (Program.ask (.decode bytes)) =
    ((CredentialRequest.decode bytes).mapError .request, w) := rfl
  rw [hdecode] at hread
  cases hrequest : CredentialRequest.decode bytes with
  | error f =>
    rw [hrequest] at hread
    rw [perform_bind_of_error hread]
    refine .of_error rfl rfl ?_
    rintro customer item ⟨id, e, hdraws, -⟩
    have hok := hdraws.decoded
    rw [hrequest] at hok
    cases hok
  | ok request =>
    rw [hrequest] at hread
    rw [perform_bind_of_ok hread]
    split
    · rename_i hnone
      refine .of_error rfl rfl ?_
      rintro customer item ⟨id, e, hdraws, -⟩
      cases hnone.symm.trans (same hdraws).2
    · rename_i customer hcustomer
      refine (perform_bill hrequest customer id).imp fun customer' item => ?_
      constructor
      · rintro ⟨rfl, e, he, hitem⟩
        exact ⟨id, e, ⟨⟨r, hr, hid, hcustomer⟩, by rw [hrequest]; rfl, he⟩, hitem⟩
      · rintro ⟨id', e, hdraws, hitem⟩
        obtain ⟨hid', hcustomer'⟩ := same hdraws
        obtain rfl := Option.some.inj (hid.symm.trans hid')
        obtain rfl := Option.some.inj (hcustomer.symm.trans hcustomer')
        exact ⟨rfl, e, hdraws.processor, hitem⟩

/-- How a request for a receipt ends. -/
theorem perform_createReceipt (rules : Rules) (w : World) (c : Credentials) (bytes : Bytes) :
    Ends rules w.ledger w.signer c bytes (w.Comes c bytes)
      (w.perform rules (createReceipt c bytes)) := by
  -- the log fields do not count
  have hwithin : ∀ (w : World) (ctx : Log.Context Log.Field) customer item,
      World.Comes { w with context := ctx } c bytes customer item ↔ w.Comes c bytes customer item := by
    intro w ctx customer item
    constructor
    · rintro ⟨id, e, hdraws, hitem⟩
      exact ⟨id, e, ⟨hdraws.found, hdraws.decoded, hdraws.processor⟩, hitem⟩
    · rintro ⟨id, e, hdraws, hitem⟩
      exact ⟨id, e, ⟨hdraws.found, hdraws.decoded, hdraws.processor⟩, hitem⟩
  have hread : ∀ w : World, Ends rules w.ledger w.signer c bytes (w.Comes c bytes)
      (w.perform rules (getSubscriber c >>= receive c bytes)) := by
    intro w
    obtain ⟨r, ctx, hr, hread⟩ | ⟨hnone, f, ctx, hread, -⟩ := perform_getSubscriber_cases rules w c
    · rw [perform_bind_of_ok hread]
      exact (perform_receive rules { w with context := ctx } c bytes hr).imp (hwithin w ctx)
    · rw [perform_bind_of_error hread]
      refine .of_error rfl rfl ?_
      rintro customer item ⟨id, e, hdraws, -⟩
      obtain ⟨r, hr, -⟩ := hdraws.found
      exact hnone r hr
  rw [createReceipt_eq, operation, perform_within]
  generalize w.context.bind _ = ctx
  generalize w.context.save _ = saved
  cases (hread { w with context := ctx }).imp (hwithin w ctx) with
  | refused answer kept spent => exact .refused answer kept spent
  | noted paid unspent kept answer => exact .noted paid unspent kept answer

end

end Manager

/-! ### When it is answered -/

/-- No date that a request for a receipt needs is off the calendar: neither the one that the payment
it comes to was made at nor, unless that is spent, the one that the credential expires at. -/
def World.Dates (w : World) (c : Credentials) (bytes : Bytes) : Prop :=
  ∀ customer id e, w.Draws c bytes customer id e →
    (e.receiptItem w.mint id).answer ≠ .error (.time .outOfRange) ∧
      ∀ item, (e.receiptItem w.mint id).answer = .ok item →
        ¬w.ledger.Spent item.id customer.provider (Digest.sha256 bytes) →
          w.catalog.expiration item ≠ .error .outOfRange

theorem World.Comes.dates {w : World} {c : Credentials} {bytes : Bytes} {customer : Customer}
    {item : ReceiptItem} (h : w.Comes c bytes customer item)
    (hexpiration : (w.catalog.expiration item).isOk) : w.Dates c bytes := by
  intro customer' id' e' hdraws'
  obtain ⟨id, e, hdraws, hitem⟩ := h
  obtain ⟨rfl, rfl, rfl⟩ := hdraws.unique hdraws'
  refine ⟨fun herror => ?_, fun item' hitem' _ => ?_⟩
  · cases hitem.symm.trans herror
  · obtain rfl := Except.ok.inj (hitem.symm.trans hitem')
    rintro herror
    rw [herror] at hexpiration
    cases hexpiration

/-- The credential for a payment can say what it has to: the level and the expiration fit. -/
structure Catalog.Certifiable (c : Catalog) (item : ReceiptItem) : Prop where
  level : Credential.Fits item.level
  expiration : ∀ seconds, c.expirationSeconds item = .ok seconds →
    0 < seconds ∧ seconds < Credential.wordBound

/-- What has to be so for a request for a receipt to be answered: it comes to a running subscription
at a level that fits, and the current payment is not spent and the expiration for it fits. -/
structure World.Grants (w : World) (c : Credentials) (bytes : Bytes) (customer : Customer)
    (id : String) (e : Emulator) (sub : Subscription) : Prop where
  draws : w.Draws c bytes customer id e
  subscription : e.subscriptions.get? id = some sub
  active : sub.status = .active
  level : Credential.Fits sub.level
  unspent : ∀ item, (e.receiptItem w.mint id).answer = .ok item →
    ¬w.ledger.Spent item.id customer.provider (Digest.sha256 bytes)
  expiration : ∀ item seconds, (e.receiptItem w.mint id).answer = .ok item →
    w.catalog.expirationSeconds item = .ok seconds → 0 < seconds ∧ seconds < Credential.wordBound

/-- A payment that is reported is one of a running subscription, at its level and on its clock. -/
theorem Emulator.exists_of_receiptItem {e : Emulator} {m : Mint} {id : String} {item : ReceiptItem}
    (h : (e.receiptItem m id).answer = .ok item) : ∃ sub, e.subscriptions.get? id = some sub ∧
      sub.status = .active ∧ item.level = sub.level ∧ item.paidAt.offset = sub.createdAt.offset := by
  obtain ⟨sub, cycle, hactive, -, hreport, -⟩ := receiptItem_eq_ok h
  obtain ⟨hstart, -, hlevel⟩ := report_eq_ok hreport
  obtain ⟨hsub, hstatus⟩ := activeSubscription_eq_ok.1 hactive
  exact ⟨sub, hsub, hstatus, hlevel, offset_of_cycleStart hstart⟩

namespace World

variable {rules : Rules} {w : World} {c : Credentials} {bytes : Bytes} {customer : Customer}
  {id : String} {e : Emulator} {sub : Subscription} {item : ReceiptItem}

/-- The payment for a running subscription is reported if its level is not negative, unless the date
that it was made at is off the calendar. -/
theorem exists_receiptItem (hw : w.Dated) (hp : w.registry.find? customer.provider = some e)
    (hsub : e.subscriptions.get? id = some sub) (hactive : sub.status = .active)
    (hlevel : 0 ≤ sub.level) (hdates : (e.receiptItem w.mint id).answer ≠ .error (.time .outOfRange)) :
    ∃ item, (e.receiptItem w.mint id).answer = .ok item := by
  have hrunning : e.activeSubscription id = .ok sub :=
    Emulator.activeSubscription_eq_ok.2 ⟨hsub, hactive⟩
  obtain ⟨cycle, hcycle⟩ := e.billingPeriod.period.cyclesElapsed_of_notAfter
    (hw.subscriptions _ e hp id sub hsub) hw.clock
  have hanswer := Emulator.receiptItem_answer (m := w.mint) hrunning hcycle
  rw [hanswer] at hdates ⊢
  have hstart : Emulator.cycleStart sub e.billingPeriod.period cycle ≠ .error .outOfRange := by
    intro h
    refine hdates ?_
    unfold Emulator.report
    rw [h]
    rfl
  obtain ⟨paidAt, hpaid⟩ := Emulator.failsOffCalendar_cycleStart.exists_of_ne hstart
  exact ⟨_, Emulator.report_eq_ok_iff.2 ⟨hlevel, paidAt, hpaid, rfl⟩⟩

/-- The time that a credential expires at can be computed and written, if no date is off the
calendar. -/
theorem exists_expiration (hw : w.Dated) (hp : w.registry.find? customer.provider = some e)
    (hitem : (e.receiptItem w.mint id).answer = .ok item)
    (hdates : w.catalog.expiration item ≠ .error .outOfRange) :
    ∃ expires seconds, w.catalog.expiration item = .ok expires ∧
      expires.epochSeconds = .ok seconds ∧ (Moment.ofEpochSeconds seconds).isOk := by
  obtain ⟨sub, hsub, -, -, hoffset⟩ := Emulator.exists_of_receiptItem hitem
  have haware : item.paidAt.offset.isSome := by
    rw [hoffset]
    exact (hw.subscriptions _ e hp id sub hsub).1
  obtain ⟨expires, hexpires⟩ := (Catalog.failsOffCalendar_expiration haware).exists_of_ne hdates
  obtain ⟨seconds, hseconds, hread⟩ := Catalog.epochSeconds_of_expiration hexpires
  exact ⟨expires, seconds, hexpires, hseconds, hread⟩

/-- Once its payment is noted, a request is answered exactly if the credential can say what it has
to. -/
theorem exists_certifies_iff (hw : w.Dated)
    (hrules : rules.expiration = w.catalog.rules.expiration)
    (hp : w.registry.find? customer.provider = some e)
    (hitem : (e.receiptItem w.mint id).answer = .ok item)
    (hdates : w.catalog.expiration item ≠ .error .outOfRange) :
    (∃ receipt expires, rules.expiration item = .ok expires ∧
      Certifies w.signer bytes customer item expires receipt) ↔ w.catalog.Certifiable item := by
  obtain ⟨expires, seconds, hexpires, hseconds, hread⟩ := exists_expiration hw hp hitem hdates
  have hrule : rules.expiration item = .ok expires := by
    rw [hrules]
    show (w.catalog.expiration item).mapError Fault.time = .ok expires
    rw [hexpires]
    rfl
  have hwritten : w.catalog.expirationSeconds item = .ok seconds := by
    rw [Catalog.expirationSeconds, hexpires]
    exact hseconds
  constructor
  · rintro ⟨receipt, expires', hexpires', seconds', hseconds', -, hfits, hlevel, -⟩
    obtain rfl := Except.ok.inj (hrule.symm.trans hexpires')
    refine ⟨hlevel, fun n hn => ?_⟩
    obtain rfl := Except.ok.inj (hwritten.symm.trans hn)
    obtain rfl := Except.ok.inj (hseconds.symm.trans hseconds')
    exact hfits
  · intro h
    exact ⟨_, expires, hrule, seconds, hseconds, hread, h.expiration seconds hwritten, h.level, rfl⟩

/-- What is answered to a request that comes to a payment which is not spent. -/
theorem createReceipt_isOk_iff_of_comes (hw : w.Dated)
    (hrules : rules.expiration = w.catalog.rules.expiration) (hdates : w.Dates c bytes)
    (h : w.Comes c bytes customer item)
    (hunspent : ¬w.ledger.Spent item.id customer.provider (Digest.sha256 bytes)) :
    (∃ receipt, (w.perform rules (createReceipt c bytes)).1 = .ok receipt) ↔
      w.catalog.Certifiable item := by
  cases perform_createReceipt rules w c bytes with
  | refused answer kept spent => exact absurd (spent _ _ h) hunspent
  | noted paid unspent kept answer =>
    obtain ⟨rfl, rfl⟩ := h.unique paid
    obtain ⟨id, e, hdraws, hitem⟩ := h
    rw [exists_congr answer]
    exact exists_certifies_iff hw hrules hdraws.processor hitem
      ((hdates _ _ _ hdraws).2 _ hitem hunspent)

/-- A request for a receipt is answered exactly if everything is so that has to be. -/
theorem createReceipt_isOk_iff (hw : w.Dated)
    (hrules : rules.expiration = w.catalog.rules.expiration) (hdates : w.Dates c bytes) :
    (∃ receipt, (w.perform rules (createReceipt c bytes)).1 = .ok receipt) ↔
      ∃ customer id e sub, w.Grants c bytes customer id e sub := by
  constructor
  · intro hanswered
    cases perform_createReceipt rules w c bytes with
    | refused answer _ _ =>
      obtain ⟨receipt, hreceipt⟩ := hanswered
      cases answer.symm.trans hreceipt
    | @noted customer item paid unspent kept answer =>
      have hcertifiable :=
        (createReceipt_isOk_iff_of_comes hw hrules hdates paid unspent).1 hanswered
      obtain ⟨id, e, hdraws, hitem⟩ := paid
      obtain ⟨sub, hsub, hactive, hlevel, -⟩ := Emulator.exists_of_receiptItem hitem
      -- the processor reports one payment
      refine ⟨customer, id, e, sub, hdraws, hsub, hactive, hlevel ▸ hcertifiable.level,
        fun item' hitem' => ?_, fun item' seconds hitem' => ?_⟩
      · obtain rfl := Except.ok.inj (hitem.symm.trans hitem')
        exact unspent
      · obtain rfl := Except.ok.inj (hitem.symm.trans hitem')
        exact hcertifiable.expiration seconds
  · rintro ⟨customer, id, e, sub, h⟩
    obtain ⟨item, hitem⟩ := exists_receiptItem hw h.draws.processor h.subscription h.active h.level.1
      (hdates _ _ _ h.draws).1
    have hcomes : w.Comes c bytes customer item := ⟨id, e, h.draws, hitem⟩
    refine (createReceipt_isOk_iff_of_comes hw hrules hdates hcomes (h.unspent item hitem)).2 ?_
    obtain ⟨sub', hsub, -, hlevel, -⟩ := Emulator.exists_of_receiptItem hitem
    obtain rfl := Option.some.inj (h.subscription.symm.trans hsub)
    exact ⟨hlevel ▸ h.level, fun seconds => h.expiration item seconds hitem⟩

end World

/-! ### What stays -/

namespace World

/-- What every call keeps, and the log does not count for, a program keeps that nobody interrupts. -/
theorem forall_perform {P : World → Prop} {rules : Rules}
    (call : ∀ w c, P w → P (w.answer rules c).2)
    (within : ∀ w ctx, P w → P { w with context := ctx }) (write : ∀ w e, P w → P (w.write e))
    {α : Type} (p : Program α) {w : World} (h : P w) : P (w.perform rules p).2 := by
  induction p generalizing w with
  | done r => exact h
  | call c next ih => exact ih _ (call w c h)
  | enter fields next ih => exact ih _ (within w _ h)
  | leave saved next ih => exact ih (within w _ h)
  | log e next ih => exact ih (write w e h)

theorem Dated.perform {w : World} (h : w.Dated) (rules : Rules) {α : Type} (p : Program α) :
    (w.perform rules p).2.Dated :=
  forall_perform (fun _ c hw => hw.answer rules c) (fun _ _ hw => hw.congr rfl rfl)
    (fun _ _ hw => hw.congr rfl rfl) p h

theorem catalog_perform (rules : Rules) (w : World) {α : Type} (p : Program α) :
    (w.perform rules p).2.catalog = w.catalog :=
  forall_perform (P := fun w' => w'.catalog = w.catalog)
    (fun w' c h => (w'.catalog_answer rules c).trans h) (fun _ _ h => h) (fun _ _ h => h) p rfl

end World

theorem Course.dated_serve {s : Course} (h : s.world.Dated) (rules : Rules) (r : Request) :
    (s.serve rules r).2.world.Dated := by
  have hworld : (s.serve rules r).2.world = (s.world.perform rules r.program).2 :=
    congrArg Prod.snd (s.serve_eq_perform rules r)
  rw [hworld]
  exact h.perform rules r.program

namespace System

/-- Whatever happens, the catalog stays as it is. -/
theorem catalog_play (s : System) (moves : List (Move (Rules × Luck))) :
    (s.play .inMemory moves).course.world.catalog = s.course.world.catalog := by
  refine forall_play_inMemory (P := fun s' => s'.world.catalog = s.course.world.catalog) ?_ ?_ rfl
    moves
  · intro s₁ s₂ ha h
    exact ha.world.catalog.trans h
  · intro rules c s' h
    exact (s'.world.catalog_answer rules c).trans h

/-- Whatever happens, the ledger keeps the entries it has. -/
theorem keeps_ledger_play (s : System) (moves : List (Move (Rules × Luck))) :
    s.course.world.ledger.Keeps (s.play .inMemory moves).course.world.ledger := by
  refine forall_play_inMemory (P := fun s' => s.course.world.ledger.Keeps s'.world.ledger) ?_ ?_
    (.refl _) moves
  · intro s₁ s₂ ha h
    rw [ha.world.ledger]
    exact h
  · intro rules c s' h
    exact h.trans (s'.world.ledger_answer rules c)

/-- A payment that was noted for a request stays noted for it, whatever happens then. -/
theorem not_spent_play {s : System} {ledger : Ledger} {entry : Issuance}
    (hs : s.course.world.ledger = (ledger.record entry).state)
    (hunspent : ¬ledger.Spent entry.itemId entry.provider entry.fingerprint)
    (moves : List (Move (Rules × Luck))) :
    ¬(s.play .inMemory moves).course.world.ledger.Spent entry.itemId entry.provider
      entry.fingerprint := by
  obtain ⟨x, hx, hprint⟩ := Ledger.find?_record_of_unspent hunspent
  rw [← hs] at hx
  rw [← hprint]
  exact Ledger.not_spent_of_find? (s.keeps_ledger_play moves _ _ _ hx)

/-- The outcome of a request for a receipt that nobody interrupts, wherever a system comes to with a
clock that shows no earlier time than any subscription was made at, as long as no date is off the
calendar.  It is answered exactly if everything is so that has to be, with a credential that says
the bytes of the request, the expiration and the level.  It adds one entry to the ledger at most, and
only if it came to a payment that was reported and not spent.  Once it has, whatever happens then,
a request with the same bytes that comes to the same payment is answered exactly if the credential
can say what it has to. -/
theorem outcome_of_createReceipt {s : System} (hs : s.course.world.Dated) {rules : Rules}
    (hrules : rules.expiration = s.course.world.catalog.rules.expiration) {c : Credentials}
    {bytes : Bytes} (hdates : s.course.world.Dates c bytes) :
    let w := s.course.world
    let o := s.course.serve rules (.createReceipt c bytes)
    ((∃ receipt, o.1 = .ok receipt) ↔
      ∃ customer id e sub, w.Grants c bytes customer id e sub) ∧
    (∀ receipt, o.1 = .ok receipt → ∃ customer seconds, w.Comes c bytes customer receipt.item ∧
      receipt.provider = customer.provider ∧
      w.catalog.expirationSeconds receipt.item = .ok seconds ∧
      receipt.credential.payload =
        bytes ++ Bytes.ofNatBE 8 seconds.toNat ++ Bytes.ofNatBE 8 receipt.item.level.toNat) ∧
    (o.2.world.ledger = w.ledger ∨ ∃ customer item, w.Comes c bytes customer item ∧
      w.ledger.find? item.id customer.provider = none ∧
      o.2.world.ledger = ⟨w.ledger.issuances.insert (item.id, customer.provider)
        ⟨item.id, customer.provider, Digest.sha256 bytes, c.now⟩⟩) ∧
    ∀ customer item, w.Comes c bytes customer item → o.2.world.ledger ≠ w.ledger →
      ∀ later, let v := (System.play .inMemory ⟨o.2, s.tasks⟩ later).course.world
      v.Dated → ∀ rules' c', rules'.expiration = rules.expiration → v.Dates c' bytes →
        ∀ customer' item', v.Comes c' bytes customer' item' → item'.id = item.id →
          customer'.provider = customer.provider →
          ((∃ receipt, (v.perform rules' (createReceipt c' bytes)).1 = .ok receipt) ↔
            w.catalog.Certifiable item') := by
  intro w o
  have ho : (o.1, o.2.world) = w.perform rules (createReceipt c bytes) :=
    s.course.serve_eq_perform rules (.createReceipt c bytes)
  have hanswer : o.1 = (w.perform rules (createReceipt c bytes)).1 := congrArg Prod.fst ho
  have hworld : o.2.world = (w.perform rules (createReceipt c bytes)).2 := congrArg Prod.snd ho
  rw [hanswer, hworld]
  refine ⟨World.createReceipt_isOk_iff hs hrules hdates, ?_⟩
  cases perform_createReceipt rules w c bytes with
  | refused answer kept spent =>
    refine ⟨fun receipt h => ?_, .inl kept, fun _ _ _ hne => absurd kept hne⟩
    cases answer.symm.trans h
  | @noted customer item paid unspent kept answer =>
    refine ⟨fun receipt h => ?_, ?_, ?_⟩
    · obtain ⟨expires, hexpires, seconds, hseconds, -, -, -, rfl⟩ := (answer receipt).1 h
      rw [hrules] at hexpires
      refine ⟨customer, seconds, paid, rfl, ?_, rfl⟩
      show w.catalog.expiration item >>= Moment.epochSeconds = .ok seconds
      rw [mapError_eq_ok hexpires]
      exact hseconds
    · rw [kept]
      exact (w.ledger.state_record_cases _).imp_right fun h => ⟨customer, item, paid, h⟩
    · intro customer' item' paid' _ later v hdated rules' c' hrules' hdates' customer'' item''
        hcomes hitem hprovider
      obtain ⟨rfl, rfl⟩ := paid.unique paid'
      have hunspent' : ¬v.ledger.Spent item.id customer.provider (Digest.sha256 bytes) :=
        not_spent_play (s := ⟨o.2, s.tasks⟩) ((congrArg World.ledger hworld).trans kept) unspent later
      have hcatalog : v.catalog = w.catalog := by
        refine (catalog_play ⟨o.2, s.tasks⟩ later).trans ?_
        show o.2.world.catalog = w.catalog
        rw [hworld]
        exact w.catalog_perform rules _
      rw [hrules, ← hcatalog] at hrules'
      rw [← hcatalog]
      refine World.createReceipt_isOk_iff_of_comes hdated hrules' hdates' hcomes ?_
      rwa [hitem, hprovider]

end System

namespace Sample

/-- A subscriber starts at a level that no credential has room for. -/
def subscribeAbove : List Request :=
  (subscribe 500).take 2 ++
    [.readAndUpdateLevel credentials .stripe
      ⟨Credential.wordBound, "usd", "first", "price_donation_500_usd"⟩]

theorem steady_subscribeAbove :
    Move.Steady World.shipped.clock (oneByOne asShipped subscribeAbove) := trivial

/-- The system that this leads to. -/
def above : System := (System.start .shipped).play .inMemory (oneByOne asShipped subscribeAbove)

theorem dated_above : above.course.world.Dated := by
  have hstart : (System.start .shipped).course.world.Dated := World.fresh_shipped.dated rfl
  unfold above
  exact System.dated_play hstart steady_subscribeAbove

/-- The course after a request for a credential there. -/
def refused : Course := (above.course.serve asShipped.1 (.createReceipt credentials bytes)).2

/-- The rules of the catalog, but that every change of level is allowed. -/
def lenient : Rules := { asShipped.1 with allows := fun _ _ => .ok true }

/-- Then it moves to a level that there is room for. -/
def thenBelow : List (Move (Rules × Luck)) :=
  .arrive (toLevel 500 "second") :: List.replicate 32 (.advance 3 (lenient, .fine))

/-- The world that this leads to. -/
def below500 : World :=
  (System.play .inMemory ⟨refused, above.tasks⟩ thenBelow).course.world

theorem steady_thenBelow (now : Moment) : Move.Steady now thenBelow := trivial

theorem dated_below500 : below500.Dated := by
  have hserved := Course.dated_serve dated_above asShipped.1 (.createReceipt credentials bytes)
  have hrefused : refused.world.Dated := by
    unfold refused
    exact hserved
  unfold below500
  exact System.dated_play (s := ⟨refused, above.tasks⟩) hrefused (steady_thenBelow _)

theorem catalog_above : above.course.world.catalog = World.shipped.catalog := by
  unfold above
  rw [System.catalog_play]
  rfl

/-- The first payment at a level. -/
def firstItem (level : Int) (h : 0 ≤ level) : ReceiptItem :=
  ⟨"emulator_item_0000000000000003_0", .epoch, level, h⟩

theorem comes_of_any {w : World} {item : ReceiptItem}
    (hr : (w.store.find? credentials.user).any fun r => r.password = credentials.hmac ∧
      r.subscriptionId = some subscriptionId ∧ r.customer = some customer)
    (hitem : (w.registry.find? customer.provider).any fun e =>
      (e.receiptItem w.mint subscriptionId).answer.toOption = some item) :
    w.Comes credentials bytes customer item := by
  obtain ⟨r, hr, h⟩ := (Option.any_eq_true _ _).1 hr
  obtain ⟨e, he, hreported⟩ := (Option.any_eq_true _ _).1 hitem
  obtain ⟨htag, hid, hcustomer⟩ := of_decide_eq_true h
  have hlookup : w.store.lookup credentials.user credentials.hmac = .found r := by
    rw [Store.lookup, hr]
    exact if_pos htag
  have hanswer := of_decide_eq_true hreported
  refine ⟨subscriptionId, e, ⟨⟨r, hlookup, hid, hcustomer⟩, rfl, he⟩, ?_⟩
  cases hx : (e.receiptItem w.mint subscriptionId).answer with
  | error f => rw [hx] at hanswer; cases hanswer
  | ok x => rw [hx] at hanswer; exact congrArg Except.ok (Option.some.inj hanswer)

end Sample

open Sample in
/-- A request for a credential that there is no room for fails, but the payment is noted; after a
change of level the same request is answered. -/
theorem System.outcome_of_createReceipt_above :
    above.course.world.Dated ∧ above.course.world.Dates credentials bytes ∧
      ¬(above.course.world.perform asShipped.1 (createReceipt credentials bytes)).1.isOk ∧
      refused.world.ledger ≠ above.course.world.ledger ∧
      below500.Dated ∧ below500.Dates credentials bytes ∧
      ∃ receipt, (below500.perform asShipped.1 (createReceipt credentials bytes)).1 =
        .ok receipt := by
  have hcomes : above.course.world.Comes credentials bytes customer
      (firstItem Credential.wordBound (by decide)) :=
    comes_of_any (by decide +kernel) (by decide +kernel)
  have hdates : above.course.world.Dates credentials bytes := hcomes.dates (by decide +kernel)
  have hne : refused.world.ledger ≠ above.course.world.ledger := by decide +kernel
  have hcomes' : below500.Comes credentials bytes customer (firstItem 500 (by decide)) :=
    comes_of_any (by decide +kernel) (by decide +kernel)
  have hdates' : below500.Dates credentials bytes := hcomes'.dates (by decide +kernel)
  have hrules : asShipped.1.expiration = above.course.world.catalog.rules.expiration := by
    rw [catalog_above]
    rfl
  have hcertifiable : above.course.world.catalog.Certifiable (firstItem 500 (by decide)) := by
    have hseconds : (World.shipped.catalog.expirationSeconds
        (firstItem 500 (by decide))).toOption = some 3974400 := by decide +kernel
    rw [catalog_above]
    refine ⟨⟨by decide, by decide⟩, fun seconds h => ?_⟩
    rw [h] at hseconds
    obtain rfl := Option.some.inj hseconds
    decide
  obtain ⟨-, -, -, hagain⟩ := outcome_of_createReceipt (s := above) dated_above hrules hdates
  have hdated' := dated_below500
  refine ⟨dated_above, hdates, by decide +kernel, hne, hdated', hdates', ?_⟩
  unfold below500 refused at hdated' hcomes' hdates'
  unfold refused at hne
  unfold below500 refused
  exact (hagain customer _ hcomes hne thenBelow hdated' asShipped.1 credentials rfl hdates' customer _
    hcomes' rfl rfl).2 hcertifiable

end Patronage
