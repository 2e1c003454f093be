import Patronage.Proofs.Likeness
/-!
# Processors that are alike

Two processors are alike if they were set up alike and differ in the identities of their customers
and the clocks of their moments only, as a `Likeness` allows.  Every operation keeps them alike and
draws the same identifiers from the same supply, since what is looked up and compared is never an
identity, and identifiers show instants only.  Main statements:

* `Emulator.like_createSubscription`, `Emulator.like_updateSubscription`, `Emulator.like_cancelAll` —
  subscriptions are made, moved and canceled alike;
* `Emulator.like_receiptItem` — payments are reported alike while billing cycles start on the
  calendar.
-/

namespace Patronage

variable {L : Likeness}

/-- Two customers of a processor that are subscribers that go together. -/
structure RemoteCustomer.Like (L : Likeness) (c c' : RemoteCustomer) : Prop where
  id : c.id = c'.id
  user : L.user c.user c'.user
  platform : c.platform = c'.platform
  requiresAction : c.requiresAction = c'.requiresAction

/-- Two subscriptions that differ in the clocks of their moments only. -/
structure Subscription.Like (L : Likeness) (s s' : Subscription) : Prop where
  id : s.id = s'.id
  customerId : s.customerId = s'.customerId
  templateId : s.templateId = s'.templateId
  level : s.level = s'.level
  currency : s.currency = s'.currency
  status : s.status = s'.status
  createdAt : s.createdAt.Like L s'.createdAt
  canceledAt : Option.Rel (Moment.Like L) s.canceledAt s'.canceledAt
  items : s.items = s'.items

theorem Subscription.Like.isActiveOf {s s' : Subscription} (h : s.Like L s') (customerId : String) :
    s.isActiveOf customerId = s'.isActiveOf customerId := by
  rw [Subscription.isActiveOf, h.customerId, h.status, Subscription.isActiveOf]

/-- Two reports of a payment that are alike. -/
structure ReceiptItem.Like (L : Likeness) (x x' : ReceiptItem) : Prop where
  id : x.id = x'.id
  paidAt : x.paidAt.Like L x'.paidAt
  level : x.level = x'.level

/-- Two processors set up alike, with customers and subscriptions that are alike and the same
keys. -/
structure Emulator.Like (L : Likeness) (e e' : Emulator) : Prop where
  provider : e.provider = e'.provider
  idLead : e.idLead = e'.idLead
  billingPeriod : e.billingPeriod = e'.billingPeriod
  customers : e.customers.Like (· = ·) (RemoteCustomer.Like L) e'.customers
  subscriptions : e.subscriptions.Like (· = ·) (Subscription.Like L) e'.subscriptions
  createdByKey : e.createdByKey = e'.createdByKey
  updatedByKey : e.updatedByKey = e'.updatedByKey
  templates : e.templates = e'.templates

/-- Two moments that are alike with the same supply of identifiers. -/
structure Mint.Like (L : Likeness) (m m' : Mint) : Prop where
  now : m.now.Like L m'.now
  tokens : m.tokens = m'.tokens

theorem Mint.Like.identifier {m m' : Mint} (h : m.Like L m') (lead : String) (kind : IdKind) :
    m.identifier lead kind = m'.identifier lead kind := by
  rw [Mint.identifier, h.tokens, Mint.identifier]

namespace Emulator

/-- The state of a processor with its supply, and one that is alike. -/
def StateLike (L : Likeness) (s s' : Emulator × TokenSource) : Prop := s.1.Like L s'.1 ∧ s.2 = s'.2

/-- The billing cycle that is running starts within the calendar. -/
def Reaches (e : Emulator) (now : Moment) (id : String) : Prop :=
  ∀ s ∈ (e.activeSubscription id).toOption,
    ∀ cycle ∈ (e.billingPeriod.period.cyclesElapsed s.createdAt now).toOption,
      ∀ span ∈ e.billingPeriod.period.span.toOption,
        s.createdAt.Reaches (((cycle : Int) - 1) * span)

instance (e : Emulator) (now : Moment) (id : String) : Decidable (e.Reaches now id) :=
  inferInstanceAs (Decidable (∀ _ ∈ (e.activeSubscription id).toOption, _))

variable {e e' : Emulator} {m m' : Mint}

namespace Like

theorem fault (h : e.Like L e') (code detail : String) : e.fault code detail = e'.fault code detail := by
  rw [Emulator.fault, h.provider, Emulator.fault]

theorem insertCustomer (h : e.Like L e') {c c' : RemoteCustomer} (hc : c.Like L c') (id : String) :
    Emulator.Like L { e with customers := e.customers.insert id c }
      { e' with customers := e'.customers.insert id c' } :=
  { h with customers := h.customers.insert rfl iff_of_eq_of_eq hc }

theorem insertSubscription (h : e.Like L e') {s s' : Subscription} (hs : s.Like L s') (id : String) :
    Emulator.Like L { e with subscriptions := e.subscriptions.insert id s }
      { e' with subscriptions := e'.subscriptions.insert id s' } :=
  { h with subscriptions := h.subscriptions.insert rfl iff_of_eq_of_eq hs }

theorem customer (h : e.Like L e') (id : String) :
    Twin (RemoteCustomer.Like L) (e.customer id) (e'.customer id) := by
  unfold Emulator.customer
  rw [h.fault]
  obtain ⟨hn, hn'⟩ | ⟨c, c', hc, hc', hl⟩ :=
    OptionRel.none_or_some (h.customers.get? (iff_of_eq_of_eq (k := id)))
  · rw [hn, hn']
    exact .error _
  · rw [hc, hc']
    exact .ok hl

theorem subscription (h : e.Like L e') (id : String) :
    Twin (Subscription.Like L) (e.subscription id) (e'.subscription id) := by
  unfold Emulator.subscription
  rw [h.fault]
  obtain ⟨hn, hn'⟩ | ⟨s, s', hs, hs', hl⟩ :=
    OptionRel.none_or_some (h.subscriptions.get? (iff_of_eq_of_eq (k := id)))
  · rw [hn, hn']
    exact .error _
  · rw [hs, hs']
    exact .ok hl

theorem currencyOf (h : e.Like L e') (id : String) : e.currencyOf id = e'.currencyOf id := by
  rw [Emulator.currencyOf, h.templates, h.fault, Emulator.currencyOf]

theorem activeSubscription (h : e.Like L e') (id : String) :
    Twin (Subscription.Like L) (e.activeSubscription id) (e'.activeSubscription id) := by
  refine (h.subscription id).bind fun {s s'} _ _ hl => ?_
  rw [hl.status, h.fault]
  split
  · exact .ok hl
  · exact .error _

end Like

theorem like_createCustomer (h : e.Like L e') (hm : m.Like L m') {user user' : Bytes}
    (hu : L.user user user') (platform : Platform) :
    Outcome.Like L (StateLike L) (· = ·) (e.createCustomer m user platform)
      (e'.createCustomer m' user' platform) := by
  have hid : m.identifier e.idLead .customer = m'.identifier e'.idLead .customer := by
    rw [h.idLead, hm.identifier]
  unfold createCustomer
  dsimp only
  rw [hid]
  refine .ok ⟨h.insertCustomer ?_ _, congrArg TokenSource.advance hm.tokens⟩ (by rw [h.provider])
    fun _ => by rw [h.provider]
  exact ⟨rfl, hu, rfl, rfl⟩

theorem Like.withSubscription (h : e.Like L e') {s s' : Subscription} (hs : s.Like L s')
    (last : Int) : (e.withSubscription s last).Like L (e'.withSubscription s' last) := by
  unfold Emulator.withSubscription
  rw [hs.id, hs.customerId, h.createdByKey]
  exact { h.insertSubscription hs s'.id with createdByKey := rfl }

theorem like_createSubscription (h : e.Like L e') (hm : m.Like L m')
    (customerId templateId : String) (level last : Int) :
    Outcome.Like L (StateLike L) (· = ·) (e.createSubscription m customerId templateId level last)
      (e'.createSubscription m' customerId templateId level last) := by
  have hstate : StateLike L (e, m.tokens) (e', m'.tokens) := ⟨h, hm.tokens⟩
  have hid : m.identifier e.idLead .subscription = m'.identifier e'.idLead .subscription := by
    rw [h.idLead, hm.identifier]
  unfold createSubscription
  dsimp only
  rw [hid, h.currencyOf, h.createdByKey, h.fault, h.provider]
  obtain ⟨f, hf, hf'⟩ | ⟨c, c', hc, hc', hl⟩ := (h.customer customerId).error_or_ok
  · rw [hf, hf']
    exact .fail hstate f
  · rw [hc, hc']
    cases e'.currencyOf templateId with
    | error f => exact .fail hstate f
    | ok currency =>
      dsimp only
      rw [hl.requiresAction]
      split
      · exact .ok hstate rfl fun _ => rfl
      · split
        · exact .fail hstate _
        · refine .ok ⟨h.withSubscription ?_ last, congrArg TokenSource.advance hm.tokens⟩ rfl
            fun _ => rfl
          exact ⟨rfl, rfl, rfl, rfl, rfl, rfl, hm.now, .none, rfl⟩

theorem Like.moved (h : e.Like L e') {s s' : Subscription} (hs : s.Like L s') (r : LevelRequest)
    (currency key : String) : (e.moved s r currency key).Like L (e'.moved s' r currency key) := by
  unfold Emulator.moved
  rw [hs.id, h.updatedByKey]
  refine { h.insertSubscription ?_ s'.id with updatedByKey := rfl }
  exact { hs with templateId := rfl, level := rfl, currency := rfl, id := rfl }

theorem like_updateSubscription (h : e.Like L e') (r : LevelRequest) (key : String) :
    Outcome.Like L (Emulator.Like L) (· = ·) (e.updateSubscription r key)
      (e'.updateSubscription r key) := by
  unfold updateSubscription
  rw [h.updatedByKey, h.fault]
  split
  · split
    · exact .ok h rfl fun _ => rfl
    · exact .fail h _
  · unfold moveLevel
    rw [h.currencyOf]
    obtain ⟨f, hf, hf'⟩ | ⟨s, s', hs, hs', hl⟩ := (h.activeSubscription r.subscriptionId).error_or_ok
    · rw [hf, hf']
      exact .fail h f
    · rw [hs, hs']
      cases e'.currencyOf r.templateId with
      | error f => exact .fail h f
      | ok currency =>
        exact .ok (h.moved hl r currency key) hl.id fun _ => by rw [h.provider, hl.id, hl.level]

theorem like_billCycle (h : e.Like L e') (hm : m.Like L m') {s s' : Subscription} (hs : s.Like L s')
    (cycle : Nat) :
    (e.billCycle m s cycle).1 = (e'.billCycle m' s' cycle).1 ∧
      StateLike L (e.billCycle m s cycle).2 (e'.billCycle m' s' cycle).2 := by
  have hid : m.identifier e.idLead .item = m'.identifier e'.idLead .item := by
    rw [h.idLead, hm.identifier]
  unfold billCycle
  dsimp only
  rw [hid, hs.items]
  split
  · exact ⟨rfl, h, hm.tokens⟩
  · refine ⟨rfl, ?_, congrArg TokenSource.advance hm.tokens⟩
    rw [hs.id]
    refine h.insertSubscription ?_ s'.id
    exact { hs with id := rfl, items := rfl }

theorem like_report {s s' : Subscription} (hs : s.Like L s') (period : Period) (cycle : Nat)
    (item : String)
    (hc : L.exact ∨ ∀ span, period.span = .ok span →
      s.createdAt.Reaches (((cycle : Int) - 1) * span) ∧
        s'.createdAt.Reaches (((cycle : Int) - 1) * span)) :
    Twin (ReceiptItem.Like L) (report s period cycle item) (report s' period cycle item) := by
  have hstart : Twin (Moment.Like L) (cycleStart s period cycle) (cycleStart s' period cycle) := by
    unfold cycleStart
    cases hspan : period.span with
    | error t => exact .error t
    | ok span => exact hs.createdAt.add (hc.imp_right fun hc => hc span hspan)
  refine (hstart.mapError Fault.time).bind fun {paidAt paidAt'} _ _ hl => ?_
  unfold ReceiptItem.of
  rw [hs.level]
  split
  · exact .ok ⟨rfl, hl, rfl⟩
  · exact .error _

/-- Payments are reported alike. -/
theorem like_receiptItem (h : e.Like L e') (hm : m.Like L m') (id : String)
    (hc : L.exact ∨ (e.Reaches m.now id ∧ e'.Reaches m'.now id)) :
    Outcome.Like L (StateLike L) (ReceiptItem.Like L) (e.receiptItem m id)
      (e'.receiptItem m' id) := by
  have hstate : StateLike L (e, m.tokens) (e', m'.tokens) := ⟨h, hm.tokens⟩
  unfold receiptItem
  obtain ⟨f, hf, hf'⟩ | ⟨s, s', hs, hs', hl⟩ := (h.activeSubscription id).error_or_ok
  · rw [hf, hf']
    exact .fail hstate f
  · have hcycle : e.billingPeriod.period.cyclesElapsed s.createdAt m.now =
        e'.billingPeriod.period.cyclesElapsed s'.createdAt m'.now := by
      rw [h.billingPeriod, Period.cyclesElapsed_eq, hm.now.since hl.createdAt, Period.cyclesElapsed_eq]
    rw [hs, hs']
    dsimp only
    rw [hcycle]
    cases hx : e'.billingPeriod.period.cyclesElapsed s'.createdAt m'.now with
    | error c => exact .fail hstate _
    | ok cycle =>
      obtain ⟨hitem, hbilled⟩ := like_billCycle h hm hl cycle
      dsimp only
      rw [hitem, h.billingPeriod]
      refine ⟨hbilled, like_report hl _ cycle _ (hc.imp_right fun hc span hspan => ?_),
        fun _ => rfl⟩
      have hspan' : span ∈ e'.billingPeriod.period.span.toOption := by rw [hspan]; rfl
      refine ⟨hc.1 s ?_ cycle ?_ span ?_, hc.2 s' ?_ cycle ?_ span hspan'⟩
      · rw [hs]
        rfl
      · rw [hcycle, hx]
        rfl
      · rwa [h.billingPeriod]
      · rw [hs']
        rfl
      · rw [hx]
        rfl

theorem Like.idsOfActive (h : e.Like L e') (customerId : String) :
    (e.activeOf customerId).map (·.id) = (e'.activeOf customerId).map (·.id) := by
  have hs := h.subscriptions.values
  unfold activeOf
  generalize e.subscriptions.values = ss at hs ⊢
  generalize e'.subscriptions.values = ss' at hs ⊢
  induction hs with
  | nil => rfl
  | cons hs _ ih =>
    rw [List.filter_cons, List.filter_cons, hs.isActiveOf]
    split
    · rw [List.map_cons, List.map_cons, ih, hs.id]
    · exact ih

theorem like_cancelAll (h : e.Like L e') {now now' : Moment} (hm : now.Like L now')
    (customerId : String) :
    Outcome.Like L (Emulator.Like L) (· = ·) (e.cancelAll now customerId)
      (e'.cancelAll now' customerId) := by
  unfold cancelAll
  obtain ⟨f, hf, hf'⟩ | ⟨c, c', hc, hc', -⟩ := (h.customer customerId).error_or_ok
  · rw [hf, hf']
    exact .fail h f
  · rw [hc, hc']
    refine .ok { h with subscriptions := h.subscriptions.mapValues fun {s s'} hs => ?_ } rfl
      fun _ => by rw [h.provider, h.idsOfActive]
    rw [hs.isActiveOf]
    split
    · exact { hs with status := rfl, canceledAt := .some hm }
    · exact hs

theorem like_requireAction (h : e.Like L e') (customerId : String) (required : Bool) :
    Outcome.Like L (Emulator.Like L) (· = ·) (e.requireAction customerId required)
      (e'.requireAction customerId required) := by
  unfold requireAction
  obtain ⟨f, hf, hf'⟩ | ⟨c, c', hc, hc', hl⟩ := (h.customer customerId).error_or_ok
  · rw [hf, hf']
    exact .fail h f
  · rw [hc, hc']
    refine .ok (h.insertCustomer ?_ customerId) rfl fun _ => rfl
    exact ⟨hl.id, hl.user, hl.platform, rfl⟩

theorem like_tier {s s' : Subscription} (hs : s.Like L s') : tier s = tier s' := by
  rw [tier, hs.level, hs.currency, tier]

end Emulator

/-- Two registries with processors that are alike for the same providers. -/
def Registry.Like (L : Likeness) (r r' : Registry) : Prop :=
  ∀ p, Option.Rel (Emulator.Like L) (r.find? p) (r'.find? p)

namespace Registry.Like

variable {r r' : Registry}

theorem get (h : r.Like L r') (p : Provider) : Twin (Emulator.Like L) (r.get p) (r'.get p) := by
  unfold Registry.get
  obtain ⟨hn, hn'⟩ | ⟨e, e', he, he', hl⟩ := OptionRel.none_or_some (h p)
  · rw [hn, hn']
    exact .error _
  · rw [he, he']
    exact .ok hl

theorem set (h : r.Like L r') (p : Provider) {e e' : Emulator} (he : e.Like L e') :
    (r.set p e).Like L (r'.set p e') := by
  intro q
  rw [Registry.find?_set, Registry.find?_set]
  split
  · exact .some he
  · exact h q

end Registry.Like

end Patronage
