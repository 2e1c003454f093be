import Patronage.Proofs.Likeness.Processor
/-!
# Worlds that are alike

Two worlds are alike if all their collaborators are, at moments that are alike, with the same log
fields bound and, where moments are the same, the same events written.  Calls that ask for the same
of subscribers that go together are answered alike and leave alike worlds behind.  The one thing
that may tell moments of one instant apart is the end of the calendar, which `World.Reaches` keeps
out of reach.  Main statement:

* `World.like_answer` — a call on worlds that are alike.
-/

namespace Patronage

open Calendar

variable {L : Likeness}

/-! ### Rules -/

theorem ReceiptItem.Like.eq {x x' : ReceiptItem} (h : x.Like L x') (hx : L.exact) : x = x' := by
  obtain ⟨id, paidAt, level, hlevel⟩ := x
  obtain ⟨id', paidAt', level', hlevel'⟩ := x'
  obtain ⟨rfl, hpaid, rfl⟩ := h
  obtain rfl := hpaid.eq hx
  rfl

/-- The durations that a credential is good for end on the calendar. -/
def Catalog.Reaches (c : Catalog) (item : ReceiptItem) : Prop :=
  ∀ badge ∈ c.settings.badgeExpiration.period.span.toOption, item.paidAt.Reaches badge ∧
    ∀ good ∈ (item.paidAt.add badge).toOption,
      ∀ grace ∈ c.settings.badgeGracePeriod.period.span.toOption, good.Reaches grace

instance (c : Catalog) (item : ReceiptItem) : Decidable (c.Reaches item) :=
  inferInstanceAs (Decidable (∀ _ ∈ c.settings.badgeExpiration.period.span.toOption, _))

/-- Credentials for payments that are alike expire alike. -/
theorem Catalog.like_expiration (c : Catalog) {item item' : ReceiptItem} (h : item.Like L item')
    (hc : L.exact ∨ (c.Reaches item ∧ c.Reaches item')) :
    Twin (Moment.Like L) (c.expiration item) (c.expiration item') := by
  rw [expiration_eq_bind, expiration_eq_bind]
  cases hbadge : c.settings.badgeExpiration.period.span with
  | error t => exact .error t
  | ok badge =>
    have hspan : badge ∈ c.settings.badgeExpiration.period.span.toOption := by rw [hbadge]; rfl
    have hgood : Twin (Moment.Like L) (item.paidAt.add badge) (item'.paidAt.add badge) :=
      h.paidAt.add (hc.imp_right fun hc => ⟨(hc.1 badge hspan).1, (hc.2 badge hspan).1⟩)
    refine hgood.bind fun {good good'} hg hg' hl => ?_
    cases hgrace : c.settings.badgeGracePeriod.period.span with
    | error t => exact .error t
    | ok grace =>
      have hlast : Twin (Moment.Like L) (good.add grace) (good'.add grace) := by
        refine hl.add (hc.imp_right fun hc => ⟨(hc.1 badge hspan).2 good ?_ grace ?_,
          (hc.2 badge hspan).2 good' ?_ grace ?_⟩)
        · rw [hg]; rfl
        · rw [hgrace]; rfl
        · rw [hg']; rfl
        · rw [hgrace]; rfl
      refine hlast.bind fun {last last'} _ _ hlast => ?_
      -- from here on there is only UTC
      rw [hlast.truncateToDay]
      cases last'.truncateToDay with
      | error t => exact .error t
      | ok day =>
        show Twin _ (day.add microsPerDay) (day.add microsPerDay)
        cases day.add microsPerDay with
        | error t => exact .error t
        | ok expires => exact .ok (Moment.like_refl expires)

/-! ### Calls -/

/-- Two calls for the same, of subscribers that go together and at moments that are alike, and how
their answers are to be alike. -/
inductive Call.Like (L : Likeness) :
    (c c' : Call) → (c.Answer → c'.Answer → Prop) → Prop
  | lookUp {user user' hmac hmac' : Bytes} (hu : L.user user user') (ht : L.hmac hmac hmac') :
    Like L (.lookUp user hmac) (.lookUp user' hmac') (Lookup.Like L)
  | create {user user' hmac hmac' : Bytes} {now now' : Moment} (hu : L.user user user')
    (ht : L.hmac hmac hmac') (hm : now.Like L now') :
    Like L (.create user hmac now) (.create user' hmac' now') (Option.Rel (Subscriber.Like L))
  | accessedAt {user user' : Bytes} {now now' : Moment} (hu : L.user user user')
    (hm : now.Like L now') : Like L (.accessedAt user now) (.accessedAt user' now') (· = ·)
  | canceledAt {user user' : Bytes} {now now' : Moment} (hu : L.user user user')
    (hm : now.Like L now') : Like L (.canceledAt user now) (.canceledAt user' now') (· = ·)
  | setCustomer {user user' : Bytes} {now now' : Moment} (hu : L.user user user') (c : Customer)
    (hm : now.Like L now') :
    Like L (.setCustomer user c now) (.setCustomer user' c now') (Subscriber.Like L)
  | subscriptionCreated {user user' : Bytes} {now now' : Moment} (hu : L.user user user')
    (id : String) (hm : now.Like L now') (level : Int) :
    Like L (.subscriptionCreated user id now level) (.subscriptionCreated user' id now' level)
      (· = ·)
  | levelChanged {user user' : Bytes} {now now' : Moment} (hu : L.user user user')
    (hm : now.Like L now') (level : Int) (id : String) :
    Like L (.levelChanged user now level id) (.levelChanged user' now' level id) (· = ·)
  | processorOf (p : Provider) : Like L (.processorOf p) (.processorOf p) (· = ·)
  | createCustomer {user user' : Bytes} (p : Provider) (hu : L.user user user')
    (platform : Platform) :
    Like L (.createCustomer p user platform) (.createCustomer p user' platform) (· = ·)
  | subscription (p : Provider) (id : String) :
    Like L (.subscription p id) (.subscription p id) (Subscription.Like L)
  | tier {s s' : Subscription} (p : Provider) (hs : s.Like L s') :
    Like L (.tier p s) (.tier p s') (· = ·)
  | createSubscription (p : Provider) (customerId templateId : String) (level last : Int) :
    Like L (.createSubscription p customerId templateId level last)
      (.createSubscription p customerId templateId level last) (· = ·)
  | updateSubscription {s s' : Subscription} (p : Provider) (hs : s.Like L s')
    (templateId : String) (level : Int) (key : String) :
    Like L (.updateSubscription p s templateId level key)
      (.updateSubscription p s' templateId level key) (· = ·)
  | receiptItem (p : Provider) (id : String) :
    Like L (.receiptItem p id) (.receiptItem p id) (ReceiptItem.Like L)
  | cancelAll (p : Provider) (customerId : String) :
    Like L (.cancelAll p customerId) (.cancelAll p customerId) (· = ·)
  | record {entry entry' : Issuance} (he : entry.Like L entry') :
    Like L (.record entry) (.record entry') (Issuance.NotedLike L)
  | decode (bytes : Bytes) : Like L (.decode bytes) (.decode bytes) (· = ·)
  | issue (r : CredentialRequest) (expiration level : Int) :
    Like L (.issue r expiration level) (.issue r expiration level) (· = ·)
  | allows (old new : Int) : Like L (.allows old new) (.allows old new) (· = ·)
  | expiration {item item' : ReceiptItem} (hi : item.Like L item') :
    Like L (.expiration item) (.expiration item') (Moment.Like L)
  | setUp (p : Provider) (customerId : String) :
    Like L (.setUp p customerId) (.setUp p customerId) (· = ·)

/-! ### Worlds -/

/-- Two worlds with collaborators that are alike, the same log fields bound, and the same events
written if moments are the same. -/
structure World.Like (L : Likeness) (w w' : World) : Prop where
  store : w.store.Like L w'.store
  ledger : w.ledger.Like L w'.ledger
  registry : w.registry.Like L w'.registry
  catalog : w.catalog = w'.catalog
  signer : w.signer = w'.signer
  clock : w.clock.Like L w'.clock
  tokens : w.tokens = w'.tokens
  context : w.context = w'.context
  events : L.exact → w.events = w'.events

/-- What a call computes stays on the calendar. -/
def World.Reaches (w : World) : Call → Prop
  | .receiptItem p id => ∀ e ∈ w.registry.find? p, e.Reaches w.clock id
  | .expiration item => w.catalog.Reaches item
  | _ => True

instance World.decidableReaches (w : World) : (c : Call) → Decidable (w.Reaches c)
  | .receiptItem p id =>
    inferInstanceAs (Decidable (∀ e ∈ w.registry.find? p, e.Reaches w.clock id))
  | .expiration item => inferInstanceAs (Decidable (w.catalog.Reaches item))
  | .lookUp .. | .create .. | .accessedAt .. | .canceledAt .. | .setCustomer ..
  | .subscriptionCreated .. | .levelChanged .. | .processorOf _ | .createCustomer ..
  | .subscription .. | .tier .. | .createSubscription .. | .updateSubscription .. | .cancelAll ..
  | .record _ | .decode _ | .issue .. | .allows .. | .setUp .. => isTrue trivial

namespace World

variable {w w' : World} {α : Type} {R : α → α → Prop}

/-- Writing events adds them to those written, with the fields bound. -/
theorem writeAll_eq (w : World) (es : List Log.Entry) :
    w.writeAll es = { w with events := w.events ++ es.map w.context.complete } := by
  induction es generalizing w with
  | nil => simp [writeAll]
  | cons e es ih =>
    show (w.write e).writeAll es = _
    rw [ih, write]
    simp

theorem Like.writeAll (h : w.Like L w') {es es' : List Log.Entry} (he : L.exact → es = es') :
    (w.writeAll es).Like L (w'.writeAll es') := by
  rw [writeAll_eq, writeAll_eq]
  exact { h with events := fun hx => by rw [h.events hx, h.context, he hx] }

theorem Like.mint (h : w.Like L w') : w.mint.Like L w'.mint := ⟨h.clock, h.tokens⟩

theorem like_withStore (h : w.Like L w') {o o' : Outcome Store α}
    (ho : Outcome.Like L (Store.Like L) R o o') :
    Twin R (w.withStore o).1 (w'.withStore o').1 ∧
      (w.withStore o).2.Like L (w'.withStore o').2 := by
  have hw : World.Like L { w with store := o.state } { w' with store := o'.state } :=
    { h with store := ho.state }
  exact ⟨ho.answer, hw.writeAll ho.events⟩

theorem like_withLedger (h : w.Like L w') {o o' : Outcome Ledger α}
    (ho : Outcome.Like L (Ledger.Like L) R o o') :
    Twin R (w.withLedger o).1 (w'.withLedger o').1 ∧
      (w.withLedger o).2.Like L (w'.withLedger o').2 := by
  have hw : World.Like L { w with ledger := o.state } { w' with ledger := o'.state } :=
    { h with ledger := ho.state }
  exact ⟨ho.answer, hw.writeAll ho.events⟩

theorem find?_of_get {r : Registry} {p : Provider} {e : Emulator} (h : r.get p = .ok e) :
    r.find? p = some e := by
  unfold Registry.get at h
  cases hf : r.find? p with
  | none => rw [hf] at h; cases h
  | some e' => rw [hf] at h; exact congrArg some (Except.ok.inj h)

theorem like_withProcessor (h : w.Like L w') (p : Provider)
    {act act' : Emulator → Outcome Emulator α}
    (ho : ∀ {e e' : Emulator}, e.Like L e' → Outcome.Like L (Emulator.Like L) R (act e) (act' e')) :
    Twin R (w.withProcessor p act).1 (w'.withProcessor p act').1 ∧
      (w.withProcessor p act).2.Like L (w'.withProcessor p act').2 := by
  unfold withProcessor
  obtain ⟨f, hf, hf'⟩ | ⟨e, e', he, he', hl⟩ := (h.registry.get p).error_or_ok
  · rw [hf, hf']
    exact ⟨.error f, h⟩
  · have hw : World.Like L { w with registry := w.registry.set p (act e).state }
        { w' with registry := w'.registry.set p (act' e').state } :=
      { h with registry := h.registry.set p (ho hl).state }
    rw [he, he']
    exact ⟨(ho hl).answer, hw.writeAll (ho hl).events⟩

theorem like_withMint (h : w.Like L w') (p : Provider)
    {act act' : Emulator → Mint → Outcome (Emulator × TokenSource) α}
    (ho : ∀ {e e' : Emulator}, w.registry.find? p = some e → w'.registry.find? p = some e' →
      e.Like L e' → Outcome.Like L (Emulator.StateLike L) R (act e w.mint) (act' e' w'.mint)) :
    Twin R (w.withMint p act).1 (w'.withMint p act').1 ∧
      (w.withMint p act).2.Like L (w'.withMint p act').2 := by
  unfold withMint
  obtain ⟨f, hf, hf'⟩ | ⟨e, e', he, he', hl⟩ := (h.registry.get p).error_or_ok
  · rw [hf, hf']
    exact ⟨.error f, h⟩
  · have hact := ho (find?_of_get he) (find?_of_get he') hl
    have hw : World.Like L
        { w with
          registry := w.registry.set p (act e w.mint).state.1, tokens := (act e w.mint).state.2 }
        { w' with
          registry := w'.registry.set p (act' e' w'.mint).state.1
          tokens := (act' e' w'.mint).state.2 } :=
      { h with registry := h.registry.set p hact.state.1, tokens := hact.state.2 }
    rw [he, he']
    exact ⟨hact.answer, hw.writeAll hact.events⟩

theorem like_asking (h : w.Like L w') (p : Provider) {act act' : Emulator → Except Fault α}
    (ho : ∀ {e e' : Emulator}, e.Like L e' → Twin R (act e) (act' e')) :
    Twin R (w.asking p act).1 (w'.asking p act').1 ∧
      (w.asking p act).2.Like L (w'.asking p act').2 :=
  ⟨(h.registry.get p).bind fun _ _ hl => ho hl, h⟩

/-- Rules under which credentials expire alike. -/
theorem like_rules_expiration {rules : Rules} (h : w.Like L w') {item item' : ReceiptItem}
    (hi : item.Like L item')
    (hc : L.exact ∨ (rules.expiration = w.catalog.rules.expiration ∧
      w.catalog.Reaches item ∧ w'.catalog.Reaches item')) :
    Twin (Moment.Like L) (rules.expiration item) (rules.expiration item') := by
  obtain hx | ⟨hrules, hr, hr'⟩ := hc
  · obtain rfl := hi.eq hx
    cases rules.expiration item with
    | error f => exact .error f
    | ok m => exact .ok (Moment.like_refl m)
  · rw [hrules]
    rw [← h.catalog] at hr'
    exact (w.catalog.like_expiration hi (.inr ⟨hr, hr'⟩)).mapError _

/-- A call on worlds that are alike is answered alike, and leaves alike worlds behind. -/
theorem like_answer {rules : Rules} (h : w.Like L w') {c c' : Call}
    {R : c.Answer → c'.Answer → Prop} (hcall : c.Like L c' R)
    (hc : L.exact ∨ (rules.expiration = w.catalog.rules.expiration ∧ w.Reaches c ∧ w'.Reaches c')) :
    Twin R (w.answer rules c).1 (w'.answer rules c').1 ∧
      (w.answer rules c).2.Like L (w'.answer rules c').2 := by
  cases hcall with
  | lookUp hu ht => exact ⟨.ok (Store.like_lookup h.store hu ht), h⟩
  | create hu ht hm => exact like_withStore h (Store.like_create h.store hu ht hm)
  | accessedAt hu hm => exact like_withStore h (Store.like_accessedAt h.store hu hm)
  | canceledAt hu hm => exact like_withStore h (Store.like_canceledAt h.store hu hm)
  | setCustomer hu c hm => exact like_withStore h (Store.like_setCustomer h.store hu c hm)
  | subscriptionCreated hu id hm level =>
    exact like_withStore h (Store.like_subscriptionCreated h.store hu id hm level)
  | levelChanged hu hm level id =>
    exact like_withStore h (Store.like_levelChanged h.store hu hm level id)
  | processorOf p => exact like_asking h p fun _ => .ok rfl
  | createCustomer p hu platform =>
    exact like_withMint h p fun _ _ he => Emulator.like_createCustomer he h.mint hu platform
  | subscription p id => exact like_asking h p fun he => he.subscription id
  | tier p hs => exact like_asking h p fun _ => .of_eq (Emulator.like_tier hs)
  | createSubscription p customerId templateId level last =>
    exact like_withMint h p fun _ _ he =>
      Emulator.like_createSubscription he h.mint customerId templateId level last
  | updateSubscription p hs templateId level key =>
    refine like_withProcessor h p fun he => ?_
    rw [hs.id]
    exact Emulator.like_updateSubscription he _ key
  | receiptItem p id =>
    refine like_withMint h p fun hfind hfind' he => Emulator.like_receiptItem he h.mint id ?_
    exact hc.imp_right fun hc => ⟨hc.2.1 _ hfind, hc.2.2 _ hfind'⟩
  | cancelAll p customerId =>
    exact like_withProcessor h p fun he => Emulator.like_cancelAll he h.clock customerId
  | record he => exact like_withLedger h (Ledger.like_record h.ledger he)
  | decode bytes => exact ⟨.of_eq rfl, h⟩
  | issue r expiration level =>
    have hissue : (w.answer rules (.issue r expiration level)).1 =
        (w'.answer rules (.issue r expiration level)).1 := by
      unfold answer
      rw [h.signer]
    exact ⟨.of_eq hissue, h⟩
  | allows old new => exact ⟨.of_eq rfl, h⟩
  | expiration hi => exact ⟨like_rules_expiration h hi hc, h⟩
  | setUp p customerId => exact ⟨.of_eq rfl, h⟩

end World

end Patronage
