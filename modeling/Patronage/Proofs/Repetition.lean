import Patronage.Proofs.Transition
/-!
# Asking again for what was made

Whoever subscribes at a price on offer and then asks for the same again should find nothing left to
do.  What is compared is the currency that the processor gave the subscription, and it goes by the
template alone: a template that several prices name is in the currency of the last of them.  So
asking again is in vain exactly if that currency is the one that was asked for, and it always is
where no template is priced in two currencies.  Main statements:

* `Course.moot_iff` — a change of level has nothing to do exactly if the subscription is as wanted;
* `Manager.exists_of_updateLevel` — what making a subscription leaves behind;
* `System.moot_again_iff` — when asking again for a price on offer is in vain.
-/

namespace Patronage

open Manager Text

/-! ### Nothing to do -/

/-- A change of level is answered, nobody is asked whether it is allowed, and nothing changes. -/
structure Course.Moot (s : Course) (rules : Rules) (c : Credentials) (record : Subscriber)
    (p : Provider) (choice : LevelChoice) : Prop where
  answered : (s.serve rules (.updateLevel c record p choice)).1 = .ok ()
  unasked : consulted ((updateLevel c record p choice).heard .inMemory (rules, .fine) s) = []
  alike : s.world.Alike (s.serve rules (.updateLevel c record p choice)).2.world

/-- A change of level has nothing to do exactly if the subscription is as it is wanted. -/
theorem Course.moot_iff {s : Course} {record : Subscriber} {p : Provider} {id : String}
    {sub : Subscription} {choice : LevelChoice} (hs : s.Named)
    (hrecord : record.subscriptionId = some id)
    (hsub : s.world.registry.subscription? p id = some sub) (hold : 0 ≤ sub.level)
    (hnew : 0 ≤ choice.level) (rules : Rules) (c : Credentials) :
    s.Moot rules c record p choice ↔ AsWanted choice sub := by
  obtain ⟨e, he, hfiled⟩ := Option.bind_eq_some_iff.1 hsub
  obtain ⟨h, r, s', hyields, hend⟩ := exists_yields_updateLevel rules c hrecord
    (Course.id_of_subscription? hs hsub) he hfiled hold hnew
  have hrun : s.serve rules (.updateLevel c record p choice) = (r, s') := hyields.run
  unfold Concludes at hend
  constructor
  · intro hmoot
    by_cases hwanted : AsWanted choice sub
    · exact hwanted
    · -- otherwise it would be asked whether the change is allowed
      rw [if_neg hwanted] at hend
      have hasked := hmoot.unasked
      rw [hyields.heard, hend.1] at hasked
      cases hasked
  · intro hwanted
    rw [if_pos hwanted] at hend
    obtain ⟨hr, hasked, halike⟩ := hend
    refine ⟨?_, ?_, ?_⟩
    · rw [hrun, hr]
    · rw [hyields.heard, hasked]
    · rw [hrun]
      exact halike

/-! ### Programs that answered -/

namespace World

variable {α β : Type} {rules : Rules} {w w' : World}

/-- What answered has answered at each step. -/
theorem exists_of_perform_bind {p : Program α} {f : α → Program β} {b : β}
    (h : w.perform rules (p >>= f) = (.ok b, w')) :
    ∃ a w₁, w.perform rules p = (.ok a, w₁) ∧ w₁.perform rules (f a) = (.ok b, w') := by
  rw [perform_bind] at h
  split at h
  · rename_i a w₁ hp
    exact ⟨a, w₁, hp, h⟩
  · cases h

/-- A write to the store that answered is one that was made. -/
theorem perform_of_persist {p : Program α} {a : α} (h : w.perform rules (persist p) = (.ok a, w')) :
    w.perform rules p = (.ok a, w') := by
  rw [persist, perform_andThen] at h
  split at h
  · cases h
  · rename_i r _
    obtain ⟨hr, hw⟩ := Prod.mk.inj h
    exact Prod.ext hr hw

/-- A processor that answered has not asked for action. -/
theorem perform_of_orRequiresAction {p : Program α} {a : α}
    (h : w.perform rules (orRequiresAction p) = (.ok a, w')) :
    w.perform rules p = (.ok a, w') := by
  rw [orRequiresAction, perform_andThen] at h
  split at h
  · split at h <;> cases h
  · obtain ⟨hr, hw⟩ := Prod.mk.inj h
    exact Prod.ext hr hw

end World

/-! ### Subscriptions that are made -/

/-- What a subscription that a processor makes is like. -/
theorem Emulator.exists_of_createSubscription {e : Emulator} {m : Mint}
    {customerId templateId id : String} {level last : Int}
    (hfree : e.createdByKey.get? (customerId, last) = none)
    (h : (e.createSubscription m customerId templateId level last).answer = .ok id) :
    ∃ sub, sub.id = id ∧ sub.level = level ∧ e.templates.get? templateId = some sub.currency ∧
      (e.createSubscription m customerId templateId level last).state.1 =
        e.withSubscription sub last := by
  obtain ⟨f, hfail⟩ | ⟨id', events, hkey, -⟩ | ⟨currency, events, -, -, hpriced, hnew⟩ :=
    e.createSubscription_cases m customerId templateId level last
  · rw [hfail] at h
    cases h
  · cases hfree.symm.trans hkey
  · rw [hnew] at h ⊢
    obtain rfl := Except.ok.inj h
    exact ⟨_, rfl, rfl, hpriced, rfl⟩

namespace Manager

variable {rules : Rules} {w w' : World} {c : Credentials} {record : Subscriber} {p : Provider}
  {choice : LevelChoice} {customer : Customer} {last : Int}

/-- A subscription that is made goes by the choice, is in the currency of the template, and is named
by the subscriber's record. -/
structure Makes (c : Credentials) (p : Provider) (choice : LevelChoice) (w w' : World)
    (e : Emulator) (sub : Subscription) (record : Subscriber) : Prop where
  registered : w.registry.find? p = some e
  level : sub.level = choice.level
  priced : e.templates.get? choice.templateId = some sub.currency
  filed : w'.registry.subscription? p sub.id = some sub
  stored : w'.store.find? c.user = some record
  named : record.subscriptionId = some sub.id

/-- Noting a subscription in the store leaves the processors as they are. -/
theorem exists_of_noted {id : String} {now : Moment} {level : Int}
    (h : w.perform rules (persist (.ask (.subscriptionCreated c.user id now level))) =
      (.ok (), w')) :
    w'.registry = w.registry ∧
      ∃ record, w'.store.find? c.user = some record ∧ record.subscriptionId = some id := by
  have hnoted := World.perform_of_persist h
  change w.withStore (w.store.subscriptionCreated c.user id now level) = _ at hnoted
  obtain ⟨hanswer, rfl⟩ := Prod.mk.inj hnoted
  refine ⟨World.registry_writeAll _ _, ?_⟩
  rw [World.store_writeAll]
  show ∃ record,
    (w.store.subscriptionCreated c.user id now level).state.find? c.user = some record ∧
      record.subscriptionId = some id
  unfold Store.subscriptionCreated at hanswer ⊢
  rw [Store.get?_update, if_pos rfl]
  cases hrecord : w.store.find? c.user with
  | none =>
    rw [Store.update_eq_fail hrecord] at hanswer
    cases hanswer
  | some before => exact ⟨_, rfl, rfl⟩

/-- Making a subscription under a key that is free makes one as it was chosen. -/
theorem exists_of_opening (hfree : w.registry.created? customer.provider customer.id last = none)
    (h : w.perform rules (opening c customer choice last) = (.ok (), w')) :
    ∃ e sub record, Makes c customer.provider choice w w' e sub record := by
  obtain ⟨id, w₁, hclassified, hnoted⟩ := World.exists_of_perform_bind h
  have hmade := World.perform_of_orRequiresAction hclassified
  obtain ⟨hregistry, record, hstored, hnamed⟩ := exists_of_noted hnoted
  rw [World.perform_ask, World.createSubscription_eq] at hmade
  cases he : w.registry.find? customer.provider with
  | none =>
    rw [World.withMint_of_none he] at hmade
    cases hmade
  | some e =>
    rw [World.withMint_of_some he] at hmade
    rw [Registry.created?_of_find? he] at hfree
    obtain ⟨hanswer, rfl⟩ := Prod.mk.inj hmade
    obtain ⟨sub, rfl, hlevel, hpriced, hstate⟩ :=
      Emulator.exists_of_createSubscription hfree hanswer
    refine ⟨e, sub, record, he, hlevel, hpriced, ?_, hstored, hnamed⟩
    rw [hregistry, World.registry_writeAll, hstate, Registry.subscription?_set, if_pos rfl]
    exact (Assoc.get?_insert _ _ _ _).trans (if_pos rfl)

/-- A subscriber without a subscription gets one as it was chosen, if none was made before under the
key. -/
theorem exists_of_updateLevel (hnone : record.subscriptionId = none)
    (hcustomer : record.customer = some customer) (hlast : record.lastCreated = .ok last)
    (hfree : w.registry.created? p customer.id last = none)
    (h : w.perform rules (updateLevel c record p choice) = (.ok (), w')) :
    ∃ e sub record', Makes c p choice w w' e sub record' := by
  rw [updateLevel, hnone, operation, World.perform_within] at h
  generalize (Assoc.ofList _ : Log.Fields Log.Field) = fields at h
  obtain ⟨hok, rfl⟩ := Prod.mk.inj h
  obtain ⟨f, hfail⟩ | ⟨customer', hcustomer', rfl, hsubscribe⟩ := subscribe_cases c p choice record
  · rw [hfail] at hok
    cases hok
  obtain rfl := Option.some.inj (hcustomer.symm.trans hcustomer')
  rw [hsubscribe, hlast] at hok ⊢
  obtain ⟨e, sub, record', he, hlevel, hpriced, hfiled, hstored, hnamed⟩ :=
    exists_of_opening (w := { w with context := w.context.bind fields }) hfree (Prod.ext hok rfl)
  exact ⟨e, sub, record', he, hlevel, hpriced, hfiled, hstored, hnamed⟩

end Manager

/-! ### Prices on offer -/

/-- Subscribing at a price makes a subscription with which asking for the same again is in vain
exactly if the processor gives the template that currency. -/
theorem Course.exists_moot_iff {s : Course} {settings : Settings} (hs : s.Named)
    (hlowered : settings.Lowered) (hpriced : s.Priced settings) {rules : Rules} {c : Credentials}
    {record : Subscriber} {p : Provider} {choice : LevelChoice} {customer : Customer} {last : Int}
    (hnew : 0 ≤ choice.level) (hnone : record.subscriptionId = none)
    (hcustomer : record.customer = some customer) (hlast : record.lastCreated = .ok last)
    (hfree : s.world.registry.created? p customer.id last = none)
    (hok : (s.serve rules (.updateLevel c record p choice)).1 = .ok ()) :
    let o := s.serve rules (.updateLevel c record p choice)
    ∃ record', o.2.world.store.find? c.user = some record' ∧ record'.subscriptionId.isSome ∧
      ∀ rules' c' choice', choice'.level = choice.level →
        lowerString choice'.currency = lowerString choice.currency →
        (o.2.Moot rules' c' record' p choice' ↔
          (Emulator.templatesOf settings.levels).get? choice.templateId =
            some (lowerString choice.currency)) := by
  intro o
  have hperform : s.world.perform rules (updateLevel c record p choice) = (.ok (), o.2.world) :=
    (serve_eq_perform s rules (.updateLevel c record p choice)).symm.trans (Prod.ext hok rfl)
  obtain ⟨e, sub, record', he, hlevel, htemplate, hfiled, hstored, hnamed⟩ :=
    exists_of_updateLevel hnone hcustomer hlast hfree hperform
  have hs' : o.2.Named := Course.forall_through (P := Course.Named)
    (fun ha h => Course.Named.alike h ha) (fun rules c s h => Course.named_after h rules c) hs
    [.serve rules (.updateLevel c record p choice)]
  -- the subscription is in the currency of its template, which is written in lower case
  rw [(hpriced he).templates] at htemplate
  refine ⟨record', hstored, by simp [hnamed], fun rules' c' choice' hsame hwritten => ?_⟩
  rw [Course.moot_iff hs' hnamed hfiled (by omega) (by omega), AsWanted, hlevel, hsame, hwritten,
    Emulator.lowered_of_templatesOf hlowered htemplate, htemplate]
  simp

/-- For every price on offer the catalog answers with its template, and every processor knows the
template.  The processor gives it the currency of the price exactly if the last price that names it
is in that currency, as it is if all of them are; and exactly then, whatever happened before,
whoever subscribes at that price asks for the same again in vain. -/
theorem System.moot_again_iff {path : String} {source : Source} {settings : Settings}
    (hread : Settings.read path source = .ok settings) {n : Int} {code : String} {price : Price}
    (hoffer : settings.Offers n code price) :
    (∀ written, lowerString written = lowerString code →
      (⟨settings⟩ : Catalog).template n written = .ok price.templateId) ∧
    (∀ provider,
      ((Emulator.ofSettings provider settings).templates.get? price.templateId).isSome ∧
      ((Emulator.ofSettings provider settings).templates.get? price.templateId = some code ↔
        settings.PricedLast price.templateId code)) ∧
    ((∀ code', (price.templateId, code') ∈ settings.priced → code' = code) →
      settings.PricedLast price.templateId code) ∧
    ∀ providers clock signer w, World.build settings providers clock signer = .ok w →
      ∀ (moves : List (Move (Rules × Luck))) rules c record p (choice : LevelChoice) customer last,
        let s := ((start w).play .inMemory moves).course
        let o := s.serve rules (.updateLevel c record p choice)
        choice.level = n → lowerString choice.currency = lowerString code →
        choice.templateId = price.templateId → record.subscriptionId = none →
        record.customer = some customer → record.lastCreated = .ok last →
        s.world.registry.created? p customer.id last = none → o.1 = .ok () →
        ∃ record', o.2.world.store.find? c.user = some record' ∧ record'.subscriptionId.isSome ∧
          ∀ rules' c' (choice' : LevelChoice), choice'.level = n →
            lowerString choice'.currency = lowerString code →
            (o.2.Moot rules' c' record' p choice' ↔ settings.PricedLast price.templateId code) := by
  have hlowered := Settings.lowered_of_read hread
  have hcode := hoffer.lowered hlowered
  rw [hcode]
  refine ⟨fun written => Catalog.template_of_price hoffer, fun provider => ?_, hoffer.pricedLast,
    ?_⟩
  · exact ⟨Emulator.isSome_templates_ofSettings provider hoffer.mem_priced,
      Emulator.templates_ofSettings_iff provider⟩
  · intro providers clock signer w hw moves rules c record p choice customer last s o hlevel
      hwritten htemplate hnone hcustomer hlast hfree hok
    have hnew : 0 ≤ choice.level := by
      obtain ⟨level, hget, -⟩ := hoffer
      rw [hlevel]
      exact settings.levels_nonneg n ((Assoc.mem_keys_iff _ _).2 (by rw [hget]; rfl))
    obtain ⟨record', hstored, hsome, hmoot⟩ := Course.exists_moot_iff (named_play hw moves) hlowered
      (priced_play hlowered hw moves) hnew hnone hcustomer hlast hfree hok
    refine ⟨record', hstored, hsome, fun rules' c' choice' hsame hwritten' => ?_⟩
    rw [hmoot rules' c' choice' (hsame.trans hlevel.symm) (hwritten'.trans hwritten.symm),
      htemplate, hwritten]
    exact Emulator.templates_ofSettings_iff .stripe

namespace Sample

/-- The fields of a price. -/
def priceFields (amount : Int) (templateId : String) : Value :=
  .map [(.text "amount", .int amount), (.text "template_id", .text templateId)]

/-- A document with one level, whose prices in dollars and in euros name one template. -/
def sharedDocument : Value :=
  .map [(.text "levels", .map [(.int 500, .map [(.text "badge", .text "B1"), (.text "currencies",
    .map [(.text "usd", priceFields 500 "t"), (.text "eur", priceFields 450 "t")])])])]

/-- The price in dollars. -/
def dollars : Price := ⟨500, "t", by decide⟩

/-- The price in euros. -/
def euros : Price := ⟨450, "t", by decide⟩

/-- The settings that the document gives. -/
def shared : Settings where
  badgeExpiration := .thirtyDays
  badgeGracePeriod := .fifteenDays
  levels := .ofList [(500, ⟨.donation, "B1", .ofList [("usd", dollars), ("eur", euros)]⟩)]
  emulator := .standard
  levels_nonneg := by decide

theorem read_shared :
    Settings.read Settings.usualPath (.document sharedDocument) = .ok shared :=
  eq_ok_of_toOption (by decide +kernel)

/-- The world that is built from them for one processor. -/
def sharing : World :=
  (World.build shared [.stripe] .epoch World.shipped.signer).toOption.getD .shipped

theorem build_sharing : World.build shared [.stripe] .epoch World.shipped.signer = .ok sharing :=
  rfl

/-- The rules of their catalog. -/
def sharedRules : Rules := (⟨shared⟩ : Catalog).rules

/-- A subscriber becomes known and is given a customer. -/
def attaching : List (Move (Rules × Luck)) :=
  oneByOne (sharedRules, .fine)
    [.updateSubscriber credentials, .addPaymentMethod credentials .stripe .ios]

/-- The level at its price in a currency. -/
def sharedChoice (currency : String) : LevelChoice := ⟨500, currency, "first", "t"⟩

end Sample

open Sample in
/-- Of a template that is priced in dollars and then in euros, asking again in euros is in vain. -/
theorem System.moot_again_iff_of_euros :
    let s := ((start sharing).play .inMemory attaching).course
    let o := s.serve sharedRules (.updateLevel credentials attached .stripe (sharedChoice "eur"))
    Settings.read Settings.usualPath (.document sharedDocument) = .ok shared ∧
      shared.Offers 500 "eur" euros ∧ shared.PricedLast "t" "eur" ∧ o.1 = .ok () ∧
      ∃ record, o.2.world.store.find? credentials.user = some record ∧
        o.2.Moot sharedRules credentials record .stripe (sharedChoice "eur") := by
  intro s o
  have hoffer : shared.Offers 500 "eur" euros := ⟨_, rfl, rfl⟩
  have hlast : shared.PricedLast "t" "eur" := ⟨[("t", "usd")], [], rfl, by simp⟩
  have hfree : s.world.registry.created? .stripe "emulator_cus_0000000000000001_0" 0 = none := by
    decide +kernel
  have hok : o.1 = .ok () := eq_ok_of_isOk (by decide +kernel)
  refine ⟨read_shared, hoffer, hlast, hok, ?_⟩
  dsimp only [s, o] at hfree hok ⊢
  obtain ⟨-, -, -, hagain⟩ := moot_again_iff read_shared hoffer
  obtain ⟨record, hstored, -, hmoot⟩ := hagain [.stripe] .epoch World.shipped.signer sharing
    build_sharing attaching sharedRules credentials attached .stripe (sharedChoice "eur")
    ⟨"emulator_cus_0000000000000001_0", .stripe⟩ 0 rfl rfl rfl rfl rfl rfl hfree hok
  exact ⟨record, hstored, (hmoot sharedRules credentials (sharedChoice "eur") rfl rfl).2 hlast⟩

open Sample in
/-- In dollars it is not: the processor gives the template the other currency, and so it is asked
whether the level may change to itself. -/
theorem System.not_moot_again_of_dollars :
    let s := ((start sharing).play .inMemory attaching).course
    let o := s.serve sharedRules (.updateLevel credentials attached .stripe (sharedChoice "usd"))
    Settings.read Settings.usualPath (.document sharedDocument) = .ok shared ∧
      shared.Offers 500 "usd" dollars ∧ (⟨shared⟩ : Catalog).template 500 "usd" = .ok "t" ∧
      (∀ provider, (Emulator.ofSettings provider shared).templates.get? "t" = some "eur") ∧
      o.1 = .ok () ∧ ∃ record, o.2.world.store.find? credentials.user = some record ∧
        record.subscriptionLevel = some 500 ∧
        ¬o.2.Moot sharedRules credentials record .stripe (sharedChoice "usd") := by
  intro s o
  have hoffer : shared.Offers 500 "usd" dollars := ⟨_, rfl, rfl⟩
  have hok : o.1 = .ok () := eq_ok_of_isOk (by decide +kernel)
  have hstored : o.2.world.store.find? credentials.user = some subscribed := by decide +kernel
  have hasked : consulted ((updateLevel credentials subscribed .stripe (sharedChoice "usd")).heard
      .inMemory (sharedRules, .fine) o.2) = [(500, 500)] := by decide +kernel
  refine ⟨read_shared, hoffer, rfl, fun provider => rfl, hok, subscribed, hstored, rfl, ?_⟩
  intro hmoot
  cases hasked.symm.trans hmoot.unasked

end Patronage
