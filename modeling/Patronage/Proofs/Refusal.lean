import Patronage.Proofs.Classified
import Patronage.Proofs.Idempotence
/-!
# Operations that fail

An operation of a processor looks at everything that may fail before it writes anything, and so a
failure leaves the processor as it was.  Asking for a payment is the exception: a billing cycle that
comes up for the first time gets its payment item, and only then the payment is made out, which
fails for a subscription with a negative level and for a cycle that starts at no date.  Main
statements:

* `Emulator.state_of_failed` — an operation that fails changes nothing if no payment is due;
* `Emulator.unchanged_iff_of_failed` — an operation that fails leaves everything as it was exactly
  if no payment was due, and otherwise leaves it billed.
-/

namespace Patronage

namespace Emulator

variable {e : Emulator} {m : Mint} {o : Operation} {sub : Subscription} {cycle : Nat} {f : Fault}
  {ids : List String}

/-! ### Payments that are not made out -/

/-- A payment is asked for of a running subscription, in a billing cycle that was not billed yet. -/
structure Due (e : Emulator) (m : Mint) (o : Operation) (sub : Subscription) (cycle : Nat) :
    Prop where
  order : ∃ id, o = .receiptItem id ∧ e.activeSubscription id = .ok sub
  counted : e.billingPeriod.period.cyclesElapsed sub.createdAt m.now = .ok cycle
  unbilled : sub.items.get? cycle = none

/-- The processor once a cycle is billed. -/
theorem billCycle_of_unbilled (h : sub.items.get? cycle = none) :
    (e.billCycle m sub cycle).2.1 = e.billed sub cycle (m.identifier e.idLead .item) := by
  simp only [billCycle, h]
  rfl

/-- A payment that is due is billed, whether or not it can be made out. -/
theorem Due.state (h : e.Due m o sub cycle) :
    (o.perform e m).state.1 = e.billed sub cycle (m.identifier e.idLead .item) := by
  obtain ⟨id, rfl, hactive⟩ := h.order
  show (e.receiptItem m id).state.1 = _
  simp only [receiptItem, hactive, h.counted]
  exact billCycle_of_unbilled h.unbilled

/-- Billing a cycle for the first time changes the processor. -/
theorem Due.billed_ne (h : e.Due m o sub cycle) (hn : e.Named ids) (item : String) :
    e.billed sub cycle item ≠ e := by
  intro heq
  obtain ⟨id, -, hactive⟩ := h.order
  have hsub := (activeSubscription_eq_ok.1 hactive).1
  have hitems : (e.billed sub cycle item).subscriptions.get? id =
      some { sub with items := sub.items.insert cycle item } :=
    (Assoc.get?_insert _ _ _ _).trans (if_pos (hn.subscription hsub).1)
  rw [heq, hsub] at hitems
  -- the subscription would have the item already
  have hitem := congrArg (·.items.get? cycle) (Option.some.inj hitems)
  simp only [h.unbilled, Assoc.get?_insert, ↓reduceIte] at hitem
  cases hitem

/-- A payment that is due is not made out for a negative level or a cycle that starts at no date. -/
theorem Due.reason (h : e.Due m o sub cycle) (hf : (o.perform e m).answer = .error f) :
    sub.level < 0 ∨ ∃ t, cycleStart sub e.billingPeriod.period cycle = .error t := by
  obtain ⟨id, rfl, hactive⟩ := h.order
  change (e.receiptItem m id).answer = _ at hf
  rw [receiptItem_answer hactive h.counted] at hf
  cases hstart : cycleStart sub e.billingPeriod.period cycle with
  | error t => exact .inr ⟨t, rfl⟩
  | ok paidAt =>
    refine .inl (Int.not_le.1 fun hlevel => ?_)
    cases hf.symm.trans (report_eq_ok_iff.2 ⟨hlevel, paidAt, hstart, rfl⟩)

/-- Asking for a payment when none is due changes nothing. -/
theorem receiptItem_state_of_not_due {id : String}
    (h : ∀ sub cycle, ¬e.Due m (.receiptItem id) sub cycle) :
    (e.receiptItem m id).state = (e, m.tokens) := by
  unfold receiptItem
  split
  · rfl
  · rename_i sub hactive
    split
    · rfl
    · rename_i cycle hcycle
      cases hitem : sub.items.get? cycle with
      | some item => simp only [billCycle, hitem]
      | none => exact absurd ⟨⟨id, rfl, hactive⟩, hcycle, hitem⟩ (h sub cycle)

/-! ### Whatever fails -/

/-- An operation that fails changes nothing if no payment is due. -/
theorem state_of_failed (h : (o.perform e m).answer = .error f)
    (hdue : ∀ sub cycle, ¬e.Due m o sub cycle) : (o.perform e m).state = (e, m.tokens) := by
  cases o with
  | createCustomer user platform => cases h
  | createSubscription customerId templateId level last =>
    change (e.createSubscription m customerId templateId level last).answer = _ at h
    show (e.createSubscription m customerId templateId level last).state = _
    obtain ⟨f', hfail⟩ | ⟨id, events, -, hreplay⟩ | ⟨currency, events, -, -, -, hnew⟩ :=
      e.createSubscription_cases m customerId templateId level last
    · rw [hfail]
      rfl
    · rw [hreplay]
      rfl
    · rw [hnew] at h
      cases h
  | updateSubscription read templateId level key =>
    exact congrArg (·, m.tokens) (state_of_refused h)
  | receiptItem id => exact receiptItem_state_of_not_due hdue
  | cancelAll customerId =>
    refine congrArg (·, m.tokens) ?_
    change (e.cancelAll m.now customerId).answer = _ at h
    unfold cancelAll at h ⊢
    split
    · rfl
    · rename_i hc
      rw [hc] at h
      cases h
  | requireAction customerId required =>
    refine congrArg (·, m.tokens) ?_
    change (e.requireAction customerId required).answer = _ at h
    unfold requireAction at h ⊢
    split
    · rfl
    · rename_i hc
      rw [hc] at h
      cases h

/-- Whatever a processor was asked before, an operation that fails leaves everything as it was
exactly if no payment was due.  If one was, its cycle is billed and nothing else changes; and what
failed was to make it out, because the level is negative or the cycle starts at no date. -/
theorem unchanged_iff_of_failed (provider : Provider) (settings : Settings) (tokens : TokenSource)
    (os : List Order) (m : Mint) (o : Operation) (f : Fault)
    (h : (o.perform (run (ofSettings provider settings, tokens) os).1 m).answer = .error f) :
    let e := (run (ofSettings provider settings, tokens) os).1
    ((o.perform e m).state.1 = e ↔ ∀ sub cycle, ¬e.Due m o sub cycle) ∧
    ∀ sub cycle, e.Due m o sub cycle →
      (o.perform e m).state.1 = e.billed sub cycle (m.identifier e.idLead .item) ∧
      (sub.level < 0 ∨ ∃ t, cycleStart sub e.billingPeriod.period cycle = .error t) := by
  intro e
  have hnamed : e.Named ([] ++ drawn (ofSettings provider settings, tokens) os) :=
    Named.run (s := (ofSettings provider settings, tokens))
      (tabled_ofSettings provider settings).1 os
  refine ⟨⟨fun hsame sub cycle hdue => ?_, fun hnone => ?_⟩, fun sub cycle hdue => ?_⟩
  · exact hdue.billed_ne hnamed _ (hdue.state.symm.trans hsame)
  · rw [state_of_failed h hnone]
  · exact ⟨hdue.state, hdue.reason h⟩

namespace Sample

/-- A customer subscribes at a negative level. -/
def belowOrders : List Order :=
  [⟨.createCustomer [0xaa] .ios, .epoch⟩,
    ⟨.createSubscription customerId "price_donation_500_usd" (-1) 0, .epoch⟩]

/-- The processor at which a customer has subscribed at a negative level. -/
def below : Emulator × TokenSource := run start belowOrders

/-- The first payment for that subscription is asked for. -/
def belowPayment : Outcome (Emulator × TokenSource) ReceiptItem :=
  Operation.perform below.1 ⟨.epoch, below.2⟩ (.receiptItem held.id)

theorem belowPayment_fails : ∃ f, belowPayment.answer = .error f := by
  have hnone : belowPayment.answer.toOption = none := by decide +kernel
  cases hanswer : belowPayment.answer with
  | error f => exact ⟨f, rfl⟩
  | ok r => rw [hanswer] at hnone; cases hnone

end Sample

/-- The first payment for a subscription at a negative level is due: it is billed and fails. -/
theorem unchanged_iff_of_failed_below :
    ∃ f sub cycle, Sample.belowPayment.answer = .error f ∧
      Sample.below.1.Due ⟨.epoch, Sample.below.2⟩ (.receiptItem Sample.held.id) sub cycle ∧
      Sample.belowPayment.state.1 =
        Sample.below.1.billed sub cycle "emulator_item_0000000000000003_0" := by
  obtain ⟨f, hfail⟩ := Sample.belowPayment_fails
  have hchanged : Sample.belowPayment.state.1 ≠ Sample.below.1 := by decide +kernel
  obtain ⟨hiff, hdue⟩ :=
    unchanged_iff_of_failed .stripe .shipped .counting Sample.belowOrders ⟨.epoch, Sample.below.2⟩
      (.receiptItem Sample.held.id) f hfail
  have hsome := mt hiff.2 hchanged
  simp only [Classical.not_forall, Classical.not_not] at hsome
  obtain ⟨sub, cycle, h⟩ := hsome
  exact ⟨f, sub, cycle, hfail, h, (hdue sub cycle h).1⟩

/-- An operation that fails may change a subscription: asking for the payment of one at a negative
level does. -/
theorem not_unchanged_of_below :
    (∃ f, Sample.belowPayment.answer = .error f) ∧
      Sample.belowPayment.state.1.subscriptions ≠ Sample.below.1.subscriptions :=
  ⟨Sample.belowPayment_fails, by decide +kernel⟩

end Emulator

end Patronage
