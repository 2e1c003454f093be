import Patronage.Proofs.Naming
import Patronage.Proofs.Redemption
/-!
# Credentials for one payment

The ledger pins the request that a payment is redeemed with.  The rest of what a credential says is
computed again on every retry, from what the processor and the catalog say then: the expiration
comes out the same, but the level is the subscription's level of the moment.  Main statements:

* `Emulator.Shift.grows` — what calls leave of a subscription and its payments;
* `Emulator.Shift.billedOnce` — one payment item stands for one billing cycle;
* `System.payload_eq_iff_of_same_payment` — two credentials for one payment say the same exactly if
  the level was the same.
-/

namespace Patronage

open Manager Calendar

namespace Bytes

/-- Octets tell numbers apart that fit them. -/
theorem ofNatBE_inj {k m n : Nat} (hm : m < .pow 256 k) (hn : n < .pow 256 k)
    (h : ofNatBE k m = ofNatBE k n) : m = n := by
  have hmod := congrArg toNatBE h
  rwa [toNatBE_ofNatBE, toNatBE_ofNatBE, Nat.mod_eq_of_lt hm, Nat.mod_eq_of_lt hn] at hmod

end Bytes

namespace Credential

/-- Whether a number fits eight octets. -/
def Fits (n : Int) : Prop := 0 ≤ n ∧ n < wordBound

theorem Fits.toNat_inj {m n : Int} (hm : Fits m) (hn : Fits n)
    (h : Bytes.ofNatBE 8 m.toNat = Bytes.ofNatBE 8 n.toNat) : m = n := by
  have bound : ∀ {i : Int}, Fits i → i.toNat < .pow 256 8 := by
    intro i hi
    obtain ⟨h0, h1⟩ := hi
    simp only [wordBound] at h1
    show i.toNat < 0x10000000000000000
    omega
  have hnat := Bytes.ofNatBE_inj (bound hm) (bound hn) h
  have hm0 := hm.1
  have hn0 := hn.1
  omega

/-- With one expiration, a payload tells requests and levels apart. -/
theorem payloadOf_inj {a b : Bytes} {expiration k l : Int} (hlen : a.length = b.length)
    (hk : Fits k) (hl : Fits l) (h : payloadOf a expiration k = payloadOf b expiration l) :
    a = b ∧ k = l := by
  obtain ⟨hleft, hlevel⟩ := List.append_inj h (by simp [hlen])
  exact ⟨(List.append_inj hleft hlen).1, hk.toNat_inj hl hlevel⟩

/-- What a credential says of a request, an expiration and a level. -/
structure Says (q : CredentialRequest) (expiration level : Int) (c : Credential) : Prop where
  wellFormed : q.isWellFormed
  payload : c.payload = payloadOf (0 :: q.nonce) expiration level
  fits : Fits level

theorem says_of_issue {signer : Signer} {q : CredentialRequest} {expiration level : Int}
    {c : Credential} (h : issue signer q expiration level = .ok c) :
    Says q expiration level c := by
  have hpayload := payload_eq h
  unfold issue statement at h
  cases hw : q.isWellFormed with
  | false => rw [hw] at h; cases h
  | true =>
    rw [hw, CredentialRequest.serialize?_of_isWellFormed hw] at h
    simp only at h
    split at h
    · cases h
    · split at h
      · cases h
      · rename_i hfits
        cases h
        exact ⟨hw, hpayload, Classical.not_not.1 hfits⟩

theorem Says.payload_of_decode {q : CredentialRequest} {expiration level : Int} {c : Credential}
    (h : Says q expiration level c) {bytes : Bytes} (hq : CredentialRequest.decode bytes = .ok q) :
    c.payload = payloadOf bytes expiration level := by
  have hbytes := CredentialRequest.serialize?_of_decode hq
  rw [CredentialRequest.serialize?_of_isWellFormed h.wellFormed] at hbytes
  rw [h.payload, Option.some.inj hbytes]

end Credential

/-! ### Payments at a processor -/

namespace Emulator

theorem report_eq_ok {s : Subscription} {period : Period} {cycle : Nat} {x : String}
    {item : ReceiptItem} (h : report s period cycle x = .ok item) :
    cycleStart s period cycle = .ok item.paidAt ∧ item.id = x ∧ item.level = s.level := by
  unfold report at h
  cases hc : cycleStart s period cycle with
  | error t => rw [hc] at h; cases h
  | ok paidAt =>
    rw [hc] at h
    have hof : ReceiptItem.of x paidAt s.level = .ok item := mapError_eq_ok h
    unfold ReceiptItem.of at hof
    split at hof
    · cases hof; exact ⟨rfl, rfl, rfl⟩
    · cases hof

/-- What a payment that is reported comes from. -/
theorem receiptItem_eq_ok {e : Emulator} {m : Mint} {id : String} {item : ReceiptItem}
    (h : (e.receiptItem m id).answer = .ok item) :
    ∃ s cycle, e.activeSubscription id = .ok s ∧
      e.billingPeriod.period.cyclesElapsed s.createdAt m.now = .ok cycle ∧
      report s e.billingPeriod.period cycle (e.billCycle m s cycle).1 = .ok item ∧
      (e.receiptItem m id).state = (e.billCycle m s cycle).2 := by
  unfold receiptItem at h ⊢
  split at h
  · cases h
  rename_i s hs
  split at h
  · cases h
  rename_i cycle hcycle
  exact ⟨s, cycle, hs, hcycle, h, rfl⟩

/-- A processor with a payment item that stands for a billing cycle of a subscription. -/
structure Bills (e : Emulator) (id : String) (s : Subscription) (cycle : Nat) (item : String) :
    Prop where
  subscription : e.subscriptions.get? id = some s
  item : s.items.get? cycle = some item

theorem bills_billCycle {ids : List String} {e : Emulator} (hn : e.Named ids) (m : Mint)
    {id : String} {s : Subscription} (hs : e.subscriptions.get? id = some s) (cycle : Nat) :
    ∃ s', (e.billCycle m s cycle).2.1.Bills id s' cycle (e.billCycle m s cycle).1 ∧
      s'.createdAt = s.createdAt ∧ s'.level = s.level ∧
      (e.billCycle m s cycle).2.1.billingPeriod = e.billingPeriod := by
  unfold billCycle
  split
  · rename_i item hitem
    exact ⟨s, ⟨hs, hitem⟩, rfl, rfl, rfl⟩
  · obtain ⟨rfl, -⟩ := hn.subscription hs
    exact ⟨{ s with items := s.items.insert cycle (m.identifier e.idLead .item) },
      ⟨by simp, by simp⟩, rfl, rfl, rfl⟩

theorem cycleStart_congr {s s' : Subscription} (h : s'.createdAt = s.createdAt) (period : Period)
    (cycle : Nat) : cycleStart s' period cycle = cycleStart s period cycle := by
  unfold cycleStart
  rw [h]

/-- A reported payment has a billing cycle that it stands for. -/
theorem bills_of_receiptItem {ids : List String} {e : Emulator} (hn : e.Named ids) {m : Mint}
    {id : String} {item : ReceiptItem} (h : (e.receiptItem m id).answer = .ok item) :
    ∃ s cycle, (e.receiptItem m id).state.1.Bills id s cycle item.id ∧
      cycleStart s (e.receiptItem m id).state.1.billingPeriod.period cycle = .ok item.paidAt ∧
      s.level = item.level := by
  obtain ⟨s, cycle, hs, -, hreport, hstate⟩ := receiptItem_eq_ok h
  obtain ⟨hstart, hid, hlevel⟩ := report_eq_ok hreport
  obtain ⟨s', hbills, hcreated, hlevel', hperiod⟩ :=
    bills_billCycle hn m (activeSubscription_eq_ok.1 hs).1 cycle
  rw [hstate]
  refine ⟨s', cycle, hid ▸ hbills, ?_, hlevel'.trans hlevel.symm⟩
  rw [hperiod, cycleStart_congr hcreated, hstart]

end Emulator

/-- What stays of a subscription while it is not asked to move. -/
structure Subscription.Grows (asked : Prop) (s s' : Subscription) : Prop where
  createdAt : s'.createdAt = s.createdAt
  item : ∀ {cycle x}, s.items.get? cycle = some x → s'.items.get? cycle = some x
  level : s'.level = s.level ∨ asked

namespace Emulator

/-- What stays of a processor while only some subscriptions are asked to move. -/
structure Grows (asked : String → Prop) (e e' : Emulator) : Prop where
  billingPeriod : e'.billingPeriod = e.billingPeriod
  subscription : ∀ {id s}, e.subscriptions.get? id = some s →
    ∃ s', e'.subscriptions.get? id = some s' ∧ s.Grows (asked id) s'

theorem Grows.refl (asked : String → Prop) (e : Emulator) : e.Grows asked e :=
  ⟨rfl, fun hs => ⟨_, hs, rfl, id, .inl rfl⟩⟩

theorem Grows.trans {asked asked' : String → Prop} {e e' e'' : Emulator} (h : e.Grows asked e')
    (h' : e'.Grows asked' e'') (ha : ∀ id, asked id → asked' id) : e.Grows asked' e'' := by
  refine ⟨h'.billingPeriod.trans h.billingPeriod, fun {id s} hs => ?_⟩
  obtain ⟨s', hs', hg⟩ := h.subscription hs
  obtain ⟨s'', hs'', hg'⟩ := h'.subscription hs'
  refine ⟨s'', hs'', hg'.createdAt.trans hg.createdAt, fun hx => hg'.item (hg.item hx), ?_⟩
  obtain hl | hl := hg.level
  · exact hl ▸ hg'.level
  · exact .inr (ha id hl)

/-- Every payment item stands for one billing cycle of one subscription. -/
def BilledOnce (e : Emulator) : Prop :=
  ∀ ⦃id id' s s' cycle cycle' x⦄, e.Bills id s cycle x → e.Bills id' s' cycle' x →
    id = id' ∧ cycle = cycle'

namespace Shift

variable {m : Mint} {p : Provider} {e : Emulator} {c : Call} {s : Emulator × TokenSource}
  {d : Option String} {ids : List String}

/-- What calls leave of a subscription and its payments. -/
theorem grows (h : e.Shift m p c s d) (hn : e.Named ids) (hids : (ids ++ d.toList).Nodup) :
    e.Grows (fun id => ∃ read t l k, c = .updateSubscription p read t l k ∧ read.id = id) s.1 := by
  refine ⟨by cases h <;> rfl, fun {id sub} hsub => ?_⟩
  have hmem := (hn.subscription hsub).2
  have hd : d ≠ some id := by
    rintro rfl
    exact (List.nodup_append.1 hids).2.2 id hmem id (by simp) rfl
  obtain ⟨sub', hsub', hs⟩ := h.before hn hd hsub
  refine ⟨sub', hsub', ?_⟩
  cases hs with
  | same | closed => exact ⟨rfl, fun hx => hx, .inl rfl⟩
  | moved read t l k currency call hid =>
    exact ⟨rfl, fun hx => hx, .inr ⟨read, t, l, k, call, hid.trans (hn.subscription hsub).1⟩⟩
  | billed cycle item _ _ _ unbilled =>
    refine ⟨rfl, fun {cycle' x} hx => ?_, .inl rfl⟩
    have hne : cycle ≠ cycle' := by rintro rfl; rw [unbilled] at hx; cases hx
    simpa [hne] using hx

/-- Where a payment item comes from. -/
theorem bills (h : e.Shift m p c s d) (hn : e.Named ids) {id : String} {sub' : Subscription}
    {cycle : Nat} {x : String} (hb : s.1.Bills id sub' cycle x) :
    (∃ sub, e.Bills id sub cycle x) ∨
      c = .receiptItem p id ∧ d = some x ∧ ∃ sub, e.subscriptions.get? id = some sub ∧
        sub' = { sub with items := sub.items.insert cycle x } := by
  obtain ⟨sub, hsub, hs⟩ | ⟨_, _, _, _, _, _, _, rfl⟩ := h.after hn hb.subscription
  · cases hs with
    | same => exact .inl ⟨sub', hsub, hb.item⟩
    | moved | closed => exact .inl ⟨sub, hsub, hb.item⟩
    | billed cycle' item call drawn =>
      have hitem := hb.item
      by_cases he : cycle' = cycle
      · subst he
        obtain rfl : item = x := by simpa using hitem
        exact .inr ⟨(hn.subscription hsub).1 ▸ call, drawn, sub, hsub, rfl⟩
      · exact .inl ⟨sub, hsub, by simpa [he] using hitem⟩
  · exact absurd hb.item (by simp)

/-- One payment item stands for one billing cycle. -/
theorem billedOnce (h : e.Shift m p c s d) (hn : e.Named ids) (hids : (ids ++ d.toList).Nodup)
    (hb : e.BilledOnce) : s.1.BilledOnce := by
  -- an item that is new was not there before
  have fresh : ∀ {id sub cycle x}, d = some x → ¬e.Bills id sub cycle x := by
    rintro id sub cycle x rfl hx
    exact (List.nodup_append.1 hids).2.2 x (hn.item hx.subscription hx.item) x (by simp) rfl
  intro id id' s₁ s₂ cycle cycle' x h₁ h₂
  obtain ⟨sub₁, h₁⟩ | ⟨hc₁, hd, sub₁, hs₁, rfl⟩ := h.bills hn h₁
  · obtain ⟨sub₂, h₂⟩ | ⟨-, hd, -⟩ := h.bills hn h₂
    · exact hb h₁ h₂
    · exact absurd h₁ (fresh hd)
  · obtain ⟨sub₂, h₂⟩ | ⟨hc₂, -⟩ := h.bills hn h₂
    · exact absurd h₂ (fresh hd)
    · obtain rfl : id = id' := by
        rw [hc₁] at hc₂
        injection hc₂
      refine ⟨rfl, Decidable.byContradiction fun hne => ?_⟩
      -- the subscription got this item for one cycle only
      obtain rfl := Option.some.inj (h₁.subscription.symm.trans h₂.subscription)
      exact fresh hd ⟨hs₁, by simpa [hne] using h₂.item⟩

end Shift

end Emulator

/-! ### Payments in a course -/

namespace World

theorem catalog_answer (rules : Rules) (w : World) (c : Call) :
    (w.answer rules c).2.catalog = w.catalog := by
  cases c <;> simp [answer, withStore, withLedger, asking]

theorem ledger_answer (rules : Rules) (w : World) (c : Call) :
    w.ledger.Keeps (w.answer rules c).2.ledger := by
  cases c with
  | record entry => simpa [answer, withLedger] using .record _ entry
  | _ => simpa [answer, withStore, asking] using .refl _

end World

namespace Course

/-- A processor was asked to move a subscription. -/
def Asked (s : Course) (p : Provider) (id : String) : Prop :=
  ∃ w read t l k, (w, Call.updateSubscription p read t l k) ∈ s.past ∧ read.id = id

theorem Asked.mono {s s' : Course} {p : Provider} {id : String} (h : s.Asked p id)
    (hp : s.past <+: s'.past) : s'.Asked p id := by
  obtain ⟨w, read, t, l, k, hmem, hid⟩ := h
  exact ⟨w, read, t, l, k, hp.subset hmem, hid⟩

/-- What stays while requests go on. -/
structure Progress (s s' : Course) : Prop where
  ledger : s.world.ledger.Keeps s'.world.ledger
  catalog : s'.world.catalog = s.world.catalog
  past : s.past <+: s'.past
  registry : s'.drawn.Nodup → ∀ {p e}, s.world.registry.find? p = some e →
    ∃ e', s'.world.registry.find? p = some e' ∧ e.Grows (s'.Asked p) e'

theorem Progress.alike {s s' : Course} (h : s.Alike s') : s.Progress s' where
  ledger := by rw [h.world.ledger]; exact .refl _
  catalog := h.world.catalog
  past := h.past ▸ List.prefix_rfl
  registry _ {p e} he := ⟨e, by rw [h.world.registry]; exact he, .refl _ e⟩

theorem Progress.trans {s s' s'' : Course} (h : s.Progress s') (h' : s'.Progress s'') :
    s.Progress s'' where
  ledger := h.ledger.trans h'.ledger
  catalog := h'.catalog.trans h.catalog
  past := h.past.trans h'.past
  registry hids {p e} he := by
    obtain ⟨e', he', hg⟩ := h.registry (nodup_mono h'.past hids) he
    obtain ⟨e'', he'', hg'⟩ := h'.registry hids he'
    exact ⟨e'', he'', hg.trans hg' fun id hid => hid.mono h'.past⟩

/-- What a processor bills is known by its payment items. -/
structure Billing (s : Course) : Prop where
  named : s.Named
  once : s.drawn.Nodup → ∀ {p e}, s.world.registry.find? p = some e → e.BilledOnce

theorem Billing.after {s : Course} (h : s.Billing) (rules : Rules) (c : Call) :
    s.Progress (s.after rules c) ∧ (s.after rules c).Billing := by
  have hpast : s.past <+: (s.after rules c).past := List.prefix_append _ _
  refine ⟨⟨s.world.ledger_answer rules c, s.world.catalog_answer rules c, hpast, ?_⟩,
    named_after h.named rules c, ?_⟩
  · intro hids p e he
    rw [drawn_after] at hids
    cases s.world.shift_answer rules c with
    | same registry => exact ⟨e, by rwa [Course.after, registry], .refl _ e⟩
    | «at» q e₀ e' t find shift registry =>
      by_cases hq : q = p
      · subst hq
        obtain rfl := Option.some.inj (find.symm.trans he)
        refine ⟨e', by simp [Course.after, registry], (shift.grows (h.named he) hids).trans
          (.refl _ _) ?_⟩
        rintro id ⟨read, t, l, k, rfl, hid⟩
        exact ⟨s.world, read, t, l, k, by simp [Course.after], hid⟩
      · exact ⟨e, by simpa [Course.after, registry, hq] using he, .refl _ e⟩
  · intro hids p e he
    have hnodup : s.drawn.Nodup := nodup_mono hpast hids
    refine forall_after (P := fun _ _ e => e.BilledOnce) (h.once hnodup) rules c id ?_ he
    intro p e e' t find shift hb
    rw [drawn_after] at hids
    exact shift.billedOnce (h.named find) hids hb

end Course

/-- The collaborators in memory, the catalog deciding when credentials expire. -/
def Service.onCatalog : Service (Rules × Luck) := fun i c s =>
  s.ask { i.1 with expiration := s.world.catalog.rules.expiration } i.2 c

/-- Whatever processors bill stays known by its payment items. -/
def Discipline.billing : Discipline (Rules × Luck) where
  service := .onCatalog
  inv := Course.Billing
  rely := Course.Progress
  keep := Course.Progress
  refl s := .alike (.refl s)
  trans := .trans
  alike := .alike
  inv_alike {s s'} ha h := by
    refine ⟨Course.Named.alike h.named ha, fun hids {p e} he => ?_⟩
    rw [ha.world.registry] at he
    exact h.once (ha.drawn ▸ hids) he

namespace Course

/-- A processor stands by a payment: the cycle that it stands for began then, and the level is the
subscription's unless that was asked to move. -/
def Paid (p : Provider) (item : ReceiptItem) (s : Course) : Prop :=
  s.drawn.Nodup → ∃ e id sub cycle,
    s.world.registry.find? p = some e ∧ e.Bills id sub cycle item.id ∧
    Emulator.cycleStart sub e.billingPeriod.period cycle = .ok item.paidAt ∧
    (sub.level = item.level ∨ s.Asked p id)

theorem Paid.mono {p : Provider} {item : ReceiptItem} {s s' : Course} (h : s.Progress s')
    (hp : s.Paid p item) : s'.Paid p item := by
  intro hids
  obtain ⟨e, id, sub, cycle, he, hb, hstart, hlevel⟩ := hp (nodup_mono h.past hids)
  obtain ⟨e', he', hg⟩ := h.registry hids he
  obtain ⟨sub', hsub', hs⟩ := hg.subscription hb.subscription
  refine ⟨e', id, sub', cycle, he', ⟨hsub', hs.item hb.item⟩, ?_, ?_⟩
  · rw [hg.billingPeriod, Emulator.cycleStart_congr hs.createdAt, hstart]
  · obtain hl | hl := hs.level
    · exact hlevel.imp hl.trans fun hid => hid.mono h.past
    · exact .inr hl

theorem paid_of_receiptItem {s : Course} (h : s.Billing) {rules : Rules} {p : Provider}
    {id : String} {item : ReceiptItem}
    (hitem : (s.world.answer rules (.receiptItem p id)).1 = .ok item) :
    (s.after rules (.receiptItem p id)).Paid p item := by
  intro _
  have hw : s.world.answer rules (.receiptItem p id) =
    s.world.withMint p fun e m => e.receiptItem m id := rfl
  cases he : s.world.registry.find? p with
  | none => rw [hw, World.withMint_of_none he] at hitem; cases hitem
  | some e =>
    rw [hw, World.withMint_of_some he] at hitem
    obtain ⟨sub, cycle, hb, hstart, hlevel⟩ := Emulator.bills_of_receiptItem (h.named he) hitem
    refine ⟨_, id, sub, cycle, ?_, hb, hstart, .inl hlevel⟩
    rw [after, hw, World.withMint_of_some he]
    simp

end Course

open Course in
/-- What emulated processors and a catalog tell of a credential. -/
def Redemption.Terms.billing : Redemption.Terms Discipline.billing where
  lenient i c s h := by
    obtain hs | hs := s.ask_eq_or { i.1 with expiration := s.world.catalog.rules.expiration } i.2 c
    · exact hs.symm ▸ ⟨.alike (.refl s), h⟩
    · exact hs.symm ▸ h.after _ c
  reciprocal h := h
  ledger h := h.ledger
  paid := Paid
  paid_stable := .mono
  expires item m s := (s.world.catalog.expiration item).mapError Fault.time = .ok m
  expires_stable h hm := by rw [h.catalog]; exact hm
  signed := Credential.Says
  of_decode i s bytes r h := mapError_eq_ok (ask_eq_ok h).1
  of_receiptItem i s p id item h hitem := by
    obtain ⟨hitem, hs⟩ := ask_eq_ok hitem
    exact hs.symm ▸ paid_of_receiptItem h hitem
  of_record i s entry noted h := by
    obtain ⟨hnoted, hs⟩ := ask_eq_ok h
    have hw := Ledger.find?_of_record (l := s.world.ledger) hnoted
    show Ledger.find? (Course.ask _ _ _ _).2.world.ledger _ _ = _ ∧ _
    rw [hs]
    simpa [after, World.answer, World.withLedger] using hw
  of_expiration i s item m h := by
    obtain ⟨hm, hs⟩ := ask_eq_ok h
    show Except.mapError Fault.time (Catalog.expiration (Course.ask _ _ _ _).2.world.catalog _) = _
    rw [hs]
    exact hm
  of_issue i s r e l c h := Credential.says_of_issue (mapError_eq_ok (ask_eq_ok h).1)

/-! ### Credentials in a system -/

theorem World.Fresh.billing {w : World} (h : w.Fresh) : Course.Billing ⟨w, []⟩ := by
  refine ⟨h.named, fun _ p e he id id' s s' cycle cycle' x hb => ?_⟩
  have hg := hb.subscription
  simp [(h.registry he).2.1] at hg

theorem Catalog.expiration_congr {c : Catalog} {a b : ReceiptItem} (h : a.paidAt = b.paidAt) :
    c.expiration a = c.expiration b := by
  unfold expiration
  rw [h]

namespace System

/-- Two credentials for one payment, issued by emulated processors and a catalog that stays as it
is, say the same exactly if they were asked for with the same bytes and the processor reported the
same level.  The expiration never differs; and the level differs only if a change of it was asked of
the processor. -/
theorem payload_eq_iff_of_same_payment {w : World} (hw : w.Fresh)
    (moves : List (Move (Rules × Luck))) :
    let s := (start w).play .onCatalog moves
    s.course.drawn.Nodup → ∀ j k b₁ b₂ r₁ r₂,
      s.receipt? j = some (b₁, r₁) → s.receipt? k = some (b₂, r₂) →
      r₁.item.id = r₂.item.id → r₁.provider = r₂.provider →
      (b₁ = b₂ ∨ Digest.Collide b₁ b₂) ∧
      (∃ expiration,
        r₁.credential.payload = Credential.payloadOf b₁ expiration r₁.item.level ∧
        r₂.credential.payload = Credential.payloadOf b₂ expiration r₂.item.level) ∧
      (r₁.credential.payload = r₂.credential.payload ↔ b₁ = b₂ ∧ r₁.item.level = r₂.item.level) ∧
      (r₁.item.level ≠ r₂.item.level → ∃ e id sub cycle,
        s.course.world.registry.find? r₁.provider = some e ∧ e.Bills id sub cycle r₁.item.id ∧
        s.course.Asked r₁.provider id) := by
  intro s hids j k b₁ b₂ r₁ r₂ h₁ h₂ hitem hprovider
  have hd : s.Disciplined Discipline.billing Redemption.Terms.billing.post :=
    disciplined_play _ hw.billing moves
  obtain ⟨q₁, e₁, m₁, n₁, h₁⟩ := hd.isBacked h₁
  obtain ⟨q₂, e₂, m₂, n₂, h₂⟩ := hd.isBacked h₂
  obtain ⟨-, hbytes⟩ := h₁.same_entry h₂ hitem hprovider
  -- one payment item stands for one cycle of one subscription, which began at one moment
  obtain ⟨e, id, sub, cycle, he, hb, hstart, hlevel⟩ := h₁.paid hids
  obtain ⟨e', id', sub', cycle', he', hb', hstart', hlevel'⟩ := h₂.paid hids
  obtain rfl : e = e' := Option.some.inj (he.symm.trans (hprovider ▸ he'))
  obtain ⟨rfl, rfl⟩ := hd.inv.once hids he hb (hitem ▸ hb')
  obtain rfl := Option.some.inj (hb.subscription.symm.trans hb'.subscription)
  have hpaid : r₁.item.paidAt = r₂.item.paidAt := Except.ok.inj (hstart.symm.trans hstart')
  have hexpires : (s.course.world.catalog.expiration r₁.item).mapError Fault.time = .ok m₁ :=
    h₁.expires
  rw [Catalog.expiration_congr hpaid] at hexpires
  obtain rfl : m₁ = m₂ := Except.ok.inj (hexpires.symm.trans h₂.expires)
  obtain rfl : n₁ = n₂ := Except.ok.inj (h₁.inSeconds.symm.trans h₂.inSeconds)
  have hp₁ := h₁.signed.payload_of_decode h₁.decoded
  have hp₂ := h₂.signed.payload_of_decode h₂.decoded
  refine ⟨hbytes, ⟨n₁, hp₁, hp₂⟩, ⟨fun h => ?_, fun ⟨hb, hl⟩ => by rw [hp₁, hp₂, hb, hl]⟩,
    fun hne => ⟨e, id, sub, cycle, he, hb, ?_⟩⟩
  · rw [hp₁, hp₂] at h
    refine Credential.payloadOf_inj ?_ h₁.signed.fits h₂.signed.fits h
    rw [CredentialRequest.length_of_decode h₁.decoded,
      CredentialRequest.length_of_decode h₂.decoded]
  · obtain hl | hl := hlevel
    · obtain hl' | hl' := hlevel'
      · exact absurd (hl.symm.trans hl') hne
      · exact hprovider ▸ hl'
    · exact hl

end System

namespace Sample

/-- The subscriber starts at a level, gets a credential, moves to another level and asks for its
credential again. -/
def moveBetween (level level' : Nat) : List Request :=
  subscribe level ++
    [.createReceipt credentials bytes, toLevel level' "second", .createReceipt credentials bytes]

/-- The credential for the first payment at a level. -/
def receipt (level : Nat) : Receipt where
  credential := ⟨3974400, level, Credential.payloadOf bytes 3974400 level,
    Credential.payloadOf bytes 3974400 level⟩
  item := ⟨"emulator_item_0000000000000003_0", .epoch, level, Int.natCast_nonneg level⟩
  provider := .stripe

end Sample

namespace System

open Sample

/-- After a change of level the payment is redeemed with a second credential. -/
theorem payload_ne_of_moved :
    let s := (start .shipped).play .onCatalog (oneByOne asShipped (moveBetween 500 1000))
    s.receipt? 3 = some (bytes, receipt 500) ∧ s.receipt? 5 = some (bytes, receipt 1000) ∧
      (receipt 500).item.id = (receipt 1000).item.id ∧
      (receipt 500).provider = (receipt 1000).provider ∧
      (receipt 500).credential.payload ≠ (receipt 1000).credential.payload := by
  decide +kernel

/-- A level that is asked for once more changes nothing, and the credential says the same. -/
theorem payload_eq_iff_of_same_payment_unmoved :
    let s := (start .shipped).play .onCatalog (oneByOne asShipped (moveBetween 500 500))
    s.course.drawn.Nodup ∧ s.receipt? 3 = some (bytes, receipt 500) ∧
      s.receipt? 5 = some (bytes, receipt 500) ∧
      ((receipt 500).credential.payload = (receipt 500).credential.payload ↔
        bytes = bytes ∧ (receipt 500).item.level = (receipt 500).item.level) := by
  intro s
  have hids : s.course.drawn.Nodup := by decide +kernel
  have h₁ : s.receipt? 3 = some (bytes, receipt 500) := by decide +kernel
  have h₂ : s.receipt? 5 = some (bytes, receipt 500) := by decide +kernel
  exact ⟨hids, h₁, h₂, (payload_eq_iff_of_same_payment World.fresh_shipped _ hids 3 5 _ _ _ _ h₁ h₂
    rfl rfl).2.2.1⟩

end System

end Patronage
