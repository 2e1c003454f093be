import Patronage.Proofs.Cycle
import Patronage.Proofs.Processing
/-!
# One payment for each billing cycle

A processor bills a subscription when it is asked for the payment, at any time within a cycle and in
whatever order the cycles come up.  What it has billed stays on file, and as the identifiers that it
draws differ no two cycles share one.  Main statements:

* `Emulator.Edit.grows`, `Emulator.Edit.billedOnce` — what an operation leaves of the payments on
  file;
* `Emulator.Reported.filed` — a payment that was reported is on file at the end of the run;
* `Emulator.item_eq_iff_of_reported` — two payments that were reported are one exactly if they are
  for one cycle of one subscription.
-/

namespace Patronage

open Calendar

namespace Emulator

variable {e : Emulator} {m : Mint} {o : Operation} {s : Emulator × TokenSource} {d : Option String}
  {ids : List String}

/-! ### What stays on file -/

/-- What an operation leaves of subscriptions and their payments. -/
theorem Edit.grows (h : e.Edit m o s d) (hn : e.Named ids) (hids : (ids ++ d.toList).Nodup) :
    e.Grows (fun _ => True) s.1 := by
  cases h with
  | idle => exact .refl _ e
  | shift call _ _ _ hshift =>
    exact (hshift.grows hn hids).trans (.refl (fun _ => True) _) fun _ _ => trivial
  | marked => exact ⟨rfl, fun hs => ⟨_, hs, rfl, id, .inl rfl⟩⟩

/-- One payment item goes on standing for one billing cycle. -/
theorem Edit.billedOnce (h : e.Edit m o s d) (hn : e.Named ids) (hids : (ids ++ d.toList).Nodup)
    (hb : e.BilledOnce) : s.1.BilledOnce := by
  cases h with
  | idle => exact hb
  | shift call _ _ _ hshift => exact hshift.billedOnce hn hids hb
  | marked => exact fun _ _ _ _ _ _ _ h h' => hb ⟨h.subscription, h.item⟩ ⟨h'.subscription, h'.item⟩

/-- Orders leave subscriptions and their payments on file. -/
theorem Grows.run (hn : s.1.Named ids) (os : List Order) (hids : (ids ++ drawn s os).Nodup) :
    s.1.Grows (fun _ => True) (Emulator.run s os).1 := by
  induction os generalizing s ids with
  | nil => exact .refl _ s.1
  | cons od os ih =>
    rw [drawn, ← List.append_assoc] at hids
    have hstep := (od.edit s).grows hn (hids.sublist (List.sublist_append_left _ _))
    rw [run_cons]
    exact hstep.trans (ih ((od.edit s).named hn) hids) fun _ _ => trivial

/-- Orders keep payment items apart. -/
theorem BilledOnce.run (hb : s.1.BilledOnce) (hn : s.1.Named ids) (os : List Order)
    (hids : (ids ++ drawn s os).Nodup) : (Emulator.run s os).1.BilledOnce := by
  induction os generalizing s ids with
  | nil => exact hb
  | cons od os ih =>
    rw [drawn, ← List.append_assoc] at hids
    have hstep := (od.edit s).billedOnce hn (hids.sublist (List.sublist_append_left _ _)) hb
    rw [run_cons]
    exact ih hstep ((od.edit s).named hn) hids

end Emulator

/-! ### Payments that are reported -/

/-- A payment for the billing cycle of a subscription that is counted as running at some time: paid
when the cycle started, and that is when the moment's own cycle did, at least in the first `2 ^ 33`
seconds. -/
structure Subscription.Pays (s : Subscription) (p : Period) (now : Moment) (cycle : Nat)
    (item : ReceiptItem) : Prop where
  counted : p.cyclesElapsed s.createdAt now = .ok cycle
  paidAt : s.createdAt.add (((cycle : Int) - 1) * (1000 * p.millis)) = .ok item.paidAt
  level : item.level = s.level
  runs : now.utcMicros - s.createdAt.utcMicros < 2 ^ 33 * microsPerSecond →
    p.Runs s.createdAt now cycle

namespace Emulator

variable {e : Emulator} {m : Mint} {s : Emulator × TokenSource} {ids : List String}
  {os : List Order} {i j : Nat} {id id' : String} {now now' : Moment} {r r' : ReceiptItem}

/-- A payment that is reported is one of a running subscription, and is on file afterwards. -/
theorem pays_of_receiptItem (hn : e.Named ids) (h : (e.receiptItem m id).answer = .ok r) :
    ∃ sub cycle, e.subscriptions.get? id = some sub ∧ sub.status = .active ∧
      sub.Pays e.billingPeriod.period m.now cycle r ∧
      ∃ sub', (e.receiptItem m id).state.1.Bills id sub' cycle r.id ∧
        sub'.createdAt = sub.createdAt := by
  obtain ⟨sub, cycle, hactive, hcycle, hreport, hstate⟩ := receiptItem_eq_ok h
  obtain ⟨hsub, hstatus⟩ := activeSubscription_eq_ok.1 hactive
  obtain ⟨hstart, hid, hlevel⟩ := report_eq_ok hreport
  obtain ⟨sub', hbills, hcreated, -⟩ := bills_billCycle hn m hsub cycle
  have hpays : sub.Pays e.billingPeriod.period m.now cycle r :=
    ⟨hcycle, add_of_cycleStart hstart, hlevel, Period.runs_of_cyclesElapsed hcycle⟩
  rw [hstate]
  exact ⟨sub, cycle, hsub, hstatus, hpays, sub', hid ▸ hbills, hcreated⟩

/-- A payment was reported for the order at a position of a run, which asked for that of a
subscription at some time. -/
structure Reported (s : Emulator × TokenSource) (os : List Order) (i : Nat) (id : String)
    (now : Moment) (r : ReceiptItem) : Prop where
  order : os[i]? = some ⟨.receiptItem id, now⟩
  answer : ((run s (os.take i)).1.receiptItem ⟨now, (run s (os.take i)).2⟩ id).answer = .ok r

/-- A payment item stays on file, for the same cycle. -/
theorem Bills.grows {e' : Emulator} {asked : String → Prop} {sub : Subscription} {cycle : Nat}
    {x : String} (h : e.Bills id sub cycle x) (hg : e.Grows asked e') :
    ∃ sub', e'.Bills id sub' cycle x ∧ sub'.createdAt = sub.createdAt := by
  obtain ⟨sub', hsub', hs⟩ := hg.subscription h.subscription
  exact ⟨sub', ⟨hsub', hs.item h.item⟩, hs.createdAt⟩

/-- A payment that is reported stays on file. -/
theorem filed_of_receiptItem (hn : s.1.Named ids) (earlier later : List Order)
    (hids : (ids ++ drawn s (earlier ++ ⟨.receiptItem id, now⟩ :: later)).Nodup)
    (h : ((run s earlier).1.receiptItem ⟨now, (run s earlier).2⟩ id).answer = .ok r) :
    ∃ sub cycle, (run s earlier).1.subscriptions.get? id = some sub ∧
      sub.Pays s.1.billingPeriod.period now cycle r ∧
      ∃ sub', (run s (earlier ++ ⟨.receiptItem id, now⟩ :: later)).1.Bills id sub' cycle r.id ∧
        sub'.createdAt = sub.createdAt := by
  have hnamed := hn.run earlier
  rw [drawn_append, drawn, ← List.append_assoc] at hids
  have hperiod := (Grows.run hn earlier (List.nodup_append.1 hids).1).billingPeriod
  obtain ⟨sub, cycle, hsub, -, hpays, sub', hbills, hcreated⟩ := pays_of_receiptItem hnamed h
  rw [← List.append_assoc] at hids
  have hedit := Order.edit ⟨.receiptItem id, now⟩ (run s earlier)
  have hgrows := Grows.run (hedit.named hnamed) later hids
  obtain ⟨sub'', hbills', hcreated'⟩ := hbills.grows hgrows
  refine ⟨sub, cycle, hsub, hperiod ▸ hpays, sub'', ?_, hcreated'.trans hcreated⟩
  rwa [run_append, run_cons]

/-- A payment that was reported is on file at the end of the run. -/
theorem Reported.filed (h : Reported s os i id now r) (hn : s.1.Named ids)
    (hids : (ids ++ drawn s os).Nodup) :
    ∃ sub cycle, (run s (os.take i)).1.subscriptions.get? id = some sub ∧
      sub.Pays s.1.billingPeriod.period now cycle r ∧
      ∃ sub', (run s os).1.Bills id sub' cycle r.id ∧ sub'.createdAt = sub.createdAt := by
  obtain ⟨hi, hget⟩ := List.getElem?_eq_some_iff.1 h.order
  have hos : os.take i ++ ⟨.receiptItem id, now⟩ :: os.drop (i + 1) = os := by
    rw [← hget, List.getElem_cons_drop, List.take_append_drop]
  have hfiled := filed_of_receiptItem hn (os.take i) (os.drop (i + 1)) (hos.symm ▸ hids) h.answer
  rwa [hos] at hfiled

/-- What is on file for a cycle is one item. -/
theorem Bills.unique {sub sub' : Subscription} {cycle : Nat} {x y : String}
    (h : e.Bills id sub cycle x) (h' : e.Bills id sub' cycle y) : sub = sub' ∧ x = y := by
  obtain rfl := Option.some.inj (h.subscription.symm.trans h'.subscription)
  exact ⟨rfl, Option.some.inj (h.item.symm.trans h'.item)⟩

/-- Two payments that were reported in a run, as long as the identifiers drawn differ, are one
exactly if they are for one billing cycle of one subscription; it was then paid when the cycle
started, and that is said of it every time. -/
theorem item_eq_iff_of_reported (provider : Provider) (settings : Settings) (tokens : TokenSource)
    (hids : (drawn (ofSettings provider settings, tokens) os).Nodup)
    (h : Reported (ofSettings provider settings, tokens) os i id now r)
    (h' : Reported (ofSettings provider settings, tokens) os j id' now' r') :
    let start := (ofSettings provider settings, tokens)
    let period := settings.emulator.billingPeriod.period
    ∃ sub sub' cycle cycle',
      (run start (os.take i)).1.subscriptions.get? id = some sub ∧
      (run start (os.take j)).1.subscriptions.get? id' = some sub' ∧
      sub.Pays period now cycle r ∧ sub'.Pays period now' cycle' r' ∧
      (r.id = r'.id ↔ id = id' ∧ cycle = cycle') ∧ (r.id = r'.id → r.paidAt = r'.paidAt) := by
  intro start period
  have hnamed : start.1.Named [] := (tabled_ofSettings provider settings).1
  have honce : (run start os).1.BilledOnce :=
    BilledOnce.run (s := start) (fun _ _ _ _ _ _ _ hb => nomatch hb.subscription) hnamed os hids
  obtain ⟨sub, cycle, hsub, hpays, _, hbills, hcreated⟩ := h.filed hnamed hids
  obtain ⟨sub', cycle', hsub', hpays', _, hbills', hcreated'⟩ := h'.filed hnamed hids
  -- one item is on file for one cycle only, and for one cycle there is one item on file
  have hiff : r.id = r'.id ↔ id = id' ∧ cycle = cycle' := by
    constructor
    · intro hitem
      rw [hitem] at hbills
      exact honce hbills hbills'
    · rintro ⟨rfl, rfl⟩
      exact (hbills.unique hbills').2
  refine ⟨sub, sub', cycle, cycle', hsub, hsub', hpays, hpays', hiff, fun hitem => ?_⟩
  obtain ⟨rfl, rfl⟩ := hiff.1 hitem
  have hsame : sub.createdAt = sub'.createdAt := by
    rw [← hcreated, ← hcreated', (hbills.unique hbills').1]
  have hpaid := hpays.paidAt
  rw [hsame] at hpaid
  exact Except.ok.inj (hpaid.symm.trans hpays'.paidAt)

namespace Sample

/-- The last microsecond of the second billing cycle. -/
def cycleEnds : Moment := ⟨60 * microsPerDay - 1, some .utc, by decide⟩

/-- The payment for the second cycle is asked for, then that for the first one, and after a change
of level that for the second one again. -/
def lateOrders : List Order :=
  [⟨.createCustomer [0xaa] .ios, .epoch⟩,
    ⟨.createSubscription customerId "price_donation_500_usd" 500 0, .epoch⟩,
    ⟨.receiptItem held.id, Patronage.Sample.later⟩, ⟨.receiptItem held.id, .epoch⟩,
    ⟨.updateSubscription held "price_donation_1000_eur" 1000 "key", .epoch⟩,
    ⟨.receiptItem held.id, cycleEnds⟩]

/-- The payment for the second cycle at a level. -/
def secondItem (level : Nat) : ReceiptItem :=
  { Patronage.Sample.secondReceipt.item with level, level_nonneg := Int.natCast_nonneg level }

theorem reported_of_toOption {os : List Order} {i : Nat} {id : String} {now : Moment}
    {r : ReceiptItem} (horder : os[i]? = some ⟨.receiptItem id, now⟩)
    (hanswer : ((run start (os.take i)).1.receiptItem ⟨now, (run start (os.take i)).2⟩
      id).answer.toOption = some r) : Reported start os i id now r := by
  refine ⟨horder, ?_⟩
  cases h : ((run start (os.take i)).1.receiptItem ⟨now, (run start (os.take i)).2⟩ id).answer with
  | error f => rw [h] at hanswer; cases hanswer
  | ok r' => rw [h] at hanswer; exact congrArg Except.ok (Option.some.inj hanswer)

end Sample

/-- The second cycle is paid for once, whatever is asked for and changed in between. -/
theorem item_eq_iff_of_reported_late :
    (drawn Sample.start Sample.lateOrders).Nodup ∧
    Reported Sample.start Sample.lateOrders 2 Sample.held.id Patronage.Sample.later
      (Sample.secondItem 500) ∧
    Reported Sample.start Sample.lateOrders 5 Sample.held.id Sample.cycleEnds
      (Sample.secondItem 1000) ∧
    ∃ (sub sub' : Subscription) (cycle : Nat),
      sub.Pays Settings.shipped.emulator.billingPeriod.period Patronage.Sample.later cycle
        (Sample.secondItem 500) ∧
      sub'.Pays Settings.shipped.emulator.billingPeriod.period Sample.cycleEnds cycle
        (Sample.secondItem 1000) := by
  have hids : (drawn Sample.start Sample.lateOrders).Nodup := by decide +kernel
  have hfirst : Reported Sample.start Sample.lateOrders 2 Sample.held.id Patronage.Sample.later
      (Sample.secondItem 500) := Sample.reported_of_toOption rfl (by decide +kernel)
  have hagain : Reported Sample.start Sample.lateOrders 5 Sample.held.id Sample.cycleEnds
      (Sample.secondItem 1000) := Sample.reported_of_toOption rfl (by decide +kernel)
  obtain ⟨sub, sub', cycle, cycle', -, -, hpays, hpays', hiff, -⟩ :=
    item_eq_iff_of_reported .stripe .shipped .counting hids hfirst hagain
  obtain ⟨-, rfl⟩ := hiff.1 rfl
  exact ⟨hids, hfirst, hagain, sub, sub', cycle, hpays, hpays'⟩

end Emulator

end Patronage
