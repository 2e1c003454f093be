import Mathlib.Data.List.Induction
import Patronage.Proofs.Records
/-!
# Cancellation and subscription along a history

A cancellation takes the subscription away and leaves its time; a subscription noted later leaves
that time as it is.  So a record can be canceled and have a subscription, and the history of a
subscriber tells when: it was canceled, given a subscription after that, and not canceled since.
Main statements:

* `Store.find?_apply_of_some` — an operation makes of a record what `Store.Operation.effect` says;
* `Store.Resumed` — a history in which a canceled subscriber has subscribed again;
* `Store.unsubscribed_iff_not_resumed` — a canceled record has no subscription exactly if its
  subscriber has not subscribed again.
-/

namespace Patronage

/-- A list is split at its last element or before it. -/
theorem concat_eq_append_cons {α : Type} {as before after : List α} {a b : α} :
    as ++ [a] = before ++ b :: after ↔
      (as = before ∧ a = b ∧ after = []) ∨
        ∃ front, as = before ++ b :: front ∧ after = front ++ [a] := by
  constructor
  · intro has
    obtain rfl | ⟨front, last, rfl⟩ := List.eq_nil_or_concat after
    · obtain ⟨rfl, hlast⟩ := List.append_inj' has rfl
      exact .inl ⟨rfl, List.singleton_inj.1 hlast, rfl⟩
    · rw [List.concat_eq_append, ← List.cons_append, ← List.append_assoc] at has
      obtain ⟨rfl, hlast⟩ := List.append_inj' has rfl
      obtain rfl := List.singleton_inj.1 hlast
      exact .inr ⟨front, rfl, List.concat_eq_append⟩
  · rintro (⟨rfl, rfl, rfl⟩ | ⟨front, rfl, rfl⟩)
    · rfl
    · rw [List.append_assoc, List.cons_append]

namespace Store

namespace Operation

/-- The subscriber an operation is about. -/
def user : Operation → Bytes
  | .lookUp user _ | .create user .. | .accessedAt user _ | .canceledAt user _ => user
  | .setCustomer record .. => record.user
  | .subscriptionCreated user .. | .levelChanged user .. => user

/-- What an operation makes of a record of its own subscriber. -/
def change : Operation → Subscriber → Subscriber
  | .lookUp .. | .create .. => id
  | .accessedAt _ now => (·.accessed now)
  | .canceledAt _ now => (·.canceled now)
  | .setCustomer _ c now => (·.withCustomer c now)
  | .subscriptionCreated _ id now level => (·.subscribed id level now)
  | .levelChanged _ now level id => (·.movedTo id level now)

/-- What an operation makes of the record of a subscriber. -/
def effect (op : Operation) (v : Bytes) (s : Subscriber) : Subscriber :=
  if op.user = v then op.change s else s

/-- The operation cancels a subscriber. -/
def Cancels (v : Bytes) (op : Operation) : Prop := ∃ now, op = .canceledAt v now

/-- The operation notes a subscription of a subscriber. -/
def Notes (v : Bytes) (op : Operation) : Prop :=
  ∃ id now level, op = .subscriptionCreated v id now level ∨ op = .levelChanged v now level id

variable {op : Operation} {v : Bytes} {s : Subscriber}

theorem Cancels.not_notes (h : op.Cancels v) : ¬op.Notes v := by
  obtain ⟨now, rfl⟩ := h
  rintro ⟨id, now', level, h | h⟩ <;> cases h

theorem effect_of_cancels (h : op.Cancels v) : ∃ now, op.effect v s = s.canceled now := by
  obtain ⟨now, rfl⟩ := h
  exact ⟨now, if_pos rfl⟩

/-- Noting a subscription leaves the time of the cancellation as it is. -/
theorem effect_of_notes (h : op.Notes v) :
    (op.effect v s).subscriptionId.isSome ∧ (op.effect v s).canceledAt = s.canceledAt := by
  obtain ⟨id, now, level, rfl | rfl⟩ := h
  · have heffect : (subscriptionCreated v id now level).effect v s = s.subscribed id level now :=
      if_pos rfl
    exact heffect ▸ ⟨rfl, rfl⟩
  · have heffect : (levelChanged v now level id).effect v s = s.movedTo id level now := if_pos rfl
    exact heffect ▸ ⟨rfl, rfl⟩

/-- Whatever neither cancels a subscriber nor notes a subscription of it changes nothing of both. -/
theorem effect_of_neither (hc : ¬op.Cancels v) (hn : ¬op.Notes v) :
    (op.effect v s).subscriptionId = s.subscriptionId ∧
      (op.effect v s).canceledAt = s.canceledAt := by
  unfold effect
  split
  · rename_i hu
    cases op with
    | lookUp | create | accessedAt => exact ⟨rfl, rfl⟩
    | canceledAt user now => exact absurd ⟨now, hu ▸ rfl⟩ hc
    | setCustomer record c now =>
      simp only [change, Subscriber.withCustomer]
      split <;> exact ⟨rfl, rfl⟩
    | subscriptionCreated user id now level => exact absurd ⟨id, now, level, .inl (hu ▸ rfl)⟩ hn
    | levelChanged user now level id => exact absurd ⟨id, now, level, .inr (hu ▸ rfl)⟩ hn
  · exact ⟨rfl, rfl⟩

end Operation

variable {store : Store} {v : Bytes} {s : Subscriber}

/-! ### One operation -/

/-- An operation makes of a record what its effect says. -/
theorem find?_apply_of_some (hs : store.find? v = some s) (op : Operation) :
    (store.apply op).state.find? v = some (op.effect v s) := by
  have update : ∀ {α : Type} (user : Bytes) (change : Subscriber → Subscriber)
      (report : Subscriber → Subscriber → α × Log.Entry),
      (store.update user change report).state.find? v =
        some (if user = v then change s else s) := by
    intro α user change report
    rw [get?_update, hs]
    split <;> rfl
  cases op with
  | lookUp user hmac =>
    have heffect : (Operation.lookUp user hmac).effect v s = s := ite_self s
    exact heffect.symm ▸ hs
  | create user password now =>
    have heffect : (Operation.create user password now).effect v s = s := ite_self s
    have hcreate := find?_create store user password v now
    rw [hs, if_neg (by simp)] at hcreate
    exact heffect.symm ▸ hcreate
  | accessedAt | canceledAt | setCustomer | subscriptionCreated | levelChanged =>
    exact update _ _ _

/-- Where no record is found, one is found afterwards only if it was made. -/
theorem find?_apply_of_none (hnone : store.find? v = none) (op : Operation)
    (hs : (store.apply op).state.find? v = some s) :
    ∃ password now, op = .create v password now ∧ s = .new v password now := by
  obtain ⟨password, now, rfl, -, hnew⟩ | hstep := find?_apply_cases store op v
  · exact ⟨password, now, rfl, Option.some.inj (hs.symm.trans hnew)⟩
  · obtain ⟨s', hs', -⟩ := OptionRel.exists_of_right hstep hs
    rw [hnone] at hs'
    cases hs'

/-! ### Histories -/

theorem run_concat (store : Store) (ops : List Operation) (op : Operation) :
    store.run (ops ++ [op]) = ((store.run ops).apply op).state := by
  simp [run, List.foldl_append]

/-- A history in which a stored subscriber was canceled. -/
def WasCanceled (v : Bytes) (ops : List Operation) : Prop :=
  ∃ before op after, ops = before ++ op :: after ∧ op.Cancels v ∧
    ((run .empty before).find? v).isSome

/-- A history in which a canceled subscriber has subscribed again and was not canceled since. -/
def Resumed (v : Bytes) (ops : List Operation) : Prop :=
  ∃ before op after, ops = before ++ op :: after ∧ op.Notes v ∧ WasCanceled v before ∧
    ∀ c ∈ after, ¬c.Cancels v

theorem wasCanceled_concat (ops : List Operation) (op : Operation) :
    WasCanceled v (ops ++ [op]) ↔
      (op.Cancels v ∧ ((run .empty ops).find? v).isSome) ∨ WasCanceled v ops := by
  simp only [WasCanceled, concat_eq_append_cons]
  constructor
  · rintro ⟨before, c, after, ⟨rfl, rfl, -⟩ | ⟨front, rfl, -⟩, h⟩
    · exact .inl h
    · exact .inr ⟨before, c, front, rfl, h⟩
  · rintro (h | ⟨before, c, front, rfl, h⟩)
    · exact ⟨ops, op, [], .inl ⟨rfl, rfl, rfl⟩, h⟩
    · exact ⟨before, c, front ++ [op], .inr ⟨front, rfl, rfl⟩, h⟩

theorem resumed_concat (ops : List Operation) (op : Operation) :
    Resumed v (ops ++ [op]) ↔
      (op.Notes v ∧ WasCanceled v ops) ∨ (Resumed v ops ∧ ¬op.Cancels v) := by
  simp only [Resumed, concat_eq_append_cons]
  constructor
  · rintro ⟨before, n, after, ⟨rfl, rfl, -⟩ | ⟨front, rfl, rfl⟩, hn, hc, hafter⟩
    · exact .inl ⟨hn, hc⟩
    · refine .inr ⟨⟨before, n, front, rfl, hn, hc, fun c hmem => ?_⟩, ?_⟩
      · exact hafter c (List.mem_append_left _ hmem)
      · exact hafter op (List.mem_append_right _ (List.mem_singleton_self op))
  · rintro (⟨hn, hc⟩ | ⟨⟨before, n, front, rfl, hn, hc, hfront⟩, hop⟩)
    · exact ⟨ops, op, [], .inl ⟨rfl, rfl, rfl⟩, hn, hc, by simp⟩
    · refine ⟨before, n, front ++ [op], .inr ⟨front, rfl, rfl⟩, hn, hc, fun c hmem => ?_⟩
      obtain hmem | hmem := List.mem_append.1 hmem
      · exact hfront c hmem
      · exact List.mem_singleton.1 hmem ▸ hop

/-- Whoever was canceled is stored. -/
theorem WasCanceled.stored {ops : List Operation} (h : WasCanceled v ops) :
    ((run .empty ops).find? v).isSome := by
  obtain ⟨before, op, after, rfl, -, hstored⟩ := h
  obtain ⟨s, hs⟩ := Option.isSome_iff_exists.1 hstored
  obtain ⟨s', hs', -⟩ := continues_run hs (op :: after)
  have happend : run .empty (before ++ op :: after) = (run .empty before).run (op :: after) :=
    List.foldl_append
  rw [happend, hs']
  rfl

theorem Resumed.wasCanceled {ops : List Operation} (h : Resumed v ops) : WasCanceled v ops := by
  obtain ⟨before, n, after, rfl, -, ⟨first, c, between, rfl, hc, hstored⟩, -⟩ := h
  exact ⟨first, c, between ++ n :: after, by simp, hc, hstored⟩

/-- What a history says of a record: it is canceled if it ever was, and it has a subscription
besides if it was resumed. -/
theorem canceled_run (ops : List Operation) (hs : (run .empty ops).find? v = some s) :
    (s.isCanceled ↔ WasCanceled v ops) ∧
      (s.isCanceled ∧ s.subscriptionId.isSome ↔ Resumed v ops) := by
  -- the last operation is the one that counts, so the history is taken from its end
  induction ops using List.reverseRecOn generalizing s with
  | nil => cases hs
  | append_singleton ops op ih =>
    rw [run_concat] at hs
    cases hbefore : (run .empty ops).find? v with
    | none =>
      obtain ⟨password, now, rfl, rfl⟩ := find?_apply_of_none hbefore op hs
      have hnot : ¬WasCanceled v (ops ++ [.create v password now]) := by
        rw [wasCanceled_concat]
        rintro (⟨⟨_, h⟩, -⟩ | h)
        · cases h
        · have hstored := h.stored
          rw [hbefore] at hstored
          cases hstored
      have hfresh : ¬(Subscriber.new v password now).isCanceled := nofun
      exact ⟨iff_of_false hfresh hnot,
        iff_of_false (fun h => hfresh h.1) (fun h => hnot h.wasCanceled)⟩
    | some s₀ =>
      obtain ⟨hcanceled, hresumed⟩ := ih hbefore
      obtain rfl := Option.some.inj ((find?_apply_of_some hbefore op).symm.trans hs)
      rw [wasCanceled_concat, resumed_concat, hbefore, ← hcanceled, ← hresumed]
      by_cases hc : op.Cancels v
      · obtain ⟨now, heffect⟩ := Operation.effect_of_cancels (s := s₀) hc
        rw [heffect]
        have hn := hc.not_notes
        simp [Subscriber.canceled, Subscriber.isCanceled, hc, hn]
      by_cases hn : op.Notes v
      · obtain ⟨hid, htime⟩ := Operation.effect_of_notes (s := s₀) hn
        have hsame : (op.effect v s₀).isCanceled = s₀.isCanceled := congrArg Option.isSome htime
        simp only [hsame, hid, hc, hn, false_and, false_or, true_and, not_false_eq_true, and_true]
        exact ⟨.inl, fun h => h.elim id And.left⟩
      · obtain ⟨hid, htime⟩ := Operation.effect_of_neither (s := s₀) hc hn
        have hsame : (op.effect v s₀).isCanceled = s₀.isCanceled := congrArg Option.isSome htime
        simp [hsame, hid, hc, hn]

/-- A record that is canceled has no subscription, unless its subscriber was canceled, subscribed
again and was not canceled since: then it has one and is canceled all the same. -/
theorem unsubscribed_iff_not_resumed (ops : List Operation) {user : Bytes}
    (hs : (run .empty ops).find? user = some s) :
    (s.isCanceled → s.subscriptionId = none) ↔ ¬Resumed user ops := by
  rw [← (canceled_run ops hs).2, not_and, Option.not_isSome_iff_eq_none]

end Store

namespace Sample

/-- A canceled subscriber subscribes again. -/
def resumeRecord : List Store.Operation :=
  cancelRecord ++ [.subscriptionCreated credentials.user "emulator_sub_2" .epoch 1000]

end Sample

open Sample in
/-- Who is canceled after subscribing again has no subscription, and the history has not resumed. -/
theorem Store.not_resumed_of_canceled_again :
    ∃ s, (run .empty (resumeRecord ++ [.canceledAt credentials.user .epoch])).find?
        credentials.user = some s ∧
      s.isCanceled ∧ ¬Resumed credentials.user
        (resumeRecord ++ [.canceledAt credentials.user .epoch]) := by
  have hfind : ((run .empty (resumeRecord ++ [.canceledAt credentials.user .epoch])).find?
      credentials.user).map (fun s => (s.isCanceled, s.subscriptionId)) = some (true, none) := by
    decide +kernel
  obtain ⟨s, hs, hfields⟩ := Option.map_eq_some_iff.1 hfind
  obtain ⟨hcanceled, hnone⟩ := Prod.mk.inj hfields
  exact ⟨s, hs, hcanceled, (unsubscribed_iff_not_resumed _ hs).1 fun _ => hnone⟩

open Sample in
/-- A canceled subscriber that subscribes again has a subscription and counts as canceled. -/
theorem Store.not_unsubscribed_of_resumeRecord :
    ¬∀ (ops : List Operation) (user : Bytes) (s : Subscriber),
      (run .empty ops).find? user = some s → s.isCanceled → s.subscriptionId = none := by
  intro h
  have hfind : ((run .empty resumeRecord).find? credentials.user).map
      (fun s => (s.isCanceled, s.subscriptionId)) = some (true, some "emulator_sub_2") := by
    decide +kernel
  obtain ⟨s, hs, hfields⟩ := Option.map_eq_some_iff.1 hfind
  obtain ⟨hcanceled, hid⟩ := Prod.mk.inj hfields
  cases hid.symm.trans (h resumeRecord credentials.user s hs hcanceled)

end Patronage
